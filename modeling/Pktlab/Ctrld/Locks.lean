/-
# Who holds which lock

A thread takes at most the lock that it wants (`Advances.held`), and only when
no other thread holds it, so along every run a lock has at most one holder
(`run_exclusive`).

Key definitions: `Controller.Exclusive`, `Controller.allIdle`.
Key theorems: `Advances.held`, `step_exclusive`, `step_alone`, `run_exclusive`.
-/
import Pktlab.Ctrld.Controller
import Pktlab.Lib.Run

namespace Pktlab
namespace Ctrld

theorem StopReason.locks_subset {reason : StopReason} {l : Lock} (h : l ∈ reason.locks) :
    l = .manager ∨ l = .runtime := by
  cases reason <;> simp [StopReason.locks] at h <;> tauto

theorem Task.locks_subset {task : Task} {l : Lock} (h : l ∈ task.locks) : l = .manager ∨ l = .runtime := by
  cases task with
  | stopDatapath reason => exact StopReason.locks_subset h
  | statusHealth => simpa [Task.locks] using Or.inr h
  | startDatapath configPath v => simpa [Task.locks] using Or.inl h
  | _ => simp [Task.locks] at h

/-- A section holds the runtime lock and what was held before it, at most. -/
theorem Begins.held {sh : Shared} {task : Task} {p : Pc} (h : Begins sh task p) :
    ∀ l ∈ p.held, l = .runtime ∨ l ∈ task.locks := by
  intro l hl
  cases h with
  | calls task k i => exact List.mem_cons.mp hl
  | shutdown => exact Or.inl (List.mem_singleton.mp hl)
  | status => exact Or.inl (List.mem_singleton.mp hl)
  | openApply | openDestroy | stopAgain => cases hl
  | stopDatapath reason => exact Or.inr hl
  | startRaises configPath v => exact Or.inr hl
  | ends => cases hl

theorem Resumes.held {task : Task} {p : Pc} (h : Resumes task p) :
    ∀ l ∈ p.held, l = .runtime ∨ l ∈ task.locks := by
  intro l hl
  cases h with
  | statusHealth i => exact Or.inl (List.mem_singleton.mp hl)
  | stats | reset | control | starts => exact List.mem_cons.mp hl
  | stopAgain => cases hl
  | stopDatapath reason => exact Or.inr hl
  | startRaises configPath v => exact Or.inr hl
  | reconcile configPath v i => exact Or.inr hl
  | ends => cases hl

theorem stopReason_raised_held {reason : StopReason} : ∀ l ∈ reason.raised.held, l ∈ reason.locks := by
  intro l hl
  cases reason <;> simp [StopReason.raised, Pc.held, Task.locks] at hl

theorem task_raised_held {task : Task} {pktlabError : Bool} :
    ∀ l ∈ (task.raised pktlabError).held, l ∈ task.locks := by
  intro l hl
  cases task with
  | stopDatapath reason =>
    simp only [Task.raised] at hl
    split at hl
    · exact hl
    · exact stopReason_raised_held l hl
  | startDatapath configPath v => simpa [Task.raised, Pc.held, Task.locks, StopReason.locks] using hl
  | _ => simp [Task.raised, Pc.held] at hl

theorem request_held (r : Request) : r.pc.held = [] := by
  cases r with
  | applyTopology configPath =>
    simp only [Request.pc]
    split
    · rfl
    · rfl
  | _ => rfl

/-- A move of a thread adds at most the lock that it wants. -/
theorem Advances.held {sh : Shared} {p : Pc} {c : Choice} {x : Shared × Pc} (h : Advances sh p c x) :
    ∀ l ∈ x.2.held, l ∈ p.held ∨ p.wants = some l := by
  intro l hl
  cases h with
  | request r => simp [request_held] at hl
  | begins task =>
    rcases (begins_begin sh task).held l hl with rfl | hl
    · exact Or.inr rfl
    · exact Or.inl hl
  | takes task k i =>
    rcases List.mem_cons.mp hl with rfl | hl
    · exact Or.inr rfl
    · exact Or.inl hl
  | returns task k i status =>
    rcases (resumes_resume _ task k i status).held l hl with rfl | hl
    · exact Or.inl (by simp [Pc.held])
    · exact Or.inl (by simp [Pc.held, hl])
  | raises task k i pktlabError => exact Or.inl (by simp [Pc.held, task_raised_held l hl])
  | teardownRaises reason clean pktlabError => exact Or.inl (stopReason_raised_held l hl)
  | managerShutdown h =>
    simp only [Pc.held, Task.locks, StopReason.locks, List.mem_cons, List.not_mem_nil, or_false] at hl
    rcases hl with rfl | rfl
    · exact Or.inr rfl
    · exact Or.inl (by simp [Pc.held, ManagerCall.locks])
  | _ =>
    revert hl
    simp +contextual [Pc.held, Pc.wants, Task.locks, StopReason.locks]

namespace Controller

variable {n : ℕ} {s s' : Controller n}

/-- A lock has at most one holder. -/
def Exclusive (s : Controller n) : Prop := ∀ t t' l, s.holds t l → s.holds t' l → t = t'

theorem step_exclusive {mv : Move n} (hs : s.Exclusive) (h : s.step mv = some s') : s'.Exclusive := by
  cases mv with
  | exits i =>
    obtain ⟨hpc, -⟩ := step_exits h
    intro t t' l ht ht'
    simp only [holds, hpc] at ht ht'
    exact hs t t' l ht ht'
  | thread t c =>
    obtain ⟨henabled, hadvance, hother⟩ := step_thread h
    -- no other thread holds what the moving thread holds afterwards
    have hfree : ∀ t' l, t' ≠ t → s'.holds t l → ¬ s'.holds t' l := by
      intro t' l hne ht ht'
      simp only [holds, hother t' hne] at ht'
      rcases hadvance.held l ht with hheld | hwants
      · exact hne (hs t t' l hheld ht').symm
      · exact henabled l hwants t' hne ht'
    intro a b l ha hb
    by_cases hat : a = t
    · by_contra hne
      rw [hat] at ha
      exact hfree b l (fun hbt => hne (hat.trans hbt.symm)) ha hb
    · by_cases hbt : b = t
      · rw [hbt] at hb
        exact absurd ha (hfree a l hat hb)
      · simp only [holds, hother a hat, hother b hbt] at ha hb
        exact hs a b l ha hb

/-- No method is running. -/
def allIdle (s : Controller n) : Prop := ∀ t, s.pc t = .idle

/-- A thread that runs alone. -/
theorem step_alone {t : Fin n} (hidle : s.allIdle) {sh sh' : Shared} {p p' : Pc} {c : Choice}
    (h : advance sh p c = some (sh', p')) :
    step ⟨sh, Function.update s.pc t p⟩ (.thread t c) = some ⟨sh', Function.update s.pc t p'⟩ := by
  have hfree : enabled ⟨sh, Function.update s.pc t p⟩ t := by
    intro l _ t' hne
    simp [holds, Function.update_of_ne hne, hidle t', Pc.held]
  simp only [step, if_pos hfree, Function.update_self, h, Option.map_some, Function.update_idem]

theorem step_request {t : Fin n} (hidle : s.allIdle) (r : Request) :
    step s (.thread t (.request r)) = some ⟨s.shared, Function.update s.pc t r.pc⟩ := by
  have hs : s = ⟨s.shared, Function.update s.pc t .idle⟩ := by
    rw [← hidle t, Function.update_eq_self]
  calc step s (.thread t (.request r))
      = step ⟨s.shared, Function.update s.pc t .idle⟩ (.thread t (.request r)) := congrArg (step · _) hs
    _ = _ := step_alone hidle rfl

theorem exclusive_of_allIdle (h : s.allIdle) : s.Exclusive := by
  intro t t' l ht
  simp [holds, h t, Pc.held] at ht

/-- **A lock has one holder along every run.** -/
theorem run_exclusive {moves : List (Move n)} (h0 : s.allIdle) (hrun : Run.run step s moves = some s') :
    s'.Exclusive :=
  Run.run_induction (fun _ _ _ hs h => step_exclusive hs h) (exclusive_of_allIdle h0) hrun

end Controller

end Ctrld
end Pktlab
