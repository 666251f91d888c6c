/-
# When the controller cannot deadlock

The locks are taken in the order manager, runtime, supervisor, with one
exception: `stop` calls `TopologyManager.destroy` with the runtime lock held.
While another thread is inside the manager and its callback waits for the
runtime lock, the two wait for each other (`shutdown_deadlocks`). In every run
in which `stop` never has to wait for the lock of the manager, no two threads
do (`deadlock_free`).

Key definitions: `Lock.rank`, `Controller.Deadlock`, `ShutdownUnobstructed`.
Key theorems: `Pc.ranked`, `step_shutdownAlone`, `deadlock_free`.
-/
import Pktlab.Ctrld.Locks
import Pktlab.Ctrld.TopologyRuns
import Pktlab.Lib.LockOrder

namespace Pktlab
namespace Ctrld

/-- The order in which locks are taken. -/
def Lock.rank : Lock → ℕ
  | .manager => 0
  | .runtime => 1
  | .supervisor _ => 2

/-- Every lock that a thread wants ranks above those it holds, unless it holds
it already or is `stop` on its way to `TopologyManager.destroy`. -/
theorem Pc.ranked {p : Pc} {l l' : Lock} (hl : l ∈ p.held) (hl' : p.wants = some l') :
    l.rank < l'.rank ∨ l' ∈ p.held ∨ p = .manager .shutdown := by
  cases p with
  | enter task =>
    cases hl'
    rcases Task.locks_subset hl with rfl | rfl
    · exact Or.inl (by decide)
    · exact Or.inr (Or.inl hl)
  | waiting task k i =>
    cases hl'
    refine Or.inl ?_
    rcases List.mem_cons.mp hl with rfl | hl
    · exact Nat.lt_succ_self 1
    · rcases Task.locks_subset hl with rfl | rfl
      · exact Nat.zero_lt_two
      · exact Nat.lt_succ_self 1
  | manager call =>
    cases call with
    | shutdown => exact Or.inr (Or.inr rfl)
    | _ => simp [Pc.held, ManagerCall.locks] at hl
  | _ => simp [Pc.wants] at hl'

/-- Where `stop` takes the runtime lock. -/
def Pc.atStop : Pc → Bool
  | .enter .stop => true
  | _ => false

/-- Where `stop` takes the lock of the manager, with the runtime lock held. -/
def Pc.atShutdown : Pc → Bool
  | .manager .shutdown => true
  | _ => false

/-- Only `stop`, with a topology applied, goes to `TopologyManager.destroy`
with the runtime lock held. -/
theorem Advances.shutdown {sh : Shared} {p : Pc} {c : Choice} {x : Shared × Pc} (h : Advances sh p c x)
    (hx : x.2 = .manager .shutdown) : p = .enter .stop ∧ sh.current.isSome = true := by
  cases h with
  | request r =>
    cases r with
    | applyTopology configPath =>
      simp only [Request.pc] at hx
      split at hx <;> cases hx
    | _ => cases hx
  | begins task =>
    have hbegins := begins_begin sh task
    rw [show (sh.begin task).2 = .manager .shutdown from hx] at hbegins
    cases hbegins with
    | shutdown hcurrent => exact ⟨rfl, hcurrent⟩
  | returns task k i status =>
    have hresumes := resumes_resume (sh.setSupervisor i ((sh.supervisors i).returned (task.call k))) task k i status
    rw [show (Shared.resume _ task k i status).2 = .manager .shutdown from hx] at hresumes
    cases hresumes
  | raises task k i pktlabError =>
    cases task with
    | stopDatapath reason =>
      simp only [Task.raised] at hx
      split at hx
      · cases hx
      · cases reason <;> cases hx
    | _ => cases hx
  | teardownRaises reason clean pktlabError => cases reason <;> cases hx
  | _ => cases hx

namespace Controller

variable {n : ℕ} {s s' : Controller n}

/-- Two threads each hold a lock that the other waits for. -/
def Deadlock (s : Controller n) : Prop := LockOrder.MutualWait s.holds fun t => (s.pc t).wants

/-- `stop` does not have to wait for the lock of the manager: it goes there only
while no other thread holds that lock, and then takes it before the others. -/
def ShutdownUnobstructed (s : Controller n) : Move n → Prop
  | .thread t _ =>
    ((s.pc t).atStop ∧ s.shared.current.isSome → ∀ t', t' ≠ t → ¬ s.holds t' .manager) ∧
    ((s.pc t).wants = some .manager → ∀ t', t' ≠ t → ¬ (s.pc t').atShutdown)
  | .exits _ => True

instance (s : Controller n) : ∀ mv, Decidable (s.ShutdownUnobstructed mv)
  | .thread _ _ => inferInstanceAs (Decidable (_ ∧ _))
  | .exits _ => isTrue trivial

/-- While `stop` wants the lock of the manager, no other thread holds it. -/
def ShutdownAlone (s : Controller n) : Prop :=
  ∀ t, s.pc t = .manager .shutdown → ∀ t', t' ≠ t → ¬ s.holds t' .manager

theorem step_shutdownAlone {mv : Move n} (hs : s.ShutdownAlone) (hclear : s.ShutdownUnobstructed mv)
    (h : s.step mv = some s') : s'.ShutdownAlone := by
  intro a ha b hne hb
  cases mv with
  | exits i =>
    obtain ⟨hpc, -⟩ := step_exits h
    simp only [holds, hpc] at ha hb
    exact hs a ha b hne hb
  | thread t c =>
    obtain ⟨-, hadvance, hother⟩ := step_thread h
    by_cases hat : a = t
    · -- `stop` has just gone to the manager
      subst hat
      obtain ⟨hpc, happlied⟩ := hadvance.shutdown ha
      simp only [holds, hother b hne] at hb
      exact hclear.1 ⟨by rw [hpc]; rfl, happlied⟩ b hne hb
    · rw [hother a hat] at ha
      by_cases hbt : b = t
      · -- another thread takes the lock of the manager, or had it before
        subst hbt
        rcases hadvance.held _ hb with hheld | hwants
        · exact hs a ha b hne hheld
        · exact hclear.2 hwants a (Ne.symm hne) (by rw [ha]; rfl)
      · simp only [holds, hother b hbt] at hb
        exact hs a ha b hne hb

/-- **No two threads wait for each other** in a run in which `stop` never waits
for the lock of the manager. -/
theorem deadlock_free {moves : List (Move n)} (h0 : s.allIdle)
    (hclear : Run.AllSteps step ShutdownUnobstructed s moves) (hrun : Run.run step s moves = some s') :
    ¬ s'.Deadlock := by
  have hexclusive := run_exclusive h0 hrun
  have halone : s'.ShutdownAlone := by
    refine Run.run_induction_of (fun _ _ _ hs hc h => step_shutdownAlone hs hc h) (fun t ht => ?_) hclear hrun
    rw [h0 t] at ht
    cases ht
  refine LockOrder.not_mutualWait Lock.rank fun t t' l l' hwaits hl' hl => ?_
  obtain ⟨hne, l'', hwants, hheld⟩ := hwaits
  obtain rfl : l' = l'' := Option.some.inj (hl'.symm.trans hwants)
  rcases Pc.ranked hl hl' with hlt | hown | hshutdown
  · exact hlt
  · exact absurd (hexclusive t t' l' hown hheld) hne
  · rw [hshutdown] at hl'
    cases hl'
    exact absurd hheld (halone t hshutdown t' hne.symm)

/-! ### Runs of two threads -/

/-- `start`, and an `apply_topology` that succeeds, both by the first thread. -/
def startAndApply : List (Move 2) :=
  [.request .start, .go, .go, .returned {}, .request (.applyTopology "lab.yaml"), .go, .go, .loaded plainValidated,
    .done, .go, .go, .returned {}, .go, .returned {}, .done, .go, .go, .returned {}].map (.thread 0)

theorem deadlock_free_startAndApply :
    ∃ s, Run.run step (initial 2 true) (startAndApply ++ [.thread 1 (.request .stop), .thread 1 .go]) = some s ∧
      ¬ s.Deadlock := by
  have hreturns : (Run.run step (initial 2 true)
      (startAndApply ++ [.thread 1 (.request .stop), .thread 1 .go])).isSome = true := by decide +kernel
  obtain ⟨s, hrun⟩ := Option.isSome_iff_exists.mp hreturns
  exact ⟨s, hrun, deadlock_free (fun _ => rfl) (by decide +kernel) hrun⟩

/-- `stop` holds the runtime lock and waits for the lock of the manager; the
second `apply_topology` holds that one and its callback waits for the runtime
lock. -/
theorem shutdown_deadlocks :
    ¬ ∀ (n : ℕ) (s s' : Controller n) (moves : List (Move n)), s.allIdle → Run.run step s moves = some s' →
      ¬ s'.Deadlock := by
  intro h
  have hwait : (Run.run step (initial 2 true) (startAndApply ++
      [.thread 0 (.request (.applyTopology "lab.yaml")), .thread 0 .go, .thread 0 .go, .thread 1 (.request .stop),
        .thread 1 .go, .thread 0 (.loaded plainValidated)])).map (fun s =>
      decide ((s.pc 0).wants = some .runtime ∧ s.holds 1 .runtime ∧ (s.pc 1).wants = some .manager ∧
        s.holds 0 .manager)) = some true := by decide +kernel
  obtain ⟨s, hrun, hs⟩ := Option.map_eq_some_iff.mp hwait
  obtain ⟨hwants₀, hheld₁, hwants₁, hheld₀⟩ := of_decide_eq_true hs
  refine h 2 (initial 2 true) s _ (fun _ => rfl) hrun ⟨0, 1, ⟨by decide, .runtime, hwants₀, hheld₁⟩, ?_⟩
  exact ⟨by decide, .manager, hwants₁, hheld₀⟩

end Controller

end Ctrld
end Pktlab
