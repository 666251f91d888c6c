/-
# What the locks protect

Which part of the shared state a move writes, and which locks its thread has
then: the runtime only with the runtime lock (`Advances.runtime_eq`), the
current topology only with the lock of the manager (`Advances.current_eq`).
Where `start` and `stop` are not called, a process is stopped with the lock of
the manager, or by the second stop of `destroy_topology`
(`Advances.stopped`). What a section and its calls leave as it is is said once
for all of them (`Shared.begin_standing`, `Shared.resume_keeps`).

Key definitions: `Pc.hasRuntime`, `Pc.topological`, `Pc.builds`,
`Pc.stopsAgain`.
Key theorems: `Advances.runtime_eq`, `Advances.current_eq`,
`Advances.supervises`, `Advances.stopped`, `Advances.builds`.
-/
import Pktlab.Ctrld.Locks

namespace Pktlab
namespace Ctrld

/-! ### The shared state under the sections -/

namespace Shared

variable (sh : Shared)

theorem withStatus_current (task : Task) (k : ℕ) (finish : DatapathProcessStatus → Runtime) :
    (sh.withStatus task k finish).1.current = sh.current := by
  unfold withStatus
  split
  · rfl
  · rfl

theorem withStatus_supervisors (task : Task) (k : ℕ) (finish : DatapathProcessStatus → Runtime) :
    (sh.withStatus task k finish).1.supervisors = sh.supervisors := by
  unfold withStatus
  split
  · rfl
  · rfl

theorem withStatus_standing {task : Task} {k : ℕ} {finish : DatapathProcessStatus → Runtime}
    (hfinish : ∀ status, (finish status).standing = sh.runtime.standing) :
    (sh.withStatus task k finish).1.runtime.standing = sh.runtime.standing := by
  unfold withStatus
  split
  · rfl
  · exact hfinish _

theorem replaceSupervisor_current (configPath : ConfigPath) (v : ValidatedTopologyConfig) :
    (sh.replaceSupervisor configPath v).1.current = sh.current := by
  unfold replaceSupervisor
  split
  · rfl
  · rfl

theorem begin_current (task : Task) : (sh.begin task).1.current = sh.current := by
  cases task with
  | applied configPath v =>
    simp only [Shared.begin]
    split
    · rfl
    · exact withStatus_current _ _ _ _
  | startDatapath configPath v =>
    simp only [Shared.begin]
    split
    · rfl
    · exact replaceSupervisor_current _ _ _
  | health | statusHealth | applyFailed | destroyed | destroyFailed => exact withStatus_current _ _ _ _
  | _ =>
    simp only [Shared.begin]
    repeat' split
    all_goals rfl

theorem resume_current (task : Task) (k i : ℕ) (status : DatapathProcessStatus) :
    (sh.resume task k i status).1.current = sh.current := by
  unfold resume
  split
  case h_8 => exact withStatus_current _ _ _ _
  case h_16 => exact replaceSupervisor_current _ _ _
  all_goals rfl

variable {sh} in
/-- A controller that holds a supervisor keeps it when a section begins. -/
theorem begin_standing {i : ℕ} (hholds : sh.runtime.supervisor = some i) (task : Task) :
    (sh.begin task).1.runtime.standing = sh.runtime.standing ∧ (sh.begin task).1.supervisors = sh.supervisors := by
  cases task with
  | applied configPath v =>
    simp only [begin]
    split
    · exact ⟨rfl, rfl⟩
    · rename_i r hbegin
      refine ⟨Eq.trans (withStatus_standing _ ?_) (Runtime.standing_beginApplied _ hbegin), withStatus_supervisors _ _ _ _⟩
      exact Runtime.standing_finishApplied r _
  | health | statusHealth => exact ⟨sh.withStatus_standing fun _ => rfl, sh.withStatus_supervisors _ _ _⟩
  | applyFailed configPath =>
    exact ⟨sh.withStatus_standing (Runtime.standing_finishApplyFailed _ _ _), sh.withStatus_supervisors _ _ _⟩
  | destroyFailed =>
    exact ⟨sh.withStatus_standing (Runtime.standing_finishDestroyFailed _), sh.withStatus_supervisors _ _ _⟩
  | destroyed =>
    exact ⟨(sh.setRuntime _).withStatus_standing (Runtime.standing_finishDestroyed _), withStatus_supervisors _ _ _ _⟩
  | status | openApply | openDestroy => exact ⟨rfl, rfl⟩
  | start | stop =>
    simp only [begin, hholds]
    split_ifs
    all_goals exact ⟨rfl, rfl⟩
  | stats =>
    simp only [begin]
    split
    all_goals exact ⟨rfl, rfl⟩
  | reset | control | stopAgain | stopDatapath | startDatapath =>
    unfold begin
    rw [hholds]
    exact ⟨rfl, rfl⟩

/-- After a call of its supervisor a section changes none of them, unless it
puts another one in the place of the one it has stopped. -/
theorem resume_keeps (task : Task) (k i : ℕ) (status : DatapathProcessStatus) :
    (∃ configPath v, task = .startDatapath configPath v ∧ k = 0 ∧
      sh.resume task k i status = sh.replaceSupervisor configPath v) ∨
    (sh.resume task k i status).1.supervisors = sh.supervisors ∧
      (sh.resume task k i status).1.runtime.supervisor = sh.runtime.supervisor ∧
      (task = .start ∨ task = .stop ∨ (sh.resume task k i status).1.runtime.started = sh.runtime.started) := by
  have hkeeps : ∀ {r : Runtime}, r.standing = sh.runtime.standing →
      r.supervisor = sh.runtime.supervisor ∧ (task = .start ∨ task = .stop ∨ r.started = sh.runtime.started) :=
    fun h => ⟨Runtime.supervisor_of_standing h, .inr (.inr (Runtime.started_of_standing h))⟩
  unfold resume
  split
  case h_1 =>
    have hfinish := sh.runtime.standing_finishStart status
    exact .inr ⟨rfl, congrArg (fun standing => standing.2.2) hfinish, .inl rfl⟩
  case h_2 => exact .inr ⟨rfl, rfl, .inr (.inl rfl)⟩
  case h_3 | h_4 | h_9 => exact .inr ⟨rfl, hkeeps (Runtime.standing_finishObserved _ _)⟩
  case h_8 =>
    refine .inr ⟨withStatus_supervisors _ _ _ _, hkeeps ?_⟩
    exact sh.withStatus_standing (Runtime.standing_finishObserved _)
  case h_10 => exact .inr ⟨rfl, hkeeps (Runtime.standing_finishApplied _ _ _)⟩
  case h_11 => exact .inr ⟨rfl, hkeeps (Runtime.standing_finishApplyFailed _ _ _ _)⟩
  case h_13 => exact .inr ⟨rfl, hkeeps (Runtime.standing_finishDestroyed _ _)⟩
  case h_14 => exact .inr ⟨rfl, hkeeps (Runtime.standing_finishDestroyFailed _ _)⟩
  case h_16 configPath v => exact .inl ⟨configPath, v, rfl, rfl, rfl⟩
  all_goals exact .inr ⟨rfl, hkeeps rfl⟩

end Shared

/-! ### Methods other than `start` and `stop` -/

def Request.topological : Request → Bool
  | .start | .stop => false
  | _ => true

def Task.topological : Task → Bool
  | .start | .stop | .stopDatapath .shutdown => false
  | _ => true

/-- A thread does not stand in `start` or `stop`. -/
def Pc.topological : Pc → Bool
  | .enter task | .waiting task _ _ | .inside task _ _ => task.topological
  | .manager .shutdown | .teardown .shutdown _ => false
  | _ => true

def Move.topological {n : ℕ} : Move n → Bool
  | .thread _ (.request r) => r.topological
  | _ => true

theorem Begins.topological {sh : Shared} {task : Task} {p : Pc} (h : Begins sh task p)
    (htask : task.topological = true) : p.topological = true := by
  cases h with
  | calls => exact htask
  | shutdown => cases htask
  | stopDatapath reason =>
    cases reason with
    | shutdown => cases htask
    | _ => rfl
  | _ => rfl

theorem Resumes.topological {task : Task} {p : Pc} (h : Resumes task p) (htask : task.topological = true) :
    p.topological = true := by
  cases h with
  | stopDatapath reason =>
    cases reason with
    | shutdown => cases htask
    | _ => rfl
  | _ => rfl

/-- `start` and `stop` begin with a call of them. -/
theorem Advances.topological {sh : Shared} {p : Pc} {c : Choice} {x : Shared × Pc} (h : Advances sh p c x)
    (hp : p.topological = true) (hc : ∀ r, c = .request r → r.topological = true) : x.2.topological = true := by
  cases h with
  | request r =>
    have hr := hc r rfl
    cases r with
    | start | stop => cases hr
    | applyTopology configPath =>
      simp only [Request.pc]
      split
      · rfl
      · rfl
    | _ => rfl
  | begins task => exact (begins_begin sh task).topological hp
  | returns task k i status => exact (resumes_resume _ task k i status).topological hp
  | takes task k i => exact hp
  | raises task k i pktlabError =>
    cases task with
    | start | stop => cases hp
    | stopDatapath reason =>
      cases reason with
      | shutdown => cases hp
      | _ =>
        cases pktlabError with
        | true => rfl
        | false => rfl
    | _ => rfl
  | teardownRaises reason clean pktlabError =>
    cases reason with
    | shutdown => cases hp
    | _ => rfl
  | managerShutdown | managerShutdownNone | teardownShutdown => cases hp
  | _ => rfl

/-! ### The runtime and the current topology -/

/-- The runtime lock is held or about to be taken. -/
def Pc.hasRuntime (p : Pc) : Prop := Lock.runtime ∈ p.held ∨ p.wants = some .runtime

/-- Only with the runtime lock is the runtime written. -/
theorem Advances.runtime_eq {sh : Shared} {p : Pc} {c : Choice} {x : Shared × Pc} (h : Advances sh p c x) :
    x.1.runtime = sh.runtime ∨ p.hasRuntime := by
  cases h with
  | begins task => exact Or.inr (Or.inr rfl)
  | returns task k i status => exact Or.inr (Or.inl (by simp [Pc.held]))
  | managerShutdown h => exact Or.inl rfl
  | managerShutdownNone h => exact Or.inr (Or.inl (by simp [Pc.held, ManagerCall.locks]))
  | teardownShutdown => exact Or.inr (Or.inl (by simp [Pc.held, StopReason.locks]))
  | _ => exact Or.inl rfl

/-- Only with the lock of the manager does the current topology change. -/
theorem Advances.current_eq {sh : Shared} {p : Pc} {c : Choice} {x : Shared × Pc} (h : Advances sh p c x) :
    x.1.current = sh.current ∨ Lock.manager ∈ p.held := by
  cases h with
  | begins task => exact Or.inl (sh.begin_current task)
  | returns task k i status => exact Or.inl (Shared.resume_current _ task k i status)
  | teardownReplace | teardownDestroy | teardownShutdown => exact Or.inr (by simp [Pc.held, StopReason.locks])
  | applies => exact Or.inr (by simp [Pc.held])
  | _ => exact Or.inl rfl

/-! ### The supervisors -/

/-- The supervisor that a thread has created for the topology it builds. -/
def Pc.builds : Pc → Option ℕ
  | .waiting (.startDatapath ..) (_ + 1) i | .inside (.startDatapath ..) (_ + 1) i | .reconcile _ _ i => some i
  | _ => none

/-- The supervisor that the second stop of `destroy_topology` stops. -/
def Pc.stopsAgain : Pc → Option ℕ
  | .waiting .stopAgain _ i | .inside .stopAgain _ i => some i
  | _ => none

/-- What a move does to the supervisors: nothing, a call of one of them, or it
creates one for a topology that is built. -/
inductive Supervises (sh : Shared) (p : Pc) (x : Shared × Pc) : Prop
  | keeps (hsupervisors : x.1.supervisors = sh.supervisors)
    (hholds : x.1.runtime.supervisor = sh.runtime.supervisor)
    (hbuilds : ∀ i, x.2.builds = some i → p.builds = some i)
  | calls (task : Task) (k i : ℕ) (s : Supervisor) (hp : p = .inside task k i)
    (hs : s = (sh.supervisors i).returned (task.call k) ∨ s = (sh.supervisors i).raised (task.call k))
    (hsupervisors : x.1.supervisors = Function.update sh.supervisors i s)
    (hholds : x.1.runtime.supervisor = sh.runtime.supervisor)
    (hbuilds : ∀ j, x.2.builds = some j → p.builds = some j ∧ s.stopped = (sh.supervisors i).stopped)
  | creates (j : ℕ) (hmanager : Lock.manager ∈ p.held) (hruntime : p.hasRuntime)
    (hholds : x.1.runtime.supervisor = some j) (hbuilds : x.2.builds = some j)
    (hfresh : (x.1.supervisors j).stopped = false)

/-- A move that calls no supervisor and leads to none. -/
theorem Supervises.of_none {sh : Shared} {p : Pc} {x : Shared × Pc} (hbuilds : x.2.builds = none)
    (hsupervisors : x.1.supervisors = sh.supervisors) (hholds : x.1.runtime.supervisor = sh.runtime.supervisor) :
    Supervises sh p x := by
  refine .keeps hsupervisors hholds fun i hi => ?_
  rw [hbuilds] at hi
  cases hi

theorem withStatus_builds {sh : Shared} {task : Task} {k : ℕ} {finish : DatapathProcessStatus → Runtime}
    (htask : ∀ i, (Pc.waiting task k i).builds = none) : (sh.withStatus task k finish).2.builds = none := by
  rcases withStatus_pc sh task k finish with hpc | ⟨i, hpc⟩
  · rw [hpc]
    rfl
  · rw [hpc]
    exact htask i

theorem replaceSupervisor_supervises (sh : Shared) (configPath : ConfigPath) (v : ValidatedTopologyConfig) :
    ((sh.replaceSupervisor configPath v).1 = sh ∧ (sh.replaceSupervisor configPath v).2.builds = none) ∨
      ∃ j, (sh.replaceSupervisor configPath v).1.runtime.supervisor = some j ∧
        (sh.replaceSupervisor configPath v).2.builds = some j ∧
        ((sh.replaceSupervisor configPath v).1.supervisors j).stopped = false := by
  unfold Shared.replaceSupervisor
  split
  · exact Or.inl ⟨rfl, rfl⟩
  · refine Or.inr ⟨sh.created, rfl, rfl, ?_⟩
    simp [Shared.setSupervisor]

/-- A section that asks for a status. -/
theorem Supervises.of_withStatus {sh : Shared} (sh' : Shared) {p : Pc} {task : Task} {k : ℕ}
    {finish : DatapathProcessStatus → Runtime} (htask : ∀ i, (Pc.waiting task k i).builds = none)
    (hsupervisors : sh'.supervisors = sh.supervisors) (hholds : sh'.runtime.supervisor = sh.runtime.supervisor)
    (hfinish : ∀ status, (finish status).standing = sh'.runtime.standing) :
    Supervises sh p (sh'.withStatus task k finish) := by
  refine .keeps ((sh'.withStatus_supervisors task k finish).trans hsupervisors) ?_ (fun i hi => ?_)
  · exact (Runtime.supervisor_of_standing (sh'.withStatus_standing hfinish)).trans hholds
  · rw [withStatus_builds htask] at hi
    cases hi

theorem begin_supervises {sh : Shared} {task : Task} (htask : task.topological = true) :
    Supervises sh (.enter task) (sh.begin task) := by
  cases task with
  | start | stop => cases htask
  | health | statusHealth => exact .of_withStatus sh (fun _ => rfl) rfl rfl fun _ => rfl
  | destroyFailed =>
    exact .of_withStatus sh (fun _ => rfl) rfl rfl fun status => Runtime.standing_finishDestroyFailed _ status
  | applyFailed configPath =>
    exact .of_withStatus sh (fun _ => rfl) rfl rfl fun status => Runtime.standing_finishApplyFailed _ _ _ status
  | destroyed =>
    exact .of_withStatus (sh.setRuntime _) (fun _ => rfl) rfl rfl fun status =>
      Runtime.standing_finishDestroyed _ status
  | applied configPath v =>
    simp only [Shared.begin]
    split
    · exact .of_none rfl rfl rfl
    · rename_i r hbegin
      have hholds := Runtime.supervisor_of_standing (Runtime.standing_beginApplied _ hbegin)
      exact .of_withStatus (sh.setRuntime r) (fun _ => rfl) rfl hholds fun status =>
        Runtime.standing_finishApplied _ _ status
  | startDatapath configPath v =>
    simp only [Shared.begin]
    split
    · exact .of_none rfl rfl rfl
    · rcases replaceSupervisor_supervises sh configPath v with ⟨hsame, hnone⟩ | ⟨j, hholds, hbuilds, hfresh⟩
      · refine .keeps (by rw [hsame]) (by rw [hsame]) fun i hi => ?_
        rw [hnone] at hi
        cases hi
      · exact .creates j List.mem_cons_self (Or.inr rfl) hholds hbuilds hfresh
  | _ =>
    simp only [Shared.begin]
    repeat' split
    all_goals exact .of_none rfl rfl rfl

/-- What a section does to the supervisors after a call that has changed the
one it was made of. -/
theorem resume_supervises {sh : Shared} {task : Task} {k i : ℕ} {status : DatapathProcessStatus} {s : Supervisor}
    (htask : task.topological = true) (hs : s = (sh.supervisors i).returned (task.call k)) :
    Supervises sh (.inside task k i) ((sh.setSupervisor i s).resume task k i status) := by
  have hcalls : ∀ {x : Shared × Pc}, x.1.supervisors = Function.update sh.supervisors i s →
      x.1.runtime.standing = sh.runtime.standing → x.2.builds = none → Supervises sh (.inside task k i) x := by
    intro x hsupervisors hholds hnone
    refine .calls task k i s rfl (Or.inl hs) hsupervisors (Runtime.supervisor_of_standing hholds) fun j hj => ?_
    rw [hnone] at hj
    cases hj
  cases task with
  | start | stop => cases htask
  | health => exact hcalls rfl (Runtime.standing_finishObserved _ _) rfl
  | statusHealth =>
    refine hcalls rfl (Runtime.standing_finishObserved _ _) ?_
    simp only [Shared.resume]
    split
    · rfl
    · rfl
  | stats | reset =>
    unfold Shared.resume
    split
    all_goals first
      | contradiction
      | exact hcalls rfl rfl rfl
  | control =>
    cases k with
    | zero =>
      exact hcalls (Shared.withStatus_supervisors _ _ _ _)
        (Shared.withStatus_standing _ fun _ => Runtime.standing_finishObserved _ _) (withStatus_builds fun _ => rfl)
    | succ k => exact hcalls rfl (Runtime.standing_finishObserved _ _) rfl
  | applied configPath v => exact hcalls rfl (Runtime.standing_finishApplied _ _ _) rfl
  | applyFailed configPath => exact hcalls rfl (Runtime.standing_finishApplyFailed _ _ _ _) rfl
  | destroyed => exact hcalls rfl (Runtime.standing_finishDestroyed _ _) rfl
  | destroyFailed => exact hcalls rfl (Runtime.standing_finishDestroyFailed _ _) rfl
  | startDatapath configPath v =>
    cases k with
    | zero =>
      rcases replaceSupervisor_supervises (sh.setSupervisor i s) configPath v with
        ⟨hsame, hnone⟩ | ⟨j, hholds, hbuilds, hfresh⟩
      · have hsupervisors : ((sh.setSupervisor i s).replaceSupervisor configPath v).1.supervisors =
            Function.update sh.supervisors i s := by
          rw [hsame]
          rfl
        have hholds : ((sh.setSupervisor i s).replaceSupervisor configPath v).1.runtime.standing =
            sh.runtime.standing := by
          rw [hsame]
          rfl
        exact hcalls hsupervisors hholds hnone
      · refine .creates j ?_ (Or.inl ?_) hholds hbuilds hfresh
        · simp [Pc.held, Task.locks]
        · simp [Pc.held]
    | succ k =>
      refine .calls (.startDatapath configPath v) (k + 1) i s rfl (Or.inl hs) rfl rfl fun j hj => ⟨hj, ?_⟩
      rw [hs]
      rfl
  | status | openApply | openDestroy | stopAgain | stopDatapath => exact hcalls rfl rfl rfl

theorem builds_inside (task : Task) (k i : ℕ) : (Pc.inside task k i).builds = (Pc.waiting task k i).builds := by
  cases task with
  | startDatapath configPath v =>
    cases k with
    | zero => rfl
    | succ k => rfl
  | _ => rfl

/-- Where `start` and `stop` are not called. -/
theorem Advances.supervises {sh : Shared} {p : Pc} {c : Choice} {x : Shared × Pc} (h : Advances sh p c x)
    (hp : p.topological = true) : Supervises sh p x := by
  cases h with
  | request r =>
    refine .keeps rfl rfl fun i hi => ?_
    cases r with
    | applyTopology configPath =>
      simp only [Request.pc] at hi
      split at hi
      · cases hi
      · cases hi
    | _ => cases hi
  | begins task => exact begin_supervises hp
  | takes task k i => exact .keeps rfl rfl fun j hj => (builds_inside task k i).symm.trans hj
  | returns task k i status => exact resume_supervises hp rfl
  | raises task k i pktlabError =>
    refine .calls task k i _ rfl (Or.inr rfl) rfl rfl fun j hj => ?_
    cases task with
    | stopDatapath reason =>
      simp only [Task.raised] at hj
      split at hj
      · cases hj
      · cases reason with
        | _ => cases hj
    | _ => cases hj
  | teardownRaises reason clean pktlabError =>
    refine .keeps rfl rfl fun i hi => ?_
    cases reason with
    | _ => cases hi
  | managerShutdown | managerShutdownNone | teardownShutdown => cases hp
  | _ => exact .of_none rfl rfl rfl

/-- A call that stops or starts a process: the second stop of
`destroy_topology`, or one that the manager makes. -/
theorem call_cases {task : Task} (htask : task.topological = true) (k : ℕ) :
    task.call k = .status ∨ task.call k = .command ∨ (task = .stopAgain ∧ task.call k = .stop) ∨
      Lock.manager ∈ task.locks := by
  cases task with
  | start | stop => cases htask
  | stopDatapath reason =>
    cases reason with
    | shutdown => cases htask
    | _ => exact Or.inr (Or.inr (Or.inr List.mem_cons_self))
  | startDatapath configPath v => exact Or.inr (Or.inr (Or.inr List.mem_cons_self))
  | stopAgain => exact Or.inr (Or.inr (Or.inl ⟨rfl, rfl⟩))
  | status => exact Or.inr (Or.inl rfl)
  | stats | reset | control =>
    unfold Task.call
    split
    all_goals first
      | contradiction
      | exact Or.inl rfl
      | exact Or.inr (Or.inl rfl)
  | _ => exact Or.inl rfl

/-- Without the lock of the manager only the second stop of `destroy_topology`
stops a process. -/
theorem Advances.stopped {sh : Shared} {p : Pc} {c : Choice} {x : Shared × Pc} (h : Advances sh p c x)
    (hp : p.topological = true) (hmanager : Lock.manager ∉ p.held) {j : ℕ}
    (hstopped : (x.1.supervisors j).stopped = true) :
    (sh.supervisors j).stopped = true ∨ (p.stopsAgain = some j ∧ (sh.supervisors j).alive = true) := by
  rcases h.supervises hp with
    ⟨hsupervisors, -, -⟩ | ⟨task, k, i, s, rfl, hs, hsupervisors, -, -⟩ | ⟨_, hheld, -, -, -, -⟩
  · rw [hsupervisors] at hstopped
    exact Or.inl hstopped
  · rw [hsupervisors] at hstopped
    by_cases hji : j = i
    · subst hji
      rw [Function.update_self] at hstopped
      rcases call_cases hp k with hcall | hcall | ⟨rfl, hcall⟩ | hlocks
      · rw [hcall] at hs
        have hsame : s = sh.supervisors j := hs.elim id id
        exact Or.inl (hsame ▸ hstopped)
      · rw [hcall] at hs
        have hsame : s = sh.supervisors j := hs.elim id id
        exact Or.inl (hsame ▸ hstopped)
      · rw [hcall] at hs
        have hstop : s.stopped = ((sh.supervisors j).stopped || (sh.supervisors j).alive) := by
          rcases hs with rfl | rfl
          · rfl
          · rfl
        rw [hstop] at hstopped
        exact ((Bool.or_eq_true _ _).mp hstopped).imp id fun halive => ⟨rfl, halive⟩
      · exact absurd (List.mem_cons_of_mem _ (List.mem_cons_of_mem _ hlocks)) hmanager
    · rw [Function.update_of_ne hji] at hstopped
      exact Or.inl hstopped
  · exact absurd hheld hmanager

/-- Without the runtime lock no supervisor is called. -/
theorem Advances.supervisors_eq {sh : Shared} {p : Pc} {c : Choice} {x : Shared × Pc} (h : Advances sh p c x)
    (hp : p.topological = true) (hruntime : ¬ p.hasRuntime) : x.1.supervisors = sh.supervisors := by
  rcases h.supervises hp with ⟨hsupervisors, -, -⟩ | ⟨task, k, i, s, rfl, -, -, -, -⟩ | ⟨_, -, hheld, -, -, -⟩
  · exact hsupervisors
  · exact absurd (Or.inl (List.mem_cons_of_mem _ List.mem_cons_self)) hruntime
  · exact absurd hheld hruntime

/-- Only with the lock of the manager is another supervisor held. -/
theorem Advances.holds_eq {sh : Shared} {p : Pc} {c : Choice} {x : Shared × Pc} (h : Advances sh p c x)
    (hp : p.topological = true) (hmanager : Lock.manager ∉ p.held) :
    x.1.runtime.supervisor = sh.runtime.supervisor := by
  rcases h.supervises hp with ⟨-, hholds, -⟩ | ⟨_, _, _, _, -, -, -, hholds, -⟩ | ⟨_, hheld, -, -, -, -⟩
  · exact hholds
  · exact hholds
  · exact absurd hheld hmanager

/-- The supervisor of a topology that is built is held by the runtime and has
not been stopped. -/
theorem Advances.builds {sh : Shared} {p : Pc} {c : Choice} {x : Shared × Pc} (h : Advances sh p c x)
    (hp : p.topological = true) {j : ℕ} (hx : x.2.builds = some j) :
    (p.builds = some j ∧ x.1.runtime.supervisor = sh.runtime.supervisor ∧
      (x.1.supervisors j).stopped = (sh.supervisors j).stopped) ∨
    (p.hasRuntime ∧ x.1.runtime.supervisor = some j ∧ (x.1.supervisors j).stopped = false) := by
  rcases h.supervises hp with ⟨hsupervisors, hholds, hbuilds⟩ |
    ⟨task, k, i, s, rfl, -, hsupervisors, hholds, hbuilds⟩ | ⟨j', -, hruntime, hholds, hbuilds, hfresh⟩
  · exact Or.inl ⟨hbuilds j hx, hholds, by rw [hsupervisors]⟩
  · obtain ⟨hbuilds, hstopped⟩ := hbuilds j hx
    refine Or.inl ⟨hbuilds, hholds, ?_⟩
    rw [hsupervisors]
    by_cases hji : j = i
    · rw [hji, Function.update_self, hstopped]
    · rw [Function.update_of_ne hji]
  · rw [hbuilds] at hx
    obtain rfl := Option.some.inj hx
    exact Or.inr ⟨hruntime, hholds, hfresh⟩

/-- A topology becomes current when it is built. -/
theorem Advances.current_isSome {sh : Shared} {p : Pc} {c : Choice} {x : Shared × Pc} (h : Advances sh p c x)
    (hx : x.1.current.isSome = true) : sh.current.isSome = true ∨ ∃ i, p.builds = some i := by
  cases h with
  | begins task =>
    rw [Shared.begin_current] at hx
    exact Or.inl hx
  | returns task k i status =>
    rw [Shared.resume_current] at hx
    exact Or.inl hx
  | teardownReplace | teardownDestroy | teardownShutdown => cases hx
  | applies configPath v i => exact Or.inr ⟨i, rfl⟩
  | _ => exact Or.inl hx

theorem begin_stopsAgain {sh : Shared} {j : ℕ} (h : (sh.begin .stopAgain).2.stopsAgain = some j) :
    (sh.begin .stopAgain).1 = sh ∧ sh.runtime.supervisor = some j := by
  simp only [Shared.begin] at h ⊢
  cases hholds : sh.runtime.supervisor with
  | none =>
    rw [hholds] at h
    cases h
  | some i =>
    rw [hholds] at h
    obtain rfl := Option.some.inj h
    exact ⟨rfl, rfl⟩

theorem Begins.stopsAgain {sh : Shared} {task : Task} {p : Pc} (h : Begins sh task p) {j : ℕ}
    (hp : p.stopsAgain = some j) : task = .stopAgain := by
  cases h with
  | calls task k i =>
    cases task with
    | stopAgain => rfl
    | _ => cases hp
  | _ => cases hp

theorem Resumes.stopsAgain {task : Task} {p : Pc} (h : Resumes task p) : p.stopsAgain = none := by
  cases h with
  | _ => rfl

/-- How a thread gets to the second stop of `destroy_topology`. -/
theorem Advances.stopsAgain {sh : Shared} {p : Pc} {c : Choice} {x : Shared × Pc} (h : Advances sh p c x) {j : ℕ}
    (hx : x.2.stopsAgain = some j) :
    x.1 = sh ∧ (p = .enter .stopAgain ∧ sh.runtime.supervisor = some j ∨ p.stopsAgain = some j) := by
  cases h with
  | request r =>
    cases r with
    | applyTopology configPath =>
      simp only [Request.pc] at hx
      split at hx
      · cases hx
      · cases hx
    | _ => cases hx
  | begins task =>
    obtain rfl := (begins_begin sh task).stopsAgain hx
    obtain ⟨hsame, hholds⟩ := begin_stopsAgain hx
    exact ⟨hsame, Or.inl ⟨rfl, hholds⟩⟩
  | takes task k i =>
    refine ⟨rfl, Or.inr ?_⟩
    cases task with
    | stopAgain => exact hx
    | _ => cases hx
  | returns task k i status =>
    rw [(resumes_resume _ task k i status).stopsAgain] at hx
    cases hx
  | raises task k i pktlabError =>
    cases task with
    | stopDatapath reason =>
      simp only [Task.raised] at hx
      split at hx
      · cases hx
      · cases reason with
        | _ => cases hx
    | _ => cases hx
  | teardownRaises reason clean pktlabError =>
    cases reason with
    | _ => cases hx
  | _ => cases hx

theorem builds_held {p : Pc} {i : ℕ} (h : p.builds = some i) : Lock.manager ∈ p.held := by
  unfold Pc.builds at h
  split at h
  · simp [Pc.held, Task.locks]
  · simp [Pc.held, Task.locks]
  · exact List.mem_cons_self
  · cases h

theorem stopsAgain_held {p : Pc} {i : ℕ} (h : p.stopsAgain = some i) : Lock.runtime ∈ p.held := by
  unfold Pc.stopsAgain at h
  split at h
  · exact List.mem_cons_self
  · exact List.mem_cons_of_mem _ List.mem_cons_self
  · cases h

theorem builds_of_stopsAgain {p : Pc} {j : ℕ} (h : p.stopsAgain = some j) : p.builds = none := by
  unfold Pc.stopsAgain at h
  split at h
  · rfl
  · rfl
  · cases h

namespace Controller

variable {n : ℕ} {s s' : Controller n}

theorem step_topological {mv : Move n} (hs : ∀ t, (s.pc t).topological = true) (hmv : mv.topological = true)
    (h : s.step mv = some s') : ∀ t, (s'.pc t).topological = true := by
  intro a
  cases mv with
  | exits i =>
    rw [(step_exits h).1]
    exact hs a
  | thread t c =>
    obtain ⟨-, hadvance, hother⟩ := step_thread h
    by_cases hat : a = t
    · rw [hat]
      refine hadvance.topological (hs t) fun r hr => ?_
      rw [hr] at hmv
      exact hmv
    · rw [hother a hat]
      exact hs a

/-- No other thread has the runtime lock during a move that needs it. -/
theorem other_runtime {t : Fin n} (hs : s.Exclusive) (henabled : s.enabled t) (ht : (s.pc t).hasRuntime)
    {a : Fin n} (hne : a ≠ t) : ¬ s.holds a .runtime := by
  intro ha
  rcases ht with hheld | hwants
  · exact hne (hs a t .runtime ha hheld)
  · exact henabled .runtime hwants a hne ha

end Controller

end Ctrld
end Pktlab
