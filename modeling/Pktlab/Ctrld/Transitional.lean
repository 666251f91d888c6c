/-
# No transitional state is left behind

`start`, `stop`, `apply_topology` and `destroy_topology` set a transitional
state first and rely on a later step to leave it. On a started controller that
holds a supervisor that step need not come: `health_snapshot` recomputes the
state there. Elsewhere it reports what it finds, and two exceptions leave a
transitional state to be found: the start of the supervisor in `start`, and
the second stop of `destroy_topology` on a controller that is not started.
Without these, calls that are made one after another leave none, however they
end (`snapshot_settled`).

Key definitions: `ControllerState.transitional`, `Shared.Settled`, `Pc.Fits`,
`Controller.snapshotMoves`, `Shared.settles`.
Key theorems: `begin_fits`, `resume_fits`, `Advances.poised`, `run_snapshot`,
`snapshot_settled`.
-/
import Pktlab.Ctrld.Rejected

namespace Pktlab
namespace Ctrld

/-- `starting`, `stopping` and `reconciling`. -/
def ControllerState.transitional : ControllerState → Bool
  | .starting | .stopping | .reconciling => true
  | _ => false

/-- What is recomputed is not transitional. -/
theorem recomputeControllerHealth_settles (r : Runtime) (status : DatapathProcessStatus) :
    (r.recomputeControllerHealth status).controllerState.transitional = false := by
  obtain ⟨state, message, hreport, hstate⟩ := r.recomputeControllerHealth_reports status
  rw [hreport]
  rcases hstate with rfl | rfl | ⟨rfl, -⟩
  · rfl
  · rfl
  · rfl

/-- A `health_snapshot` recomputes the state. -/
structure Runtime.Steady (r : Runtime) : Prop where
  started : r.started = true
  supervised : r.supervisor.isSome = true

/-- A `health_snapshot` does not report a transitional state. -/
def Runtime.Settled (r : Runtime) : Prop := r.Steady ∨ r.controllerState.transitional = false

theorem statusOf_isSome_iff {sh : Shared} : sh.statusOf.isSome = true ↔ sh.runtime.Steady := by
  unfold Shared.statusOf
  split
  · exact ⟨fun h => ⟨‹_›, h⟩, fun h => h.supervised⟩
  · exact ⟨fun h => (Bool.false_ne_true h).elim, fun h => absurd h.started ‹_›⟩

/-- A status without a supervisor to ask leaves the state as it was. -/
theorem Runtime.Settled.of_statusOf {sh : Shared} (h : sh.runtime.Settled) (hstatus : sh.statusOf = none) :
    sh.runtime.controllerState.transitional = false := by
  rcases h with hsteady | h
  · have hsome := statusOf_isSome_iff.mpr hsteady
    rw [hstatus] at hsome
    cases hsome
  · exact h

/-! ### What holds where a thread stands -/

/-- When a thread is about to enter a section. -/
def Task.FitsEntry (r : Runtime) : Task → Prop
  | .start | .stop | .health | .status | .statusHealth | .stats | .reset | .control => r.Settled
  | .stopDatapath .shutdown => r.Steady
  | _ => True

/-- When a section calls its supervisor. -/
def Task.FitsCall (r : Runtime) : Task → Prop
  | .health | .status | .statusHealth | .stats | .reset | .control => r.Settled
  | .stop | .applied .. | .applyFailed _ | .destroyed | .destroyFailed | .stopDatapath .shutdown => r.Steady
  | .start | .stopAgain | .stopDatapath _ | .startDatapath .. => r.supervisor.isSome = true
  | .openApply _ | .openDestroy => False

/-- **Where nothing settles the state any more,** it is settled already. -/
def Pc.Fits (r : Runtime) : Pc → Prop
  | .idle => r.Settled
  | .enter task => task.FitsEntry r
  | .waiting task _ _ | .inside task _ _ => task.FitsCall r
  | .manager .shutdown | .teardown .shutdown _ => r.Steady
  | .reconcile .. => r.supervisor.isSome = true
  | _ => True

section Sections

variable {sh sh' : Shared}

theorem withStatus_fits {task : Task} {k : ℕ} {finish : DatapathProcessStatus → Runtime}
    (htask : sh.runtime.Steady → task.FitsCall sh.runtime)
    (hfinish : sh.statusOf = none → (finish unmanagedDatapathStatus).controllerState.transitional = false) :
    (sh.withStatus task k finish).2.Fits (sh.withStatus task k finish).1.runtime := by
  unfold Shared.withStatus
  split
  · rename_i i hstatus
    refine htask (statusOf_isSome_iff.mp ?_)
    rw [hstatus]
    rfl
  · exact .inr (hfinish ‹_›)

theorem replaceSupervisor_fits (configPath : ConfigPath) (v : ValidatedTopologyConfig) :
    (sh.replaceSupervisor configPath v).2.Fits (sh.replaceSupervisor configPath v).1.runtime := by
  unfold Shared.replaceSupervisor
  split
  · trivial
  · exact rfl

/-- `DesiredState` accepts the result of the manager. -/
def Shared.accepts (sh : Shared) : Pc → Choice → Bool
  | .enter (.applied configPath v), .go => (sh.runtime.beginApplied ⟨configPath.1, v⟩).isSome
  | _, _ => true

theorem begin_fits {task : Task} (hcurrent : sh.current.isSome = true → sh.runtime.supervisor.isSome = true)
    (haccepts : sh.accepts (.enter task) .go = true) (h : task.FitsEntry sh.runtime) :
    (sh.begin task).2.Fits (sh.begin task).1.runtime := by
  cases task with
  | start =>
    simp only [Shared.begin]
    split
    · exact h
    · split
      · rename_i i hi
        exact Option.isSome_iff_exists.mpr ⟨i, hi⟩
      · exact .inr (recomputeControllerHealth_settles _ _)
  | stop =>
    simp only [Shared.begin]
    split
    · exact h
    · have hstarted : sh.runtime.started = true := not_not.mp ‹_›
      split
      · exact ⟨hstarted, hcurrent ‹_›⟩
      · split
        · rename_i i hi
          exact ⟨hstarted, Option.isSome_iff_exists.mpr ⟨i, hi⟩⟩
        · exact .inr rfl
  | health | statusHealth => exact withStatus_fits (fun _ => h) h.of_statusOf
  | status => exact h
  | stats | reset | control =>
    simp only [Shared.begin]
    split
    all_goals exact h
  | openApply configPath => trivial
  | applied configPath v =>
    obtain ⟨r, hr⟩ := Option.isSome_iff_exists.mp haccepts
    simp only [Shared.begin, hr]
    exact withStatus_fits id fun _ => recomputeControllerHealth_settles _ _
  | applyFailed configPath | destroyed | destroyFailed =>
    exact withStatus_fits id fun _ => recomputeControllerHealth_settles _ _
  | openDestroy => trivial
  | stopAgain =>
    simp only [Shared.begin]
    split
    · rename_i i hi
      exact Option.isSome_iff_exists.mpr ⟨i, hi⟩
    · trivial
  | stopDatapath reason =>
    simp only [Shared.begin]
    split
    · rename_i i hi
      cases reason with
      | shutdown => exact h
      | _ => exact Option.isSome_iff_exists.mpr ⟨i, hi⟩
    · cases reason with
      | shutdown => exact h
      | _ => trivial
  | startDatapath configPath v =>
    simp only [Shared.begin]
    split
    · rename_i i hi
      exact Option.isSome_iff_exists.mpr ⟨i, hi⟩
    · exact replaceSupervisor_fits configPath v

theorem resume_fits {task : Task} {k i : ℕ} {status : DatapathProcessStatus} (h : task.FitsCall sh.runtime) :
    (sh.resume task k i status).2.Fits (sh.resume task k i status).1.runtime := by
  unfold Shared.resume
  split
  case h_1 | h_3 | h_9 | h_10 | h_11 | h_13 | h_14 => exact .inr (recomputeControllerHealth_settles _ _)
  case h_2 => exact .inr rfl
  case h_4 =>
    split
    · exact .inr (recomputeControllerHealth_settles _ _)
    · exact .inr (recomputeControllerHealth_settles _ _)
  case h_5 | h_6 | h_7 => exact h
  case h_8 => exact withStatus_fits (fun _ => h) fun _ => recomputeControllerHealth_settles _ _
  case h_12 => trivial
  case h_15 reason =>
    cases reason with
    | shutdown => exact h
    | _ => trivial
  case h_16 configPath v => exact replaceSupervisor_fits configPath v
  case h_17 => exact h
  all_goals first
    | exact h
    | exact False.elim h

/-- What the exceptions that matter here leave behind. -/
def Shared.settles (sh : Shared) : Pc → Choice → Bool
  | .inside .start _ _, .raised _ => false
  | .inside .stopAgain _ _, .raised _ => sh.runtime.started
  | _, _ => true

theorem stopReason_raised_fits {reason : StopReason} (h : reason = .shutdown → sh.runtime.Steady) :
    reason.raised.Fits sh.runtime := by
  cases reason with
  | shutdown => exact .inl (h rfl)
  | _ => trivial

theorem task_raised_fits {task : Task} {k i : ℕ} {pktlabError : Bool} (h : task.FitsCall sh.runtime)
    (hsettles : sh.settles (.inside task k i) (.raised pktlabError) = true) :
    (task.raised pktlabError).Fits sh.runtime := by
  cases task with
  | start => cases hsettles
  | stopAgain => exact .inl ⟨hsettles, h⟩
  | stop | applied | applyFailed | destroyed | destroyFailed => exact .inl h
  | stopDatapath reason =>
    have hreason : reason = .shutdown → sh.runtime.Steady := by
      rintro rfl
      exact h
    simp only [Task.raised]
    split
    · cases reason with
      | shutdown => exact h
      | _ => trivial
    · exact stopReason_raised_fits hreason
  | startDatapath | openApply | openDestroy => trivial
  | _ => exact h

end Sections

/-- What holds between two moves of a single thread. -/
structure Poised (sh : Shared) (p : Pc) : Prop where
  supervised : sh.current.isSome = true → sh.runtime.supervisor.isSome = true
  fits : p.Fits sh.runtime

theorem fits_of_builds {sh : Shared} {p : Pc} {i : ℕ} (hp : p.builds = some i) (h : p.Fits sh.runtime) :
    sh.runtime.supervisor.isSome = true := by
  unfold Pc.builds at hp
  split at hp
  · exact h
  · exact h
  · exact h
  · cases hp

/-- A supervisor is given up for another one only. -/
theorem Advances.supervisor_isSome {sh : Shared} {p : Pc} {c : Choice} {x : Shared × Pc} (h : Advances sh p c x)
    (hsome : sh.runtime.supervisor.isSome = true) : x.1.runtime.supervisor.isSome = true := by
  obtain ⟨j, hj⟩ := Option.isSome_iff_exists.mp hsome
  cases h with
  | begins task =>
    rw [Runtime.supervisor_of_standing (Shared.begin_standing hj task).1]
    exact hsome
  | returns task k i status =>
    rcases (sh.setSupervisor i ((sh.supervisors i).returned (task.call k))).resume_keeps task k i status with
      ⟨configPath, v, -, -, hreplace⟩ | ⟨-, hholds, -⟩
    · rw [hreplace]
      unfold Shared.replaceSupervisor
      split
      · exact hsome
      · rfl
    · rw [hholds]
      exact hsome
  | _ => exact hsome

/-- **The step lemma.** -/
theorem Advances.poised {sh : Shared} {p : Pc} {c : Choice} {x : Shared × Pc} (h : Advances sh p c x)
    (hs : Poised sh p) (haccepts : sh.accepts p c = true) (hsettles : sh.settles p c = true) : Poised x.1 x.2 := by
  constructor
  case supervised =>
    intro hcurrent
    refine h.supervisor_isSome ?_
    rcases h.current_isSome hcurrent with hsome | ⟨i, hi⟩
    · exact hs.supervised hsome
    · exact fits_of_builds hi hs.fits
  case fits =>
    have hfits := hs.fits
    cases h with
    | request r =>
      cases r with
      | applyTopology configPath =>
        simp only [Request.pc]
        split
        · exact hfits
        · trivial
      | destroyTopology => trivial
      | _ => exact hfits
    | begins task => exact begin_fits hs.supervised haccepts hfits
    | takes task k i => exact hfits
    | returns task k i status => exact resume_fits hfits
    | raises task k i pktlabError => exact task_raised_fits hfits hsettles
    | managerShutdown => exact hfits
    | managerShutdownNone | teardownShutdown => exact .inr rfl
    | teardownRaises reason clean pktlabError =>
      refine stopReason_raised_fits ?_
      rintro rfl
      exact hfits
    | _ => trivial

/-! ### Runs -/

namespace Controller

variable {s s' : Controller 1}

/-- `DesiredState` raises nowhere. -/
def accepts (s : Controller 1) : Move 1 → Bool
  | .thread t choice => s.shared.accepts (s.pc t) choice
  | .exits _ => true

/-- Neither does the start of the supervisor in `start`, nor the second stop of
`destroy_topology` while the controller is not started. -/
def settles (s : Controller 1) : Move 1 → Bool
  | .thread t choice => s.shared.settles (s.pc t) choice
  | .exits _ => true

theorem step_poised {mv : Move 1} (hs : Poised s.shared (s.pc 0)) (haccepts : s.accepts mv = true)
    (hsettles : s.settles mv = true) (h : s.step mv = some s') : Poised s'.shared (s'.pc 0) := by
  cases mv with
  | exits i =>
    obtain ⟨hpc, hshared⟩ := step_exits h
    rw [hpc, hshared]
    exact ⟨hs.supervised, hs.fits⟩
  | thread t c =>
    obtain rfl : t = 0 := Subsingleton.elim t 0
    obtain ⟨-, hadvance, -⟩ := step_thread h
    exact hadvance.poised hs haccepts hsettles

/-- The moves of a `health_snapshot` that returns; `status` is what the
supervisor answers if it is asked. -/
def snapshotMoves (s : Controller 1) (status : DatapathProcessStatus) : List (Move 1) :=
  let answer : List Choice := if s.shared.statusOf.isSome then [.go, .returned status] else []
  (.request .healthSnapshot :: .go :: answer).map (.thread 0)

/-- What a snapshot leaves and reports. -/
def snapshot (s : Controller 1) (status : DatapathProcessStatus) : Runtime :=
  if s.shared.statusOf.isSome then s.shared.runtime.finishObserved status else s.shared.runtime

theorem run_snapshot (hidle : s.allIdle) (status : DatapathProcessStatus) :
    ∃ s', Run.run step s (s.snapshotMoves status) = some s' ∧ s'.shared.runtime = s.snapshot status := by
  unfold snapshotMoves snapshot
  cases hstatus : s.shared.statusOf with
  | none =>
    have hbegin : s.shared.begin .health = (s.shared, .idle) := by
      simp [Shared.begin, Shared.withStatus, hstatus, Shared.setRuntime]
    have henter : step ⟨s.shared, Function.update s.pc 0 (.enter .health)⟩ (.thread 0 .go) =
        some ⟨s.shared, Function.update s.pc 0 .idle⟩ := step_alone hidle (congrArg some hbegin)
    refine ⟨⟨s.shared, Function.update s.pc 0 .idle⟩, ?_, rfl⟩
    simp [Run.run, step_request hidle, Request.pc, henter]
  | some i =>
    have hbegin : s.shared.begin .health = (s.shared, .waiting .health 0 i) := by
      simp [Shared.begin, Shared.withStatus, hstatus]
    have henter : step ⟨s.shared, Function.update s.pc 0 (.enter .health)⟩ (.thread 0 .go) =
        some ⟨s.shared, Function.update s.pc 0 (.waiting .health 0 i)⟩ := step_alone hidle (congrArg some hbegin)
    have htake : step ⟨s.shared, Function.update s.pc 0 (.waiting .health 0 i)⟩ (.thread 0 .go) =
        some ⟨s.shared, Function.update s.pc 0 (.inside .health 0 i)⟩ := step_alone hidle rfl
    have hreturn : step ⟨s.shared, Function.update s.pc 0 (.inside .health 0 i)⟩ (.thread 0 (.returned status)) =
        some ⟨(s.shared.setSupervisor i (s.shared.supervisors i)).setRuntime
          (s.shared.runtime.finishObserved status), Function.update s.pc 0 .idle⟩ := step_alone hidle rfl
    refine ⟨⟨(s.shared.setSupervisor i (s.shared.supervisors i)).setRuntime
      (s.shared.runtime.finishObserved status), Function.update s.pc 0 .idle⟩, ?_, rfl⟩
    simp [Run.run, step_request hidle, Request.pc, henter, htake, hreturn]

/-- **No transitional state is reported** after calls that were made one after
another, whether they returned or raised, as long as neither of the two
exceptions that leave one behind has occurred. -/
theorem snapshot_settled {superviseDatapath : Bool} {moves : List (Move 1)}
    (hrun : Run.run step (initial 1 superviseDatapath) moves = some s)
    (haccepts : Run.AllSteps step (fun s mv => s.accepts mv = true) (initial 1 superviseDatapath) moves)
    (hsettles : Run.AllSteps step (fun s mv => s.settles mv = true) (initial 1 superviseDatapath) moves)
    (hidle : s.allIdle) (status : DatapathProcessStatus) :
    ∃ s', Run.run step s (s.snapshotMoves status) = some s' ∧
      s'.shared.runtime.controllerState.transitional = false := by
  have hpoised : Poised s.shared (s.pc 0) := by
    refine Run.run_induction_of (P := fun s : Controller 1 => Poised s.shared (s.pc 0))
      (C := fun s mv => s.accepts mv = true ∧ s.settles mv = true)
      (fun _ _ _ hs hc h => step_poised hs hc.1 hc.2 h) ?_ (haccepts.and hsettles) hrun
    exact ⟨fun h => (Bool.false_ne_true h).elim, .inr rfl⟩
  have hsettled : s.shared.runtime.Settled := by
    have hfits := hpoised.fits
    rw [hidle 0] at hfits
    exact hfits
  obtain ⟨s', hsnapshot, hruntime⟩ := run_snapshot hidle status
  refine ⟨s', hsnapshot, ?_⟩
  rw [hruntime, snapshot]
  split
  · exact recomputeControllerHealth_settles _ _
  · exact hsettled.of_statusOf (Option.not_isSome_iff_eq_none.mp ‹_›)

/-- A `destroy_topology` whose second stop raises on a started controller. -/
theorem snapshot_settled_after_raise : ∃ s : Controller 1,
    Run.run step (initial 1 true) ([.request .start, .go, .go, .returned {}, .request .destroyTopology, .go, .go, .go,
      .go, .raised true].map (.thread 0)) = some s ∧
    ∃ s', Run.run step s (s.snapshotMoves {}) = some s' ∧
      s'.shared.runtime.controllerState.transitional = false := by
  have hend : (Run.run step (initial 1 true) ([.request .start, .go, .go, .returned {}, .request .destroyTopology, .go,
      .go, .go, .go, .raised true].map (.thread 0))).map (fun s => decide (∀ t, (s.pc t).isIdle = true)) =
      some true := by decide +kernel
  obtain ⟨s, hrun, hs⟩ := Option.map_eq_some_iff.mp hend
  have hidle : s.allIdle := fun t => Pc.isIdle_iff.mp (of_decide_eq_true hs t)
  exact ⟨s, hrun, snapshot_settled hrun (by decide +kernel) (by decide +kernel) hidle {}⟩

/-- A daemon that does not get ready leaves the controller `starting`. -/
theorem start_left_starting :
    ¬ ∀ (superviseDatapath : Bool) (s : Controller 1) (moves : List (Move 1)) (status : DatapathProcessStatus),
      Run.run step (initial 1 superviseDatapath) moves = some s →
      Run.AllSteps step (fun s mv => s.accepts mv = true) (initial 1 superviseDatapath) moves → s.allIdle →
      ∃ s', Run.run step s (s.snapshotMoves status) = some s' ∧
        s'.shared.runtime.controllerState.transitional = false := by
  intro h
  have hend : (Run.run step (initial 1 true) ([.request .start, .go, .go, .raised true].map (.thread 0))).bind (fun s =>
      (Run.run step s (s.snapshotMoves {})).map fun s' =>
        decide ((∀ t, (s.pc t).isIdle = true) ∧ s'.shared.runtime.controllerState = .starting)) =
      some true := by decide +kernel
  obtain ⟨s, hrun, hs⟩ := Option.bind_eq_some_iff.mp hend
  obtain ⟨s', hsnapshot, hs'⟩ := Option.map_eq_some_iff.mp hs
  obtain ⟨hidle, hstarting⟩ := of_decide_eq_true hs'
  obtain ⟨s'', hsnapshot', hsettled⟩ :=
    h true s _ {} hrun (by decide +kernel) fun t => Pc.isIdle_iff.mp (hidle t)
  rw [hsnapshot] at hsnapshot'
  obtain rfl := Option.some.inj hsnapshot'
  rw [hstarting] at hsettled
  cases hsettled

end Controller

end Ctrld
end Pktlab
