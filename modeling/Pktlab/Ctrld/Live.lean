/-
# Observed state that is not live

The supervisor remembers the last health it was told and puts it into every
status, also into that of a process that has ended or cannot be reached; the
controller stores what it finds there as observed. So a health is presented
that nobody can verify any more, from the first crash after an answer on
(`crash_keeps_health`). Along every run of a `Plant` what is stored is live if
and only if no status is stored that comes from a remembered health
(`observed_live_iff`).

Key definitions: `DpdkdSupervisor.Remembers`, `Shared.observes`, `Plant.Live`,
`Plant.Stale`.
Key theorems: `start_live`, `Advances.observed`, `not_remembers_iff`,
`live_iff`, `observed_live_iff`.
-/
import Pktlab.Ctrld.Plant
import Pktlab.Ctrld.StatusTotal

namespace Pktlab
namespace Ctrld

open Effect

/-! ### What the supervisor returns -/

namespace DpdkdSupervisor

variable {env : ℕ → Moment} {s s' : DpdkdSupervisor} {st : SupervisorStatus}

/-- A status that is not live has the health that was remembered. -/
theorem status_health (h : status env s = (.ok st, s')) (hlive : st.toDatapathProcessStatus.live = false) :
    st.health = s.lastHealth := by
  rcases status_eq_ok h with ⟨-, htrue⟩ | ⟨-, -, hhealth⟩
  · rw [hlive] at htrue
    cases htrue
  · exact hhealth

/-- What is live, by the state and the surroundings. -/
theorem status_reached_iff (h : status env s = (.ok st, s')) :
    st.toDatapathProcessStatus.live = true ↔ s.Reached env := by
  rcases status_eq_ok h with ⟨hreached, hlive⟩ | ⟨hreached, hunreachable, -⟩
  · exact iff_of_true hlive hreached
  · refine iff_of_false (fun hlive => ?_) hreached
    have hreachable := ((Bool.and_eq_true _ _).mp hlive).2
    rw [hunreachable] at hreachable
    cases hreachable

theorem waitRounds_live : ∀ rounds, Yields (fun st => st.toDatapathProcessStatus.live = true) (waitRounds env rounds)
  | 0 => yields_throw _
  | rounds + 1 => by
    unfold waitRounds
    refine yields_bind fun s => ?_
    split
    · exact yields_throw _
    · refine yields_bind fun exitCode => ?_
      split
      · exact yields_bind fun stderr => yields_bind fun _ => yields_throw _
      · refine yields_tryCatch refreshIpcState_live fun e => ?_
        split
        · exact yields_bind fun _ => waitRounds_live rounds
        · exact yields_throw _

theorem waitForReady_live : Yields (fun st => st.toDatapathProcessStatus.live = true) (waitForReady env) :=
  yields_bind fun m => waitRounds_live m.rounds

theorem launch_live {config : LaunchConfig} :
    Yields (fun st => st.toDatapathProcessStatus.live = true) (launch config env) := by
  refine yields_bind fun _ => yields_bind fun i => yields_bind fun _ => yields_bind fun _ => ?_
  exact yields_tryCatch waitForReady_live fun e => yields_bind fun _ => yields_throw _

theorem start_live {config : LaunchConfig} :
    Yields (fun st => st.toDatapathProcessStatus.live = true) (start config env) := by
  refine yields_bind fun s => ?_
  split
  · exact launch_live
  · refine yields_bind fun exitCode => ?_
    split
    · exact waitForReady_live
    · exact launch_live

end DpdkdSupervisor

/-! ### What the controller stores -/

/-- What is observed, so far as it comes from a status. -/
structure ObservedState.Shows (o : ObservedState) (status : DatapathProcessStatus) : Prop where
  datapathHealth : o.datapathHealth = status.health.map HealthStateModel.state
  appliedRulesVersion : o.appliedRulesVersion = status.health.map HealthStateModel.appliedRuleVersion
  dpdkdPid : o.dpdkdPid = status.pid

theorem ObservedState.Shows.health_iff {o : ObservedState} {status : DatapathProcessStatus} (h : o.Shows status) :
    o.datapathHealth = none ∧ o.appliedRulesVersion = none ↔ status.health = none := by
  rw [h.datapathHealth, h.appliedRulesVersion]
  simp

/-- What is observed afterwards, where a status has been stored or none. -/
def ObservedState.Becomes (o o' : ObservedState) : Option DatapathProcessStatus → Prop
  | none => o' = o
  | some status => o'.Shows status

namespace Runtime

variable (r : Runtime) (status : DatapathProcessStatus)

theorem observe_shows (topologyApplied : Bool) (effectiveDpdkConfig : Option EffectiveDpdkRuntimeModel) :
    (r.observe status topologyApplied effectiveDpdkConfig).observed.Shows status := ⟨rfl, rfl, rfl⟩

theorem recomputeControllerHealth_observed : (r.recomputeControllerHealth status).observed = r.observed := by
  obtain ⟨state, message, hreport, -⟩ := r.recomputeControllerHealth_reports status
  rw [hreport]
  rfl

/-- What is recomputed after a status has been stored leaves it there. -/
theorem recomputed_shows {r : Runtime} {status : DatapathProcessStatus} (h : r.observed.Shows status) :
    (r.recomputeControllerHealth status).observed.Shows status := by
  rw [recomputeControllerHealth_observed]
  exact h

theorem finishStart_shows : (r.finishStart status).observed.Shows status :=
  recomputed_shows (r.observe_shows status _ _)

theorem finishApplied_shows (applied : AppliedTopology) : (r.finishApplied applied status).observed.Shows status :=
  recomputed_shows (r.observe_shows status _ _)

theorem finishApplyFailed_shows (configPath : String) (hasAppliedTopology : Bool) :
    (r.finishApplyFailed configPath hasAppliedTopology status).observed.Shows status := by
  unfold finishApplyFailed
  refine recomputed_shows ?_
  split
  · exact r.observe_shows status _ _
  · exact observe_shows { r with desired := r.desiredStateWithoutTopology } status _ _

theorem finishDestroyed_shows : (r.finishDestroyed status).observed.Shows status :=
  recomputed_shows (r.observe_shows status _ _)

theorem finishDestroyFailed_shows : (r.finishDestroyFailed status).observed.Shows status :=
  recomputed_shows (r.observe_shows status _ _)

theorem finishObserved_shows : (r.finishObserved status).observed.Shows status :=
  recomputed_shows (r.observe_shows status _ _)

theorem finishStop_shows : r.finishStop.observed.Shows unmanagedDatapathStatus := ⟨rfl, rfl, rfl⟩

theorem beginApplied_observed {r r' : Runtime} {applied : AppliedTopology} (h : r.beginApplied applied = some r') :
    r'.observed = r.observed := by
  unfold beginApplied at h
  split at h
  · cases h
    rfl
  · cases h

end Runtime

/-- The `k`-th call of a section asks for a status, which is stored. -/
def Task.inspects : Task → ℕ → Bool
  | .health, _ | .statusHealth, _ | .control, _ + 1 => true
  | .applied .., _ | .applyFailed _, _ | .destroyed, _ | .destroyFailed, _ => true
  | _, _ => false

theorem Task.call_of_inspects {task : Task} {k : ℕ} (h : task.inspects k = true) : task.call k = .status := by
  cases task with
  | control =>
    cases k with
    | zero => cases h
    | succ k => rfl
  | health | statusHealth | applied | applyFailed | destroyed | destroyFailed => rfl
  | _ => cases h

namespace Shared

variable (sh : Shared)

/-- The status that is stored where there is no supervisor to ask. -/
def unasked : Option DatapathProcessStatus := if sh.statusOf = none then some unmanagedDatapathStatus else none

/-- The status that the observed state is built from in a move, if it is. -/
def observes : Pc → Choice → Option DatapathProcessStatus
  | _, .raised _ => none
  | .enter .start, .go =>
    if ¬ sh.runtime.started ∧ sh.runtime.supervisor = none then some unmanagedDatapathStatus else none
  | .enter .stop, .go =>
    if sh.runtime.started ∧ sh.current = none ∧ sh.runtime.supervisor = none then some unmanagedDatapathStatus
    else none
  | .enter (.applied configPath v), .go =>
    (sh.runtime.beginApplied ⟨configPath.1, v⟩).bind fun r => (sh.setRuntime r).unasked
  | .enter (.applyFailed _), .go | .enter .destroyed, .go | .enter .destroyFailed, .go => sh.unasked
  | .inside .start _ _, .returned status => some status
  | .inside .stop _ _, .returned _ => some unmanagedDatapathStatus
  | .inside .control 0 _, .returned _ => sh.unasked
  | .inside task k _, .returned status => if task.inspects k then some status else none
  | .manager .shutdown, .go => if sh.current = none then some unmanagedDatapathStatus else none
  | .teardown .shutdown true, .done => some unmanagedDatapathStatus
  | _, _ => none

theorem withStatus_observed {task : Task} {k : ℕ} {finish : DatapathProcessStatus → Runtime}
    (h : (finish unmanagedDatapathStatus).observed.Shows unmanagedDatapathStatus) :
    sh.runtime.observed.Becomes (sh.withStatus task k finish).1.runtime.observed sh.unasked := by
  unfold withStatus unasked
  cases sh.statusOf with
  | some i => rfl
  | none => exact h

theorem replaceSupervisor_observed (configPath : ConfigPath) (v : ValidatedTopologyConfig) :
    (sh.replaceSupervisor configPath v).1.runtime.observed = sh.runtime.observed := by
  unfold replaceSupervisor
  split
  · rfl
  · rfl

theorem begin_observed (task : Task) :
    sh.runtime.observed.Becomes (sh.begin task).1.runtime.observed (sh.observes (.enter task) .go) := by
  cases task with
  | start =>
    simp only [begin, observes]
    by_cases hstarted : sh.runtime.started = true
    · simp only [hstarted]
      rfl
    · cases sh.runtime.supervisor with
      | some i =>
        simp only [hstarted]
        rfl
      | none =>
        simp only [hstarted]
        exact Runtime.finishStart_shows _ _
  | stop =>
    simp only [begin, observes]
    by_cases hstarted : sh.runtime.started = true
    · cases sh.current with
      | some applied =>
        simp only [hstarted]
        rfl
      | none =>
        cases sh.runtime.supervisor with
        | some i =>
          simp only [hstarted]
          rfl
        | none =>
          simp only [hstarted]
          exact Runtime.finishStop_shows _
    · simp only [hstarted]
      rfl
  | health | statusHealth =>
    simp only [begin, observes, withStatus]
    split
    · rfl
    · rfl
  | applied configPath v =>
    simp only [begin, observes]
    cases hbegin : sh.runtime.beginApplied ⟨configPath.1, v⟩ with
    | none => rfl
    | some r =>
      rw [← Runtime.beginApplied_observed hbegin]
      exact (sh.setRuntime r).withStatus_observed (r.finishApplied_shows unmanagedDatapathStatus ⟨configPath.1, v⟩)
  | applyFailed configPath => exact sh.withStatus_observed (Runtime.finishApplyFailed_shows _ _ _ _)
  | destroyed => exact (sh.setRuntime sh.runtime.beginDestroyed).withStatus_observed (Runtime.finishDestroyed_shows _ _)
  | destroyFailed => exact sh.withStatus_observed (Runtime.finishDestroyFailed_shows _ _)
  | startDatapath configPath v =>
    simp only [begin]
    split
    · rfl
    · exact sh.replaceSupervisor_observed configPath v
  | stats | reset | control | stopAgain | stopDatapath =>
    simp only [begin]
    split
    all_goals rfl
  | status | openApply | openDestroy => rfl

theorem resume_observed (task : Task) (k i : ℕ) (status : DatapathProcessStatus) :
    sh.runtime.observed.Becomes (sh.resume task k i status).1.runtime.observed
      (sh.observes (.inside task k i) (.returned status)) := by
  cases task with
  | start => exact Runtime.finishStart_shows _ _
  | stop => exact Runtime.finishStop_shows _
  | health | statusHealth => exact Runtime.finishObserved_shows _ _
  | control =>
    cases k with
    | zero => exact sh.withStatus_observed (Runtime.finishObserved_shows _ _)
    | succ k => exact Runtime.finishObserved_shows _ _
  | applied configPath v => exact Runtime.finishApplied_shows _ _ _
  | applyFailed configPath => exact Runtime.finishApplyFailed_shows _ _ _ _
  | destroyed => exact Runtime.finishDestroyed_shows _ _
  | destroyFailed => exact Runtime.finishDestroyFailed_shows _ _
  | startDatapath configPath v =>
    cases k with
    | zero => exact sh.replaceSupervisor_observed configPath v
    | succ k => rfl
  | stats | reset => rcases k with _ | _ | k <;> rfl
  | _ => rfl

end Shared

/-- **What is stored:** the status that the move observes, or nothing. -/
theorem Advances.observed {sh : Shared} {p : Pc} {c : Choice} {x : Shared × Pc} (h : Advances sh p c x) :
    sh.runtime.observed.Becomes x.1.runtime.observed (sh.observes p c) := by
  cases h with
  | begins task => exact sh.begin_observed task
  | returns task k i status =>
    exact (sh.setSupervisor i ((sh.supervisors i).returned (task.call k))).resume_observed task k i status
  | managerShutdown hcurrent =>
    obtain ⟨applied, hcurrent⟩ := Option.isSome_iff_exists.mp hcurrent
    simp only [Shared.observes, hcurrent]
    rfl
  | managerShutdownNone hcurrent =>
    simp only [Shared.observes, hcurrent]
    exact Runtime.finishStop_shows _
  | teardownShutdown => exact Runtime.finishStop_shows _
  | _ => rfl

/-- A status that is stored has no health, or a call has returned it. -/
theorem observes_eq_some {sh : Shared} {p : Pc} {c : Choice} {status : DatapathProcessStatus}
    (h : sh.observes p c = some status) :
    status.health = none ∨ (∃ k i, p = .inside .start k i ∧ c = .returned status) ∨
      ∃ task k i, p = .inside task k i ∧ task.inspects k = true ∧ c = .returned status := by
  have hunasked : ∀ {sh : Shared}, sh.unasked = some status → status.health = none := by
    intro sh h
    obtain ⟨-, h⟩ := Option.ite_none_right_eq_some.mp h
    cases h
    rfl
  unfold Shared.observes at h
  split at h
  case h_2 | h_3 | h_12 =>
    obtain ⟨-, h⟩ := Option.ite_none_right_eq_some.mp h
    cases h
    exact .inl rfl
  case h_4 =>
    obtain ⟨r, -, h⟩ := Option.bind_eq_some_iff.mp h
    exact .inl (hunasked h)
  case h_5 | h_6 | h_7 | h_10 => exact .inl (hunasked h)
  case h_8 =>
    cases h
    exact .inr (.inl ⟨_, _, rfl, rfl⟩)
  case h_9 | h_13 =>
    cases h
    exact .inl rfl
  case h_11 =>
    obtain ⟨hinspects, h⟩ := Option.ite_none_right_eq_some.mp h
    cases h
    exact .inr (.inr ⟨_, _, _, rfl, hinspects, rfl⟩)
  all_goals cases h

theorem observes_of_inspects {sh : Shared} {task : Task} {k i : ℕ} {status : DatapathProcessStatus}
    (h : task.inspects k = true) : sh.observes (.inside task k i) (.returned status) = some status := by
  cases task with
  | control =>
    cases k with
    | zero => cases h
    | succ k => rfl
  | health | statusHealth | applied | applyFailed | destroyed | destroyFailed => rfl
  | _ => cases h

/-! ### What the plant stores -/

/-- The status that the observed state is built from in a move, if it is. -/
def Controller.stores {n : ℕ} (s : Controller n) : Move n → Option DatapathProcessStatus
  | .thread t choice => s.shared.observes (s.pc t) choice
  | .exits _ => none

/-- A status comes from the health that is remembered: there is one, and the
process does not run or does not answer. -/
def DpdkdSupervisor.Remembers (s : DpdkdSupervisor) (env : ℕ → Moment) : Prop :=
  s.lastHealth.isSome = true ∧ s.Answers env ∧ ¬ s.Reached env

namespace Plant

variable {n : ℕ} (p : Plant n)

/-- What the controller observes. -/
def observed : ObservedState := p.controller.shared.runtime.observed

/-- The status that it is built from in a move, if it is. -/
def stores (mv : PlantMove n) : Option DatapathProcessStatus := (p.move mv).bind p.controller.stores

/-- **Observed state is live:** if the status that is stored is not, then
neither a health nor a version of the rules is observed. -/
def Live (mv : PlantMove n) : Prop :=
  ∀ p', p.step mv = some p' → ∀ status ∈ p.stores mv, status.live = false →
    p'.observed.datapathHealth = none ∧ p'.observed.appliedRulesVersion = none

/-- The move asks for a status to store, and what it is told comes from a
health that is remembered. -/
def Stale : PlantMove n → Prop
  | .call t _ env => ∃ task k i, p.controller.pc t = .inside task k i ∧ task.inspects k = true ∧
    (p.supervisor i).Remembers env
  | _ => False

variable {p} {p' : Plant n} {mv : PlantMove n} {t : Fin n} {what : String} {env : ℕ → Moment}

theorem step_observed (h : p.step mv = some p') : p.observed.Becomes p'.observed (p.stores mv) := by
  obtain ⟨m, hmove, hstep, -⟩ := step_eq_some h
  unfold stores
  rw [hmove]
  cases m with
  | thread t choice => exact (Controller.step_thread hstep).2.1.observed
  | exits i =>
    obtain ⟨-, hshared⟩ := Controller.step_exits hstep
    unfold observed
    rw [hshared]
    rfl

/-- What is observed has a health if and only if the status has. -/
theorem live_iff_health : p.Live mv ↔ ∀ p', p.step mv = some p' → ∀ status ∈ p.stores mv, status.live = false →
    status.health = none := by
  refine forall₂_congr fun p' hstep => forall₃_congr fun status hstatus _ => ?_
  have hobserved := step_observed hstep
  rw [hstatus] at hobserved
  exact hobserved.health_iff

theorem carryOut_fst (s : DpdkdSupervisor) (config : LaunchConfig) (call : SupervisorCall) :
    (∃ status, (s.carryOut config env what call).1 = .returned status) ∨
      ∃ pktlabError, (s.carryOut config env what call).1 = .raised pktlabError := by
  have hending : ∀ {α : Type} (status : α → DatapathProcessStatus) (r : Except SupervisorError α),
      (∃ status', ending status r = .returned status') ∨ ∃ pktlabError, ending status r = .raised pktlabError := by
    rintro α status (e | a)
    · exact .inr ⟨_, rfl⟩
    · exact .inl ⟨_, rfl⟩
  have hreplied : ∀ r, (∃ status, replied r = .returned status) ∨ ∃ pktlabError, replied r = .raised pktlabError := by
    rintro (e | (error | result))
    · exact .inr ⟨_, rfl⟩
    · exact .inr ⟨_, rfl⟩
    · exact .inl ⟨_, rfl⟩
  cases call with
  | start | stop | status => exact hending _ _
  | command => exact hreplied _

/-- A thread carries its call out when it likes. -/
theorem step_call {task : Task} {k i : ℕ} (hpc : p.controller.pc t = .inside task k i) :
    ∃ p', p.step (.call t what env) = some p' := by
  have henabled : p.controller.enabled t := by
    intro l hl
    rw [hpc] at hl
    cases hl
  have hmove : p.move (.call t what env) = some (.thread t (p.outcome (task.call k) i what env).1) := by
    simp [move, hpc, Pc.calls]
  have hadvance : (advance p.controller.shared (.inside task k i) (p.outcome (task.call k) i what env).1).isSome := by
    rcases carryOut_fst (p.supervisor i) (p.launchConfig i) (task.call k) with ⟨status, h⟩ | ⟨pktlabError, h⟩
    · rw [outcome, h]
      rfl
    · rw [outcome, h]
      rfl
  obtain ⟨x, hx⟩ := Option.isSome_iff_exists.mp hadvance
  unfold step
  rw [hmove]
  simp [Controller.step, henabled, hpc, hx]

theorem stores_call {task : Task} {k i : ℕ} (hpc : p.controller.pc t = .inside task k i) :
    p.stores (.call t what env) =
      p.controller.shared.observes (.inside task k i) (p.outcome (task.call k) i what env).1 := by
  simp [stores, move, hpc, Pc.calls, Controller.stores]

/-- A status that is not live has a health if and only if that is a health
which the supervisor remembers. -/
theorem not_remembers_iff {s : DpdkdSupervisor} : ¬ s.Remembers env ↔
    ∀ st s', DpdkdSupervisor.status env s = (.ok st, s') → st.toDatapathProcessStatus.live = false →
      st.health = none := by
  constructor
  · intro hremembers st s' h hlive
    rw [DpdkdSupervisor.status_health h hlive]
    by_contra hhealth
    refine hremembers ⟨Option.isSome_iff_ne_none.mpr hhealth, DpdkdSupervisor.status_returns_iff.mp ⟨st, s', h⟩, ?_⟩
    intro hreached
    rw [(DpdkdSupervisor.status_reached_iff h).mpr hreached] at hlive
    cases hlive
  · rintro hnone ⟨hhealth, hanswers, hreached⟩
    obtain ⟨st, s', h⟩ := DpdkdSupervisor.status_returns_iff.mpr hanswers
    have hlive : st.toDatapathProcessStatus.live = false := by
      rw [← Bool.not_eq_true]
      exact fun hlive => hreached ((DpdkdSupervisor.status_reached_iff h).mp hlive)
    rw [← DpdkdSupervisor.status_health h hlive, hnone st s' h hlive] at hhealth
    cases hhealth

theorem returned_of_ending {α : Type} {f : α → DatapathProcessStatus} {r : Except SupervisorError α}
    {status : DatapathProcessStatus} (h : ending f r = .returned status) : ∃ a, r = .ok a ∧ f a = status := by
  rcases r with e | a
  · cases h
  · cases h
    exact ⟨a, rfl, rfl⟩

/-- A move that is no call for a status stores nothing that has a health and is
not live. -/
theorem stores_health {status : DatapathProcessStatus} (h : p.stores mv = some status) (hlive : status.live = false) :
    status.health = none ∨ ∃ t what env task k i, mv = .call t what env ∧ p.controller.pc t = .inside task k i ∧
      task.inspects k = true ∧ (p.outcome (task.call k) i what env).1 = .returned status := by
  obtain ⟨m, hmove, hm⟩ := Option.bind_eq_some_iff.mp h
  cases mv with
  | exits i exitCode =>
    obtain ⟨-, hmove⟩ := Option.ite_none_right_eq_some.mp hmove
    cases hmove
    cases hm
  | thread t choice =>
    obtain ⟨hcalls, hmove⟩ := Option.ite_none_left_eq_some.mp hmove
    cases hmove
    rcases observes_eq_some hm with hnone | ⟨k, i, hpc, -⟩ | ⟨task, k, i, hpc, -⟩
    · exact .inl hnone
    · exact absurd (by rw [hpc]; rfl) hcalls
    · exact absurd (by rw [hpc]; rfl) hcalls
  | call t what env =>
    obtain ⟨x, hcalls, rfl⟩ := Option.map_eq_some_iff.mp hmove
    rcases observes_eq_some hm with hnone | ⟨k, i, hpc, hreturned⟩ | ⟨task, k, i, hpc, hinspects, hreturned⟩
    · exact .inl hnone
    · -- what a start returns is live
      rw [hpc] at hcalls
      cases hcalls
      obtain ⟨st, hok, rfl⟩ := returned_of_ending hreturned
      have hstarted : st.toDatapathProcessStatus.live = true := DpdkdSupervisor.start_live _ st _ (Prod.ext hok rfl)
      rw [hlive] at hstarted
      cases hstarted
    · rw [hpc] at hcalls
      cases hcalls
      exact .inr ⟨t, what, env, task, k, i, rfl, hpc, hinspects, hreturned⟩

theorem live_iff : p.Live mv ↔ ¬ p.Stale mv := by
  rw [live_iff_health]
  constructor
  · intro hhealth hstale
    cases mv with
    | thread | exits => exact hstale
    | call t what env =>
      obtain ⟨task, k, i, hpc, hinspects, hremembers⟩ := hstale
      obtain ⟨p', hstep⟩ := step_call hpc
      refine not_remembers_iff.mpr (fun st s' hstatus hlive => ?_) hremembers
      refine hhealth p' hstep st.toDatapathProcessStatus ?_ hlive
      have hreturned : (p.outcome (task.call k) i what env).1 = .returned st.toDatapathProcessStatus := by
        rw [Task.call_of_inspects hinspects]
        show ending _ (DpdkdSupervisor.status env (p.supervisor i)).1 = _
        rw [hstatus]
        rfl
      rw [stores_call hpc, hreturned]
      exact observes_of_inspects hinspects
  · intro hstale p' hstep status hstatus hlive
    rcases stores_health hstatus hlive with hnone | ⟨t, what, env, task, k, i, rfl, hpc, hinspects, hreturned⟩
    · exact hnone
    · rw [Task.call_of_inspects hinspects] at hreturned
      obtain ⟨st, hok, rfl⟩ := returned_of_ending hreturned
      refine not_remembers_iff.mp ?_ st _ (Prod.ext hok rfl) hlive
      exact fun hremembers => hstale ⟨task, k, i, hpc, hinspects, hremembers⟩

/-- **Along every run** what is observed is live if and only if no status is
stored that comes from a remembered health. -/
theorem observed_live_iff (p : Plant n) (mvs : List (PlantMove n)) :
    Run.AllSteps step (fun p mv => p.Live mv) p mvs ↔ Run.AllSteps step (fun p mv => ¬ p.Stale mv) p mvs := by
  have hlive : (fun (p : Plant n) mv => p.Live mv) = fun p mv => ¬ p.Stale mv := by
    funext p mv
    exact propext live_iff
  rw [hlive]

/-- `start`, a crash of the datapath, and a `health_snapshot` up to its call. -/
def crashMoves (t : Fin 1) : List (PlantMove 1) :=
  [.thread t (.request .start), .thread t .go, .thread t .go, .call t "" fun _ => DpdkdSupervisor.up, .exits 0 (-11),
    .thread t (.request .healthSnapshot), .thread t .go, .thread t .go]

/-- The health from before a crash is observed after it. -/
theorem crash_keeps_health :
    ¬ ∀ (n : ℕ) (superviseDatapath : Bool) (dpdkdBinary socketPath : String) (mvs : List (PlantMove n)),
      Run.AllSteps step (fun p mv => p.Live mv) (initial n superviseDatapath dpdkdBinary socketPath) mvs := by
  intro h
  let snapshot : PlantMove 1 := .call 0 "" fun _ => {}
  have hend : ((Run.run step (initial 1 true "pktlab-dpdkd" "/run/pktlab/dpdkd.sock") (crashMoves 0)).bind fun p =>
      (p.step snapshot).bind fun p' => (p.stores snapshot).map fun status =>
        decide (status.live = false ∧ p'.observed.datapathHealth = some .running)) = some true := by decide +kernel
  obtain ⟨p, hrun, hp⟩ := Option.bind_eq_some_iff.mp hend
  obtain ⟨p', hstep, hp'⟩ := Option.bind_eq_some_iff.mp hp
  obtain ⟨status, hstatus, hstored⟩ := Option.map_eq_some_iff.mp hp'
  obtain ⟨hlive, hhealth⟩ := of_decide_eq_true hstored
  have hsteps := h 1 true "pktlab-dpdkd" "/run/pktlab/dpdkd.sock" (crashMoves 0 ++ [snapshot])
  have hnone := ((hsteps.of_append.2 p hrun).1 p' hstep status hstatus hlive).1
  rw [hhealth] at hnone
  cases hnone

end Plant

end Ctrld
end Pktlab
