/-
# The state of the controller

What `ControllerRuntime` (`pktlab_ctrld/app.py`) keeps and what its sections
under the runtime lock write: the desired and the observed state, the state
and the message it reports, and the supervisor it holds. A section is cut at
its calls of the supervisor: `begin…` is what comes before them, `finish…`
what comes after, with the status that was returned. Where a method of the
source raises, the part that has been written stays.

Key definitions: `DesiredState`, `ObservedState`, `DatapathProcessStatus`,
`Runtime`, `Runtime.recomputeControllerHealth`, `Runtime.observe`,
`Runtime.standing`, `View`, `Runtime.view`.
Key theorems: `recomputeControllerHealth_reports`.
-/
import Pktlab.Ctrld.Topology

namespace Pktlab
namespace Ctrld

open Python

/-- `ControllerStateValue`. -/
inductive ControllerState
  | stopped
  | starting
  | running
  | degraded
  | reconciling
  | stopping
  | failed
  deriving DecidableEq, Repr

/-- `DatapathStateValue`. -/
inductive DatapathState
  | starting
  | running
  | paused
  | degraded
  | stopping
  | failed
  deriving DecidableEq, Repr

def DatapathState.value : DatapathState → String
  | .starting => "starting"
  | .running => "running"
  | .paused => "paused"
  | .degraded => "degraded"
  | .stopping => "stopping"
  | .failed => "failed"

/-- `HealthStateModel`. -/
structure HealthStateModel where
  state : DatapathState
  message : String
  appliedRuleVersion : ℕ
  deriving DecidableEq

/-- `DatapathProcessStatus`; the defaults are those of a process that is not
there. -/
structure DatapathProcessStatus where
  pid : Option ℕ := none
  running : Bool := false
  reachable : Bool := false
  lastError : Option String := none
  health : Option HealthStateModel := none
  deriving DecidableEq

/-- `_unmanaged_datapath_status`. -/
def unmanagedDatapathStatus : DatapathProcessStatus := {}

/-- `DesiredState`. -/
structure DesiredState where
  topologyConfigPath : Option String := none
  topologyName : Option String := none
  requestedDpdkConfig : Option DpdkProcessConfigModel := none
  desiredControllerState : ControllerState := .stopped
  desiredDatapathRunning : Bool := false

/-- `not value.strip()`. -/
def blank (value : String) : Prop := strip isSpace value.toList = []

instance (value : String) : Decidable (blank value) := inferInstanceAs (Decidable (_ = []))

/-- `DesiredState.__post_init__` does not raise. -/
def DesiredState.Valid (d : DesiredState) : Prop :=
  (∀ path ∈ d.topologyConfigPath, ¬ blank path) ∧ ∀ name ∈ d.topologyName, ¬ blank name

instance (d : DesiredState) : Decidable d.Valid := inferInstanceAs (Decidable (_ ∧ _))

/-- `ObservedState`. -/
structure ObservedState where
  datapathHealth : Option DatapathState := none
  appliedRulesVersion : Option ℕ := none
  dpdkdPid : Option ℕ := none
  effectiveDpdkConfig : Option EffectiveDpdkRuntimeModel := none
  topologyApplied : Bool := false

/-- The fields of `ControllerRuntime`. -/
structure Runtime where
  /-- `config.supervise_datapath` -/
  superviseDatapath : Bool
  desired : DesiredState
  observed : ObservedState
  controllerState : ControllerState
  controllerMessage : String
  controllerOverrideMessage : Option String
  started : Bool
  /-- which `DpdkdSupervisor` it holds -/
  supervisor : Option ℕ

/-- `value or default` for an optional text. -/
def orDefault (value : Option String) (default : String) : String :=
  match value with
  | none => default
  | some text => if text = "" then default else text

namespace Runtime

variable (r : Runtime)

/-- `ControllerRuntime.__init__`. -/
def init (superviseDatapath : Bool) : Runtime where
  superviseDatapath := superviseDatapath
  desired := { desiredControllerState := .stopped, desiredDatapathRunning := superviseDatapath }
  observed := {}
  controllerState := .stopped
  controllerMessage := "controller is not started"
  controllerOverrideMessage := none
  started := false
  supervisor := if superviseDatapath then some 0 else none

/-- Set the state and the message that are reported. -/
def report (state : ControllerState) (message : String) : Runtime :=
  { r with controllerState := state, controllerMessage := message }

/-- `_clear_controller_override`. -/
def clearOverride : Runtime := { r with controllerOverrideMessage := none }

/-- `_recompute_controller_health`. -/
def recomputeControllerHealth (status : DatapathProcessStatus) : Runtime :=
  match r.controllerOverrideMessage with
  | some message => r.report .degraded message
  | none =>
    if ¬ r.started ∧ r.controllerState = .stopped then
      { r with controllerMessage := "controller is not started" }
    else if ¬ r.superviseDatapath then r.report .running "controller ready without datapath supervision"
    else if ¬ r.desired.desiredDatapathRunning then
      if status.running then r.report .degraded "datapath process is running without an active topology"
      else r.report .running "controller ready without active topology"
    else if ¬ status.running then
      r.report .degraded (orDefault status.lastError "datapath process is not running")
    else
      match status.reachable, status.health with
      | true, some health =>
        if health.state = .running then r.report .running "controller ready"
        else
          let state := health.state.value
          let message := health.message
          r.report .degraded s!"datapath reported state {state}: {message}"
      | _, _ => r.report .degraded (orDefault status.lastError "datapath IPC is not reachable")

/-- Store `_observed_from_datapath`. -/
def observe (status : DatapathProcessStatus) (topologyApplied : Bool)
    (effectiveDpdkConfig : Option EffectiveDpdkRuntimeModel) : Runtime :=
  { r with
    observed :=
      { datapathHealth := status.health.map HealthStateModel.state
        appliedRulesVersion := status.health.map HealthStateModel.appliedRuleVersion
        dpdkdPid := status.pid
        effectiveDpdkConfig := effectiveDpdkConfig
        topologyApplied := topologyApplied } }

/-- The same with what is known about the topology. -/
def observeAgain (status : DatapathProcessStatus) : Runtime :=
  r.observe status r.observed.topologyApplied r.observed.effectiveDpdkConfig

/-- `_desired_state_without_topology`. -/
def desiredStateWithoutTopology : DesiredState :=
  { desiredControllerState := if r.started then .running else .stopped, desiredDatapathRunning := false }

/-! ### The sections -/

/-- `start`, up to the start of the supervisor. -/
def beginStart : Runtime :=
  { r.clearOverride.report .starting "starting controller runtime" with
    desired := { desiredControllerState := .running, desiredDatapathRunning := r.superviseDatapath } }

def finishStart (status : DatapathProcessStatus) : Runtime :=
  { r.observeAgain status with started := true }.recomputeControllerHealth status

/-- `stop`, up to the teardown. -/
def beginStop : Runtime := r.clearOverride.report .stopping "stopping controller runtime"

def finishStop : Runtime :=
  { (r.observe unmanagedDatapathStatus false none).report .stopped "controller stopped" with
    desired := { desiredControllerState := .stopped, desiredDatapathRunning := false }
    started := false }

/-- The opening section of `apply_topology`. -/
def openApply (configPath : String) : Runtime :=
  r.clearOverride.report .reconciling s!"applying topology from {configPath}"

/-- `DesiredState` for the result of an `apply`. -/
def desiredFor (applied : AppliedTopology) : DesiredState where
  topologyConfigPath := some applied.configPath
  topologyName := some applied.validated.topology.lab.name.1
  requestedDpdkConfig := some applied.validated.requestedDpdkConfig
  desiredControllerState := .running
  desiredDatapathRunning := true

/-- The closing section of an `apply_topology` whose `apply` returned, up to the
status; `none` when `DesiredState` raises. -/
def beginApplied (applied : AppliedTopology) : Option Runtime :=
  if (desiredFor applied).Valid then some { r.clearOverride with desired := desiredFor applied } else none

def finishApplied (applied : AppliedTopology) (status : DatapathProcessStatus) : Runtime :=
  (r.observe status true (some applied.validated.effectiveDpdkConfig)).recomputeControllerHealth status

/-- The closing section of an `apply_topology` whose `apply` raised;
`hasAppliedTopology` is read from the manager. -/
def finishApplyFailed (configPath : String) (hasAppliedTopology : Bool) (status : DatapathProcessStatus) : Runtime :=
  let r' :=
    if hasAppliedTopology then r.observeAgain status
    else { r with desired := r.desiredStateWithoutTopology }.observe status false none
  { r' with
    controllerOverrideMessage := some s!"failed to apply topology from {configPath}" }.recomputeControllerHealth
      status

/-- The opening section of `destroy_topology`. -/
def openDestroy : Runtime := r.clearOverride.report .reconciling "destroying topology"

/-- The closing section of a `destroy_topology` whose `destroy` returned, up to
the status. -/
def beginDestroyed : Runtime := { r.clearOverride with desired := r.desiredStateWithoutTopology }

def finishDestroyed (status : DatapathProcessStatus) : Runtime :=
  (r.observe status false none).recomputeControllerHealth status

/-- The closing section of a `destroy_topology` whose `destroy` raised. -/
def finishDestroyFailed (status : DatapathProcessStatus) : Runtime :=
  { r.observeAgain status with
    controllerOverrideMessage := some "failed to destroy topology" }.recomputeControllerHealth status

/-- `health_snapshot` and the commands for the datapath, once they have a
status. -/
def finishObserved (status : DatapathProcessStatus) : Runtime :=
  (r.observeAgain status).recomputeControllerHealth status

/-- **What is recomputed** is the state and the message, and the state is
`running` or `degraded` unless the controller is stopped. -/
theorem recomputeControllerHealth_reports (status : DatapathProcessStatus) :
    ∃ state message, r.recomputeControllerHealth status = r.report state message ∧
      (state = .running ∨ state = .degraded ∨ state = .stopped ∧ r.started = false) := by
  unfold recomputeControllerHealth
  split
  · exact ⟨_, _, rfl, .inr (.inl rfl)⟩
  · by_cases hstopped : ¬ r.started ∧ r.controllerState = .stopped
    · rw [if_pos hstopped]
      refine ⟨.stopped, "controller is not started", ?_, .inr (.inr ⟨rfl, by simpa using hstopped.1⟩)⟩
      rw [report, ← hstopped.2]
    · rw [if_neg hstopped]
      repeat' split
      all_goals first | exact ⟨_, _, rfl, .inl rfl⟩ | exact ⟨_, _, rfl, .inr (.inl rfl)⟩

end Runtime

/-! ### What the sections leave -/

namespace Runtime

variable (r : Runtime)

/-- What only `start`, `stop` and the start of the datapath of a topology
write. -/
def standing : Bool × Bool × Option ℕ := (r.superviseDatapath, r.started, r.supervisor)

variable {r} in
theorem supervisor_of_standing {r' : Runtime} (h : r'.standing = r.standing) : r'.supervisor = r.supervisor :=
  congrArg (fun standing => standing.2.2) h

variable {r} in
theorem started_of_standing {r' : Runtime} (h : r'.standing = r.standing) : r'.started = r.started :=
  congrArg (fun standing => standing.2.1) h

theorem standing_recomputeControllerHealth (status : DatapathProcessStatus) :
    (r.recomputeControllerHealth status).standing = r.standing := by
  obtain ⟨state, message, hreport, -⟩ := r.recomputeControllerHealth_reports status
  rw [hreport]
  rfl

theorem standing_beginApplied {applied : AppliedTopology} {r' : Runtime} (h : r.beginApplied applied = some r') :
    r'.standing = r.standing := by
  unfold beginApplied at h
  split at h
  · cases h
    rfl
  · cases h

theorem standing_finishApplied (applied : AppliedTopology) (status : DatapathProcessStatus) :
    (r.finishApplied applied status).standing = r.standing :=
  standing_recomputeControllerHealth _ status

theorem standing_finishApplyFailed (configPath : String) (hasAppliedTopology : Bool) (status : DatapathProcessStatus) :
    (r.finishApplyFailed configPath hasAppliedTopology status).standing = r.standing := by
  unfold finishApplyFailed
  rw [standing_recomputeControllerHealth]
  cases hasAppliedTopology with
  | true => rfl
  | false => rfl

theorem standing_finishDestroyed (status : DatapathProcessStatus) : (r.finishDestroyed status).standing = r.standing :=
  standing_recomputeControllerHealth _ status

theorem standing_finishDestroyFailed (status : DatapathProcessStatus) :
    (r.finishDestroyFailed status).standing = r.standing :=
  standing_recomputeControllerHealth _ status

theorem standing_finishObserved (status : DatapathProcessStatus) : (r.finishObserved status).standing = r.standing :=
  standing_recomputeControllerHealth _ status

theorem standing_finishStart (status : DatapathProcessStatus) :
    (r.finishStart status).standing = (r.superviseDatapath, true, r.supervisor) :=
  standing_recomputeControllerHealth _ status

end Runtime

/-! ### What the runtime says about the topology -/

/-- The part of the desired and the observed state that is about the topology. -/
structure View where
  topologyApplied : Bool
  topologyName : Option String
  topologyConfigPath : Option String
  deriving DecidableEq

def Runtime.view (r : Runtime) : View :=
  ⟨r.observed.topologyApplied, r.desired.topologyName, r.desired.topologyConfigPath⟩

/-- What the runtime should say when the manager has `current`. -/
def viewOf : Option AppliedTopology → View
  | none => ⟨false, none, none⟩
  | some applied => ⟨true, some applied.validated.topology.lab.name.1, some applied.configPath⟩

section View

variable (r : Runtime)

@[simp] theorem view_recomputeControllerHealth (status : DatapathProcessStatus) :
    (r.recomputeControllerHealth status).view = r.view := by
  obtain ⟨state, message, hreport, -⟩ := r.recomputeControllerHealth_reports status
  rw [hreport]
  rfl

theorem view_beginApplied {applied : AppliedTopology} {r' : Runtime} (h : r.beginApplied applied = some r') :
    r'.view = { viewOf (some applied) with topologyApplied := r.observed.topologyApplied } := by
  unfold Runtime.beginApplied at h
  split at h
  · cases h
    rfl
  · cases h

theorem view_finishApplied (applied : AppliedTopology) (status : DatapathProcessStatus) :
    (r.finishApplied applied status).view = { r.view with topologyApplied := true } := by
  unfold Runtime.finishApplied
  rw [view_recomputeControllerHealth]
  rfl

theorem view_finishApplyFailed (configPath : String) (hasAppliedTopology : Bool) (status : DatapathProcessStatus) :
    (r.finishApplyFailed configPath hasAppliedTopology status).view =
      if hasAppliedTopology then r.view else viewOf none := by
  unfold Runtime.finishApplyFailed
  rw [view_recomputeControllerHealth]
  cases hasAppliedTopology with
  | true => rfl
  | false => rfl

theorem view_finishDestroyed (status : DatapathProcessStatus) :
    (r.finishDestroyed status).view = { r.view with topologyApplied := false } := by
  unfold Runtime.finishDestroyed
  rw [view_recomputeControllerHealth]
  rfl

theorem view_finishDestroyFailed (status : DatapathProcessStatus) : (r.finishDestroyFailed status).view = r.view := by
  unfold Runtime.finishDestroyFailed
  rw [view_recomputeControllerHealth]
  rfl

theorem view_finishObserved (status : DatapathProcessStatus) : (r.finishObserved status).view = r.view := by
  unfold Runtime.finishObserved
  rw [view_recomputeControllerHealth]
  rfl

end View

end Ctrld
end Pktlab
