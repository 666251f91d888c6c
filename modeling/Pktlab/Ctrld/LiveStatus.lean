/-
# The controller on top of a live daemon

A status of the supervisor is three exchanges with the daemon, a ping, the
health and the version; between them other clients call and bursts are merged.
The answers of these exchanges are the `Moment`s of the supervisor, so the
health that a status reports is the health of the service at the second of
them (`readiness_service`), and the state that the controller recomputes
from it is `running` exactly when the service forwards and is not paused
(`controller_shows_service`).

Key definitions: `request`, `unitAnswer`, `healthAnswer`, `Inspection`.
Key theorems: `readiness_service`, `status_ready`,
`controller_shows_service`.
-/
import Pktlab.Ctrld.DpdkExchange
import Pktlab.Ctrld.StatusTotal

namespace Pktlab
namespace Ctrld

open Utf8 Rfc8259 Wire Dpdkd DatapathService

/-- The request that a method of `DpdkClient` sends. -/
def DatapathCommand.request (c : DatapathCommand) (id : RequestId) : RequestEnvelope := ⟨id, c, id.2.1, id.2.2⟩

/-- An answer without its payload. -/
def unitAnswer {α : Type} (answer : Answer α) : Answer Unit := answer.map fun result => result.map fun _ => ()

/-- The part of a health payload that the supervisor keeps. -/
def healthAnswer (answer : Answer HealthPayload) : Answer HealthStateModel :=
  answer.map fun result => result.map HealthPayload.toHealthStateModel

/-- The exchanges of one status, and what the daemon does between them. -/
structure Inspection where
  pingId : RequestId
  healthId : RequestId
  versionId : RequestId
  ping : Delivery
  health : Delivery
  version : Delivery
  betweenPingAndHealth : List ExchangeEvent
  betweenHealthAndVersion : List ExchangeEvent

namespace Inspection

/-- Up to the request for the health. -/
def untilHealth (x : Inspection) : List ExchangeEvent :=
  .call (DatapathCommand.ping.request x.pingId) x.ping :: x.betweenPingAndHealth

/-- From the request for the health on. -/
def fromHealth (x : Inspection) : List ExchangeEvent :=
  .call (DatapathCommand.getHealth.request x.healthId) x.health ::
    (x.betweenHealthAndVersion ++ [.call (DatapathCommand.getVersion.request x.versionId) x.version])

/-- The identifiers fit the buffer of the daemon. -/
def ShortIds (x : Inspection) : Prop :=
  x.pingId.1.length ≤ 64 ∧ x.healthId.1.length ≤ 64 ∧ x.versionId.1.length ≤ 64

instance (x : Inspection) : Decidable x.ShortIds := inferInstanceAs (Decidable (_ ∧ _))

variable (modelDumpJson : RequestEnvelope → List UInt8) (loads : List UInt8 → Except LoadsError Json)
  (lax : Coercions)

/-- The moments from `t` on answer as these exchanges do. -/
structure Answers (x : Inspection) (env : ℕ → Moment) (t : ℕ) : Prop where
  ping : (env t).ping =
    unitAnswer (typedCall modelDumpJson loads lax (DatapathCommand.ping.request x.pingId) x.ping.session)
  health : (env (t + 1)).health =
    healthAnswer (typedCall modelDumpJson loads lax (DatapathCommand.getHealth.request x.healthId) x.health.session)
  version : (env (t + 2)).version =
    typedCall modelDumpJson loads lax (DatapathCommand.getVersion.request x.versionId) x.version.session

/-- Moments that do. -/
def moments (x : Inspection) (_ : ℕ) : Moment where
  ping := unitAnswer (typedCall modelDumpJson loads lax (DatapathCommand.ping.request x.pingId) x.ping.session)
  health :=
    healthAnswer (typedCall modelDumpJson loads lax (DatapathCommand.getHealth.request x.healthId) x.health.session)
  version := typedCall modelDumpJson loads lax (DatapathCommand.getVersion.request x.versionId) x.version.session

theorem moments_answers (x : Inspection) (t : ℕ) :
    x.Answers modelDumpJson loads lax (x.moments modelDumpJson loads lax) t := ⟨rfl, rfl, rfl⟩

end Inspection

variable {modelDumpJson : RequestEnvelope → List UInt8} {loads : List UInt8 → Except LoadsError Json}
  {lax : Coercions} {ingress egress : NonEmptyStr} {config : DatapathConfig} {init : DatapathInit}

/-- A call with an identifier that fits is a call of the service. -/
theorem callService_short (s : DatapathService) {c : DatapathCommand} {id : RequestId} (hid : id.1.length ≤ 64) :
    callService s (c.request id) = ((s.serve c).1, .ok (s.serve c).2) := by
  have hlen := (compactJson_payload (r := c.request id) hid).2
  unfold callService
  rw [if_neg (by omega), if_neg (by exact Nat.not_lt.mpr hid)]
  rfl

/-- What the readiness calls come to is the health of the service when it is
asked for it. -/
theorem readiness_service (hdump : CompactDump modelDumpJson) (hloads : LoadsJson loads)
    (hs : Started ingress egress config init) (start : StartEnv) {before : List ExchangeEvent} {x : Inspection}
    (hids : x.ShortIds) {d' : Daemon}
    (hrun : Run.run (exchangeStep modelDumpJson) (Dpdkd.start start init) (before ++ x.untilHealth ++ x.fromHealth) =
      some d')
    {env : ℕ → Moment} {t : ℕ} (hx : x.Answers modelDumpJson loads lax env t) :
    DpdkdSupervisor.readiness env t =
      .ok (((before ++ x.untilHealth).foldl serviceAfter (launched start ingress egress)).health.toHealthStateModel,
        ⟨"0.1.0", "25.11.0"⟩) := by
  have hhealth := hs.call lax hdump hloads start hrun
  have hversion := hrun
  rw [Inspection.fromHealth, ← List.cons_append, ← List.append_assoc] at hversion
  replace hversion := hs.call lax hdump hloads start hversion
  have hping := hrun
  rw [Inspection.untilHealth, List.append_assoc, List.cons_append] at hping
  replace hping := hs.call lax hdump hloads start hping
  rw [callService_short _ hids.1] at hping
  rw [callService_short _ hids.2.1] at hhealth
  rw [callService_short _ hids.2.2] at hversion
  unfold DpdkdSupervisor.readiness
  rw [hx.ping, hx.health, hx.version, hping, hhealth, hversion]
  rfl

/-! ### The status and what is made of it -/

theorem exceptTransport_ok {α : Type} {op : DpdkdSupervisor.Act α} {handler : String → DpdkdSupervisor.Act α}
    {s : DpdkdSupervisor} {a : α} (h : (op s).1 = .ok a) : (DpdkdSupervisor.exceptTransport op handler s).1 = .ok a := by
  unfold DpdkdSupervisor.exceptTransport
  rw [Eff.tryCatch_apply]
  rcases hop : op s with ⟨e | b, s'⟩
  · rw [hop] at h
    cases h
  · rw [hop] at h
    exact h

/-- The status of a process that runs and whose readiness calls succeed. -/
theorem status_ready {env : ℕ → Moment} {s : DpdkdSupervisor} {i : ℕ} {health : HealthStateModel}
    {version : VersionPayload} (hprocess : s.process = some i) (hclient : s.client = true)
    (hrunning : ((s.child i).seen (env s.clock)).exitCode = none)
    (hready : DpdkdSupervisor.readiness env (s.clock + 1) = .ok (health, version)) :
    (DpdkdSupervisor.status env s).1 = .ok
      { pid := some (s.child i).pid, running := true, reachable := true, version := some version
        health := some health } := by
  have hpid : ((s.polled env i).child i).pid = (s.child i).pid := by
    simp [DpdkdSupervisor.polled, DpdkdSupervisor.updateChild, Child.seen]
  have hpolled : (s.polled env i).client = true := hclient
  have hclock : (s.polled env i).clock = s.clock + 1 := rfl
  rw [DpdkdSupervisor.status_running hprocess hrunning]
  refine exceptTransport_ok ?_
  rw [DpdkdSupervisor.refreshIpcState_fst hpolled, hclock, hready, ← hpid]
  rfl

/-- A controller that runs a datapath and has nothing else to report. -/
structure Runtime.Supervises (r : Runtime) : Prop where
  started : r.started = true
  supervise : r.superviseDatapath = true
  desired : r.desired.desiredDatapathRunning = true
  override : r.controllerOverrideMessage = none

/-- What the controller reports of a datapath that is reached. -/
theorem finishObserved_reached {r : Runtime} (hr : r.Supervises) (status : DatapathProcessStatus)
    {health : HealthStateModel} (hrunning : status.running = true) (hreachable : status.reachable = true)
    (hhealth : status.health = some health) :
    (r.finishObserved status).controllerState = (if health.state = .running then .running else .degraded) ∧
      (r.finishObserved status).controllerMessage =
        (if health.state = .running then "controller ready"
          else "datapath reported state " ++ health.state.value ++ ": " ++ health.message) ∧
      (r.finishObserved status).observed.datapathHealth = some health.state := by
  have hobserved : (r.finishObserved status).observed.datapathHealth = some health.state := by
    obtain ⟨state, message, hreport, -⟩ := (r.observeAgain status).recomputeControllerHealth_reports status
    rw [Runtime.finishObserved, hreport]
    show status.health.map HealthStateModel.state = _
    rw [hhealth]
    rfl
  refine ⟨?_, ?_, hobserved⟩
  · simp only [Runtime.finishObserved, Runtime.recomputeControllerHealth, Runtime.observeAgain, Runtime.observe,
      hr.override, hr.started, hr.supervise, hr.desired, hrunning, hreachable, hhealth]
    by_cases h : health.state = .running
    · simp [h, Runtime.report]
    · simp [h, Runtime.report]
  · simp only [Runtime.finishObserved, Runtime.recomputeControllerHealth, Runtime.observeAgain, Runtime.observe,
      hr.override, hr.started, hr.supervise, hr.desired, hrunning, hreachable, hhealth]
    by_cases h : health.state = .running
    · simp [h, Runtime.report]
    · simp [h, Runtime.report, toString]

/-- **The controller shows the datapath.** A supervisor that has a live daemon
asks it for its status, while other clients call and bursts are merged. The
status has the health that the service has when it is asked for it, and a
controller with nothing else to report says `running` exactly when the service forwards and is not
paused, else the state and the message of the service. -/
theorem controller_shows_service (hdump : CompactDump modelDumpJson) (hloads : LoadsJson loads)
    (hs : Started ingress egress config init) (start : StartEnv) {before : List ExchangeEvent} {x : Inspection}
    (hids : x.ShortIds) {d' : Daemon}
    (hrun : Run.run (exchangeStep modelDumpJson) (Dpdkd.start start init) (before ++ x.untilHealth ++ x.fromHealth) =
      some d')
    {env : ℕ → Moment} {s : DpdkdSupervisor} {i : ℕ} (hprocess : s.process = some i) (hclient : s.client = true)
    (hrunning : ((s.child i).seen (env s.clock)).exitCode = none)
    (hx : x.Answers modelDumpJson loads lax env (s.clock + 1)) {r : Runtime} (hr : r.Supervises) :
    ∃ st, (DpdkdSupervisor.status env s).1 = .ok st ∧
      let service := (before ++ x.untilHealth).foldl serviceAfter (launched start ingress egress)
      let runs := service.forwarding = true ∧ service.paused = false
      let r' := r.finishObserved st.toDatapathProcessStatus
      st.health = some service.health.toHealthStateModel ∧ r'.observed.datapathHealth = some service.health.state ∧
        (runs → r'.controllerState = .running ∧ r'.controllerMessage = "controller ready") ∧
        (¬ runs → r'.controllerState = .degraded ∧ r'.controllerMessage =
          "datapath reported state " ++ service.health.state.value ++ ": " ++ service.health.message) := by
  have hready := readiness_service hdump hloads hs start hids hrun hx
  refine ⟨_, status_ready hprocess hclient hrunning hready, ?_⟩
  intro service runs r'
  obtain ⟨hstate, hmessage, hobserved⟩ := finishObserved_reached hr
    { pid := some (s.child i).pid, running := true, reachable := true, health := some service.health.toHealthStateModel }
    rfl rfl rfl
  have hiff : service.health.state = .running ↔ runs := by
    show (if service.paused then DatapathState.paused else if service.forwarding then .running else .degraded) = _ ↔ _
    cases hpaused : service.paused <;> cases hforwarding : service.forwarding <;> simp [runs, hpaused, hforwarding]
  refine ⟨rfl, hobserved, fun hruns => ?_, fun hruns => ?_⟩
  · rw [if_pos (hiff.mpr hruns)] at hstate hmessage
    exact ⟨hstate, hmessage⟩
  · rw [if_neg (mt hiff.mp hruns)] at hstate hmessage
    exact ⟨hstate, hmessage⟩

/-- An exchange with the daemon `d` in one chunk each way. -/
def atOnce (d : Daemon) (r : RequestEnvelope) : Delivery :=
  { reads := unread (frame (compactJson r)) []
    writes := []
    session := { reads := unread (handleClient dispatchRequest d (unread (frame (compactJson r)) []) []).2.2 [] } }

/-- A daemon that forwards, and what a pause leaves of it. -/
def forwardingDaemon : Daemon := Dpdkd.start (.dpdk 0 1) defaultInit
def pausedDaemon : Daemon := (runCommand forwardingDaemon .pauseDatapath).1

/-- An identifier of the supervisor, and one of another client. -/
def firstId : RequestId := ⟨"req-1", by decide⟩
def otherId : RequestId := ⟨"other-1", by decide⟩

/-- Another client pauses the datapath after the ping. -/
def pausedMeanwhile : Inspection where
  pingId := firstId
  healthId := ⟨"req-2", by decide⟩
  versionId := ⟨"req-3", by decide⟩
  ping := atOnce forwardingDaemon (DatapathCommand.ping.request firstId)
  health := atOnce pausedDaemon (DatapathCommand.getHealth.request ⟨"req-2", by decide⟩)
  version := atOnce pausedDaemon (DatapathCommand.getVersion.request ⟨"req-3", by decide⟩)
  betweenPingAndHealth :=
    [.call (DatapathCommand.pauseDatapath.request otherId)
      (atOnce forwardingDaemon (DatapathCommand.pauseDatapath.request otherId))]
  betweenHealthAndVersion := []

def supervisingRuntime : Runtime :=
  { Runtime.init true with started := true }

/-- The supervisor of a daemon, and the surroundings of its next status. -/
def supervisingSupervisor : DpdkdSupervisor := { process := some 0, client := true, spawned := 1 }
def pausedMoments : ℕ → Moment := pausedMeanwhile.moments compactJson loadsStrict ⟨fun _ => none, fun _ => none⟩

theorem controller_shows_service_paused :
    ∃ st, (DpdkdSupervisor.status pausedMoments supervisingSupervisor).1 = .ok st ∧
      (supervisingRuntime.finishObserved st.toDatapathProcessStatus).controllerState = .degraded := by
  have hinit : datapathInit defaultConfig = .ok defaultInit := by decide +kernel
  have hclean : ∀ s ∈ ["dtap0", "dtap1"], ∀ c ∈ utf8 s, isPlain c = true := by decide
  have hs : Started ⟨"dtap0", by decide⟩ ⟨"dtap1", by decide⟩ defaultConfig defaultInit :=
    ⟨hinit, rfl, rfl, clean_plain (hclean _ (by simp)), clean_plain (hclean _ (by simp))⟩
  have hrun : Run.run (exchangeStep compactJson) (Dpdkd.start (.dpdk 0 1) defaultInit)
      ([] ++ pausedMeanwhile.untilHealth ++ pausedMeanwhile.fromHealth) = some pausedDaemon := by decide +kernel
  have hids : pausedMeanwhile.ShortIds := by decide
  have hr : supervisingRuntime.Supervises := ⟨rfl, rfl, rfl, rfl⟩
  have hpaused : (([] ++ pausedMeanwhile.untilHealth).foldl serviceAfter
      (launched (.dpdk 0 1) ⟨"dtap0", by decide⟩ ⟨"dtap1", by decide⟩)).paused = true := by decide +kernel
  obtain ⟨st, hst, -, -, -, hnot⟩ := controller_shows_service (fun _ => rfl) loadsStrict_loadsJson hs (.dpdk 0 1) hids
    hrun (s := supervisingSupervisor) rfl rfl rfl (pausedMeanwhile.moments_answers _ _ _ _) hr
  refine ⟨st, hst, (hnot fun hruns => ?_).1⟩
  rw [hpaused] at hruns
  cases hruns.2

end Ctrld
end Pktlab
