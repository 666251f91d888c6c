/-
# The methods of the controller that reach the datapath

The methods of `ControllerRuntime` (`pktlab_ctrld/app.py`) behind the datapath
routes, with the part of `DpdkdSupervisor` that they use: the status of the
process and the requests over its client. They are scripts: what they ask of
the process and of the daemon are questions, whoever answers. Payloads, the
cached health and version and the texts of the errors are all here; the
contexts that the errors of the supervisor carry are a parameter. Every method
holds the lock of the controller from its start to its end.

Key definitions: `Question`, `LiveSupervisor`, `LiveController`, `Method`,
`statusLocked`, `request`, `healthSnapshot`, `datapathStatusSnapshot`,
`datapathStatsSnapshot`, `resetDatapathStats`, `runDatapathControlCommand`.
-/
import Pktlab.Ctrld.ResponseModels
import Pktlab.Lib.Dialogue

namespace Pktlab
namespace Ctrld
namespace Methods

open Python

/-- `ErrorCode`. -/
inductive ErrorCode
  | datapathTransportError
  | configParseError
  | invalidRequest
  | invalidPayload
  | unknownCommand
  | ruleValidationError
  | topologyValidationError
  | topologyApplyError
  | topologyDestroyError
  | processError
  | portInitError
  | stateConflict
  | timeout
  | internalError
  deriving DecidableEq, Repr

def ErrorCode.value : ErrorCode → String
  | .datapathTransportError => "DATAPATH_TRANSPORT_ERROR"
  | .configParseError => "CONFIG_PARSE_ERROR"
  | .invalidRequest => "INVALID_REQUEST"
  | .invalidPayload => "INVALID_PAYLOAD"
  | .unknownCommand => "UNKNOWN_COMMAND"
  | .ruleValidationError => "RULE_VALIDATION_ERROR"
  | .topologyValidationError => "TOPOLOGY_VALIDATION_ERROR"
  | .topologyApplyError => "TOPOLOGY_APPLY_ERROR"
  | .topologyDestroyError => "TOPOLOGY_DESTROY_ERROR"
  | .processError => "PROCESS_ERROR"
  | .portInitError => "PORT_INIT_ERROR"
  | .stateConflict => "STATE_CONFLICT"
  | .timeout => "TIMEOUT"
  | .internalError => "INTERNAL_ERROR"

/-- `PktlabError`. -/
structure PktlabError where
  code : ErrorCode
  message : String
  context : List (String × Rfc8259.Json) := []

/-- What a method can raise. -/
inductive MethodError
  | supervisor (e : SupervisorError)
  | pktlab (e : PktlabError)

/-- The `PktlabError` that it is, if it is one. -/
def MethodError.pktlab? (context : SupervisorError → List (String × Rfc8259.Json)) : MethodError → Option PktlabError
  | .supervisor (.transport message) => some ⟨.datapathTransportError, message, context (.transport message)⟩
  | .supervisor (.protocol message) => some ⟨.invalidPayload, message, context (.protocol message)⟩
  | .supervisor (.processExecution message) => some ⟨.processError, message, context (.processExecution message)⟩
  | .supervisor .timeoutExpired => none
  | .supervisor .unicodeDecodeError => none
  | .supervisor .osError => none
  | .supervisor .other => none
  | .pktlab e => some e

/-- What a method asks: of the process, and of the daemon over the client. -/
inductive Question
  /-- `process.poll()` -/
  | poll
  /-- `process.stderr.read()`, if it can be decoded -/
  | stderr
  /-- a call of the client -/
  | call (c : DatapathCommand)

abbrev Question.Reply : Question → Type
  | .poll => Option ℤ
  | .stderr => Option String
  | .call c => Answer (Payload c)

/-- A process that was spawned. -/
structure Process where
  pid : { n : ℕ // 1 ≤ n }
  stderrClosed : Bool := false

/-- The fields of `DpdkdSupervisor`. -/
structure LiveSupervisor where
  process : Option Process := none
  client : Bool := false
  lastVersion : Option VersionPayload := none
  lastHealth : Option HealthPayload := none
  lastError : Option String := none
  lastExitCode : Option ℤ := none

/-- `DatapathProcessStatus`. -/
structure ProcessStatus where
  managed : Bool
  socketPath : NonEmptyStr
  pid : Option { n : ℕ // 1 ≤ n } := none
  running : Bool := false
  reachable : Bool := false
  exitCode : Option ℤ := none
  lastError : Option String := none
  version : Option VersionPayload := none
  health : Option HealthPayload := none

/-- The part of a status that the state of the controller depends on. -/
def ProcessStatus.seen (status : ProcessStatus) : DatapathProcessStatus where
  pid := status.pid.map (·.1)
  running := status.running
  reachable := status.reachable
  lastError := status.lastError
  health := status.health.map HealthPayload.toHealthStateModel

/-- The controller, with the supervisor that it holds if `runtime.supervisor`
is there. -/
structure LiveController where
  /-- `config.datapath_socket_path`, the `socket_path` of every supervisor -/
  socketPath : NonEmptyStr
  runtime : Runtime
  supervisor : LiveSupervisor := {}

/-- A computation of the controller. -/
abbrev Method (α : Type) := Script Question.Reply MethodError LiveController α

open Script

/-- `raise`, for what the supervisor raises. -/
def raise {α : Type} (e : SupervisorError) : Method α := throw (.supervisor e)

/-- Write fields of the supervisor. -/
def modifySupervisor (f : LiveSupervisor → LiveSupervisor) : Method Unit :=
  modify fun s => { s with supervisor := f s.supervisor }

/-! ### The supervisor -/

/-- `_require_client_locked`. -/
def requireClient : Method Unit := do
  let s ← get
  if s.supervisor.client then pure () else raise (.processExecution "datapath client is not initialized")

/-- A readiness call that has to succeed. -/
def require (what : String) (c : DatapathCommand) : Method (Payload c) := do
  match ← ask (Question.call c) with
  | .ok (.ok payload) => pure payload
  | .ok (.error error) => do
    let code := error.code.value
    let message := error.message
    let text := s!"datapath {what} failed: {code}: {message}"
    modifySupervisor fun s => { s with lastError := some text }
    raise (.processExecution text)
  | .error e => raise e

/-- `_refresh_ipc_state_locked`. -/
def refreshIpcState (process : Process) : Method ProcessStatus := do
  requireClient
  let _ ← require "readiness ping" .ping
  let health ← require "health check" .getHealth
  let version ← require "version check" .getVersion
  modifySupervisor fun s =>
    { s with lastHealth := some health, lastVersion := some version, lastError := none, lastExitCode := none }
  let s ← get
  pure
    { managed := true
      socketPath := s.socketPath
      pid := some process.pid
      running := true
      reachable := true
      version := s.supervisor.lastVersion
      health := s.supervisor.lastHealth }

/-- `_consume_stderr_locked`. -/
def consumeStderr (process : Process) : Method String := do
  if process.stderrClosed then pure ""
  else do
    let stderr ← ask Question.stderr
    modifySupervisor fun s => { s with process := some { process with stderrClosed := true } }
    match stderr with
    | some content => pure (String.ofList (strip isSpace content.toList))
    | none => raise .unicodeDecodeError

/-- The status of a process that is not running. -/
def endedStatus (s : LiveController) : ProcessStatus where
  managed := true
  socketPath := s.socketPath
  exitCode := s.supervisor.lastExitCode
  lastError := s.supervisor.lastError
  version := s.supervisor.lastVersion
  health := s.supervisor.lastHealth

/-- `except DatapathTransportError as exc` around a refresh. -/
def exceptTransport (process : Process) (op : Method ProcessStatus) : Method ProcessStatus :=
  tryCatch op fun e =>
    match e with
    | .supervisor (.transport message) => do
      modifySupervisor fun s => { s with lastError := some message }
      let s ← get
      pure
        { managed := true
          socketPath := s.socketPath
          pid := some process.pid
          running := true
          lastError := s.supervisor.lastError
          version := s.supervisor.lastVersion
          health := s.supervisor.lastHealth }
    | e => throw e

/-- `_status_locked`. -/
def statusLocked : Method ProcessStatus := do
  let s ← get
  match s.supervisor.process with
  | none => pure (endedStatus s)
  | some process => do
    match ← ask Question.poll with
    | some exitCode => do
      let stderr ← consumeStderr process
      modifySupervisor fun s =>
        { s with
          lastExitCode := some exitCode
          lastError := some (orDefault (some stderr) (orDefault s.lastError "datapath process exited unexpectedly"))
          process := none
          client := false }
      let s ← get
      pure (endedStatus s)
    | none => exceptTransport process (refreshIpcState process)

/-- `get_ports` and the other requests over IPC, for `what`. -/
def request (what : String) (c : DatapathCommand) : Method (CommandResult (Payload c)) := do
  let status ← statusLocked
  if ¬ status.reachable then raise (.transport s!"datapath IPC is not reachable for {what}")
  else do
    requireClient
    match ← ask (Question.call c) with
    | .ok result => pure result
    | .error e => raise e

def getPorts : Method (CommandResult (List PortInfoModel)) := request "port status" .getPorts
def getStats : Method (CommandResult DatapathStatsModel) := request "stats" .getStats
def resetStats : Method (CommandResult AckPayload) := request "stats reset" .resetStats
def pauseDatapath : Method (CommandResult AckPayload) := request "pause" .pauseDatapath
def resumeDatapath : Method (CommandResult AckPayload) := request "resume" .resumeDatapath

/-! ### The controller -/

/-- `ControllerHealthSnapshot`; what it copies from the controller is
`runtime`. -/
structure ControllerHealthSnapshot where
  runtime : Runtime
  datapathStatus : ProcessStatus

/-- `DatapathRuntimeStatusSnapshot`. -/
structure DatapathRuntimeStatusSnapshot where
  controllerSnapshot : ControllerHealthSnapshot
  ports : List PortInfoModel

/-- `DatapathRuntimeStatsSnapshot`. -/
structure DatapathRuntimeStatsSnapshot where
  datapathStatus : ProcessStatus
  stats : DatapathStatsModel

/-- `DatapathStatsResetResult`. -/
structure DatapathStatsResetResult where
  datapathStatus : ProcessStatus
  stats : DatapathStatsModel
  message : NonEmptyStr

/-- `DatapathControlResult`. -/
structure DatapathControlResult where
  datapathStatus : ProcessStatus
  message : NonEmptyStr

/-- `_map_datapath_error_code`. -/
def mapDatapathErrorCode : DatapathErrorCode → ErrorCode
  | .invalidRequest => .invalidRequest
  | .invalidPayload => .invalidPayload
  | .unknownCommand => .unknownCommand
  | .ruleValidationError => .ruleValidationError
  | .portInitError => .portInitError
  | .stateConflict => .stateConflict
  | .internalError => .internalError

/-- `result.unwrap()`, or the error of the datapath as one of the controller. -/
def unwrap {α : Type} : CommandResult α → Method α
  | .ok payload => pure payload
  | .error error => throw (.pktlab { code := mapDatapathErrorCode error.code, message := error.message })

/-- `_unmanaged_datapath_status`. -/
def unmanagedStatus (s : LiveController) : ProcessStatus :=
  { managed := s.runtime.superviseDatapath, socketPath := s.socketPath }

/-- `_current_datapath_status_locked`. -/
def currentDatapathStatusLocked : Method ProcessStatus := do
  let s ← get
  if s.runtime.started && s.runtime.supervisor.isSome then statusLocked else pure (unmanagedStatus s)

/-- Store what is observed and recompute the health of the controller. -/
def observe (status : ProcessStatus) : Method Unit :=
  modify fun s => { s with runtime := s.runtime.finishObserved status.seen }

/-- `health_snapshot`. -/
def healthSnapshot : Method ControllerHealthSnapshot := do
  let status ← currentDatapathStatusLocked
  let s ← get
  if s.runtime.started && s.runtime.supervisor.isSome then observe status else pure ()
  let s ← get
  pure ⟨s.runtime, status⟩

/-- `datapath_status_snapshot`. -/
def datapathStatusSnapshot : Method DatapathRuntimeStatusSnapshot := do
  let snapshot ← healthSnapshot
  let s ← get
  if s.runtime.supervisor.isSome && snapshot.datapathStatus.reachable then do
    let result ← getPorts
    let ports ← unwrap result
    pure ⟨snapshot, ports⟩
  else pure ⟨snapshot, []⟩

/-- `self._supervisor is None`. -/
def requireSupervisor : Method Unit := do
  let s ← get
  if s.runtime.supervisor.isSome then pure ()
  else throw (.pktlab { code := .stateConflict, message := "controller is not supervising a datapath process" })

/-- `datapath_stats_snapshot`. -/
def datapathStatsSnapshot : Method DatapathRuntimeStatsSnapshot := do
  let status ← currentDatapathStatusLocked
  requireSupervisor
  let result ← getStats
  let stats ← unwrap result
  pure ⟨status, stats⟩

/-- `reset_datapath_stats`. -/
def resetDatapathStats : Method DatapathStatsResetResult := do
  requireSupervisor
  let result ← resetStats
  let ack ← unwrap result
  let status ← currentDatapathStatusLocked
  let result ← getStats
  let stats ← unwrap result
  pure ⟨status, stats, ack.message⟩

/-- `_run_datapath_control_command`. -/
def runDatapathControlCommand (command : Method (CommandResult AckPayload)) : Method DatapathControlResult := do
  requireSupervisor
  let result ← command
  let ack ← unwrap result
  let status ← currentDatapathStatusLocked
  observe status
  pure ⟨status, ack.message⟩

/-- `pause_datapath`. -/
def pauseForwarding : Method DatapathControlResult := runDatapathControlCommand pauseDatapath

/-- `resume_datapath`. -/
def resumeForwarding : Method DatapathControlResult := runDatapathControlCommand resumeDatapath

end Methods
end Ctrld
end Pktlab
