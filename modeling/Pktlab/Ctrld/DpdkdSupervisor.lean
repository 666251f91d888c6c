/-
# The supervisor of the datapath process

`DpdkdSupervisor` (`pktlab_ctrld/process/supervisor.py`): it spawns the daemon,
waits until its IPC answers, asks it for its status and stops it. What the
surroundings do is a sequence of moments, `env`: every poll of a process, every
wait, signal, request over IPC and read of stderr takes the next one, which
holds the answer. The children stay in the state when the supervisor drops its
handle of them, so that a child it no longer knows of can be seen.

The parts of the errors that nobody reads, their contexts, are left out, and so
is the payload of a command, which is passed on as it is.

Key definitions: `Moment`, `Child`, `DpdkdSupervisor`, `refreshIpcState`,
`start`, `statusLocked`, `stopLocked`, `Operation`, `Event`, `step`.
-/
import Pktlab.Ctrld.Controller
import Pktlab.Lib.Effect
import Pktlab.Lib.Run

namespace Pktlab
namespace Ctrld

open Python

/-- `DatapathErrorCode`. -/
inductive DatapathErrorCode
  | invalidRequest
  | invalidPayload
  | unknownCommand
  | ruleValidationError
  | portInitError
  | stateConflict
  | internalError
  deriving DecidableEq, Repr

def DatapathErrorCode.value : DatapathErrorCode → String
  | .invalidRequest => "INVALID_REQUEST"
  | .invalidPayload => "INVALID_PAYLOAD"
  | .unknownCommand => "UNKNOWN_COMMAND"
  | .ruleValidationError => "RULE_VALIDATION_ERROR"
  | .portInitError => "PORT_INIT_ERROR"
  | .stateConflict => "STATE_CONFLICT"
  | .internalError => "INTERNAL_ERROR"

/-- `DatapathErrorModel`. -/
structure DatapathErrorModel where
  code : DatapathErrorCode
  message : String

/-- `CommandResult`. -/
abbrev CommandResult (α : Type) := Except DatapathErrorModel α

/-- `VersionPayload`; its `service` is always the same. -/
structure VersionPayload where
  version : String
  dpdkVersion : String

/-- What an operation of the supervisor can raise. -/
inductive SupervisorError
  /-- `DatapathTransportError` -/
  | transport (message : String)
  /-- `DatapathProtocolError` -/
  | protocol (message : String)
  /-- `ProcessExecutionError` -/
  | processExecution (message : String)
  | timeoutExpired
  | unicodeDecodeError
  | osError
  | other

/-- It is a `PktlabError`. -/
def SupervisorError.pktlab : SupervisorError → Bool
  | .transport _ | .protocol _ | .processExecution _ => true
  | .timeoutExpired | .unicodeDecodeError | .osError | .other => false

/-- How a call of the client ends. -/
abbrev Answer (α : Type) := Except SupervisorError (CommandResult α)

/-- What the surroundings answer at one moment. -/
structure Moment where
  /-- the process that is looked at has ended, with this code -/
  exited : Option ℤ := none
  /-- it has not even if it has got a SIGKILL -/
  stuck : Bool := false
  /-- `os.kill` raises -/
  refuses : Bool := false
  /-- the pid of what `popen_factory` spawns, unless it raises -/
  spawned : Option ℕ := none
  /-- `client_factory` returns -/
  connects : Bool := true
  /-- the rounds of a wait before its deadline -/
  rounds : ℕ := 0
  ping : Answer Unit := .error (.transport "datapath IPC socket was not found")
  health : Answer HealthStateModel := .error (.transport "datapath IPC socket was not found")
  version : Answer VersionPayload := .error (.transport "datapath IPC socket was not found")
  /-- the answer to any other command -/
  command : Answer Unit := .error (.transport "datapath IPC socket was not found")
  /-- what is left on stderr, if it can be decoded -/
  stderr : Option String := some ""

/-- A `Popen`. -/
structure Child where
  pid : ℕ
  command : List String
  exitCode : Option ℤ := none
  /-- it has got a SIGKILL -/
  killed : Bool := false
  stderrClosed : Bool := false

/-- The child when it is looked at. -/
def Child.seen (c : Child) (m : Moment) : Child :=
  { c with exitCode := c.exitCode.or (m.exited.or (if c.killed && !m.stuck then some (-9) else none)) }

/-- The launch configuration, `SupervisorConfig`, with what is the same for
every topology. -/
structure LaunchConfig extends SupervisorConfig where
  dpdkdBinary : String
  socketPath : String

/-- The argument list of the daemon. -/
def LaunchConfig.command (config : LaunchConfig) : List String :=
  config.launchPrefix ++ [config.dpdkdBinary, "--socket-path", config.socketPath] ++ config.extraArgs

/-- `DatapathProcessStatus` with all that the supervisor puts into it. -/
structure SupervisorStatus extends DatapathProcessStatus where
  exitCode : Option ℤ := none
  version : Option VersionPayload := none

/-- The fields of `DpdkdSupervisor`, its children and the time. -/
structure DpdkdSupervisor where
  /-- which child `_process` is -/
  process : Option ℕ := none
  /-- there is a `_client` -/
  client : Bool := false
  lastVersion : Option VersionPayload := none
  lastHealth : Option HealthStateModel := none
  lastError : Option String := none
  lastExitCode : Option ℤ := none
  /-- the children, by the order in which they were spawned -/
  child : ℕ → Child := fun _ => { pid := 0, command := [] }
  spawned : ℕ := 0
  clock : ℕ := 0

namespace DpdkdSupervisor

/-- `DpdkdSupervisor.__init__`. -/
def initial : DpdkdSupervisor := {}

/-- A computation of the supervisor. -/
abbrev Act (α : Type) := Eff SupervisorError DpdkdSupervisor α

/-- The child has been spawned and has not ended. -/
def running (s : DpdkdSupervisor) (i : ℕ) : Prop := i < s.spawned ∧ (s.child i).exitCode = none

instance (s : DpdkdSupervisor) (i : ℕ) : Decidable (s.running i) := inferInstanceAs (Decidable (_ ∧ _))

def updateChild (s : DpdkdSupervisor) (i : ℕ) (c : Child) : DpdkdSupervisor :=
  { s with child := Function.update s.child i c }

def clearHistory (s : DpdkdSupervisor) : DpdkdSupervisor :=
  { s with lastVersion := none, lastHealth := none, lastError := none, lastExitCode := none }

section Interactions

variable (env : ℕ → Moment)

/-- The next moment. -/
def moment : Act Moment := fun s => (.ok (env s.clock), { s with clock := s.clock + 1 })

/-- `process.poll()`. -/
def poll (i : ℕ) : Act (Option ℤ) := do
  let m ← moment env
  Eff.modify fun s => s.updateChild i ((s.child i).seen m)
  let s ← Eff.get
  pure (s.child i).exitCode

theorem poll_apply (i : ℕ) (s : DpdkdSupervisor) : poll env i s =
    (.ok ((s.child i).seen (env s.clock)).exitCode,
      { s.updateChild i ((s.child i).seen (env s.clock)) with clock := s.clock + 1 }) := by
  show ((.ok ((Function.update s.child i ((s.child i).seen (env s.clock)) i).exitCode), _) :
    Except SupervisorError (Option ℤ) × DpdkdSupervisor) = _
  rw [Function.update_self]
  rfl

/-- `process.wait(timeout=…)`. -/
def wait (i : ℕ) : Act Unit := do
  match ← poll env i with
  | some _ => pure ()
  | none => Eff.throw .timeoutExpired

/-- `process.send_signal(…)`, which leaves a process alone that has ended. -/
def sendSignal (i : ℕ) (sigkill : Bool) : Act Unit := do
  match ← poll env i with
  | some _ => pure ()
  | none => do
    let m ← moment env
    if m.refuses then Eff.throw .osError
    else Eff.modify fun s => s.updateChild i { s.child i with killed := (s.child i).killed || sigkill }

/-- `process.terminate()`. -/
def terminate (i : ℕ) : Act Unit := sendSignal env i false

/-- `process.kill()`. -/
def kill (i : ℕ) : Act Unit := sendSignal env i true

/-- `_popen_factory`. -/
def popen (command : List String) : Act ℕ := do
  let m ← moment env
  match m.spawned with
  | none => Eff.throw .osError
  | some pid => do
    let s ← Eff.get
    Eff.modify fun s => { s.updateChild s.spawned { pid := pid, command := command } with spawned := s.spawned + 1 }
    pure s.spawned

/-- `_consume_stderr_locked`. -/
def consumeStderr (i : ℕ) : Act String := do
  let s ← Eff.get
  if (s.child i).stderrClosed then pure ""
  else do
    let m ← moment env
    Eff.modify fun s => s.updateChild i { s.child i with stderrClosed := true }
    match m.stderr with
    | some content => pure (String.ofList (strip isSpace content.toList))
    | none => Eff.throw .unicodeDecodeError

end Interactions

/-! ### The methods -/

/-- `_require_client_locked`. -/
def requireClient : Act Unit := do
  let s ← Eff.get
  if s.client then pure () else Eff.throw (.processExecution "datapath client is not initialized")

/-- A readiness call, named by `what`, that has to succeed. -/
def require {α : Type} (what : String) : Answer α → Act α
  | .ok (.ok payload) => pure payload
  | .ok (.error error) => do
    let code := error.code.value
    let message := error.message
    let text := s!"datapath {what} failed: {code}: {message}"
    Eff.modify fun s => { s with lastError := some text }
    Eff.throw (.processExecution text)
  | .error e => Eff.throw e

/-- The status of a process that is not running. -/
def endedStatus (s : DpdkdSupervisor) : SupervisorStatus :=
  { exitCode := s.lastExitCode, lastError := s.lastError, version := s.lastVersion, health := s.lastHealth }

section Methods

variable (config : LaunchConfig) (env : ℕ → Moment)

/-- `_refresh_ipc_state_locked`. -/
def refreshIpcState (i : ℕ) : Act SupervisorStatus := do
  requireClient
  let m ← moment env
  require "readiness ping" m.ping
  let m ← moment env
  let health ← require "health check" m.health
  let m ← moment env
  let version ← require "version check" m.version
  Eff.modify fun s =>
    { s with lastHealth := some health, lastVersion := some version, lastError := none, lastExitCode := none }
  let s ← Eff.get
  pure
    { pid := some (s.child i).pid
      running := true
      reachable := true
      version := s.lastVersion
      health := s.lastHealth }

/-- `except DatapathTransportError as exc`. -/
def exceptTransport {α : Type} (op : Act α) (handler : String → Act α) : Act α :=
  Eff.tryCatch op fun e =>
    match e with
    | .transport message => handler message
    | e => Eff.throw e

/-- The loop of `_wait_for_ready_locked`, with the rounds that are left. -/
def waitRounds : ℕ → Act SupervisorStatus
  | 0 => Eff.throw (.processExecution "timed out waiting for datapath IPC readiness")
  | rounds + 1 => do
    let s ← Eff.get
    match s.process with
    | none => Eff.throw (.processExecution "datapath process state was lost during startup")
    | some i => do
      match ← poll env i with
      | some exitCode => do
        let stderr ← consumeStderr env i
        Eff.modify fun s =>
          { s with
            lastExitCode := some exitCode
            lastError := some (orDefault (some stderr) "datapath process exited before readiness") }
        Eff.throw (.processExecution "datapath process exited before readiness was confirmed")
      | none =>
        exceptTransport (refreshIpcState env i) fun message => do
          Eff.modify fun s => { s with lastError := some message }
          waitRounds rounds

/-- `_wait_for_ready_locked`. -/
def waitForReady : Act SupervisorStatus := do
  let m ← moment env
  waitRounds env m.rounds

/-- `_status_locked`. -/
def statusLocked : Act SupervisorStatus := do
  let s ← Eff.get
  match s.process with
  | none => pure s.endedStatus
  | some i => do
    match ← poll env i with
    | some exitCode => do
      let stderr ← consumeStderr env i
      Eff.modify fun s =>
        { s with
          lastExitCode := some exitCode
          lastError := some (orDefault (some stderr) (orDefault s.lastError "datapath process exited unexpectedly"))
          process := none
          client := false }
      let s ← Eff.get
      pure s.endedStatus
    | none =>
      exceptTransport (refreshIpcState env i) fun message => do
        Eff.modify fun s => { s with lastError := some message }
        let s ← Eff.get
        pure
          { pid := some (s.child i).pid
            running := true
            lastError := s.lastError
            version := s.lastVersion
            health := s.lastHealth }

/-- What `_stop_locked` does with a process. -/
def endProcess (i : ℕ) : Act Unit := do
  match ← poll env i with
  | some _ => pure ()
  | none => do
    terminate env i
    Eff.tryCatch (wait env i) fun e =>
      match e with
      | .timeoutExpired => do
        kill env i
        wait env i
      | e => Eff.throw e

/-- What it does with the process it has dropped. -/
def release : Option ℕ → Act Unit
  | none => pure ()
  | some i => do
    endProcess env i
    let _ ← consumeStderr env i
    pure ()

/-- `_stop_locked`. -/
def stopLocked (clear : Bool) : Act Unit := do
  let s ← Eff.get
  Eff.modify fun s => { s with process := none, client := false }
  release env s.process
  if clear then Eff.modify clearHistory else pure ()

/-- `_client_factory`. -/
def connect : Act Unit := do
  let m ← moment env
  if m.connects then Eff.modify fun s => { s with client := true } else Eff.throw .other

/-- The part of `start` that spawns a process. -/
def launch : Act SupervisorStatus := do
  Eff.modify clearHistory
  let i ← popen env config.command
  Eff.modify fun s => { s with process := some i }
  connect env
  Eff.tryCatch (waitForReady env) fun e => do
    stopLocked env false
    Eff.throw e

/-- `start`. -/
def start : Act SupervisorStatus := do
  let s ← Eff.get
  match s.process with
  | none => launch config env
  | some i => do
    match ← poll env i with
    | none => waitForReady env
    | some _ => launch config env

/-- `status`. -/
def status : Act SupervisorStatus := statusLocked env

/-- `stop`. -/
def stop : Act Unit := stopLocked env true

/-- A request over IPC, for `what`. -/
def request (what : String) : Act (CommandResult Unit) := do
  let status ← statusLocked env
  if ¬ status.reachable then Eff.throw (.transport s!"datapath IPC is not reachable for {what}")
  else do
    requireClient
    let m ← moment env
    match m.command with
    | .ok result => pure result
    | .error e => Eff.throw e

def getPorts : Act (CommandResult Unit) := request env "port status"
def getStats : Act (CommandResult Unit) := request env "stats"
def resetStats : Act (CommandResult Unit) := request env "stats reset"
def pauseDatapath : Act (CommandResult Unit) := request env "pause"
def resumeDatapath : Act (CommandResult Unit) := request env "resume"

end Methods

/-! ### What the readiness calls preserve -/

section Preservation

open Effect

variable {P : DpdkdSupervisor → Prop}

theorem preserves_requireClient : Preserves P requireClient := by
  refine preserves_bind preserves_get fun s => ?_
  split
  · exact preserves_pure _
  · exact preserves_throw _

/-- Of the state, a readiness call writes the last error alone. -/
theorem preserves_require (hP : ∀ s lastError, P s → P { s with lastError := lastError }) {α : Type} {what : String}
    (answer : Answer α) : Preserves P (require what answer) := by
  unfold require
  split
  · exact preserves_pure _
  · exact preserves_bind (preserves_modify fun s h => hP s _ h) fun _ => preserves_throw _
  · exact preserves_throw _

theorem preserves_exceptTransport {α : Type} {op : Act α} {handler : String → Act α} (hop : Preserves P op)
    (hhandler : ∀ message, Preserves P (handler message)) : Preserves P (exceptTransport op handler) := by
  refine preserves_tryCatch hop fun e => ?_
  cases e with
  | transport message => exact hhandler message
  | _ => exact preserves_throw _

end Preservation

/-! ### Histories -/

/-- The operations under the lock of the supervisor. -/
inductive Operation
  | start
  | stop
  | status
  /-- one of the requests over IPC -/
  | request (what : String)

/-- What an operation leaves, whether it returns or raises. -/
def after (config : LaunchConfig) (env : ℕ → Moment) (s : DpdkdSupervisor) : Operation → DpdkdSupervisor
  | .start => (start config env s).2
  | .stop => (stop env s).2
  | .status => (status env s).2
  | .request what => (request env what s).2

/-- An operation is carried out, or a child ends between two of them. -/
inductive Event
  | call (op : Operation) (env : ℕ → Moment)
  | exits (i : ℕ) (exitCode : ℤ)

def step (config : LaunchConfig) (s : DpdkdSupervisor) : Event → Option DpdkdSupervisor
  | .call op env => some (s.after config env op)
  | .exits i exitCode => some (s.updateChild i ((s.child i).seen { exited := some exitCode }))

/-- A daemon that is up. -/
def up : Moment where
  spawned := some 71
  rounds := 1
  ping := .ok (.ok ())
  health := .ok (.ok ⟨.running, "datapath running", 0⟩)
  version := .ok (.ok ⟨"0.1.0", "DPDK 23.11.0"⟩)

def plainConfig : LaunchConfig := ⟨⟨[], []⟩, "pktlab-dpdkd", "/run/pktlab/dpdkd.sock"⟩

end DpdkdSupervisor
end Ctrld
end Pktlab
