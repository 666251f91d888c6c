/-
# The daemon as a state machine

`dpdkd/src/daemon.c`, `health.c`, the control side of `datapath.c` and the
body of the request loop of `ipc_server.c`: what the daemon keeps (counters,
ports, the pause flag, the health snapshot), and what it answers to a frame.
One connection is served at a time, so frames come in some order; between
them the forwarding thread merges the counters of its bursts.

A start that fails ends the daemon before it serves, so `start` is the three
ways in which `pktlab_datapath_start` returns 0.

Key definitions: `Daemon`, `start`, `dispatchRequest`, `handleFrame`, `daemonStep`.
-/
import Pktlab.Dpdkd.Render
import Pktlab.Lib.Run

namespace Pktlab
namespace Dpdkd

open Utf8 JsonProto

/-- The fields of `struct pktlab_datapath` that requests read or change. -/
structure Datapath where
  ports : PortsConfig
  stats : StatsTracker
  paused : Bool
  started : Bool
  portsReady : Bool
  runningMessage : List UInt8
  deriving DecidableEq

/-- `struct pktlab_daemon`. -/
structure Daemon where
  datapath : Datapath
  health : HealthSnapshot
  deriving DecidableEq

/-! ### Health -/

/-- `pktlab_health_copy_message`: what fits the buffer with its terminator. -/
def copyMessage (message : List UInt8) : List UInt8 := message.take (messageLen - 1)

/-- `pktlab_health_set_state`. -/
def healthSetState (health : HealthSnapshot) (state : DpState) (message : List UInt8) : HealthSnapshot :=
  { health with state := state, message := copyMessage message }

/-- `pktlab_health_init` and the settings of `pktlab_daemon_init`. -/
def healthInit : HealthSnapshot where
  state := .starting
  message := copyMessage (utf8 "ipc socket initialized")
  appliedRuleVersion := 0
  portsReady := false
  paused := false

/-- `pktlab_datapath_running_message`. -/
def datapathRunningMessage (datapath : Datapath) : List UInt8 :=
  if datapath.runningMessage = [] then
    (utf8 "configured TAP ports " ++ datapath.ports.ingress.name.bytes ++ utf8 "/" ++
      datapath.ports.egress.name.bytes).take (messageLen - 1)
  else datapath.runningMessage.take (messageLen - 1)

/-- `pktlab_daemon_refresh_started_health`. -/
def refreshStartedHealth (daemon : Daemon) : Daemon :=
  let health := { daemon.health with
    portsReady := daemon.datapath.portsReady, paused := daemon.datapath.paused }
  { daemon with
    health := healthSetState health (if daemon.datapath.portsReady then .running else .degraded)
      (datapathRunningMessage daemon.datapath) }

/-- `pktlab_daemon_refresh_paused_health`. -/
def refreshPausedHealth (daemon : Daemon) : Daemon :=
  let health := { daemon.health with portsReady := daemon.datapath.portsReady, paused := true }
  { daemon with health := healthSetState health .paused (utf8 "datapath forwarding loop paused") }

/-! ### The datapath -/

/-- How `pktlab_datapath_start` succeeds: without DPDK in the build, without
the privileges for it, or with two ports that got their identifiers. -/
inductive StartEnv
  | noDpdk
  | noRoot
  | dpdk (ingressId egressId : UInt16)
  deriving DecidableEq, Repr

/-- A running message: both port names inside a fixed text, as far as it
fits. -/
def portsMessage (before after : String) (ports : PortsConfig) : List UInt8 :=
  (utf8 before ++ ports.ingress.name.bytes ++ utf8 "/" ++ ports.egress.name.bytes ++ utf8 after).take
    (messageLen - 1)

/-- `pktlab_datapath_start` on a configured datapath. -/
def datapathStart (env : StartEnv) (init : DatapathInit) : Datapath :=
  match env with
  | .noDpdk =>
    { ports := init.ports, stats := init.stats, paused := false, started := true, portsReady := false
      runningMessage := portsMessage "TAP ports " " configured; libdpdk not available at build time"
        init.ports }
  | .noRoot =>
    { ports := init.ports, stats := init.stats, paused := false, started := true, portsReady := false
      runningMessage := portsMessage "TAP ports " " need root/CAP_NET_ADMIN" init.ports }
  | .dpdk ingressId egressId =>
    let ports := { init.ports with
      ingress := { init.ports.ingress with portId := ingressId, state := .up }
      egress := { init.ports.egress with portId := egressId, state := .up } }
    { ports := ports, stats := statsReset init.stats, paused := false, started := true, portsReady := true
      runningMessage := portsMessage "DPDK TAP ports " " ready; forwarding loop active" ports }

/-- `pktlab_daemon_run` up to the request loop. -/
def start (env : StartEnv) (init : DatapathInit) : Daemon :=
  refreshStartedHealth ⟨datapathStart env init, healthInit⟩

/-- `pktlab_datapath_require_active_forwarding`. -/
def activeForwarding (datapath : Datapath) : Bool := datapath.started && datapath.portsReady

/-- The error of `pktlab_datapath_require_active_forwarding`. -/
def notActive : DpdkdError := ⟨.stateConflict, "datapath forwarding loop is not active"⟩

/-- `pktlab_datapath_pause` and `pktlab_datapath_resume`: the flag and
whether it changed. -/
def datapathSetPaused (datapath : Datapath) (paused : Bool) : Except DpdkdError (Datapath × Bool) :=
  if activeForwarding datapath then .ok ({ datapath with paused := paused }, datapath.paused != paused)
  else .error notActive

/-! ### Requests -/

/-- The commands that `pktlab_daemon_dispatch_request` compares with. -/
inductive Command
  | ping
  | getVersion
  | getHealth
  | getPorts
  | getStats
  | resetStats
  | pauseDatapath
  | resumeDatapath
  deriving DecidableEq, Repr

/-- The chain of `strcmp`. -/
def command? (cmd : List UInt8) : Option Command :=
  if cmd = utf8 "ping" then some .ping
  else if cmd = utf8 "get_version" then some .getVersion
  else if cmd = utf8 "get_health" then some .getHealth
  else if cmd = utf8 "get_ports" then some .getPorts
  else if cmd = utf8 "get_stats" then some .getStats
  else if cmd = utf8 "reset_stats" then some .resetStats
  else if cmd = utf8 "pause_datapath" then some .pauseDatapath
  else if cmd = utf8 "resume_datapath" then some .resumeDatapath
  else none

/-- `sizeof(payload)` in the dispatcher and `PKTLAB_JSON_PROTO_MAX_FRAME_SIZE`. -/
def payloadCap : ℕ := 1024
def maxFrameSize : ℕ := 16384

/-- A payload builder's result, or the dispatcher's error for it. -/
def orInternal (payload : Option (List UInt8)) (message : String) : Except DpdkdError (List UInt8) :=
  match payload with
  | some text => .ok text
  | none => .error ⟨.internal, message⟩

/-- The state after a command and its payload. -/
def runCommand (daemon : Daemon) : Command → Daemon × Except DpdkdError (List UInt8)
  | .ping => (daemon, orInternal (makePongPayload payloadCap) "failed to render pong payload")
  | .getVersion => (daemon, orInternal (makeVersionPayload payloadCap) "failed to render version payload")
  | .getHealth =>
    (daemon, orInternal (makeHealthPayload daemon.health payloadCap) "failed to render health payload")
  | .getPorts =>
    (daemon, orInternal (makePortsPayload [daemon.datapath.ports.ingress, daemon.datapath.ports.egress]
      payloadCap) "failed to render ports payload")
  | .getStats =>
    (daemon, orInternal (makeStatsPayload (statsSnapshot daemon.datapath.stats) payloadCap)
      "failed to render stats payload")
  | .resetStats =>
    let daemon := { daemon with
      datapath := { daemon.datapath with stats := statsReset daemon.datapath.stats } }
    (daemon, orInternal (makeAckPayload (utf8 "datapath counters reset") payloadCap)
      "failed to render reset-stats acknowledgement")
  | .pauseDatapath =>
    match datapathSetPaused daemon.datapath true with
    | .error e => (daemon, .error e)
    | .ok (datapath, changed) =>
      (refreshPausedHealth { daemon with datapath := datapath },
        orInternal (makeAckPayload (if changed then utf8 "datapath forwarding loop paused"
          else utf8 "datapath forwarding loop is already paused") payloadCap)
          "failed to render pause acknowledgement")
  | .resumeDatapath =>
    match datapathSetPaused daemon.datapath false with
    | .error e => (daemon, .error e)
    | .ok (datapath, changed) =>
      (refreshStartedHealth { daemon with datapath := datapath },
        orInternal (makeAckPayload (if changed then utf8 "datapath forwarding loop resumed"
          else utf8 "datapath forwarding loop is already running") payloadCap)
          "failed to render resume acknowledgement")

/-- The error of a command that is none of them. -/
def unknownCommand : DpdkdError := ⟨.unknownCommand, "unknown IPC command"⟩

/-- `pktlab_daemon_dispatch_request`. -/
def dispatchRequest (daemon : Daemon) (request : IpcRequest) : Daemon × Except DpdkdError (List UInt8) :=
  match command? (cString request.cmd) with
  | none => (daemon, .error unknownCommand)
  | some c =>
    match runCommand daemon c with
    | (daemon, .error e) => (daemon, .error e)
    | (daemon, .ok payload) => (daemon, makeSuccess (cString request.id) payload maxFrameSize)

/-- One turn of `pktlab_ipc_server_handle_client`: the frame that is sent
back, if one is. -/
def handleFrame (daemon : Daemon) (frame : List UInt8) : Daemon × Option (List UInt8) :=
  match parseRequest frame with
  | (request, .error (.rejected e)) => (daemon, makeError (cString request.id) e maxFrameSize)
  | (_, .error _) => (daemon, none)
  | (request, .ok ()) =>
    match dispatchRequest daemon request with
    | (daemon, .error e) => (daemon, makeError (cString request.id) e maxFrameSize)
    | (daemon, .ok response) => (daemon, some response)

/-- What happens to a daemon: a frame arrives, or the forwarding thread merges
the counters of a burst. -/
inductive Event
  | frame (bytes : List UInt8)
  | burst (delta : DpStatsSnapshot)
  deriving DecidableEq, Repr

def daemonStep (daemon : Daemon) : Event → Option Daemon
  | .frame bytes => some (handleFrame daemon bytes).1
  | .burst delta =>
    some { daemon with datapath := { daemon.datapath with stats := statsAdd daemon.datapath.stats delta } }

end Dpdkd
end Pktlab
