/-
# The datapath as a service

What the commands of the client mean: a service with two ports that forwards
or not, can be paused while it forwards, and counts. `serve` has no frames, no
JSON and no buffers, and the health it reports is computed from what it is,
while the daemon keeps a snapshot beside its flags. `Shows` connects the two:
every start of the daemon shows a service, and commands and bursts keep it
(`run_shows`). The values that the daemon renders for a command are read back
by the models of the client as the result of the service
(`validatePayload_shows`).

Key definitions: `DatapathService`, `serve`, `launched`, `Shows`.
Key theorems: `start_shows`, `runCommand_shows`, `run_shows`,
`serve_error_iff`, `validatePayload_shows`.
-/
import Pktlab.Ctrld.ResponseModels
import Pktlab.Dpdkd.Response

namespace Pktlab
namespace Ctrld

open Utf8 Rfc8259 Decimal Dpdkd

/-- A datapath as its clients see it. -/
structure DatapathService where
  ports : List PortInfoModel
  forwarding : Bool
  /-- the health message while it is not paused -/
  runningMessage : String
  paused : Bool := false
  counters : DpStatsSnapshot := {}

namespace DatapathService

/-- The health of the service. -/
def health (s : DatapathService) : HealthPayload where
  state := if s.paused then .paused else if s.forwarding then .running else .degraded
  message := if s.paused then "datapath forwarding loop paused" else s.runningMessage
  appliedRuleVersion := 0
  portsReady := s.forwarding
  paused := s.paused

/-- The counters of the service. -/
def stats (s : DatapathService) : DatapathStatsModel where
  rxPackets := s.counters.rxPackets.toNat
  txPackets := s.counters.txPackets.toNat
  dropPackets := s.counters.dropPackets.toNat
  dropParseErrors := s.counters.dropParseErrors.toNat
  dropNoMatch := s.counters.dropNoMatch.toNat
  rxBursts := s.counters.rxBursts.toNat
  txBursts := s.counters.txBursts.toNat
  unsentPackets := s.counters.unsentPackets.toNat
  ruleHits := []

/-- The service is paused or resumed, if it forwards. -/
def setPaused (s : DatapathService) (paused : Bool) (changed unchanged : NonEmptyStr) :
    DatapathService × CommandResult AckPayload :=
  if s.forwarding then ({ s with paused := paused }, .ok ⟨if s.paused = paused then unchanged else changed⟩)
  else (s, .error ⟨.stateConflict, "datapath forwarding loop is not active"⟩)

/-- What a command does and returns. -/
def serve (s : DatapathService) : (c : DatapathCommand) → DatapathService × CommandResult (Payload c)
  | .ping => (s, .ok (⟨"pong", by decide⟩ : AckPayload))
  | .getVersion => (s, .ok (⟨"0.1.0", "25.11.0"⟩ : VersionPayload))
  | .getHealth => (s, .ok s.health)
  | .getPorts => (s, .ok s.ports)
  | .getStats => (s, .ok s.stats)
  | .resetStats => ({ s with counters := {} }, .ok (⟨"datapath counters reset", by decide⟩ : AckPayload))
  | .pauseDatapath =>
    s.setPaused true ⟨"datapath forwarding loop paused", by decide⟩
      ⟨"datapath forwarding loop is already paused", by decide⟩
  | .resumeDatapath =>
    s.setPaused false ⟨"datapath forwarding loop resumed", by decide⟩
      ⟨"datapath forwarding loop is already running", by decide⟩

theorem setPaused_of_forwarding {s : DatapathService} (h : s.forwarding = true) (paused : Bool)
    (changed unchanged : NonEmptyStr) : s.setPaused paused changed unchanged =
      ({ s with paused := paused }, .ok ⟨if s.paused = paused then unchanged else changed⟩) := if_pos h

theorem setPaused_of_not_forwarding {s : DatapathService} (h : ¬ s.forwarding = true) (paused : Bool)
    (changed unchanged : NonEmptyStr) : s.setPaused paused changed unchanged =
      (s, .error ⟨.stateConflict, "datapath forwarding loop is not active"⟩) := if_neg h

/-- The counters of a burst are added. -/
def burst (s : DatapathService) (delta : DpStatsSnapshot) : DatapathService :=
  { s with counters := s.counters.add delta }

/-- The service that a daemon with these ports starts as. -/
def launched (env : StartEnv) (ingress egress : NonEmptyStr) : DatapathService :=
  match env with
  | .noDpdk =>
    { ports := [⟨ingress, 0, .ingress, .down⟩, ⟨egress, 1, .egress, .down⟩]
      forwarding := false
      runningMessage := "TAP ports " ++ ingress ++ "/" ++ egress ++
        " configured; libdpdk not available at build time" }
  | .noRoot =>
    { ports := [⟨ingress, 0, .ingress, .down⟩, ⟨egress, 1, .egress, .down⟩]
      forwarding := false
      runningMessage := "TAP ports " ++ ingress ++ "/" ++ egress ++ " need root/CAP_NET_ADMIN" }
  | .dpdk ingressId egressId =>
    { ports := [⟨ingress, ingressId.toNat, .ingress, .up⟩, ⟨egress, egressId.toNat, .egress, .up⟩]
      forwarding := true
      runningMessage := "DPDK TAP ports " ++ ingress ++ "/" ++ egress ++ " ready; forwarding loop active" }

end DatapathService

/-! ### The daemon shows a service -/

open DatapathService

/-- The name of the command in the dispatcher. -/
def DatapathCommand.command : DatapathCommand → Command
  | .ping => .ping
  | .getVersion => .getVersion
  | .getHealth => .getHealth
  | .getPorts => .getPorts
  | .getStats => .getStats
  | .resetStats => .resetStats
  | .pauseDatapath => .pauseDatapath
  | .resumeDatapath => .resumeDatapath

theorem command?_name (c : DatapathCommand) : command? (utf8 c.name) = some c.command := by
  cases c <;> decide +kernel

/-- A state of the daemon, in the words of the client. -/
def stateOf : DpState → DatapathState
  | .starting => .starting
  | .running => .running
  | .paused => .paused
  | .degraded => .degraded
  | .stopping => .stopping
  | .failed => .failed

def roleOf : Dpdkd.PortRole → PortRole
  | .ingress => .ingress
  | .egress => .egress

def portStateOf : PortState → DatapathPortState
  | .up => .up
  | .down => .down

/-- A port of the daemon whose name is `name`. -/
def portOf (name : NonEmptyStr) (port : PortInfo) : PortInfoModel :=
  ⟨name, port.portId.toNat, roleOf port.role, portStateOf port.state⟩

/-- The daemon has the ports, the flags and the counters of the service, and
its health snapshot agrees with them. -/
structure Shows (ingress egress : NonEmptyStr) (d : Daemon) (s : DatapathService) : Prop where
  ingressName : d.datapath.ports.ingress.name.bytes = utf8 ingress
  egressName : d.datapath.ports.egress.name.bytes = utf8 egress
  ports : s.ports = [portOf ingress d.datapath.ports.ingress, portOf egress d.datapath.ports.egress]
  started : d.datapath.started = true
  forwarding : d.datapath.portsReady = s.forwarding
  running : d.datapath.runningMessage = utf8 s.runningMessage
  paused : d.datapath.paused = s.paused
  initialized : d.datapath.stats.initialized = true
  counters : statsSnapshot d.datapath.stats = s.counters
  state : stateOf d.health.state = s.health.state
  message : d.health.message = utf8 s.health.message
  appliedRuleVersion : d.health.appliedRuleVersion = 0
  healthPortsReady : d.health.portsReady = s.forwarding
  healthPaused : d.health.paused = s.paused

variable {ingress egress : NonEmptyStr} {n0 n1 : CStr} {d : Daemon} {s : DatapathService}

theorem Shows.active (h : Shows ingress egress d s) : activeForwarding d.datapath = s.forwarding := by
  rw [activeForwarding, h.started, h.forwarding, Bool.true_and]

/-- The health of a daemon that is not paused, set from its datapath. -/
theorem refreshStartedHealth_shows {datapath : Datapath} {health : HealthSnapshot} (hp : s.paused = false)
    (hserving : Serving n0 n1 (refreshStartedHealth ⟨datapath, health⟩)) (hversion : health.appliedRuleVersion = 0)
    (hin : datapath.ports.ingress.name.bytes = utf8 ingress) (hout : datapath.ports.egress.name.bytes = utf8 egress)
    (hports : s.ports = [portOf ingress datapath.ports.ingress, portOf egress datapath.ports.egress])
    (hstarted : datapath.started = true) (hforwarding : datapath.portsReady = s.forwarding)
    (hrunning : datapath.runningMessage = utf8 s.runningMessage) (hpaused : datapath.paused = s.paused)
    (hinit : datapath.stats.initialized = true) (hcounters : statsSnapshot datapath.stats = s.counters) :
    Shows ingress egress (refreshStartedHealth ⟨datapath, health⟩) s where
  ingressName := hin
  egressName := hout
  ports := hports
  started := hstarted
  forwarding := hforwarding
  running := hrunning
  paused := hpaused
  initialized := hinit
  counters := hcounters
  state := by
    show stateOf (if datapath.portsReady then DpState.running else .degraded) = _
    rw [DatapathService.health, hp, hforwarding]
    cases s.forwarding <;> rfl
  message := by
    have hstate : (refreshStartedHealth ⟨datapath, health⟩).health.state ≠ .paused := by
      show (if datapath.portsReady then DpState.running else .degraded) ≠ .paused
      split <;> decide
    rcases hserving.health with ⟨hst, -⟩ | ⟨-, hmessage⟩
    · exact absurd hst hstate
    · rw [hmessage, DatapathService.health, hp]
      exact hrunning
  appliedRuleVersion := hversion
  healthPortsReady := hforwarding
  healthPaused := hpaused

/-- A text that fits the buffer is not cut. -/
theorem portsMessage_text {before after : String} {ports : PortsConfig} (hin : ports.ingress.name.bytes = utf8 ingress)
    (hout : ports.egress.name.bytes = utf8 egress) (h0 : (utf8 ingress).length < nameLen)
    (h1 : (utf8 egress).length < nameLen) (hlen : (utf8 before).length + (utf8 after).length ≤ 64) :
    portsMessage before after ports = utf8 (before ++ ingress ++ "/" ++ egress ++ after) := by
  have hslash : (utf8 "/").length = 1 := by decide
  unfold nameLen at h0 h1
  simp only [utf8_append]
  rw [portsMessage, hin, hout, List.take_of_length_le]
  simp only [List.length_append, JsonProto.messageLen]
  omega

/-- Every start of a daemon shows a service. -/
theorem start_shows {config : DatapathConfig} {init : DatapathInit} (hinit : datapathInit config = .ok init)
    (env : StartEnv) (hin : config.ingressPortName.bytes = utf8 ingress)
    (hout : config.egressPortName.bytes = utf8 egress) :
    Shows ingress egress (start env init) (launched env ingress egress) := by
  obtain ⟨h0, h1, hname0, hname1⟩ := names_of_datapathInit hinit
  obtain ⟨-, hports, hstats⟩ := datapathInit_eq_ok.mp hinit
  obtain ⟨-, -, -, -, -, -, -, hp⟩ := portsPrepare_eq_ok.mp hports
  have hserving : Serving _ _ (start env init) := start_serving env (by rw [hname0]; exact h0) (by rw [hname1]; exact h1)
  have hi : init.ports.ingress.name.bytes = utf8 ingress := by rw [hname0, hin]
  have ho : init.ports.egress.name.bytes = utf8 egress := by rw [hname1, hout]
  have hl0 : (utf8 ingress).length < nameLen := by rw [← hin]; exact h0
  have hl1 : (utf8 egress).length < nameLen := by rw [← hout]; exact h1
  cases env with
  | noDpdk =>
    refine refreshStartedHealth_shows rfl hserving rfl hi ho ?_ rfl rfl ?_ rfl ?_ ?_
    · show _ = [portOf ingress init.ports.ingress, portOf egress init.ports.egress]
      rw [hp]
      rfl
    · exact portsMessage_text hi ho hl0 hl1 (by decide)
    · show init.stats.initialized = true
      rw [hstats]
      rfl
    · show statsSnapshot init.stats = _
      rw [hstats]
      rfl
  | noRoot =>
    refine refreshStartedHealth_shows rfl hserving rfl hi ho ?_ rfl rfl ?_ rfl ?_ ?_
    · show _ = [portOf ingress init.ports.ingress, portOf egress init.ports.egress]
      rw [hp]
      rfl
    · exact portsMessage_text hi ho hl0 hl1 (by decide)
    · show init.stats.initialized = true
      rw [hstats]
      rfl
    · show statsSnapshot init.stats = _
      rw [hstats]
      rfl
  | dpdk ingressId egressId =>
    refine refreshStartedHealth_shows rfl hserving rfl hi ho ?_ rfl rfl ?_ rfl ?_ ?_
    · show _ = [portOf ingress { init.ports.ingress with portId := ingressId, state := .up },
        portOf egress { init.ports.egress with portId := egressId, state := .up }]
      rw [hp]
      rfl
    · exact portsMessage_text hi ho hl0 hl1 (by decide)
    · show (statsReset init.stats).initialized = true
      rw [hstats]
      rfl
    · show statsSnapshot (statsReset init.stats) = _
      rw [statsSnapshot_reset]
      rfl

/-- A command does to the daemon what it does to the service. -/
theorem runCommand_shows (hd : Serving n0 n1 d) (h0 : n0.bytes.length < nameLen) (h1 : n1.bytes.length < nameLen)
    (h : Shows ingress egress d s) (c : DatapathCommand) :
    Shows ingress egress (runCommand d c.command).1 (s.serve c).1 := by
  cases c with
  | ping => exact h
  | getVersion => exact h
  | getHealth => exact h
  | getPorts => exact h
  | getStats => exact h
  | resetStats =>
    exact { h with
      initialized := by
        show (statsReset d.datapath.stats).initialized = true
        rw [statsReset_initialized, h.initialized]
      counters := statsSnapshot_reset _ }
  | pauseDatapath =>
    show Shows _ _ (runCommand d .pauseDatapath).1 (s.setPaused _ _ _).1
    rw [runCommand, datapathSetPaused, h.active]
    by_cases hf : s.forwarding = true
    · rw [if_pos hf, setPaused_of_forwarding hf]
      exact { h with
        paused := rfl
        state := rfl
        message := by
          show copyMessage (utf8 "datapath forwarding loop paused") = utf8 "datapath forwarding loop paused"
          decide
        healthPortsReady := h.forwarding
        healthPaused := rfl }
    · rw [if_neg hf, setPaused_of_not_forwarding hf]
      exact h
  | resumeDatapath =>
    show Shows _ _ (runCommand d .resumeDatapath).1 (s.setPaused _ _ _).1
    rw [runCommand, datapathSetPaused, h.active]
    by_cases hf : s.forwarding = true
    · rw [if_pos hf, setPaused_of_forwarding hf]
      exact refreshStartedHealth_shows rfl (refreshStartedHealth_serving h0 h1 hd.ingress hd.egress hd.running)
        h.appliedRuleVersion h.ingressName h.egressName h.ports h.started h.forwarding h.running rfl h.initialized
        h.counters
    · rw [if_neg hf, setPaused_of_not_forwarding hf]
      exact h

theorem burst_shows (h : Shows ingress egress d s) (delta : DpStatsSnapshot) :
    Shows ingress egress
      { d with datapath := { d.datapath with stats := statsAdd d.datapath.stats delta } } (s.burst delta) :=
  { h with
    initialized := by
      show (statsAdd d.datapath.stats delta).initialized = true
      rw [statsAdd_initialized, h.initialized]
    counters := by
      show statsSnapshot (statsAdd d.datapath.stats delta) = _
      rw [statsSnapshot_add h.initialized, h.counters]
      rfl }

/-! ### The models read the payloads back -/

theorem ackPayload_ackJson (message : NonEmptyStr) : ackPayload (ackJson (utf8 message)) = some ⟨message⟩ := by
  have hfields := onlyFields_obj ["message"] [("message", .str (utf8 message))] (by simp)
  simp only [List.map_cons, List.map_nil] at hfields
  simp only [ackPayload, ackJson, hfields, get?_cons, ↓reduceIte, readNonEmptyStr_str, Option.bind_some, bind, pure]

theorem versionPayload_versionJson : versionPayload versionJson = some ⟨"0.1.0", "25.11.0"⟩ := by
  have hfields := onlyFields_obj ["service", "version", "dpdk_version"]
    [("service", .str (utf8 "pktlab-dpdkd")), ("version", .str (utf8 "0.1.0")), ("dpdk_version", .str (utf8 "25.11.0"))]
    (by simp)
  have hversion := readNonEmptyStr_str ⟨"0.1.0", by decide⟩
  have hdpdk := readNonEmptyStr_str ⟨"25.11.0", by decide⟩
  simp only [List.map_cons, List.map_nil] at hfields
  simp only [versionPayload, versionJson, hfields, get?_cons, String.reduceEq, ↓reduceIte, readLiteral, readStr_str,
    List.lookup_cons, beq_self_eq_true, hversion, hdpdk, Option.bind_some, bind, pure]

theorem healthPayload_healthJson (lax : Coercions) {health : HealthSnapshot} {message : String}
    (hmessage : health.message = utf8 message) :
    healthPayload lax (healthJson health) =
      some ⟨⟨stateOf health.state, message, health.appliedRuleVersion.toNat⟩, health.portsReady, health.paused⟩ := by
  have hfields := onlyFields_obj ["state", "message", "applied_rule_version", "ports_ready", "paused"]
    [("state", .str (utf8 (dpStateName health.state))), ("message", .str (utf8 message)),
      ("applied_rule_version", .num (decimal health.appliedRuleVersion.toNat)),
      ("ports_ready", boolJson health.portsReady), ("paused", boolJson health.paused)] (by simp)
  have hhealth : onlyFields ["health"] (healthJson health) = some [_] :=
    onlyFields_obj ["health"] [("health", _)] (by simp)
  have hbool : ∀ b, readBool lax (boolJson b) = some b := readBool_lit lax
  have hstate : readLiteral datapathStates (.str (utf8 (dpStateName health.state))) = some (stateOf health.state) := by
    rw [readLiteral, readStr_str, Option.bind_some]
    cases health.state <;> rfl
  simp only [List.map_cons, List.map_nil] at hfields
  simp only [healthPayload, hhealth, get?_cons, healthState, hfields, String.reduceEq, ↓reduceIte, hstate, hmessage,
    readStr_str, readNat_num, hbool, Option.bind_some, bind, pure]

theorem portInfo_portJson (lax : Coercions) {name : NonEmptyStr} {port : PortInfo} (hname : port.name.bytes = utf8 name) :
    portInfo lax (portJson port) = some (portOf name port) := by
  have hfields := onlyFields_obj ["name", "port_id", "role", "state"]
    [("name", .str (utf8 name)), ("port_id", .num (decimal port.portId.toNat)),
      ("role", .str (utf8 (JsonProto.portRoleName port.role))),
      ("state", .str (utf8 (JsonProto.portStateName port.state)))] (by simp)
  have hrole : readLiteral [("ingress", PortRole.ingress), ("egress", .egress)]
      (.str (utf8 (JsonProto.portRoleName port.role))) = some (roleOf port.role) := by
    rw [readLiteral, readStr_str, Option.bind_some]
    cases port.role <;> rfl
  have hstate : readLiteral [("up", DatapathPortState.up), ("down", .down)]
      (.str (utf8 (JsonProto.portStateName port.state))) = some (portStateOf port.state) := by
    rw [readLiteral, readStr_str, Option.bind_some]
    cases port.state <;> rfl
  simp only [List.map_cons, List.map_nil] at hfields
  simp only [portInfo, portJson, hfields, get?_cons, String.reduceEq, ↓reduceIte, hname, readNonEmptyStr_str, readNat_num,
    hrole, hstate, Option.bind_some, bind, pure]
  rfl

theorem portsPayload_portsJson (lax : Coercions) {p0 p1 : PortInfo} (h0 : p0.name.bytes = utf8 ingress)
    (h1 : p1.name.bytes = utf8 egress) :
    portsPayload lax (portsJson [p0, p1]) = some [portOf ingress p0, portOf egress p1] := by
  have hports : onlyFields ["ports"] (portsJson [p0, p1]) = some [_] :=
    onlyFields_obj ["ports"] [("ports", _)] (by simp)
  simp only [portsPayload, hports, get?_cons, ↓reduceIte, portInfos, List.map_cons, List.map_nil, List.mapM_cons,
    List.mapM_nil, portInfo_portJson lax h0, portInfo_portJson lax h1, Option.bind_some, bind, pure]

theorem statsPayload_statsJson (lax : Coercions) (s : DatapathService) :
    statsPayload lax (statsJson s.counters) = some s.stats := by
  have hfields := onlyFields_obj ["rx_packets", "tx_packets", "drop_packets", "drop_parse_errors", "drop_no_match",
      "rx_bursts", "tx_bursts", "unsent_packets", "rule_hits"]
    [("rx_packets", .num (decimal s.counters.rxPackets.toNat)), ("tx_packets", .num (decimal s.counters.txPackets.toNat)),
      ("drop_packets", .num (decimal s.counters.dropPackets.toNat)),
      ("drop_parse_errors", .num (decimal s.counters.dropParseErrors.toNat)),
      ("drop_no_match", .num (decimal s.counters.dropNoMatch.toNat)),
      ("rx_bursts", .num (decimal s.counters.rxBursts.toNat)), ("tx_bursts", .num (decimal s.counters.txBursts.toNat)),
      ("unsent_packets", .num (decimal s.counters.unsentPackets.toNat)), ("rule_hits", .obj [])] (by simp)
  have hstats : onlyFields ["stats"] (statsJson s.counters) = some [_] :=
    onlyFields_obj ["stats"] [("stats", _)] (by simp)
  simp only [List.map_cons, List.map_nil] at hfields
  simp only [statsPayload, hstats, get?_cons, ↓reduceIte, datapathStats, hfields, String.reduceEq, readNat_num, intDict,
    List.mapM_nil, Option.bind_some, bind, pure]
  rfl

/-! ### Results -/

/-- The service refuses a command exactly when the daemon does. -/
theorem serve_error_iff (c : DatapathCommand) {e : DatapathErrorModel} :
    (s.serve c).2 = .error e ↔
      (needsForwarding c.command = true ∧ s.forwarding = false) ∧
        e = ⟨.stateConflict, "datapath forwarding loop is not active"⟩ := by
  have hset : ∀ paused changed unchanged, (s.setPaused paused changed unchanged).2 = .error e ↔
      s.forwarding = false ∧ e = ⟨.stateConflict, "datapath forwarding loop is not active"⟩ := by
    intro paused changed unchanged
    by_cases hf : s.forwarding = true
    · rw [setPaused_of_forwarding hf]
      simp [hf]
    · rw [setPaused_of_not_forwarding hf]
      simp [hf, eq_comm]
  cases c with
  | pauseDatapath =>
    refine (hset true _ _).trans ?_
    simp [needsForwarding, DatapathCommand.command]
  | resumeDatapath =>
    refine (hset false _ _).trans ?_
    simp [needsForwarding, DatapathCommand.command]
  | _ => simp [serve, needsForwarding, DatapathCommand.command]

/-- What the daemon renders for a command is read back as what the service
returns. -/
theorem validatePayload_shows (lax : Coercions) (h : Shows ingress egress d s) {c : DatapathCommand} {p : Payload c}
    (hp : (s.serve c).2 = .ok p) : validatePayload lax c (payloadJson d c.command) = some p := by
  have hack : ∀ {m : NonEmptyStr} {b : List UInt8}, b = utf8 m → ackPayload (ackJson b) = some ⟨m⟩ := by
    rintro m b rfl
    exact ackPayload_ackJson m
  have hset : ∀ {paused changed unchanged} {q : AckPayload}, (s.setPaused paused changed unchanged).2 = .ok q →
      q = ⟨if s.paused = paused then unchanged else changed⟩ := by
    intro paused changed unchanged q hq
    by_cases hf : s.forwarding = true
    · rw [setPaused_of_forwarding hf] at hq
      exact (Except.ok.inj hq).symm
    · rw [setPaused_of_not_forwarding hf] at hq
      cases hq
  cases c with
  | ping =>
    obtain rfl := Except.ok.inj hp
    exact hack rfl
  | getVersion =>
    obtain rfl := Except.ok.inj hp
    exact versionPayload_versionJson
  | getHealth =>
    obtain rfl := Except.ok.inj hp
    refine (healthPayload_healthJson lax h.message).trans ?_
    rw [h.state, h.appliedRuleVersion, h.healthPortsReady, h.healthPaused]
    rfl
  | getPorts =>
    obtain rfl := Except.ok.inj hp
    rw [h.ports]
    exact portsPayload_portsJson lax h.ingressName h.egressName
  | getStats =>
    obtain rfl := Except.ok.inj hp
    show statsPayload lax (statsJson (statsSnapshot d.datapath.stats)) = _
    rw [h.counters]
    exact statsPayload_statsJson lax s
  | resetStats =>
    obtain rfl := Except.ok.inj hp
    exact hack rfl
  | pauseDatapath =>
    rw [hset hp]
    refine hack ?_
    show ackOf d .pauseDatapath = _
    rw [ackOf, h.paused]
    cases s.paused <;> rfl
  | resumeDatapath =>
    rw [hset hp]
    refine hack ?_
    show ackOf d .resumeDatapath = _
    rw [ackOf, h.paused]
    cases s.paused <;> rfl

end Ctrld
end Pktlab
