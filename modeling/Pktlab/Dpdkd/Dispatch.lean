/-
# What the daemon does with a request

The texts of the builders are bounded by the sizes of what they show, so every
builder fits its buffer on the strings a daemon can hold: port names of at
most 31 bytes, messages of at most 127, identifiers of at most 64, whatever
their bytes are. `Serving` is what every run of the daemon keeps of these
strings. With it the dispatcher is a function of the command alone: it fails
for an unknown command, and for `pause_datapath` and `resume_datapath` without
a forwarding loop, and a failure changes nothing.

Key definitions: `Serving`, `payloadText`, `failure`, `storedId`.
Key theorems: `runCommand_ok`, `run_serving`, `dispatchRequest_eq`,
`dispatch_error_unchanged`, `handleFrame_failure`, `handleFrame_success`.
-/
import Pktlab.Dpdkd.Daemon
import Pktlab.Dpdkd.JsonBounds

namespace Pktlab
namespace Dpdkd

open Utf8 Rfc8259 Decimal JsonProto

/-! ### The builders fit their buffers -/

theorem snprintf_fits {cap : ℕ} {text : List UInt8} (h : text.length < cap) : snprintf cap text = some text := by
  rw [snprintf, if_neg (Nat.not_le.mpr h)]

theorem ack_short {message : List UInt8} (hlen : message.length ≤ 127) :
    (ackText (escapeText message)).length < payloadCap := by
  have h := escapeText_length message
  have h1 : (utf8 "\x7b\"message\":\"").length = 12 := by decide
  have h2 : (utf8 "\"\x7d").length = 2 := by decide
  simp only [ackText, List.length_append, h1, h2, payloadCap]
  omega

theorem makeAckPayload_eq {message : List UInt8} (hlen : message.length ≤ 127) :
    makeAckPayload message payloadCap = some (ackText (escapeText message)) := by
  rw [makeAckPayload, escapeString_fits (by unfold messageLen; omega), Option.bind_some]
  exact snprintf_fits (ack_short hlen)

theorem version_short : versionText.length < payloadCap := by decide +kernel

theorem health_short {health : HealthSnapshot} (hlen : health.message.length ≤ 127) :
    (healthText health (escapeText health.message)).length < payloadCap := by
  have hm := escapeText_length health.message
  have hv := length_decimal_le (n := health.appliedRuleVersion.toNat) (k := 10) (by decide)
    (lt_trans health.appliedRuleVersion.toNat_lt (by decide))
  have hstate : (utf8 (dpStateName health.state)).length ≤ 8 := by cases health.state <;> decide
  have hbool : ∀ b, (boolName b).length ≤ 5 := by decide
  have hb1 := hbool health.portsReady
  have hb2 := hbool health.paused
  have hlit : ∀ s ∈ ["\x7b\"health\":\x7b\"state\":\"", "\",\"message\":\"",
      "\",\"applied_rule_version\":", ",\"ports_ready\":", ",\"paused\":", "\x7d\x7d"],
      (utf8 s).length ≤ 32 := by decide
  simp only [List.forall_mem_cons, List.not_mem_nil, false_implies, implies_true, and_true] at hlit
  simp only [healthText, List.length_append, payloadCap]
  omega

theorem makeHealthPayload_eq {health : HealthSnapshot} (hlen : health.message.length ≤ 127) :
    makeHealthPayload health payloadCap = some (healthText health (escapeText health.message)) := by
  rw [makeHealthPayload, escapeString_fits (by unfold messageLen; omega), Option.bind_some]
  exact snprintf_fits (health_short hlen)

theorem stats_short (stats : DpStatsSnapshot) : (statsText stats).length < payloadCap := by
  have hd : ∀ n : UInt64, (decimal n.toNat).length ≤ 20 := fun n =>
    length_decimal_le (by decide) (lt_trans n.toNat_lt (by decide))
  have h1 := hd stats.rxPackets
  have h2 := hd stats.txPackets
  have h3 := hd stats.dropPackets
  have h4 := hd stats.dropParseErrors
  have h5 := hd stats.dropNoMatch
  have h6 := hd stats.rxBursts
  have h7 := hd stats.txBursts
  have h8 := hd stats.unsentPackets
  have hlit : ∀ s ∈ ["\x7b\"stats\":\x7b\"rx_packets\":", ",\"tx_packets\":", ",\"drop_packets\":",
      ",\"drop_parse_errors\":", ",\"drop_no_match\":", ",\"rx_bursts\":", ",\"tx_bursts\":",
      ",\"unsent_packets\":", ",\"rule_hits\":\x7b\x7d\x7d\x7d"], (utf8 s).length ≤ 32 := by decide
  simp only [List.forall_mem_cons, List.not_mem_nil, false_implies, implies_true, and_true] at hlit
  simp only [statsText, List.length_append, payloadCap]
  omega

/-- The text of a port with its name escaped. -/
def portText (port : PortInfo) : List UInt8 := portItem true (escapeText port.name.bytes) port

theorem portItem_later (name : List UInt8) (port : PortInfo) :
    portItem false name port = ascii ',' :: portItem true name port := rfl

theorem portText_length {port : PortInfo} (hlen : port.name.bytes.length < nameLen) :
    (portText port).length ≤ 200 := by
  have hm := escapeText_length port.name.bytes
  have hv := length_decimal_le (n := port.portId.toNat) (k := 5) (by decide)
    (lt_trans port.portId.toNat_lt (by decide))
  have hrole : (utf8 (portRoleName port.role)).length ≤ 7 := by cases port.role <;> decide
  have hstate : (utf8 (portStateName port.state)).length ≤ 4 := by cases port.state <;> decide
  have hlit : ∀ s ∈ ["\x7b\"name\":\"", "\",\"port_id\":", ",\"role\":\"", "\",\"state\":\"", "\"\x7d"],
      (utf8 s).length ≤ 20 := by decide
  simp only [List.forall_mem_cons, List.not_mem_nil, false_implies, implies_true, and_true] at hlit
  unfold portText portItem
  unfold nameLen at hlen
  simp only [List.length_append, ↓reduceIte, List.length_nil]
  omega

/-- The payload of two ports. -/
def portsText (p0 p1 : PortInfo) : List UInt8 :=
  utf8 "\x7b\"ports\":[" ++ portText p0 ++ ascii ',' :: portText p1 ++ utf8 "]\x7d"

theorem ports_short {p0 p1 : PortInfo} (h0 : p0.name.bytes.length < nameLen)
    (h1 : p1.name.bytes.length < nameLen) : (portsText p0 p1).length < payloadCap := by
  have hl0 := portText_length h0
  have hl1 := portText_length h1
  have hlit : (utf8 "\x7b\"ports\":[").length = 10 ∧ (utf8 "]\x7d").length = 2 := by decide
  simp only [portsText, List.length_append, List.length_cons, payloadCap]
  omega

/-- The ports one after the other, each with a comma but the first. -/
def portsItems : Bool → List PortInfo → List UInt8
  | _, [] => []
  | first, port :: ports => portItem first (escapeText port.name.bytes) port ++ portsItems false ports

/-- The payload of any number of ports. -/
def portsReference (ports : List PortInfo) : List UInt8 :=
  utf8 "\x7b\"ports\":[" ++ (utf8 ",").intercalate (ports.map portText) ++ utf8 "]\x7d"

theorem portsItems_eq : ∀ ports : List PortInfo, portsItems true ports = (utf8 ",").intercalate (ports.map portText)
  | [] => rfl
  | [port] => by
    rw [portsItems, portsItems, List.append_nil, List.map_singleton, List.intercalate_singleton]
    rfl
  | port :: port' :: ports => by
    have ih := portsItems_eq (port' :: ports)
    have hcomma : utf8 "," = [ascii ','] := by decide
    rw [portsItems] at ih
    rw [portsItems, portsItems, portItem_later, List.map_cons, List.map_cons, List.intercalate_cons_cons,
      ← List.map_cons, ← ih, hcomma, List.append_assoc, List.singleton_append, List.cons_append]
    rfl

/-- The loop succeeds exactly when what is written, the ports, the brackets
and the terminator fit. -/
theorem portsLoop_eq {cap : ℕ} : ∀ (ports : List PortInfo) (first : Bool) (written : List UInt8),
    (∀ port ∈ ports, port.name.bytes.length < nameLen) →
    portsLoop cap first written ports =
      if written.length + (portsItems first ports).length + 2 < cap then
        some (written ++ portsItems first ports ++ utf8 "]\x7d")
      else none
  | [], first, written, _ => by
    rw [portsLoop, portsItems, List.length_nil, List.append_nil]
    by_cases hfull : written.length + 3 > cap
    · rw [if_pos hfull, if_neg (by omega)]
    · rw [if_neg hfull, if_pos (by omega)]
  | port :: ports, first, written, h => by
    obtain ⟨hport, hrest⟩ := List.forall_mem_cons.mp h
    rw [portsLoop, escapeString_fits (by unfold nameLen at hport ⊢; omega), portsItems, List.length_append]
    simp only
    by_cases hfull : (portItem first (escapeText port.name.bytes) port).length ≥ cap - written.length
    · rw [if_pos hfull, if_neg (by omega)]
    · rw [if_neg hfull, portsLoop_eq ports false _ hrest, List.length_append, List.append_assoc written, Nat.add_assoc,
        Nat.add_assoc, Nat.add_assoc, Nat.add_assoc]

/-- **Exact ports.** The payload is rendered exactly when it and its
terminator fit. -/
theorem makePortsPayload_fits {ports : List PortInfo} (h : ∀ port ∈ ports, port.name.bytes.length < nameLen)
    (cap : ℕ) : makePortsPayload ports cap =
      if (portsReference ports).length < cap then some (portsReference ports) else none := by
  have hopen : (utf8 "\x7b\"ports\":[").length = 10 := by decide
  have hclose : (utf8 "]\x7d").length = 2 := by decide
  unfold makePortsPayload portsReference
  rw [← portsItems_eq]
  simp only [List.length_append, hopen, hclose]
  by_cases h0 : cap = 0
  · rw [if_pos h0, if_neg (by omega)]
  · by_cases h10 : 10 ≥ cap
    · rw [if_neg h0, if_pos h10, if_neg (by omega)]
    · rw [if_neg h0, if_neg h10, portsLoop_eq ports true _ h, hopen]

theorem makePortsPayload_eq {p0 p1 : PortInfo} (h0 : p0.name.bytes.length < nameLen)
    (h1 : p1.name.bytes.length < nameLen) :
    makePortsPayload [p0, p1] payloadCap = some (portsText p0 p1) := by
  have htext : portsReference [p0, p1] = portsText p0 p1 := by
    rw [portsReference, ← portsItems_eq, portsItems, portsItems, portsItems, portItem_later, List.append_nil]
    simp only [portsText, portText, List.append_assoc]
  have hnames : ∀ port ∈ [p0, p1], port.name.bytes.length < nameLen := by
    simp only [List.forall_mem_cons, List.not_mem_nil, false_implies, implies_true, and_true]
    exact ⟨h0, h1⟩
  rw [makePortsPayload_fits hnames, htext, if_pos (ports_short h0 h1)]

theorem success_short {id payload : List UInt8} (hlen : id.length ≤ 64) (hp : payload.length < payloadCap) :
    (successText (escapeText id) payload).length < maxFrameSize := by
  have hm := escapeText_length id
  have hlit : ∀ s ∈ ["\x7b\"id\":\"", "\",\"ok\":true,\"payload\":", "\x7d"], (utf8 s).length ≤ 32 := by
    decide
  simp only [List.forall_mem_cons, List.not_mem_nil, false_implies, implies_true, and_true] at hlit
  unfold payloadCap at hp
  simp only [successText, List.length_append, maxFrameSize]
  omega

theorem makeSuccess_eq {id payload : List UInt8} (hlen : id.length ≤ 64) (hp : payload.length < payloadCap) :
    makeSuccess id payload maxFrameSize = .ok (successText (escapeText id) payload) := by
  rw [makeSuccess, escapeString_fits (by unfold maxIdLen; omega)]
  simp only [snprintf_fits (success_short hlen hp)]

/-- The text of an error response. -/
def errorResponse (id : List UInt8) (e : DpdkdError) : List UInt8 :=
  errorText (escapeText id) (utf8 (errorCodeName e.code)) (escapeText (utf8 e.message))

theorem error_short {id : List UInt8} {e : DpdkdError} (hlen : id.length ≤ 64) (he : Sayable e.message) :
    (errorResponse id e).length < maxFrameSize := by
  have hm := escapeText_length id
  have hm' := escapeText_length (utf8 e.message)
  have hcode : (utf8 (errorCodeName e.code)).length ≤ 32 := by cases e.code <;> decide
  have hlit : ∀ s ∈ ["\x7b\"id\":\"", "\",\"ok\":false,\"error\":\x7b\"code\":\"",
      "\",\"message\":\"", "\"\x7d\x7d"], (utf8 s).length ≤ 32 := by decide
  simp only [List.forall_mem_cons, List.not_mem_nil, false_implies, implies_true, and_true] at hlit
  have := he.2.1
  simp only [errorResponse, errorText, List.length_append, maxFrameSize]
  omega

/-- The identifier an error response shows. -/
def shownId (id : List UInt8) : List UInt8 := if id = [] then utf8 "unknown" else id

theorem shownId_length {id : List UInt8} (hlen : id.length ≤ 64) : (shownId id).length ≤ 64 := by
  unfold shownId
  split
  · decide
  · exact hlen

theorem makeError_eq {id : List UInt8} {e : DpdkdError} (hlen : id.length ≤ 64) (he : Sayable e.message) :
    makeError id e maxFrameSize = some (errorResponse (shownId id) e) := by
  have hlen' := shownId_length hlen
  have hid : escapeString (shownId id) (maxIdLen * 2 + 1) = some (escapeText (shownId id)) :=
    escapeString_fits (by unfold maxIdLen; omega)
  have hmsg : escapeString (utf8 e.message) 256 = some (escapeText (utf8 e.message)) :=
    escapeString_fits (by have := he.2.1; omega)
  have hsnp := snprintf_fits (error_short hlen' he)
  unfold shownId at hid hsnp ⊢
  simp only [makeError, he.1, ↓reduceIte, hid, hmsg]
  exact hsnp

/-! ### The states of a run -/

/-- A daemon that serves with the ports `n0` and `n1`: its running message is
made of their names, and its health message is that one or the one of a pause. -/
structure Serving (n0 n1 : CStr) (d : Daemon) : Prop where
  ingress : d.datapath.ports.ingress.name = n0
  egress : d.datapath.ports.egress.name = n1
  running : ∃ before after : String,
    d.datapath.runningMessage = utf8 before ++ n0.bytes ++ utf8 "/" ++ n1.bytes ++ utf8 after ∧
      (utf8 before).length + (utf8 after).length ≤ 64 ∧
      (∀ c ∈ utf8 before, isPlain c = true) ∧ ∀ c ∈ utf8 after, isPlain c = true
  health : (d.health.state = .paused ∧ d.health.message = utf8 "datapath forwarding loop paused") ∨
    (d.health.state ≠ .paused ∧ d.health.message = d.datapath.runningMessage)

variable {n0 n1 : CStr}

theorem Serving.running_length {d : Daemon} (h : Serving n0 n1 d) (h0 : n0.bytes.length < nameLen)
    (h1 : n1.bytes.length < nameLen) : d.datapath.runningMessage.length ≤ 127 := by
  obtain ⟨before, after, hm, hlen, -⟩ := h.running
  have hs : (utf8 "/").length = 1 := by decide
  unfold nameLen at h0 h1
  rw [hm]
  simp only [List.length_append]
  omega

theorem Serving.message_length {d : Daemon} (h : Serving n0 n1 d) (h0 : n0.bytes.length < nameLen)
    (h1 : n1.bytes.length < nameLen) : d.health.message.length ≤ 127 := by
  rcases h.health with ⟨-, hm⟩ | ⟨-, hm⟩
  · rw [hm]
    decide
  · rw [hm]
    exact h.running_length h0 h1

/-- Setting the health from a running message keeps it whole. -/
theorem refreshStartedHealth_serving {d : Daemon} (h0 : n0.bytes.length < nameLen)
    (h1 : n1.bytes.length < nameLen) (hin : d.datapath.ports.ingress.name = n0)
    (hout : d.datapath.ports.egress.name = n1)
    (hrun : ∃ before after : String,
      d.datapath.runningMessage = utf8 before ++ n0.bytes ++ utf8 "/" ++ n1.bytes ++ utf8 after ∧
        (utf8 before).length + (utf8 after).length ≤ 64 ∧
        (∀ c ∈ utf8 before, isPlain c = true) ∧ ∀ c ∈ utf8 after, isPlain c = true) :
    Serving n0 n1 (refreshStartedHealth d) := by
  refine ⟨hin, hout, hrun, Or.inr ⟨?_, ?_⟩⟩
  · show (if d.datapath.portsReady then DpState.running else .degraded) ≠ .paused
    split <;> decide
  · obtain ⟨before, after, hm, hlen, -⟩ := hrun
    have hs : (utf8 "/").length = 1 := by decide
    have hle : d.datapath.runningMessage.length ≤ messageLen - 1 := by
      unfold nameLen at h0 h1
      rw [hm]
      simp only [List.length_append, messageLen]
      omega
    have hne : d.datapath.runningMessage ≠ [] := by
      have hs' : utf8 "/" ≠ [] := by decide
      rw [hm]
      simp [hs']
    show copyMessage (datapathRunningMessage d.datapath) = d.datapath.runningMessage
    rw [datapathRunningMessage, if_neg hne, copyMessage, List.take_of_length_le hle,
      List.take_of_length_le hle]

theorem start_serving {init : DatapathInit} (env : StartEnv)
    (h0 : init.ports.ingress.name.bytes.length < nameLen)
    (h1 : init.ports.egress.name.bytes.length < nameLen) :
    Serving init.ports.ingress.name init.ports.egress.name (start env init) := by
  have hmsg : ∀ (before after : String) (ports : PortsConfig), ports.ingress.name = init.ports.ingress.name →
      ports.egress.name = init.ports.egress.name → (utf8 before).length + (utf8 after).length ≤ 64 →
      portsMessage before after ports = utf8 before ++ init.ports.ingress.name.bytes ++ utf8 "/" ++
        init.ports.egress.name.bytes ++ utf8 after := by
    intro before after ports hi he hlen
    have hs : (utf8 "/").length = 1 := by decide
    rw [portsMessage, hi, he, List.take_of_length_le]
    unfold nameLen at h0 h1
    simp only [List.length_append, messageLen]
    omega
  cases env with
  | noDpdk =>
    exact refreshStartedHealth_serving h0 h1 rfl rfl
      ⟨_, _, hmsg _ _ _ rfl rfl (by decide), by decide, by decide, by decide⟩
  | noRoot =>
    exact refreshStartedHealth_serving h0 h1 rfl rfl
      ⟨_, _, hmsg _ _ _ rfl rfl (by decide), by decide, by decide, by decide⟩
  | dpdk i e =>
    exact refreshStartedHealth_serving h0 h1 rfl rfl
      ⟨_, _, hmsg _ _ _ rfl rfl (by decide), by decide, by decide, by decide⟩

theorem refreshPausedHealth_serving {d : Daemon} (h : Serving n0 n1 d) (datapath : Datapath)
    (hp : datapath.ports = d.datapath.ports) (hr : datapath.runningMessage = d.datapath.runningMessage) :
    Serving n0 n1 (refreshPausedHealth { d with datapath := datapath }) := by
  refine ⟨?_, ?_, ?_, Or.inl ⟨rfl, ?_⟩⟩
  · show datapath.ports.ingress.name = n0
    rw [hp, h.ingress]
  · show datapath.ports.egress.name = n1
    rw [hp, h.egress]
  · show ∃ before after : String, datapath.runningMessage = _ ∧ _
    rw [hr]
    exact h.running
  · show copyMessage (utf8 "datapath forwarding loop paused") = _
    decide

theorem runCommand_serving {d : Daemon} (h : Serving n0 n1 d) (h0 : n0.bytes.length < nameLen)
    (h1 : n1.bytes.length < nameLen) (c : Command) : Serving n0 n1 (runCommand d c).1 := by
  cases c with
  | ping => exact h
  | getVersion => exact h
  | getHealth => exact h
  | getPorts => exact h
  | getStats => exact h
  | resetStats => exact ⟨h.ingress, h.egress, h.running, h.health⟩
  | pauseDatapath =>
    rw [runCommand, datapathSetPaused]
    by_cases ha : activeForwarding d.datapath = true
    · rw [if_pos ha]
      exact refreshPausedHealth_serving h _ rfl rfl
    · rw [if_neg ha]
      exact h
  | resumeDatapath =>
    rw [runCommand, datapathSetPaused]
    by_cases ha : activeForwarding d.datapath = true
    · rw [if_pos ha]
      exact refreshStartedHealth_serving h0 h1 h.ingress h.egress h.running
    · rw [if_neg ha]
      exact h

theorem handleFrame_state (d : Daemon) (frame : List UInt8) :
    (handleFrame d frame).1 = d ∨ ∃ c, (handleFrame d frame).1 = (runCommand d c).1 := by
  unfold handleFrame
  rcases parseRequest frame with ⟨request, e | u⟩
  · cases e <;> exact Or.inl rfl
  · simp only [dispatchRequest]
    cases command? (cString request.cmd) with
    | none => exact Or.inl rfl
    | some c =>
      refine Or.inr ⟨c, ?_⟩
      simp only
      rcases runCommand d c with ⟨d', e | payload⟩
      · rfl
      · simp only
        cases makeSuccess (cString request.id) payload maxFrameSize <;> rfl

theorem daemonStep_serving {d d' : Daemon} {e : Event} (h0 : n0.bytes.length < nameLen)
    (h1 : n1.bytes.length < nameLen) (h : Serving n0 n1 d) (hs : daemonStep d e = some d') :
    Serving n0 n1 d' := by
  cases e with
  | frame bytes =>
    rw [daemonStep, Option.some.injEq] at hs
    rcases handleFrame_state d bytes with hd | ⟨c, hd⟩
    · rw [← hs, hd]
      exact h
    · rw [← hs, hd]
      exact runCommand_serving h h0 h1 c
  | burst delta =>
    rw [daemonStep, Option.some.injEq] at hs
    rw [← hs]
    exact ⟨h.ingress, h.egress, h.running, h.health⟩

/-- The names of an accepted configuration are those of the ports, and short. -/
theorem names_of_datapathInit {config : DatapathConfig} {init : DatapathInit}
    (hinit : datapathInit config = .ok init) :
    config.ingressPortName.bytes.length < nameLen ∧ config.egressPortName.bytes.length < nameLen ∧
      init.ports.ingress.name = config.ingressPortName ∧ init.ports.egress.name = config.egressPortName := by
  obtain ⟨-, hports, -⟩ := datapathInit_eq_ok.mp hinit
  obtain ⟨-, -, -, -, ⟨-, h0⟩, ⟨-, h1⟩, -, hp⟩ := portsPrepare_eq_ok.mp hports
  exact ⟨h0, h1, by rw [hp], by rw [hp]⟩

/-- Every state of a run serves with the configured names. -/
theorem run_serving {config : DatapathConfig} {init : DatapathInit} (hinit : datapathInit config = .ok init)
    (env : StartEnv) {events : List Event} {d : Daemon}
    (hrun : Run.run daemonStep (start env init) events = some d) :
    Serving config.ingressPortName config.egressPortName d := by
  obtain ⟨h0, h1, hin, hout⟩ := names_of_datapathInit hinit
  have hstart : Serving config.ingressPortName config.egressPortName (start env init) := by
    rw [← hin, ← hout]
    exact start_serving env (by rw [hin]; exact h0) (by rw [hout]; exact h1)
  exact Run.run_induction (fun _ _ _ hs he => daemonStep_serving h0 h1 hs he) hstart hrun

/-! ### The dispatcher -/

/-- The acknowledgement of a command that has one. -/
def ackOf (d : Daemon) : Command → List UInt8
  | .ping => utf8 "pong"
  | .resetStats => utf8 "datapath counters reset"
  | .pauseDatapath =>
    if d.datapath.paused then utf8 "datapath forwarding loop is already paused"
    else utf8 "datapath forwarding loop paused"
  | .resumeDatapath =>
    if d.datapath.paused then utf8 "datapath forwarding loop resumed"
    else utf8 "datapath forwarding loop is already running"
  | _ => []

/-- A command that needs the forwarding loop. -/
def needsForwarding : Command → Bool
  | .pauseDatapath => true
  | .resumeDatapath => true
  | _ => false

/-- The payload of a command. -/
def payloadText (d : Daemon) : Command → List UInt8
  | .getVersion => versionText
  | .getHealth => healthText d.health (escapeText d.health.message)
  | .getPorts => portsText d.datapath.ports.ingress d.datapath.ports.egress
  | .getStats => statsText (statsSnapshot d.datapath.stats)
  | c => ackText (escapeText (ackOf d c))

theorem ackOf_sayable (d : Daemon) (c : Command) : ∃ s : String, ackOf d c = utf8 s ∧ (utf8 s).length ≤ 127 ∧
    ∀ c ∈ utf8 s, isPlain c = true := by
  cases c with
  | ping => exact ⟨"pong", rfl, by decide, by decide⟩
  | resetStats => exact ⟨"datapath counters reset", rfl, by decide, by decide⟩
  | pauseDatapath =>
    rw [ackOf]
    cases d.datapath.paused with
    | true => exact ⟨"datapath forwarding loop is already paused", rfl, by decide, by decide⟩
    | false => exact ⟨"datapath forwarding loop paused", rfl, by decide, by decide⟩
  | resumeDatapath =>
    rw [ackOf]
    cases d.datapath.paused with
    | true => exact ⟨"datapath forwarding loop resumed", rfl, by decide, by decide⟩
    | false => exact ⟨"datapath forwarding loop is already running", rfl, by decide, by decide⟩
  | getVersion => exact ⟨"", rfl, by decide, by decide⟩
  | getHealth => exact ⟨"", rfl, by decide, by decide⟩
  | getPorts => exact ⟨"", rfl, by decide, by decide⟩
  | getStats => exact ⟨"", rfl, by decide, by decide⟩

theorem ackOf_length (d : Daemon) (c : Command) : (ackOf d c).length ≤ 127 := by
  obtain ⟨s, hs, hlen, -⟩ := ackOf_sayable d c
  rw [hs]
  exact hlen

theorem payloadText_short {d : Daemon} (h : Serving n0 n1 d) (h0 : n0.bytes.length < nameLen)
    (h1 : n1.bytes.length < nameLen) (c : Command) : (payloadText d c).length < payloadCap := by
  have hin : d.datapath.ports.ingress.name.bytes.length < nameLen := by rw [h.ingress]; exact h0
  have hout : d.datapath.ports.egress.name.bytes.length < nameLen := by rw [h.egress]; exact h1
  cases c with
  | getVersion => exact version_short
  | getHealth => exact health_short (h.message_length h0 h1)
  | getPorts => exact ports_short hin hout
  | getStats => exact stats_short _
  | ping => exact ack_short (ackOf_length d .ping)
  | resetStats => exact ack_short (ackOf_length d .resetStats)
  | pauseDatapath => exact ack_short (ackOf_length d .pauseDatapath)
  | resumeDatapath => exact ack_short (ackOf_length d .resumeDatapath)

/-- Every command that can run renders its payload. -/
theorem runCommand_ok {d : Daemon} (h : Serving n0 n1 d) (h0 : n0.bytes.length < nameLen)
    (h1 : n1.bytes.length < nameLen) {c : Command}
    (hc : needsForwarding c = true → activeForwarding d.datapath = true) :
    (runCommand d c).2 = .ok (payloadText d c) := by
  have hack : ∀ c, makeAckPayload (ackOf d c) payloadCap = some (ackText (escapeText (ackOf d c))) := fun c =>
    makeAckPayload_eq (ackOf_length d c)
  cases c with
  | ping =>
    rw [runCommand, makePongPayload, show utf8 "pong" = ackOf d .ping from rfl, hack]
    rfl
  | getVersion =>
    rw [runCommand, makeVersionPayload, snprintf_fits version_short]
    rfl
  | getHealth =>
    rw [runCommand, makeHealthPayload_eq (h.message_length h0 h1)]
    rfl
  | getPorts =>
    have h0' : d.datapath.ports.ingress.name.bytes.length < nameLen := by rw [h.ingress]; exact h0
    have h1' : d.datapath.ports.egress.name.bytes.length < nameLen := by rw [h.egress]; exact h1
    rw [runCommand, makePortsPayload_eq h0' h1']
    rfl
  | getStats =>
    rw [runCommand, makeStatsPayload, snprintf_fits (stats_short _)]
    rfl
  | resetStats =>
    rw [runCommand, show utf8 "datapath counters reset" = ackOf d .resetStats from rfl, hack]
    rfl
  | pauseDatapath =>
    have hmsg : (if d.datapath.paused != true then utf8 "datapath forwarding loop paused"
        else utf8 "datapath forwarding loop is already paused") = ackOf d .pauseDatapath := by
      rw [ackOf]
      cases d.datapath.paused <;> rfl
    rw [runCommand, datapathSetPaused, if_pos (hc rfl)]
    simp only [hmsg, hack, orInternal]
    rfl
  | resumeDatapath =>
    have hmsg : (if d.datapath.paused != false then utf8 "datapath forwarding loop resumed"
        else utf8 "datapath forwarding loop is already running") = ackOf d .resumeDatapath := by
      rw [ackOf]
      cases d.datapath.paused <;> rfl
    rw [runCommand, datapathSetPaused, if_pos (hc rfl)]
    simp only [hmsg, hack, orInternal]
    rfl

/-- A command that needs the forwarding loop does nothing without one. -/
theorem runCommand_inactive {d : Daemon} {c : Command} (hc : needsForwarding c = true)
    (ha : activeForwarding d.datapath = false) : runCommand d c = (d, .error notActive) := by
  cases c with
  | pauseDatapath => rw [runCommand, datapathSetPaused, if_neg (by simp [ha])]
  | resumeDatapath => rw [runCommand, datapathSetPaused, if_neg (by simp [ha])]
  | ping => exact absurd hc (by decide)
  | getVersion => exact absurd hc (by decide)
  | getHealth => exact absurd hc (by decide)
  | getPorts => exact absurd hc (by decide)
  | getStats => exact absurd hc (by decide)
  | resetStats => exact absurd hc (by decide)

/-- The error with which the dispatcher answers a command, if it does. -/
def dispatchFailure (d : Daemon) (cmd : List UInt8) : Option DpdkdError :=
  match command? cmd with
  | none => some unknownCommand
  | some c => if needsForwarding c && !activeForwarding d.datapath then some notActive else none

/-- The dispatcher, without the buffers. -/
theorem dispatchRequest_eq {d : Daemon} (h : Serving n0 n1 d) (h0 : n0.bytes.length < nameLen)
    (h1 : n1.bytes.length < nameLen) {request : IpcRequest} (hid : (cString request.id).length ≤ 64) :
    (∃ e, dispatchFailure d (cString request.cmd) = some e ∧ dispatchRequest d request = (d, .error e)) ∨
      (dispatchFailure d (cString request.cmd) = none ∧ ∃ c, command? (cString request.cmd) = some c ∧
        dispatchRequest d request =
          ((runCommand d c).1, .ok (successText (escapeText (cString request.id)) (payloadText d c)))) := by
  unfold dispatchFailure dispatchRequest
  cases hc : command? (cString request.cmd) with
  | none => exact Or.inl ⟨_, rfl, rfl⟩
  | some c =>
    simp only
    by_cases hneed : needsForwarding c = true ∧ activeForwarding d.datapath = false
    · refine Or.inl ⟨notActive, ?_, ?_⟩
      · rw [if_pos (by simp [hneed.1, hneed.2])]
      · rw [runCommand_inactive hneed.1 hneed.2]
    · have hactive : needsForwarding c = true → activeForwarding d.datapath = true := fun hn => by
        by_contra ha
        exact hneed ⟨hn, by simpa using ha⟩
      have hok := runCommand_ok h h0 h1 hactive
      refine Or.inr ⟨?_, c, rfl, ?_⟩
      · rw [if_neg]
        intro hf
        simp only [Bool.and_eq_true, Bool.not_eq_true'] at hf
        exact hneed hf
      · rcases hrun : runCommand d c with ⟨d', e | payload⟩
        · rw [hrun] at hok
          cases hok
        · rw [hrun] at hok
          cases hok
          simp only [makeSuccess_eq hid (payloadText_short h h0 h1 c)]

/-- **Errors change nothing.** In every state of a run, the dispatcher returns
an error only for a command it does not know, or for a pause or resume while
the forwarding loop is not active, and then the daemon is as it was. No
builder and no buffer is the reason of an error. -/
theorem dispatch_error_unchanged {config : DatapathConfig} {init : DatapathInit}
    (hinit : datapathInit config = .ok init) (env : StartEnv) {events : List Event} {d : Daemon}
    (hrun : Run.run daemonStep (start env init) events = some d) (request : IpcRequest)
    (hid : (cString request.id).length ≤ 64) {d' : Daemon} {e : DpdkdError}
    (herr : dispatchRequest d request = (d', .error e)) :
    d' = d ∧
      ((command? (cString request.cmd) = none ∧ e = unknownCommand) ∨
        ((command? (cString request.cmd) = some .pauseDatapath ∨
            command? (cString request.cmd) = some .resumeDatapath) ∧
          (d.datapath.started = false ∨ d.datapath.portsReady = false) ∧ e = notActive)) := by
  obtain ⟨h0, h1, -, -⟩ := names_of_datapathInit hinit
  rcases dispatchRequest_eq (run_serving hinit env hrun) h0 h1 hid with ⟨e', hf, hd⟩ | ⟨-, c, -, hd⟩
  · rw [hd, Prod.mk.injEq, Except.error.injEq] at herr
    obtain ⟨rfl, rfl⟩ := herr
    refine ⟨rfl, ?_⟩
    unfold dispatchFailure at hf
    cases hc : command? (cString request.cmd) with
    | none =>
      rw [hc] at hf
      exact Or.inl ⟨rfl, (Option.some.inj hf).symm⟩
    | some c =>
      rw [hc] at hf
      simp only [Option.ite_none_right_eq_some, Bool.and_eq_true, Bool.not_eq_true', Option.some.injEq,
        activeForwarding, Bool.and_eq_false_iff] at hf
      obtain ⟨⟨hneed, hactive⟩, rfl⟩ := hf
      refine Or.inr ⟨?_, hactive, rfl⟩
      cases c <;> simp_all [needsForwarding]
  · rw [hd] at herr
    cases herr

/-- A datapath with the default configuration. -/
def defaultInit : DatapathInit where
  eal :=
    { lcores := defaultConfig.lcores
      hugepagesMb := 256
      ingressVdevName := utf8 "net_tap0"
      ingressVdevArg := vdevArg "net_tap0" defaultConfig.ingressPortName
      egressVdevName := utf8 "net_tap1"
      egressVdevArg := vdevArg "net_tap1" defaultConfig.egressPortName }
  ports :=
    { burstSize := 32
      rxQueueSize := 256
      txQueueSize := 256
      mempoolSize := 4096
      ingress := ⟨defaultConfig.ingressPortName, 0, .ingress, .down⟩
      egress := ⟨defaultConfig.egressPortName, 1, .egress, .down⟩ }
  stats := statsInit

/-- A pause of a datapath without DPDK. -/
def pauseRequest : IpcRequest := ⟨utf8 "a", utf8 "pause_datapath"⟩

theorem dispatch_error_pause :
    dispatchRequest (start .noDpdk defaultInit) pauseRequest = (start .noDpdk defaultInit, .error notActive) ∧
      ((start .noDpdk defaultInit).datapath.started = false ∨
        (start .noDpdk defaultInit).datapath.portsReady = false) := by
  have hinit : datapathInit defaultConfig = .ok defaultInit := by decide +kernel
  have hrun : Run.run daemonStep (start .noDpdk defaultInit) [] = some (start .noDpdk defaultInit) := rfl
  have hd : dispatchRequest (start .noDpdk defaultInit) pauseRequest =
      (start .noDpdk defaultInit, .error notActive) := by decide +kernel
  refine ⟨hd, ?_⟩
  rcases (dispatch_error_unchanged hinit .noDpdk hrun pauseRequest (by decide +kernel) hd).2 with
    ⟨-, he⟩ | ⟨-, hactive, -⟩
  · exact absurd he (by decide)
  · exact hactive

/-! ### Frames -/

/-- The error with which the daemon answers a frame, if it does: the parser's,
an unknown command, or a command that needs a forwarding loop without one. -/
def failure (d : Daemon) (frame : List UInt8) : Option DpdkdError :=
  match parseRequest frame with
  | (_, .error (.rejected e)) => some e
  | (_, .error _) => none
  | (request, .ok ()) =>
    match command? (cString request.cmd) with
    | none => some unknownCommand
    | some c => if needsForwarding c && !activeForwarding d.datapath then some notActive else none

/-- The identifier the daemon stores for a frame. -/
def storedId (frame : List UInt8) : List UInt8 := cString (parseRequest frame).1.id

theorem storedId_length (frame : List UInt8) : (storedId frame).length ≤ 64 := by
  have h := parseRequest_id frame
  have hle : (storedId frame).length ≤ (parseRequest frame).1.id.length :=
    (List.takeWhile_sublist _).length_le
  unfold idCap at h
  omega

/-- What becomes of a frame: the parser refuses it, or the dispatcher gets it. -/
theorem failure_cases (d : Daemon) (frame : List UInt8) :
    (∃ request e, parseRequest frame = (request, .error (.rejected e)) ∧ failure d frame = some e ∧
        Sayable e.message ∧ handleFrame d frame = (d, makeError (cString request.id) e maxFrameSize)) ∨
      ∃ request, parseRequest frame = (request, .ok ()) ∧
        failure d frame = dispatchFailure d (cString request.cmd) := by
  rcases hp : parseRequest frame with ⟨request, err | u⟩
  · rcases parseRequest_settles frame with hok | ⟨e, he, hsay⟩
    · rw [hp] at hok
      cases hok
    · rw [hp] at he
      cases he
      refine Or.inl ⟨request, e, rfl, ?_, hsay, ?_⟩
      · rw [failure, hp]
      · rw [handleFrame, hp]
  · refine Or.inr ⟨request, rfl, ?_⟩
    rw [failure, hp]
    rfl

theorem dispatchFailure_sayable {d : Daemon} {cmd : List UInt8} {e : DpdkdError}
    (h : dispatchFailure d cmd = some e) : Sayable e.message := by
  unfold dispatchFailure at h
  split at h
  · cases h
    decide
  · rw [Option.ite_none_right_eq_some] at h
    cases h.2
    decide

/-- Every error of a frame has a message that can be shown. -/
theorem failure_sayable {d : Daemon} {frame : List UInt8} {e : DpdkdError} (h : failure d frame = some e) :
    Sayable e.message := by
  rcases failure_cases d frame with ⟨request, e', -, hf, hsay, -⟩ | ⟨request, -, hf⟩
  · rw [hf] at h
    cases h
    exact hsay
  · exact dispatchFailure_sayable (hf ▸ h)

/-- The response to a frame that fails. -/
theorem handleFrame_failure {d : Daemon} (hd : Serving n0 n1 d) (h0 : n0.bytes.length < nameLen)
    (h1 : n1.bytes.length < nameLen) {frame : List UInt8} {e : DpdkdError} (h : failure d frame = some e) :
    handleFrame d frame = (d, some (errorResponse (shownId (storedId frame)) e)) := by
  have hmake := makeError_eq (storedId_length frame) (failure_sayable h)
  have hlen := storedId_length frame
  unfold storedId at hmake hlen ⊢
  rcases failure_cases d frame with ⟨request, e', hp, hf, -, hh⟩ | ⟨request, hp, hf⟩
  · rw [hf] at h
    cases h
    rw [hp] at hmake ⊢
    rw [hh, hmake]
  · rw [hp] at hmake hlen ⊢
    rw [hf] at h
    rcases dispatchRequest_eq hd h0 h1 hlen with ⟨e', he', hdis⟩ | ⟨hnone, -⟩
    · rw [h] at he'
      cases he'
      rw [handleFrame, hp]
      simp only [hdis, hmake]
    · rw [h] at hnone
      cases hnone

/-- The response to a frame that does not fail. -/
theorem handleFrame_success {d : Daemon} (hd : Serving n0 n1 d) (h0 : n0.bytes.length < nameLen)
    (h1 : n1.bytes.length < nameLen) {frame : List UInt8} (h : failure d frame = none) :
    ∃ c, command? (cString (parseRequest frame).1.cmd) = some c ∧
      handleFrame d frame =
        ((runCommand d c).1, some (successText (escapeText (storedId frame)) (payloadText d c))) := by
  have hlen := storedId_length frame
  unfold storedId at hlen ⊢
  rcases failure_cases d frame with ⟨request, e', hp, hf, -, -⟩ | ⟨request, hp, hf⟩
  · rw [hf] at h
    cases h
  · rw [hp] at hlen ⊢
    rw [hf] at h
    rcases dispatchRequest_eq hd h0 h1 hlen with ⟨e', he', -⟩ | ⟨-, c, hc, hdis⟩
    · rw [h] at he'
      cases he'
    · refine ⟨c, hc, ?_⟩
      rw [handleFrame, hp]
      simp only [hdis]

end Dpdkd
end Pktlab
