/-
# The response texts of the daemon

`dpdkd/src/json_proto.c`, lines 760 to 1174: the escaper and the payload and
envelope builders. A string that is read up to its NUL is the list of the
bytes before it; a builder that returns `-1` is `none`. `snprintf` into
`cap` bytes succeeds when the text has fewer than `cap` bytes; the formats
stand with the bytes of `%s` and `%u` between their literal parts.

Key definitions: `escapeString`, `makeAckPayload`, `makeVersionPayload`,
`makeHealthPayload`, `makePortsPayload`, `makeStatsPayload`, `makeSuccess`,
`makeError`.
-/
import Pktlab.Dpdkd.Config
import Pktlab.Lib.Decimal

namespace Pktlab
namespace Dpdkd

open Utf8 Decimal

/-- `enum pktlab_dp_state`. -/
inductive DpState
  | starting
  | running
  | paused
  | degraded
  | stopping
  | failed
  deriving DecidableEq, Repr

/-- `pktlab_dp_state_name`. -/
def dpStateName : DpState → String
  | .starting => "starting"
  | .running => "running"
  | .paused => "paused"
  | .degraded => "degraded"
  | .stopping => "stopping"
  | .failed => "failed"

/-- `struct pktlab_health_snapshot`. -/
structure HealthSnapshot where
  state : DpState
  message : List UInt8
  appliedRuleVersion : UInt32
  portsReady : Bool
  paused : Bool
  deriving DecidableEq

/-- `pktlab_dpdkd_error_code_name`. -/
def errorCodeName : ErrorCode → String
  | .none => "NONE"
  | .invalidRequest => "INVALID_REQUEST"
  | .invalidPayload => "INVALID_PAYLOAD"
  | .unknownCommand => "UNKNOWN_COMMAND"
  | .ruleValidation => "RULE_VALIDATION_ERROR"
  | .portInit => "PORT_INIT_ERROR"
  | .stateConflict => "STATE_CONFLICT"
  | .internal => "INTERNAL_ERROR"

namespace JsonProto

/-- `PKTLAB_DPDKD_MESSAGE_LEN`, `PKTLAB_JSON_PROTO_MAX_ID_LEN`. -/
def messageLen : ℕ := 128
def maxIdLen : ℕ := 64

/-- The `switch` of `pktlab_json_proto_escape_string`. -/
def replacement (ch : UInt8) : Option (List UInt8) :=
  if ch = ascii '\\' then some [ascii '\\', ascii '\\']
  else if ch = ascii '"' then some [ascii '\\', ascii '"']
  else if ch = ascii '\n' then some [ascii '\\', ascii 'n']
  else if ch = ascii '\r' then some [ascii '\\', ascii 'r']
  else if ch = ascii '\t' then some [ascii '\\', ascii 't']
  else none

/-- The `while` of `pktlab_json_proto_escape_string`. -/
def escapeLoop (cap : ℕ) : List UInt8 → List UInt8 → Option (List UInt8)
  | [], out => if cap = 0 then none else some out
  | ch :: input, out =>
    match replacement ch with
    | some r => if out.length + r.length + 1 > cap then none else escapeLoop cap input (out ++ r)
    | none => if out.length + 2 > cap then none else escapeLoop cap input (out ++ [ch])

/-- `pktlab_json_proto_escape_string`. -/
def escapeString (input : List UInt8) (cap : ℕ) : Option (List UInt8) := escapeLoop cap input []

/-- `pktlab_json_proto_snprintf`. -/
def snprintf (cap : ℕ) (text : List UInt8) : Option (List UInt8) :=
  if text.length ≥ cap then none else some text

/-- The format of `pktlab_json_proto_make_ack_payload`. -/
def ackText (message : List UInt8) : List UInt8 :=
  utf8 "\x7b\"message\":\"" ++ message ++ utf8 "\"\x7d"

/-- `pktlab_json_proto_make_ack_payload`. -/
def makeAckPayload (message : List UInt8) (cap : ℕ) : Option (List UInt8) :=
  (escapeString message (messageLen * 2)).bind fun m => snprintf cap (ackText m)

/-- `pktlab_json_proto_make_pong_payload`. -/
def makePongPayload (cap : ℕ) : Option (List UInt8) := makeAckPayload (utf8 "pong") cap

/-- The format of `pktlab_json_proto_make_version_payload` and the texts of
`version.h`. -/
def versionText : List UInt8 :=
  utf8 "\x7b\"service\":\"" ++ utf8 "pktlab-dpdkd" ++ utf8 "\",\"version\":\"" ++ utf8 "0.1.0" ++
    utf8 "\",\"dpdk_version\":\"" ++ utf8 "25.11.0" ++ utf8 "\"\x7d"

/-- `pktlab_json_proto_make_version_payload`. -/
def makeVersionPayload (cap : ℕ) : Option (List UInt8) := snprintf cap versionText

/-- `b ? "true" : "false"`. -/
def boolName (b : Bool) : List UInt8 := if b then utf8 "true" else utf8 "false"

/-- The format of `pktlab_json_proto_make_health_payload`. -/
def healthText (health : HealthSnapshot) (message : List UInt8) : List UInt8 :=
  utf8 "\x7b\"health\":\x7b\"state\":\"" ++ utf8 (dpStateName health.state) ++
    utf8 "\",\"message\":\"" ++ message ++ utf8 "\",\"applied_rule_version\":" ++
    decimal health.appliedRuleVersion.toNat ++ utf8 ",\"ports_ready\":" ++ boolName health.portsReady ++
    utf8 ",\"paused\":" ++ boolName health.paused ++ utf8 "\x7d\x7d"

/-- `pktlab_json_proto_make_health_payload`. -/
def makeHealthPayload (health : HealthSnapshot) (cap : ℕ) : Option (List UInt8) :=
  (escapeString health.message (messageLen * 2)).bind fun m => snprintf cap (healthText health m)

/-- `pktlab_json_proto_port_role_name`. -/
def portRoleName : PortRole → String
  | .ingress => "ingress"
  | .egress => "egress"

/-- `pktlab_json_proto_port_state_name`. -/
def portStateName : PortState → String
  | .up => "up"
  | .down => "down"

/-- One port of `pktlab_json_proto_make_ports_payload`. -/
def portItem (first : Bool) (escapedName : List UInt8) (port : PortInfo) : List UInt8 :=
  (if first then [] else utf8 ",") ++ utf8 "\x7b\"name\":\"" ++ escapedName ++ utf8 "\",\"port_id\":" ++
    decimal port.portId.toNat ++ utf8 ",\"role\":\"" ++ utf8 (portRoleName port.role) ++
    utf8 "\",\"state\":\"" ++ utf8 (portStateName port.state) ++ utf8 "\"\x7d"

/-- The `for` of `pktlab_json_proto_make_ports_payload`: `written` is the text
so far. -/
def portsLoop (cap : ℕ) (first : Bool) (written : List UInt8) : List PortInfo → Option (List UInt8)
  | [] => if written.length + 3 > cap then none else some (written ++ utf8 "]\x7d")
  | port :: ports =>
    match escapeString port.name.bytes (nameLen * 2 + 1) with
    | none => none
    | some name =>
      if (portItem first name port).length ≥ cap - written.length then none
      else portsLoop cap false (written ++ portItem first name port) ports

/-- `pktlab_json_proto_make_ports_payload`. -/
def makePortsPayload (ports : List PortInfo) (cap : ℕ) : Option (List UInt8) :=
  if cap = 0 then none
  else if (utf8 "\x7b\"ports\":[").length ≥ cap then none
  else portsLoop cap true (utf8 "\x7b\"ports\":[") ports

/-- The format of `pktlab_json_proto_make_stats_payload`. -/
def statsText (stats : DpStatsSnapshot) : List UInt8 :=
  utf8 "\x7b\"stats\":\x7b\"rx_packets\":" ++ decimal stats.rxPackets.toNat ++
    utf8 ",\"tx_packets\":" ++ decimal stats.txPackets.toNat ++
    utf8 ",\"drop_packets\":" ++ decimal stats.dropPackets.toNat ++
    utf8 ",\"drop_parse_errors\":" ++ decimal stats.dropParseErrors.toNat ++
    utf8 ",\"drop_no_match\":" ++ decimal stats.dropNoMatch.toNat ++
    utf8 ",\"rx_bursts\":" ++ decimal stats.rxBursts.toNat ++
    utf8 ",\"tx_bursts\":" ++ decimal stats.txBursts.toNat ++
    utf8 ",\"unsent_packets\":" ++ decimal stats.unsentPackets.toNat ++
    utf8 ",\"rule_hits\":\x7b\x7d\x7d\x7d"

/-- `pktlab_json_proto_make_stats_payload`. -/
def makeStatsPayload (stats : DpStatsSnapshot) (cap : ℕ) : Option (List UInt8) :=
  snprintf cap (statsText stats)

/-- The format of `pktlab_json_proto_make_success`. -/
def successText (id payload : List UInt8) : List UInt8 :=
  utf8 "\x7b\"id\":\"" ++ id ++ utf8 "\",\"ok\":true,\"payload\":" ++ payload ++ utf8 "\x7d"

/-- `pktlab_json_proto_make_success`. -/
def makeSuccess (requestId payload : List UInt8) (cap : ℕ) : Except DpdkdError (List UInt8) :=
  match escapeString requestId (maxIdLen * 2 + 1) with
  | none => .error ⟨.internal, "request id could not be escaped"⟩
  | some id =>
    match snprintf cap (successText id payload) with
    | none => .error ⟨.internal, "JSON output buffer is too small"⟩
    | some text => .ok text

/-- The format of `pktlab_json_proto_make_error`. -/
def errorText (id code message : List UInt8) : List UInt8 :=
  utf8 "\x7b\"id\":\"" ++ id ++ utf8 "\",\"ok\":false,\"error\":\x7b\"code\":\"" ++ code ++
    utf8 "\",\"message\":\"" ++ message ++ utf8 "\"\x7d\x7d"

/-- `pktlab_json_proto_make_error`. When the escaper fails, the same format is
filled with fixed texts. -/
def makeError (requestId : List UInt8) (error : DpdkdError) (cap : ℕ) : Option (List UInt8) :=
  let safeId := if requestId = [] then utf8 "unknown" else requestId
  let safeMessage := if utf8 error.message = [] then utf8 "internal error" else utf8 error.message
  match escapeString safeId (maxIdLen * 2 + 1), escapeString safeMessage 256 with
  | some id, some message => snprintf cap (errorText id (utf8 (errorCodeName error.code)) message)
  | _, _ => snprintf cap (errorText (utf8 "unknown") (utf8 "INTERNAL_ERROR") (utf8 "internal error"))

/-! ### The escaper -/

/-- The text `escapeString` writes for `input`. -/
def escapeText (input : List UInt8) : List UInt8 :=
  input.flatMap fun ch => (replacement ch).getD [ch]

theorem replacement_length (ch : UInt8) : ((replacement ch).getD [ch]).length ≤ 2 := by
  unfold replacement
  split_ifs <;> simp

theorem escapeText_length (input : List UInt8) : (escapeText input).length ≤ 2 * input.length := by
  induction input with
  | nil => simp [escapeText]
  | cons ch input ih =>
    have h := replacement_length ch
    simp only [escapeText, List.flatMap_cons, List.length_append, List.length_cons] at ih ⊢
    omega

theorem escapeText_cons (ch : UInt8) (input : List UInt8) :
    escapeText (ch :: input) = (replacement ch).getD [ch] ++ escapeText input := by simp [escapeText]

/-- The loop succeeds exactly when the escaped text and its terminator fit
behind what is written already. -/
theorem escapeLoop_eq {cap : ℕ} : ∀ (input out : List UInt8), (out.length < cap ∨ cap = 0) →
    escapeLoop cap input out =
      if out.length + (escapeText input).length < cap then some (out ++ escapeText input) else none
  | [], out, h => by
    have htext : escapeText [] = [] := rfl
    rw [escapeLoop, htext, List.length_nil, List.append_nil]
    by_cases h0 : cap = 0
    · rw [if_pos h0, if_neg (by omega)]
    · rw [if_neg h0, if_pos (by omega)]
  | ch :: input, out, h => by
    rw [escapeLoop, escapeText_cons]
    cases hr : replacement ch with
    | some r =>
      simp only [Option.getD_some, List.length_append]
      by_cases hfull : out.length + r.length + 1 > cap
      · rw [if_pos hfull, if_neg (by omega)]
      · rw [if_neg hfull, escapeLoop_eq input (out ++ r) (by rw [List.length_append]; omega), List.length_append,
          List.append_assoc, Nat.add_assoc]
    | none =>
      simp only [Option.getD_none, List.length_append, List.length_singleton]
      by_cases hfull : out.length + 2 > cap
      · rw [if_pos hfull, if_neg (by omega)]
      · rw [if_neg hfull, escapeLoop_eq input (out ++ [ch]) (by rw [List.length_append, List.length_singleton]; omega),
          List.length_append, List.length_singleton, List.append_assoc, Nat.add_assoc]

theorem escapeString_eq (input : List UInt8) (cap : ℕ) :
    escapeString input cap = if (escapeText input).length < cap then some (escapeText input) else none := by
  rw [escapeString, escapeLoop_eq input [] (by rw [List.length_nil]; omega), List.length_nil, Nat.zero_add,
    List.nil_append]

/-- A string of half the buffer is always escaped. -/
theorem escapeString_fits {input : List UInt8} {cap : ℕ} (h : 2 * input.length < cap) :
    escapeString input cap = some (escapeText input) := by
  have hlen := escapeText_length input
  rw [escapeString_eq, if_pos (by omega)]

end JsonProto
end Dpdkd
end Pktlab
