/-
# The responses the client accepts

The response models of `ctrld/pktlab_ctrld/dpdk_client/models.py`,
`parse_response` of `protocol.py` and the two methods of `client.py` that
carry a request out, `_exchange` and `_typed_call`. `json.loads` stays a
parameter, `loads`; `LoadsJson` is what is documented of it for the texts of
RFC 8259. What pydantic makes of a value that has not the type of its field
(a number from a string, a truth value from a number) is `Coercions`, about
which nothing is assumed. The contexts of the errors are left out.

`Payload c` is the type of what a success of the command `c` carries, so a
payload that failed its model cannot be built.

Key definitions: `LoadsJson`, `Coercions`, `Payload`, `validatePayload`,
`parseResponse`, `Session`, `exchange`, `typedCall`.
Key theorems: `parseResponse_success`, `parseResponse_error`,
`intLiteral_decimal`.
-/
import Pktlab.Ctrld.DpdkClient
import Pktlab.Ctrld.DpdkdSupervisor
import Pktlab.Lib.JsonDecode
import Pktlab.Lib.Decimal

namespace Pktlab
namespace Ctrld

open Utf8 Rfc8259 Decimal Wire

/-! ### `json.loads` -/

/-- How `json.loads(frame_payload.decode("utf-8"))` raises. -/
inductive LoadsError
  | unicodeDecodeError
  | jsonDecodeError
  /-- an integer that is too long, or a text that is nested too deep -/
  | other
  deriving DecidableEq, Repr

/-- Nested `n` levels at most, without a number of more than 4300 bytes, and
with distinct names in every object. -/
def jsonFits : ℕ → Json → Bool
  | _, .lit _ => true
  | _, .num b => b.length ≤ 4300
  | _, .str _ => true
  | 0, .arr _ => false
  | 0, .obj _ => false
  | n + 1, .arr js => js.all (jsonFits n)
  | n + 1, .obj ms => decide (ms.map Prod.fst).Nodup && ms.all fun m => jsonFits n m.2

/-- A JSON text in UTF-8 is loaded as its value, unless it is nested too deep
or holds an integer that is too long. Of equal names in an object, which are
left out here, the last would count. -/
def LoadsJson (loads : List UInt8 → Except LoadsError Json) : Prop :=
  ∀ j b, Spells j b → IsUtf8 b → jsonFits 100 j = true → loads b = .ok j

/-- `json.loads`, of the texts that RFC 8259 allows. -/
def loadsStrict (b : List UInt8) : Except LoadsError Json :=
  match decodeUtf8 b with
  | none => .error .unicodeDecodeError
  | some _ =>
    match decode b with
    | none => .error .jsonDecodeError
    | some j => if jsonFits 100 j then .ok j else .error .other

theorem loadsStrict_loadsJson : LoadsJson loadsStrict := by
  intro j b hj hb hfits
  obtain ⟨s, hs⟩ := decodeUtf8_isSome hb
  have hdecode : decode b = some j := by
    have h := decode_spells hj Ws.nil Ws.nil
    rwa [List.nil_append, List.append_nil] at h
  rw [loadsStrict, hs]
  simp only [hdecode, if_pos hfits]

/-! ### Fields -/

/-- What pydantic makes of a value of another type. -/
structure Coercions where
  int : Json → Option ℤ
  bool : Json → Option Bool

/-- `raw.get(name)`. -/
def get? (ms : List (List UInt8 × Json)) (name : String) : Option Json := ms.lookup (utf8 name)

/-- `extra="forbid"`: the members of an object that has no others. -/
def onlyFields (names : List String) : Json → Option (List (List UInt8 × Json))
  | .obj ms => if ms.all fun m => names.any fun name => m.1 = utf8 name then some ms else none
  | _ => none

/-- A `str`. -/
def readStr : Json → Option String
  | .str b => decodeUtf8 b
  | _ => none

/-- `str = Field(min_length=1)`. -/
def readNonEmptyStr (j : Json) : Option NonEmptyStr :=
  (readStr j).bind fun s => if h : s ≠ "" then some ⟨s, h⟩ else none

/-- `Literal[…]` of strings, or an enumeration of them. -/
def readLiteral {α : Type} (values : List (String × α)) (j : Json) : Option α :=
  (readStr j).bind fun s => values.lookup s

/-- The integer that a number is written as, if it has no fraction and no
exponent. -/
def intLiteral : List UInt8 → Option ℤ
  | [] => none
  | c :: b =>
    if c = ascii '-' then if b.all isDigit then some (-(decimalValue b : ℤ)) else none
    else if (c :: b).all isDigit then some (decimalValue (c :: b)) else none

/-- An `int`. -/
def readInt (lax : Coercions) (j : Json) : Option ℤ :=
  match j with
  | .num b => (intLiteral b).or (lax.int j)
  | _ => lax.int j

/-- `int = Field(ge=0)`. -/
def readNat (lax : Coercions) (j : Json) : Option ℕ :=
  (readInt lax j).bind fun n => if 0 ≤ n then some n.toNat else none

/-- A `bool`. -/
def readBool (lax : Coercions) (j : Json) : Option Bool :=
  match j with
  | .lit b => if b = utf8 "true" then some true else if b = utf8 "false" then some false else lax.bool j
  | _ => lax.bool j

/-! ### What the fields read -/

theorem utf8_eq_iff {s t : String} : utf8 s = utf8 t ↔ s = t := ⟨utf8_inj, congrArg utf8⟩

theorem get?_cons (s name : String) (j : Json) (ms : List (List UInt8 × Json)) :
    get? ((utf8 s, j) :: ms) name = if name = s then some j else get? ms name := by
  unfold get?
  rw [List.lookup_cons]
  by_cases h : name = s
  · rw [if_pos h, h, beq_self_eq_true]
  · rw [if_neg h, beq_false_of_ne fun he => h (utf8_inj he)]

theorem onlyFields_obj (names : List String) (ms : List (String × Json)) (h : ∀ m ∈ ms, m.1 ∈ names) :
    onlyFields names (.obj (ms.map fun m => (utf8 m.1, m.2))) = some (ms.map fun m => (utf8 m.1, m.2)) := by
  have hall : ((ms.map fun m => (utf8 m.1, m.2)).all fun m => names.any fun name => m.1 = utf8 name) = true := by
    rw [List.all_map, List.all_eq_true]
    intro m hm
    exact List.any_eq_true.mpr ⟨m.1, h m hm, decide_eq_true rfl⟩
  rw [onlyFields, if_pos hall]

theorem readStr_str (s : String) : readStr (.str (utf8 s)) = some s := decodeUtf8_utf8 s

theorem readNonEmptyStr_str (s : NonEmptyStr) : readNonEmptyStr (.str (utf8 s)) = some s := by
  rw [readNonEmptyStr, readStr_str, Option.bind_some, dif_pos s.2]

theorem intLiteral_decimal (n : ℕ) : intLiteral (decimal n) = some (n : ℤ) := by
  obtain ⟨hne, hdigits⟩ := digits_decimal n
  have hvalue := decimalValue_decimal n
  cases hd : decimal n with
  | nil => exact absurd hd hne
  | cons c b =>
    rw [hd] at hdigits hvalue
    have hminus : c ≠ ascii '-' := by
      rintro rfl
      exact absurd (hdigits _ List.mem_cons_self) (by decide)
    rw [intLiteral, if_neg hminus, if_pos (List.all_eq_true.mpr hdigits), hvalue]

theorem readNat_num (lax : Coercions) (n : ℕ) : readNat lax (.num (decimal n)) = some n := by
  rw [readNat, readInt, intLiteral_decimal, Option.some_or, Option.bind_some, if_pos (Int.natCast_nonneg n),
    Int.toNat_natCast]

theorem readBool_lit (lax : Coercions) (b : Bool) :
    readBool lax (.lit (if b then utf8 "true" else utf8 "false")) = some b := by
  cases b with
  | true => rfl
  | false => rfl

/-! ### Payloads -/

/-- `AckPayload`. -/
structure AckPayload where
  message : NonEmptyStr
  deriving DecidableEq

/-- `HealthPayload`: what its `health` has beside the fields that the
controller reads. -/
structure HealthPayload extends HealthStateModel where
  portsReady : Bool
  paused : Bool
  deriving DecidableEq

/-- `DatapathPortStateValue`. -/
inductive DatapathPortState
  | up
  | down
  deriving DecidableEq, Repr

/-- `PortInfoModel`. -/
structure PortInfoModel where
  name : NonEmptyStr
  portId : ℕ
  role : PortRole
  state : DatapathPortState
  deriving DecidableEq

/-- `DatapathStatsModel`. -/
structure DatapathStatsModel where
  rxPackets : ℕ
  txPackets : ℕ
  dropPackets : ℕ
  dropParseErrors : ℕ
  dropNoMatch : ℕ
  rxBursts : ℕ
  txBursts : ℕ
  unsentPackets : ℕ
  ruleHits : List (String × ℤ)
  deriving DecidableEq

/-- `AckPayload.model_validate`. -/
def ackPayload (j : Json) : Option AckPayload := do
  let ms ← onlyFields ["message"] j
  let message ← (get? ms "message").bind readNonEmptyStr
  pure ⟨message⟩

/-- `VersionPayload.model_validate`. -/
def versionPayload (j : Json) : Option VersionPayload := do
  let ms ← onlyFields ["service", "version", "dpdk_version"] j
  let _ ← (get? ms "service").bind (readLiteral [("pktlab-dpdkd", ())])
  let version ← (get? ms "version").bind readNonEmptyStr
  let dpdkVersion ← (get? ms "dpdk_version").bind readNonEmptyStr
  pure ⟨version, dpdkVersion⟩

/-- `DatapathStateValue`, by value. -/
def datapathStates : List (String × DatapathState) :=
  [.starting, .running, .paused, .degraded, .stopping, .failed].map fun s => (s.value, s)

/-- `HealthStateModel.model_validate`. -/
def healthState (lax : Coercions) (j : Json) : Option HealthPayload := do
  let ms ← onlyFields ["state", "message", "applied_rule_version", "ports_ready", "paused"] j
  let state ← (get? ms "state").bind (readLiteral datapathStates)
  let message ← (get? ms "message").bind readStr
  let appliedRuleVersion ← (get? ms "applied_rule_version").bind (readNat lax)
  let portsReady ← (get? ms "ports_ready").bind (readBool lax)
  let paused ← (get? ms "paused").bind (readBool lax)
  pure ⟨⟨state, message, appliedRuleVersion⟩, portsReady, paused⟩

/-- `HealthPayload.model_validate`. -/
def healthPayload (lax : Coercions) (j : Json) : Option HealthPayload := do
  let ms ← onlyFields ["health"] j
  (get? ms "health").bind (healthState lax)

/-- `PortInfoModel.model_validate`. -/
def portInfo (lax : Coercions) (j : Json) : Option PortInfoModel := do
  let ms ← onlyFields ["name", "port_id", "role", "state"] j
  let name ← (get? ms "name").bind readNonEmptyStr
  let portId ← (get? ms "port_id").bind (readNat lax)
  let role ← (get? ms "role").bind (readLiteral [("ingress", PortRole.ingress), ("egress", .egress)])
  let state ← (get? ms "state").bind (readLiteral [("up", DatapathPortState.up), ("down", .down)])
  pure ⟨name, portId, role, state⟩

/-- `list[PortInfoModel]`. -/
def portInfos (lax : Coercions) : Json → Option (List PortInfoModel)
  | .arr js => js.mapM (portInfo lax)
  | _ => none

/-- `PortsPayload.model_validate`. -/
def portsPayload (lax : Coercions) (j : Json) : Option (List PortInfoModel) := do
  let ms ← onlyFields ["ports"] j
  (get? ms "ports").bind (portInfos lax)

/-- `dict[str, int]`. -/
def intDict (lax : Coercions) : Json → Option (List (String × ℤ))
  | .obj ms => ms.mapM fun m => do
    let name ← decodeUtf8 m.1
    let n ← readInt lax m.2
    pure (name, n)
  | _ => none

/-- `DatapathStatsModel.model_validate`. -/
def datapathStats (lax : Coercions) (j : Json) : Option DatapathStatsModel := do
  let ms ← onlyFields ["rx_packets", "tx_packets", "drop_packets", "drop_parse_errors", "drop_no_match", "rx_bursts",
    "tx_bursts", "unsent_packets", "rule_hits"] j
  let rxPackets ← (get? ms "rx_packets").bind (readNat lax)
  let txPackets ← (get? ms "tx_packets").bind (readNat lax)
  let dropPackets ← (get? ms "drop_packets").bind (readNat lax)
  let dropParseErrors ← (get? ms "drop_parse_errors").bind (readNat lax)
  let dropNoMatch ← (get? ms "drop_no_match").bind (readNat lax)
  let rxBursts ← (get? ms "rx_bursts").bind (readNat lax)
  let txBursts ← (get? ms "tx_bursts").bind (readNat lax)
  let unsentPackets ← (get? ms "unsent_packets").bind (readNat lax)
  let ruleHits ← match get? ms "rule_hits" with
    | none => some []
    | some j => intDict lax j
  pure ⟨rxPackets, txPackets, dropPackets, dropParseErrors, dropNoMatch, rxBursts, txBursts, unsentPackets, ruleHits⟩

/-- `StatsPayload.model_validate`. -/
def statsPayload (lax : Coercions) (j : Json) : Option DatapathStatsModel := do
  let ms ← onlyFields ["stats"] j
  (get? ms "stats").bind (datapathStats lax)

/-- The payload type that a method of the client passes on for its command. -/
def Payload : DatapathCommand → Type
  | .getVersion => VersionPayload
  | .getHealth => HealthPayload
  | .getPorts => List PortInfoModel
  | .getStats => DatapathStatsModel
  | .ping | .resetStats | .pauseDatapath | .resumeDatapath => AckPayload

/-- `payload_type.model_validate`. -/
def validatePayload (lax : Coercions) : (c : DatapathCommand) → Json → Option (Payload c)
  | .ping, j => ackPayload j
  | .getVersion, j => versionPayload j
  | .getHealth, j => healthPayload lax j
  | .getPorts, j => portsPayload lax j
  | .getStats, j => statsPayload lax j
  | .resetStats, j => ackPayload j
  | .pauseDatapath, j => ackPayload j
  | .resumeDatapath, j => ackPayload j

/-! ### Envelopes -/

/-- `str = Field(min_length=1, pattern=REQUEST_ID_PATTERN)`. -/
abbrev RequestId := { id : String // id ≠ "" ∧ ∀ c ∈ id.toList, isIdChar c = true }

def readRequestId (j : Json) : Option RequestId :=
  (readStr j).bind fun id => if h : id ≠ "" ∧ ∀ c ∈ id.toList, isIdChar c = true then some ⟨id, h⟩ else none

/-- `DatapathErrorCode`, by value. -/
def datapathErrorCodes : List (String × DatapathErrorCode) :=
  [.invalidRequest, .invalidPayload, .unknownCommand, .ruleValidationError, .portInitError, .stateConflict,
    .internalError].map fun c => (c.value, c)

/-- `DatapathErrorModel.model_validate`. -/
def datapathError (j : Json) : Option DatapathErrorModel := do
  let ms ← onlyFields ["code", "message"] j
  let code ← (get? ms "code").bind (readLiteral datapathErrorCodes)
  let message ← (get? ms "message").bind readNonEmptyStr
  pure ⟨code, message⟩

/-- `ResponseEnvelope`. -/
inductive ResponseEnvelope
  /-- `RawSuccessEnvelope`; the payload is an object -/
  | success (id : RequestId) (payload : List (List UInt8 × Json))
  /-- `RawErrorEnvelope` -/
  | error (id : RequestId) (error : DatapathErrorModel)

def ResponseEnvelope.id : ResponseEnvelope → String
  | .success id _ => id
  | .error id _ => id

/-- `RawSuccessEnvelope.model_validate`, when `ok` is `True`. -/
def rawSuccess (raw : Json) : Option ResponseEnvelope := do
  let ms ← onlyFields ["id", "ok", "payload"] raw
  let id ← (get? ms "id").bind readRequestId
  match get? ms "payload" with
  | some (.obj payload) => some (.success id payload)
  | _ => none

/-- `RawErrorEnvelope.model_validate`, when `ok` is `False`. -/
def rawError (raw : Json) : Option ResponseEnvelope := do
  let ms ← onlyFields ["id", "ok", "error"] raw
  let id ← (get? ms "id").bind readRequestId
  let error ← (get? ms "error").bind datapathError
  pure (.error id error)

/-- `raw.get("ok") is True` and `raw.get("ok") is False`. -/
def okLiteral : Json → Option Bool
  | .lit b => if b = utf8 "true" then some true else if b = utf8 "false" then some false else none
  | _ => none

/-- `except PydanticValidationError`. -/
def orInvalid {α : Type} (message : String) : Option α → Except SupervisorError α
  | some a => .ok a
  | none => .error (.protocol message)

/-- `parse_response`. -/
def parseResponse (loads : List UInt8 → Except LoadsError Json) (framePayload : List UInt8) :
    Except SupervisorError ResponseEnvelope :=
  match loads framePayload with
  | .error .unicodeDecodeError => .error (.protocol "IPC response is not valid UTF-8")
  | .error .jsonDecodeError => .error (.protocol "IPC response is not valid JSON")
  | .error .other => .error .other
  | .ok (.obj ms) =>
    match (get? ms "ok").bind okLiteral with
    | some true => orInvalid "IPC response failed basic envelope validation" (rawSuccess (.obj ms))
    | some false => orInvalid "IPC response failed basic envelope validation" (rawError (.obj ms))
    | none => .error (.protocol "IPC response did not contain a valid ok discriminator")
  | .ok _ => .error (.protocol "IPC response must be a JSON object")

theorem readRequestId_str (id : RequestId) : readRequestId (.str (utf8 id)) = some id := by
  rw [readRequestId, readStr_str, Option.bind_some, dif_pos id.2]

/-- A success envelope. -/
theorem parseResponse_success {loads : List UInt8 → Except LoadsError Json} {b : List UInt8} {id : RequestId}
    {ms : List (List UInt8 × Json)}
    (h : loads b = .ok (.obj [(utf8 "id", .str (utf8 id)), (utf8 "ok", .lit (utf8 "true")), (utf8 "payload", .obj ms)])) :
    parseResponse loads b = .ok (.success id ms) := by
  have hfields := onlyFields_obj ["id", "ok", "payload"]
    [("id", .str (utf8 id)), ("ok", .lit (utf8 "true")), ("payload", .obj ms)] (by simp)
  have hok : okLiteral (.lit (utf8 "true")) = some true := rfl
  simp only [List.map_cons, List.map_nil] at hfields
  rw [parseResponse, h]
  simp only [get?_cons, rawSuccess, hfields, String.reduceEq, ↓reduceIte, Option.bind_some, hok, readRequestId_str,
    orInvalid, bind]

/-- An error envelope. -/
theorem parseResponse_error {loads : List UInt8 → Except LoadsError Json} {b : List UInt8} {id : RequestId}
    {code : DatapathErrorCode} {message : NonEmptyStr}
    (h : loads b = .ok (.obj [(utf8 "id", .str (utf8 id)), (utf8 "ok", .lit (utf8 "false")),
      (utf8 "error", .obj [(utf8 "code", .str (utf8 code.value)), (utf8 "message", .str (utf8 message))])])) :
    parseResponse loads b = .ok (.error id ⟨code, message⟩) := by
  have hfields := onlyFields_obj ["id", "ok", "error"]
    [("id", .str (utf8 id)), ("ok", .lit (utf8 "false")),
      ("error", .obj [(utf8 "code", .str (utf8 code.value)), (utf8 "message", .str (utf8 message))])] (by simp)
  have herror := onlyFields_obj ["code", "message"]
    [("code", .str (utf8 code.value)), ("message", .str (utf8 message))] (by simp)
  have hok : okLiteral (.lit (utf8 "false")) = some false := rfl
  have hcode : readLiteral datapathErrorCodes (.str (utf8 code.value)) = some code := by
    rw [readLiteral, readStr_str, Option.bind_some]
    cases code <;> rfl
  simp only [List.map_cons, List.map_nil] at hfields herror
  rw [parseResponse, h]
  simp only [get?_cons, rawError, datapathError, hfields, herror, String.reduceEq, ↓reduceIte, Option.bind_some, hok, hcode,
    readRequestId_str, readNonEmptyStr_str, orInvalid, bind, pure]

/-! ### The client -/

/-- The `OSError`s that `_exchange` tells apart. -/
inductive SocketError
  | fileNotFound
  | connectionRefused
  | timeout
  | other
  deriving DecidableEq, Repr

/-- The `except` clauses of `_exchange`. -/
def transportError : SocketError → SupervisorError
  | .fileNotFound => .transport "datapath IPC socket was not found"
  | .connectionRefused => .transport "datapath IPC socket refused the connection"
  | .timeout => .transport "datapath IPC request timed out"
  | .other => .transport "datapath IPC transport failed"

/-- What the socket does in one exchange: what `connect` and `sendall` raise,
what `recv` returns call after call, and what it raises where it fails. -/
structure Session where
  connect : Option SocketError := none
  sendall : Option SocketError := none
  reads : List Read := []
  recv : SocketError := .other

section Client

variable (modelDumpJson : RequestEnvelope → List UInt8) (loads : List UInt8 → Except LoadsError Json)
  (lax : Coercions)

/-- `recv_response`. -/
def recvResponse (session : Session) : Except SupervisorError ResponseEnvelope :=
  match (recvFrame session.reads).1 with
  | .error (.protocol e) => .error (.protocol e.message)
  | .error .os => .error (transportError session.recv)
  | .ok frame => parseResponse loads frame

/-- `_exchange`. -/
def exchange (request : RequestEnvelope) (session : Session) : Except SupervisorError ResponseEnvelope :=
  match session.connect with
  | some e => .error (transportError e)
  | none =>
    match encodeRequest modelDumpJson request with
    | .error e => .error (.protocol e.message)
    | .ok _ =>
      match session.sendall with
      | some e => .error (transportError e)
      | none => recvResponse loads session

/-- The bytes that `_exchange` writes to the socket, when nothing fails. -/
def sent (request : RequestEnvelope) : List UInt8 :=
  match encodeRequest modelDumpJson request with
  | .error _ => []
  | .ok frame => frame

/-- `_typed_call`. -/
def typedCall (request : RequestEnvelope) (session : Session) : Answer (Payload request.cmd) :=
  match exchange modelDumpJson loads request session with
  | .error e => .error e
  | .ok response =>
    if response.id ≠ request.id then .error (.protocol "IPC response id did not match the request id")
    else
      match response with
      | .error _ error => .ok (.error error)
      | .success _ payload =>
        match orInvalid "IPC success payload failed validation" (validatePayload lax request.cmd (.obj payload)) with
        | .error e => .error e
        | .ok payload => .ok (.ok payload)

end Client

end Ctrld
end Pktlab
