/-
# The request parser on memory

`dpdkd/src/json_proto.c`, lines 192 to 758 once more, this time as the code
runs: over an index into the text and over arrays of fixed size. Every read of
the text, every store, every assignment to a position and every call of
`skip_value` is one of the checked operations of `Pktlab.Lib.Checked`, so that
a run which does something the C code must not do ends in a fault. `json` is
the text of `json_len` bytes; sums of a position and a constant do not wrap,
since no array is that large.

Each loop may take one turn more than the text has bytes, and `skipValue`
carries how many calls of itself may still be active (`levels`); running out of
either is a fault as well.

`Pktlab.Dpdkd.InMemoryTracks` shows that these functions do what the list
functions of `Pktlab.Dpdkd.JsonProto` say, without a fault.

Key definitions: `parseString`, `skipValue`, `parseRequest`.
-/
import Pktlab.Dpdkd.JsonProto
import Pktlab.Lib.Checked

namespace Pktlab
namespace Dpdkd
namespace InMemory

open Utf8 Checked
open JsonProto (maxNesting escaped keyCap idCap cmdCap)

/-- The `-1` with its error, or the `0` with the value, of a C function. -/
abbrev Status (α : Type) := Except DpdkdError α

/-- `pktlab_json_proto_set_error` with `INVALID_REQUEST`, then `return -1`. -/
def reject {α : Type} (message : String) : Status α := .error ⟨.invalidRequest, message⟩

variable (json : List UInt8)

/-- The `while` of `pktlab_json_proto_skip_ws`. -/
def skipWsLoop : ℕ → ℕ → Except Fault ℕ
  | 0, _ => .error .fuel
  | fuel + 1, pos =>
    if pos < json.length then do
      let b ← load json pos
      if b ≠ ascii ' ' ∧ b ≠ ascii '\n' ∧ b ≠ ascii '\r' ∧ b ≠ ascii '\t' then return pos
      else
        let pos ← moveTo json pos (pos + 1)
        skipWsLoop fuel pos
    else return pos

/-- `pos = pktlab_json_proto_skip_ws(json, json_len, pos)`. -/
def skipWs (pos : ℕ) : Except Fault ℕ := do
  let q ← skipWsLoop json (json.length + 1) pos
  moveTo json pos q

/-- `if (needs_output) { .. buffer[out_len++] = ch; }`: the array and
`out_len` after it, or nothing when the string exceeds the array. -/
def append {cap : ℕ} (buffer : Buffer cap) (outLen : ℕ) (ch : UInt8) : Except Fault (Option (Buffer cap × ℕ)) :=
  if 0 < cap then
    if outLen + 1 ≥ cap then return none
    else do
      let buffer ← buffer.store outLen ch
      return some (buffer, outLen + 1)
  else return some (buffer, outLen)

/-- `if (needs_output) { buffer[out_len] = '\0'; }`. -/
def terminate {cap : ℕ} (buffer : Buffer cap) (outLen : ℕ) : Except Fault (Buffer cap) :=
  if 0 < cap then buffer.store outLen 0 else .ok buffer

/-- The `while` of `pktlab_json_proto_parse_string`. -/
def stringLoop {cap : ℕ} : ℕ → ℕ → Buffer cap → ℕ → Except Fault (Buffer cap × Status ℕ)
  | 0, _, _, _ => .error .fuel
  | fuel + 1, pos, buffer, outLen =>
    if pos < json.length then do
      let ch ← load json pos
      if ch = ascii '"' then
        let buffer ← terminate buffer outLen
        let pos ← moveTo json pos (pos + 1)
        return (buffer, .ok pos)
      else if ch = ascii '\\' then
        let pos ← moveTo json pos (pos + 1)
        if pos ≥ json.length then return (buffer, reject "unterminated JSON escape sequence")
        else
          let b ← load json pos
          match escaped b with
          | none => return (buffer, reject "unsupported JSON escape sequence")
          | some ch =>
            match ← append buffer outLen ch with
            | none => return (buffer, reject "JSON string exceeds the allowed size")
            | some (buffer, outLen) =>
              let pos ← moveTo json pos (pos + 1)
              stringLoop fuel pos buffer outLen
      else
        match ← append buffer outLen ch with
        | none => return (buffer, reject "JSON string exceeds the allowed size")
        | some (buffer, outLen) =>
          let pos ← moveTo json pos (pos + 1)
          stringLoop fuel pos buffer outLen
    else return (buffer, reject "unterminated JSON string")

/-- `pktlab_json_proto_parse_string`. -/
def parseString {cap : ℕ} (pos : ℕ) (buffer : Buffer cap) : Except Fault (Buffer cap × Status ℕ) := do
  let pos ← skipWs json pos
  if ← isAt json pos (ascii '"') then
    let pos ← moveTo json pos (pos + 1)
    stringLoop json (json.length + 1) pos buffer 0
  else return (buffer, reject "expected a JSON string")

/-- `pktlab_json_proto_parse_string` with `NULL`. -/
def skipString (pos : ℕ) : Except Fault (Status ℕ) := do
  let r ← parseString json pos (⟨[], rfl⟩ : Buffer 0)
  return r.2

/-- `pktlab_json_proto_skip_literal`. -/
def skipLiteral (literal : String) (pos : ℕ) : Except Fault (Status ℕ) :=
  if pos + (utf8 literal).length > json.length then return reject "invalid JSON literal"
  else do
    if ← compare json pos (utf8 literal) then
      let pos ← moveTo json pos (pos + (utf8 literal).length)
      return .ok pos
    else return reject "invalid JSON literal"

/-- `while (*pos < json_len && json[*pos] >= '0' && json[*pos] <= '9')`. -/
def skipDigits : ℕ → ℕ → Except Fault ℕ
  | 0, _ => .error .fuel
  | fuel + 1, pos =>
    if pos < json.length then do
      let b ← load json pos
      if ascii '0' ≤ b ∧ b ≤ ascii '9' then
        let pos ← moveTo json pos (pos + 1)
        skipDigits fuel pos
      else return pos
    else return pos

/-- The optional fraction of `pktlab_json_proto_skip_number`. -/
def skipFraction (pos : ℕ) : Except Fault ℕ := do
  if ← isAt json pos (ascii '.') then
    let pos ← moveTo json pos (pos + 1)
    skipDigits json (json.length + 1) pos
  else return pos

/-- `*pos < json_len && (json[*pos] == c || json[*pos] == d)`. -/
def isAtEither (pos : ℕ) (c d : UInt8) : Except Fault Bool := do
  if ← isAt json pos c then return true
  else isAt json pos d

/-- The optional exponent of `pktlab_json_proto_skip_number`. -/
def skipExponent (pos : ℕ) : Except Fault ℕ := do
  if ← isAtEither json pos (ascii 'e') (ascii 'E') then
    let pos ← moveTo json pos (pos + 1)
    if ← isAtEither json pos (ascii '+') (ascii '-') then
      let pos ← moveTo json pos (pos + 1)
      skipDigits json (json.length + 1) pos
    else skipDigits json (json.length + 1) pos
  else return pos

/-- `*pos == start || (*pos == start + 1U && json[start] == '-')`. -/
def noDigits (start pos : ℕ) : Except Fault Bool :=
  if pos = start then return true
  else if pos = start + 1 then do
    let b ← load json start
    return b = ascii '-'
  else return false

/-- `if (json[*pos] == '-') { (*pos)++; }`. The read has no check of its own. -/
def skipSign (pos : ℕ) : Except Fault ℕ := do
  let b ← load json pos
  if b = ascii '-' then moveTo json pos (pos + 1) else return pos

/-- `pktlab_json_proto_skip_number`. -/
def skipNumber (start : ℕ) : Except Fault (Status ℕ) := do
  let pos ← skipSign json start
  let pos ← skipDigits json (json.length + 1) pos
  if ← noDigits json start pos then return reject "invalid JSON number"
  else
    let pos ← skipFraction json pos
    let pos ← skipExponent json pos
    return .ok pos

section Containers

-- `pktlab_json_proto_skip_value` as the containers call it, at a depth and a position
variable (skipValue : ℕ → ℕ → Except Fault (Status ℕ))

/-- The `while` of `pktlab_json_proto_skip_object`. -/
def objectLoop (depth : ℕ) : ℕ → Bool → ℕ → Except Fault (Status ℕ)
  | 0, _, _ => .error .fuel
  | fuel + 1, expectMember, pos =>
    if pos < json.length then do
      let pos ← skipWs json pos
      if ← isAt json pos (ascii '}') then
        let pos ← moveTo json pos (pos + 1)
        return .ok pos
      else if !expectMember then return reject "expected object member separator"
      else
        match ← skipString json pos with
        | .error e => return .error e
        | .ok pos =>
          let pos ← skipWs json pos
          if ← isAt json pos (ascii ':') then
            let pos ← moveTo json pos (pos + 1)
            match ← skipValue (depth + 1) pos with
            | .error e => return .error e
            | .ok pos =>
              let pos ← skipWs json pos
              if ← isAt json pos (ascii ',') then
                let pos ← moveTo json pos (pos + 1)
                objectLoop depth fuel true pos
              else if ← isAt json pos (ascii '}') then
                let pos ← moveTo json pos (pos + 1)
                return .ok pos
              else return reject "expected ',' or '\x7d' in object"
          else return reject "expected ':' after object key"
    else return reject "unterminated JSON object"

/-- `pktlab_json_proto_skip_object`. -/
def skipObject (depth pos : ℕ) : Except Fault (Status ℕ) :=
  if depth > maxNesting then return reject "JSON nesting exceeds the supported limit"
  else do
    let pos ← skipWs json pos
    if ← isAt json pos (ascii '{') then
      let pos ← moveTo json pos (pos + 1)
      objectLoop json skipValue depth (json.length + 1) true pos
    else return reject "expected a JSON object"

/-- The `while` of `pktlab_json_proto_skip_array`. -/
def arrayLoop (depth : ℕ) : ℕ → ℕ → Except Fault (Status ℕ)
  | 0, _ => .error .fuel
  | fuel + 1, pos =>
    if pos < json.length then do
      let pos ← skipWs json pos
      if ← isAt json pos (ascii ']') then
        let pos ← moveTo json pos (pos + 1)
        return .ok pos
      else
        match ← skipValue (depth + 1) pos with
        | .error e => return .error e
        | .ok pos =>
          let pos ← skipWs json pos
          if ← isAt json pos (ascii ',') then
            let pos ← moveTo json pos (pos + 1)
            arrayLoop depth fuel pos
          else if ← isAt json pos (ascii ']') then
            let pos ← moveTo json pos (pos + 1)
            return .ok pos
          else return reject "expected ',' or ']' in array"
    else return reject "unterminated JSON array"

/-- `pktlab_json_proto_skip_array`. -/
def skipArray (depth pos : ℕ) : Except Fault (Status ℕ) :=
  if depth > maxNesting then return reject "JSON nesting exceeds the supported limit"
  else do
    let pos ← skipWs json pos
    if ← isAt json pos (ascii '[') then
      let pos ← moveTo json pos (pos + 1)
      arrayLoop json skipValue depth (json.length + 1) pos
    else return reject "expected a JSON array"

end Containers

/-- `pktlab_json_proto_skip_value`. Of its calls `levels` may be active at a
time, this one included. -/
def skipValue : ℕ → ℕ → ℕ → Except Fault (Status ℕ)
  | 0, _, _ => .error .levels
  | levels + 1, depth, pos => do
    let pos ← skipWs json pos
    if pos ≥ json.length then return reject "unexpected end of JSON input"
    else
      let b ← load json pos
      if b = ascii '{' then skipObject json (skipValue levels) depth pos
      else if b = ascii '[' then skipArray json (skipValue levels) depth pos
      else if b = ascii '"' then skipString json pos
      else if b = ascii 't' then skipLiteral json "true" pos
      else if b = ascii 'f' then skipLiteral json "false" pos
      else if b = ascii 'n' then skipLiteral json "null" pos
      else if b = ascii '-' ∨ (ascii '0' ≤ b ∧ b ≤ ascii '9') then skipNumber json pos
      else return reject "unexpected JSON token"

/-- `struct pktlab_ipc_request`. -/
structure Request where
  id : Buffer idCap
  cmd : Buffer cmdCap

/-- `memset(request, 0, sizeof(*request))`. -/
def Request.zeroed : Request := ⟨Buffer.zeroed idCap, Buffer.zeroed cmdCap⟩

/-- The locals of `pktlab_json_proto_parse_request` but `key`. -/
structure RequestState where
  request : Request := .zeroed
  haveId : Bool := false
  haveCmd : Bool := false
  havePayload : Bool := false

/-- `strcmp(key, name) == 0`. -/
def keyIs (key : Buffer keyCap) (name : String) : Except Fault Bool := compare key.bytes 0 (utf8 name ++ [0])

/-- The calls of `skip_value` that may be active at a time. -/
def maxLevels : ℕ := 17

/-- One member of the request object. `key` is what the stack holds where the
array of this name is. -/
def requestMember (key : Buffer keyCap) (s : RequestState) (pos : ℕ) :
    Except Fault (RequestState × Status ℕ) := do
  let (key, r) ← parseString json pos key
  match r with
  | .error e => return (s, .error e)
  | .ok pos =>
    let pos ← skipWs json pos
    if ← isAt json pos (ascii ':') then
      let pos ← moveTo json pos (pos + 1)
      if ← keyIs key "id" then
        if s.haveId then return (s, reject "duplicate request id field")
        else
          let (id, r) ← parseString json pos s.request.id
          let s := { s with request := { s.request with id } }
          match r with
          | .error e => return (s, .error e)
          | .ok pos => return ({ s with haveId := true }, .ok pos)
      else if ← keyIs key "cmd" then
        if s.haveCmd then return (s, reject "duplicate request command field")
        else
          let (cmd, r) ← parseString json pos s.request.cmd
          let s := { s with request := { s.request with cmd } }
          match r with
          | .error e => return (s, .error e)
          | .ok pos => return ({ s with haveCmd := true }, .ok pos)
      else if ← keyIs key "payload" then
        if s.havePayload then return (s, reject "duplicate request payload field")
        else
          let payloadPos ← skipWs json pos
          match ← skipValue json maxLevels 1 payloadPos with
          | .error e => return (s, .error e)
          | .ok payloadValuePos =>
            if ← isAt json payloadPos (ascii '{') then
              let pos ← moveTo json pos payloadValuePos
              return ({ s with havePayload := true }, .ok pos)
            else return (s, .error ⟨.invalidPayload, "request payload must be a JSON object"⟩)
      else return (s, reject "unexpected top-level request field")
    else return (s, reject "expected ':' after request key")

/-- The checks after the loop. -/
def requestEnd (s : RequestState) (pos : ℕ) : Except Fault (Request × Status Unit) := do
  let pos ← skipWs json pos
  if pos ≠ json.length then return (s.request, reject "request contains trailing data")
  else if !s.haveId || !s.haveCmd || !s.havePayload then
    return (s.request, reject "request must include id, cmd, and payload")
  else return (s.request, .ok ())

/-- The `while` of `pktlab_json_proto_parse_request`. -/
def requestLoop (key : Buffer keyCap) : ℕ → RequestState → ℕ → Except Fault (Request × Status Unit)
  | 0, _, _ => .error .fuel
  | fuel + 1, s, pos =>
    if pos < json.length then do
      let pos ← skipWs json pos
      if ← isAt json pos (ascii '}') then
        let pos ← moveTo json pos (pos + 1)
        requestEnd json s pos
      else
        let (s, r) ← requestMember json key s pos
        match r with
        | .error e => return (s.request, .error e)
        | .ok pos =>
          let pos ← skipWs json pos
          if ← isAt json pos (ascii ',') then
            let pos ← moveTo json pos (pos + 1)
            requestLoop key fuel s pos
          else if ← isAt json pos (ascii '}') then
            let pos ← moveTo json pos (pos + 1)
            requestEnd json s pos
          else if pos ≥ json.length then requestEnd json s pos
          else return (s.request, reject "expected ',' or '\x7d' in request object")
    else requestEnd json s pos

/-- `pktlab_json_proto_parse_request`. -/
def parseRequest (key : Buffer keyCap) : Except Fault (Request × Status Unit) := do
  let pos ← skipWs json 0
  if ← isAt json pos (ascii '{') then
    let pos ← moveTo json pos (pos + 1)
    requestLoop json key (json.length + 1) {} pos
  else return (Request.zeroed, reject "request must be a JSON object")

end InMemory
end Dpdkd
end Pktlab
