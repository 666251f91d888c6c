/-
# The request parser of the daemon

`dpdkd/src/json_proto.c`, lines 192 to 758: the scanners over
`(json, json_len, pos)` and `pktlab_json_proto_parse_request`. A position is
the list of the bytes from it on, so `pos < json_len` is a non-empty list and
`pos++` its tail; `*pos = q` hands on the list at `q`. A read of the source
that its own bound check guards is a match whose empty case is the failed
check. A read it does not guard is a match whose empty case is
`Fail.fault`.

Output buffers are the bytes written so far and their capacity; capacity 0 is
the call with `NULL`. The mutually recursive skippers take fuel;
`Fail.fuel` is no outcome of the C code, and `Pktlab.Dpdkd.JsonBounds` shows
that neither it nor `Fail.fault` ever comes out of `parseRequest`.

Key definitions: `parseString`, `skipValue`, `parseRequest`.
-/
import Pktlab.Lib.Rfc8259

namespace Pktlab
namespace Dpdkd

open Utf8

/-- `enum pktlab_dpdkd_error_code`. -/
inductive ErrorCode
  | none
  | invalidRequest
  | invalidPayload
  | unknownCommand
  | ruleValidation
  | portInit
  | stateConflict
  | internal
  deriving DecidableEq, Repr

/-- `struct pktlab_dpdkd_error`. -/
structure DpdkdError where
  code : ErrorCode
  message : String
  deriving DecidableEq, Repr

/-- How a scan ends without success: the C code returns `-1` with its error
set, it reads outside the buffer, or the model runs out of fuel. -/
inductive Fail
  | rejected (error : DpdkdError)
  | fault
  | fuel
  deriving DecidableEq, Repr

namespace JsonProto

/-- `pktlab_json_proto_set_error` with `INVALID_REQUEST`, then `return -1`. -/
def reject {α : Type} (message : String) : Except Fail α :=
  .error (.rejected ⟨.invalidRequest, message⟩)

/-- `PKTLAB_JSON_PROTO_MAX_NESTING`. -/
def maxNesting : ℕ := 16

/-- `*pos < json_len && json[*pos] == c`, and then `(*pos)++`. -/
def eat (c : Char) : List UInt8 → Option (List UInt8)
  | [] => none
  | b :: json => if b = ascii c then some json else none

/-- `pktlab_json_proto_skip_ws`. -/
def skipWs : List UInt8 → List UInt8
  | [] => []
  | b :: json =>
    if b ≠ ascii ' ' ∧ b ≠ ascii '\n' ∧ b ≠ ascii '\r' ∧ b ≠ ascii '\t' then b :: json
    else skipWs json

/-- The `switch` over the byte after a backslash. -/
def escaped (b : UInt8) : Option UInt8 :=
  if b = ascii '"' then some (ascii '"')
  else if b = ascii '\\' then some (ascii '\\')
  else if b = ascii '/' then some (ascii '/')
  else if b = ascii 'b' then some 0x08
  else if b = ascii 'f' then some 0x0C
  else if b = ascii 'n' then some 0x0A
  else if b = ascii 'r' then some 0x0D
  else if b = ascii 't' then some 0x09
  else none

/-- `needs_output` and the buffer is full: no room for a byte and the
terminator. -/
def full (cap : ℕ) (out : List UInt8) : Bool := 0 < cap && cap ≤ out.length + 1

/-- `buffer[out_len++] = ch` when there is a buffer. -/
def store (cap : ℕ) (out : List UInt8) (ch : UInt8) : List UInt8 :=
  if 0 < cap then out ++ [ch] else out

/-- The loop of `pktlab_json_proto_parse_string` after the opening quote:
the bytes written to the buffer, and the position after the string. -/
def stringLoop (cap : ℕ) : List UInt8 → List UInt8 → List UInt8 × Except Fail (List UInt8)
  | [], out => (out, reject "unterminated JSON string")
  | ch :: json, out =>
    if ch = ascii '"' then (out, .ok json)
    else if ch = ascii '\\' then
      match json with
      | [] => (out, reject "unterminated JSON escape sequence")
      | b :: json' =>
        match escaped b with
        | none => (out, reject "unsupported JSON escape sequence")
        | some c =>
          if full cap out then (out, reject "JSON string exceeds the allowed size")
          else stringLoop cap json' (store cap out c)
    else if full cap out then (out, reject "JSON string exceeds the allowed size")
    else stringLoop cap json (store cap out ch)

/-- `pktlab_json_proto_parse_string`. -/
def parseString (cap : ℕ) (json : List UInt8) : List UInt8 × Except Fail (List UInt8) :=
  match eat '"' (skipWs json) with
  | none => ([], reject "expected a JSON string")
  | some json => stringLoop cap json []

/-- `pktlab_json_proto_skip_literal`. -/
def skipLiteral (literal : String) (json : List UInt8) : Except Fail (List UInt8) :=
  if json.length < (utf8 literal).length ∨ json.take (utf8 literal).length ≠ utf8 literal then
    reject "invalid JSON literal"
  else .ok (json.drop (utf8 literal).length)

/-- `while (*pos < json_len && json[*pos] >= '0' && json[*pos] <= '9')`. -/
def skipDigits : List UInt8 → List UInt8
  | [] => []
  | b :: json => if ascii '0' ≤ b ∧ b ≤ ascii '9' then skipDigits json else b :: json

/-- The optional fraction of `pktlab_json_proto_skip_number`. -/
def skipFraction (json : List UInt8) : List UInt8 :=
  match eat '.' json with
  | some json => skipDigits json
  | none => json

/-- The optional exponent of `pktlab_json_proto_skip_number`. -/
def skipExponent (json : List UInt8) : List UInt8 :=
  match (eat 'e' json).or (eat 'E' json) with
  | some json => skipDigits (((eat '+' json).or (eat '-' json)).getD json)
  | none => json

/-- `pktlab_json_proto_skip_number`. The first read has no check of its own. -/
def skipNumber : List UInt8 → Except Fail (List UInt8)
  | [] => .error .fault
  | b :: json =>
    let afterSign := if b = ascii '-' then json else b :: json
    let afterInt := skipDigits afterSign
    if afterInt.length = (b :: json).length ∨
        (afterInt.length + 1 = (b :: json).length ∧ b = ascii '-') then
      reject "invalid JSON number"
    else .ok (skipExponent (skipFraction afterInt))

mutual

/-- `pktlab_json_proto_skip_object`. -/
def skipObject : ℕ → ℕ → List UInt8 → Except Fail (List UInt8)
  | 0, _, _ => .error .fuel
  | fuel + 1, depth, json =>
    if depth > maxNesting then reject "JSON nesting exceeds the supported limit"
    else
      match eat '{' (skipWs json) with
      | none => reject "expected a JSON object"
      | some json => objectLoop fuel depth true json

/-- The `while` of `pktlab_json_proto_skip_object`. -/
def objectLoop : ℕ → ℕ → Bool → List UInt8 → Except Fail (List UInt8)
  | 0, _, _, _ => .error .fuel
  | _ + 1, _, _, [] => reject "unterminated JSON object"
  | fuel + 1, depth, expectMember, b :: json =>
    match eat '}' (skipWs (b :: json)) with
    | some json => .ok json
    | none =>
      if !expectMember then reject "expected object member separator"
      else
        match (parseString 0 (skipWs (b :: json))).2 with
        | .error e => .error e
        | .ok json =>
          match eat ':' (skipWs json) with
          | none => reject "expected ':' after object key"
          | some json =>
            match skipValue fuel (depth + 1) json with
            | .error e => .error e
            | .ok json =>
              match eat ',' (skipWs json) with
              | some json => objectLoop fuel depth true json
              | none =>
                match eat '}' (skipWs json) with
                | some json => .ok json
                | none => reject "expected ',' or '\x7d' in object"

/-- `pktlab_json_proto_skip_array`. -/
def skipArray : ℕ → ℕ → List UInt8 → Except Fail (List UInt8)
  | 0, _, _ => .error .fuel
  | fuel + 1, depth, json =>
    if depth > maxNesting then reject "JSON nesting exceeds the supported limit"
    else
      match eat '[' (skipWs json) with
      | none => reject "expected a JSON array"
      | some json => arrayLoop fuel depth json

/-- The `while` of `pktlab_json_proto_skip_array`. -/
def arrayLoop : ℕ → ℕ → List UInt8 → Except Fail (List UInt8)
  | 0, _, _ => .error .fuel
  | _ + 1, _, [] => reject "unterminated JSON array"
  | fuel + 1, depth, b :: json =>
    match eat ']' (skipWs (b :: json)) with
    | some json => .ok json
    | none =>
      match skipValue fuel (depth + 1) (skipWs (b :: json)) with
      | .error e => .error e
      | .ok json =>
        match eat ',' (skipWs json) with
        | some json => arrayLoop fuel depth json
        | none =>
          match eat ']' (skipWs json) with
          | some json => .ok json
          | none => reject "expected ',' or ']' in array"

/-- `pktlab_json_proto_skip_value`. -/
def skipValue : ℕ → ℕ → List UInt8 → Except Fail (List UInt8)
  | 0, _, _ => .error .fuel
  | fuel + 1, depth, json =>
    match skipWs json with
    | [] => reject "unexpected end of JSON input"
    | b :: json =>
      if b = ascii '{' then skipObject fuel depth (b :: json)
      else if b = ascii '[' then skipArray fuel depth (b :: json)
      else if b = ascii '"' then (parseString 0 (b :: json)).2
      else if b = ascii 't' then skipLiteral "true" (b :: json)
      else if b = ascii 'f' then skipLiteral "false" (b :: json)
      else if b = ascii 'n' then skipLiteral "null" (b :: json)
      else if b = ascii '-' ∨ (ascii '0' ≤ b ∧ b ≤ ascii '9') then skipNumber (b :: json)
      else reject "unexpected JSON token"

end

/-- The fuel `parseRequest` gives `skipValue`: three calls a byte. -/
def skipFuel (json : List UInt8) : ℕ := 3 * json.length + 1

/-- `struct pktlab_ipc_request`: the bytes written to its two buffers, which
start zeroed. -/
structure IpcRequest where
  id : List UInt8 := []
  cmd : List UInt8 := []
  deriving DecidableEq, Repr

/-- A buffer read as a C string: up to the first NUL. -/
def cString (b : List UInt8) : List UInt8 := b.takeWhile (· ≠ 0)

/-- The locals of `pktlab_json_proto_parse_request`. -/
structure RequestState where
  request : IpcRequest := {}
  haveId : Bool := false
  haveCmd : Bool := false
  havePayload : Bool := false
  deriving DecidableEq, Repr

/-- `sizeof(key)`, `sizeof(request->id)`, `sizeof(request->cmd)`. -/
def keyCap : ℕ := 32
def idCap : ℕ := 65
def cmdCap : ℕ := 33

/-- One member of the request object: its key, the colon and its value. The
first component is the request as the buffers hold it when this ends. -/
def requestMember (s : RequestState) (json : List UInt8) :
    IpcRequest × Except Fail (RequestState × List UInt8) :=
  match parseString keyCap json with
  | (_, .error e) => (s.request, .error e)
  | (key, .ok json) =>
    match eat ':' (skipWs json) with
    | none => (s.request, reject "expected ':' after request key")
    | some json =>
      if cString key = utf8 "id" then
        if s.haveId then (s.request, reject "duplicate request id field")
        else
          match parseString idCap json with
          | (out, .error e) => ({ s.request with id := out }, .error e)
          | (out, .ok json) =>
            let s := { s with request := { s.request with id := out }, haveId := true }
            (s.request, .ok (s, json))
      else if cString key = utf8 "cmd" then
        if s.haveCmd then (s.request, reject "duplicate request command field")
        else
          match parseString cmdCap json with
          | (out, .error e) => ({ s.request with cmd := out }, .error e)
          | (out, .ok json) =>
            let s := { s with request := { s.request with cmd := out }, haveCmd := true }
            (s.request, .ok (s, json))
      else if cString key = utf8 "payload" then
        if s.havePayload then (s.request, reject "duplicate request payload field")
        else
          let payload := skipWs json
          match skipValue (skipFuel payload) 1 payload with
          | .error e => (s.request, .error e)
          | .ok json =>
            match eat '{' payload with
            | none =>
              (s.request,
                .error (.rejected ⟨.invalidPayload, "request payload must be a JSON object"⟩))
            | some _ => (s.request, .ok ({ s with havePayload := true }, json))
      else (s.request, reject "unexpected top-level request field")

/-- The checks after the loop. -/
def requestEnd (s : RequestState) (json : List UInt8) : IpcRequest × Except Fail Unit :=
  match skipWs json with
  | _ :: _ => (s.request, reject "request contains trailing data")
  | [] =>
    if !s.haveId || !s.haveCmd || !s.havePayload then
      (s.request, reject "request must include id, cmd, and payload")
    else (s.request, .ok ())

/-- The `while` of `pktlab_json_proto_parse_request`. -/
def requestLoop : ℕ → RequestState → List UInt8 → IpcRequest × Except Fail Unit
  | 0, s, _ => (s.request, .error .fuel)
  | _ + 1, s, [] => requestEnd s []
  | fuel + 1, s, b :: json =>
    match eat '}' (skipWs (b :: json)) with
    | some json => requestEnd s json
    | none =>
      match requestMember s (skipWs (b :: json)) with
      | (request, .error e) => (request, .error e)
      | (_, .ok (s, json)) =>
        match eat ',' (skipWs json) with
        | some json => requestLoop fuel s json
        | none =>
          match eat '}' (skipWs json) with
          | some json => requestEnd s json
          | none =>
            match skipWs json with
            | [] => requestEnd s []
            | _ :: _ => (s.request, reject "expected ',' or '\x7d' in request object")

/-- `pktlab_json_proto_parse_request`: the request as its buffers hold it,
and the outcome. -/
def parseRequest (json : List UInt8) : IpcRequest × Except Fail Unit :=
  match eat '{' (skipWs json) with
  | none => ({}, reject "request must be a JSON object")
  | some json => requestLoop (json.length + 1) {} json

end JsonProto
end Dpdkd
end Pktlab
