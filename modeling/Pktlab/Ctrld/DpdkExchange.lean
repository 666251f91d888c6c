/-
# Client and daemon over the socket

One exchange goes all the way: the client frames its request, the kernel hands
the bytes to the daemon in some chunks, the daemon parses, dispatches, renders
and writes, the client reads, loads and validates (`typedCall`,
`handleClient`). `callService` says what comes of it, without any of that: the
result of the service, or one of two errors for an identifier that is too
long. `exchanges_serve` is that equality over every history of calls and
bursts, with any cut of the streams, any `json.loads` and any coercions that
do what is documented of them.

Key definitions: `Delivery`, `Carried`, `exchangeStep`, `callService`,
`serviceAfter`.
Key theorems: `handleClient_one`, `typedCall_serves`, `exchanges_serve`.
-/
import Pktlab.Ctrld.DatapathService
import Pktlab.Dpdkd.IpcServer

namespace Pktlab
namespace Ctrld

open Utf8 Rfc8259 Decimal Wire Dpdkd Dpdkd.JsonProto DatapathService

/-! ### An identifier that is too long -/

/-- A string that is too long is stored as far as it fits. -/
theorem stringLoop_overflow (cap : ℕ) (rest : List UInt8) : ∀ (b out : List UInt8), (∀ c ∈ b, isPlain c = true) →
    out.length < cap → cap ≤ out.length + b.length →
    stringLoop cap (b ++ rest) out =
      (out ++ b.take (cap - 1 - out.length), reject "JSON string exceeds the allowed size")
  | [], out, _, h1, h2 => by
    rw [List.length_nil] at h2
    omega
  | c :: b, out, hb, h1, h2 => by
    obtain ⟨hc, hrest⟩ := List.forall_mem_cons.mp hb
    rw [List.cons_append]
    unfold stringLoop
    rw [if_neg (isPlain_not_quote hc), if_neg (isPlain_not_backslash hc)]
    by_cases hfull : cap ≤ out.length + 1
    · have hf : full cap out = true := by
        simp only [full, Bool.and_eq_true, decide_eq_true_eq]
        omega
      have hzero : cap - 1 - out.length = 0 := by omega
      rw [if_pos hf, hzero, List.take_zero, List.append_nil]
    · have hf : ¬ full cap out = true := by
        simp only [full, Bool.and_eq_true, decide_eq_true_eq]
        omega
      have hsucc : cap - 1 - out.length = cap - 1 - (out ++ [c]).length + 1 := by
        rw [List.length_append, List.length_singleton]
        omega
      rw [List.length_cons] at h2
      rw [if_neg hf, store, if_pos (by omega), stringLoop_overflow cap rest b (out ++ [c]) hrest
        (by rw [List.length_append, List.length_singleton]; omega)
        (by rw [List.length_append, List.length_singleton]; omega), hsucc, List.take_succ_cons, List.append_assoc,
        List.singleton_append]

/-- An identifier that cannot be read ends the parser. -/
theorem parseRequest_first {x out : List UInt8} {e : Fail} (h : stringLoop idCap x [] = (out, .error e)) :
    parseRequest (utf8 "\x7b\"id\":\"" ++ x) = (⟨out, []⟩, .error e) := by
  have hlit : utf8 "\x7b\"id\":\"" =
      [ascii '{', ascii '"', ascii 'i', ascii 'd', ascii '"', ascii ':', ascii '"'] := by decide
  generalize hjson : ascii '"' :: ascii 'i' :: ascii 'd' :: ascii '"' :: ascii ':' :: ascii '"' :: x = json
  have hkey : parseString keyCap json = (utf8 "id", .ok (ascii ':' :: ascii '"' :: x)) := by
    rw [← hjson]
    rfl
  have hvalue : parseString idCap (ascii '"' :: x) = (out, .error e) := h
  have hmember : requestMember {} json = (⟨out, []⟩, .error e) := by
    rw [requestMember, hkey]
    show (if cString (utf8 "id") = utf8 "id" then _ else _) = _
    rw [if_pos (by decide)]
    simp only [hvalue]
    rfl
  have hskip : skipWs json = json := by
    rw [← hjson]
    rfl
  have hopen : eat '}' json = none := by
    rw [← hjson]
    rfl
  rw [hlit]
  show requestLoop _ {} (ascii '"' :: ascii 'i' :: ascii 'd' :: ascii '"' :: ascii ':' :: ascii '"' :: x) = _
  rw [requestLoop, hjson, hskip, hopen, hmember]

/-- What the daemon stores of an identifier that is too long. -/
theorem parseRequest_long {r : RequestEnvelope} (h : 64 < r.id.length) :
    parseRequest (compactJson r) =
      (⟨(utf8 r.id).take 64, []⟩, reject "JSON string exceeds the allowed size") := by
  have hloop := stringLoop_overflow idCap
    (utf8 "\",\"cmd\":\"" ++ utf8 r.cmd.name ++ utf8 "\",\"payload\":\x7b\x7d\x7d") (utf8 r.id) [] r.id_plain
    (by decide) (by rw [r.id_length]; unfold idCap; omega)
  have htext : compactJson r = utf8 "\x7b\"id\":\"" ++ (utf8 r.id ++
      (utf8 "\",\"cmd\":\"" ++ utf8 r.cmd.name ++ utf8 "\",\"payload\":\x7b\x7d\x7d")) := by
    simp only [compactJson, List.append_assoc]
  rw [htext, parseRequest_first hloop]
  rfl

/-! ### The daemon's side -/

variable {ingress egress : NonEmptyStr} {n0 n1 : CStr} {d : Daemon} {s : DatapathService}

theorem DatapathCommand.cString_name (c : DatapathCommand) : cString (utf8 c.name) = utf8 c.name :=
  cString_of_no_nul (by cases c <;> decide)

theorem cString_id (r : RequestEnvelope) : cString (utf8 r.id) = utf8 r.id := by
  refine cString_of_no_nul fun h => ?_
  exact absurd (r.id_plain 0 h) (by decide)

/-- The payload of a request whose identifier is not too long fits a frame. -/
theorem compactJson_payload {r : RequestEnvelope} (h : r.id.length ≤ 64) :
    1 ≤ (compactJson r).length ∧ (compactJson r).length < maxFramePayloadSize := by
  have hname := r.cmd.name_plain.2
  have hlit : ∀ l ∈ ["\x7b\"id\":\"", "\",\"cmd\":\"", "\",\"payload\":\x7b\x7d\x7d"],
      1 ≤ (utf8 l).length ∧ (utf8 l).length ≤ 32 := by decide
  simp only [List.forall_mem_cons, List.not_mem_nil, false_implies, implies_true, and_true] at hlit
  simp only [compactJson, List.length_append, r.id_length, maxFramePayloadSize]
  omega

/-- A stream of one frame is answered by one. -/
theorem handleClient_one (h0 : n0.bytes.length < nameLen) (h1 : n1.bytes.length < nameLen) (hd : Serving n0 n1 d)
    {f : List UInt8} (hf : FramePayload maxFrameSize f) {reads : List Read} {writes : List Write}
    (hb : bytes reads = frame f) (hw : Write.failed ∉ writes) :
    ∃ response d', Replies d [f] [response] d' ∧
      (handleClient dispatchRequest d reads writes).2 = (d', frame response) := by
  have hstream : bytes reads = [f].flatMap frame ++ [] := by
    rw [hb, List.flatMap_singleton, List.append_nil]
  have hfuel : [f].length < (bytes reads).length + 1 := by
    rw [hb, frame, List.length_append, be32_length, List.length_singleton]
    omega
  obtain ⟨e, d', responses, hreplies, -, hloop⟩ := clientLoop_replies h0 h1 (Or.inl (by decide)) [f] _ d reads writes hd
    (by simpa using hf) hstream hw hfuel
  obtain ⟨response, rfl⟩ := List.length_eq_one_iff.mp hreplies.length_eq
  refine ⟨response, d', hreplies, ?_⟩
  rw [handleClient, hloop, List.flatMap_singleton]

theorem failure_compactJson {r : RequestEnvelope} (hid : r.id.length ≤ 64) (h : Shows ingress egress d s) :
    Dpdkd.failure d (compactJson r) = if needsForwarding r.cmd.command && !s.forwarding then some notActive else none := by
  unfold Dpdkd.failure
  rw [(parseRequest_compactJson r).mpr hid]
  simp only [r.cmd.cString_name, command?_name, h.active]

theorem storedId_compactJson {r : RequestEnvelope} (hid : r.id.length ≤ 64) :
    storedId (compactJson r) = utf8 r.id := by
  rw [storedId, (parseRequest_compactJson r).mpr hid]
  exact cString_id r

/-! ### The client's side -/

theorem payload_fits (d : Daemon) (c : Command) : jsonFits 99 (payloadJson d c) = true := by
  have h64 : ∀ n : UInt64, (decimal n.toNat).length ≤ 4300 := fun n =>
    (length_decimal_le (k := 20) (by decide) (lt_trans n.toNat_lt (by decide))).trans (by decide)
  have h32 : ∀ n : UInt32, (decimal n.toNat).length ≤ 4300 := fun n =>
    (length_decimal_le (k := 10) (by decide) (lt_trans n.toNat_lt (by decide))).trans (by decide)
  have h16 : ∀ n : UInt16, (decimal n.toNat).length ≤ 4300 := fun n =>
    (length_decimal_le (k := 5) (by decide) (lt_trans n.toNat_lt (by decide))).trans (by decide)
  cases c <;>
    simp [payloadJson, ackJson, versionJson, healthJson, portsJson, portJson, statsJson, boolJson, jsonFits, utf8_eq_iff,
      h64, h32, h16]

theorem success_fits (id : List UInt8) (d : Daemon) (c : Command) :
    jsonFits 100 (successJson id (payloadJson d c)) = true := by
  simp [successJson, jsonFits, utf8_eq_iff, payload_fits]

theorem error_fits (id : List UInt8) (e : DpdkdError) : jsonFits 100 (errorJson id e) = true := by
  simp [errorJson, jsonFits, utf8_eq_iff]

section Client

variable {modelDumpJson : RequestEnvelope → List UInt8} {loads : List UInt8 → Except LoadsError Json}
  {lax : Coercions}

/-- The envelope of a response frame that is read whole. -/
theorem exchange_reply {r : RequestEnvelope} {f response : List UInt8} {session : Session} {e : ResponseEnvelope}
    (hencode : encodeRequest modelDumpJson r = .ok f) (hconnect : session.connect = none)
    (hsendall : session.sendall = none) (hlen : FramePayload maxFrameSize response)
    (hreads : bytes session.reads = frame response) (hparse : parseResponse loads response = .ok e) :
    exchange modelDumpJson loads r session = .ok e := by
  have hbytes : bytes session.reads = frame response ++ [] := by rw [hreads, List.append_nil]
  obtain ⟨reads', hrecv, -⟩ := recvFrame_frame hlen hbytes
  rw [exchange, hconnect, hencode, hsendall]
  simp only
  rw [recvResponse, hrecv]
  exact hparse

/-- What `_typed_call` makes of a success. -/
theorem typedCall_success {r : RequestEnvelope} {session : Session} {id : RequestId} {ms : List (List UInt8 × Json)}
    {p : Payload r.cmd} (hexchange : exchange modelDumpJson loads r session = .ok (.success id ms)) (hid : id = r.id)
    (hp : validatePayload lax r.cmd (.obj ms) = some p) :
    typedCall modelDumpJson loads lax r session = .ok (.ok p) := by
  have hsame : (ResponseEnvelope.success id ms).id = r.id := hid
  rw [typedCall, hexchange]
  simp only
  rw [if_neg (not_not_intro hsame), hp]
  rfl

variable (lax) in
/-- What it makes of an error. -/
theorem typedCall_error {r : RequestEnvelope} {session : Session} {id : RequestId} {e : DatapathErrorModel}
    (hexchange : exchange modelDumpJson loads r session = .ok (.error id e)) :
    typedCall modelDumpJson loads lax r session =
      if id ≠ r.id then .error (.protocol "IPC response id did not match the request id") else .ok (.error e) := by
  rw [typedCall, hexchange]
  rfl

/-! ### Responses are read back -/

/-- The identifier of a request, as one that the envelopes accept. -/
def RequestEnvelope.requestId (r : RequestEnvelope) : RequestId := ⟨r.id, r.id_ne, r.id_pattern⟩

theorem payloadStrings_clean (hd : Serving n0 n1 d) (hc0 : Dpdkd.Clean n0.bytes) (hc1 : Dpdkd.Clean n1.bytes) (c : Command) :
    Dpdkd.Clean (payloadStrings d c) := by
  have hnil : Dpdkd.Clean [] := fun b hb => absurd hb List.not_mem_nil
  cases c with
  | getVersion => exact hnil
  | getStats => exact hnil
  | getHealth => exact hd.clean_message.mpr (Or.inr ⟨hc0, hc1⟩)
  | getPorts =>
    show Dpdkd.Clean (d.datapath.ports.ingress.name.bytes ++ d.datapath.ports.egress.name.bytes)
    rw [hd.ingress, hd.egress]
    exact List.forall_mem_append.mpr ⟨hc0, hc1⟩
  | ping => exact ackOf_clean d .ping
  | resetStats => exact ackOf_clean d .resetStats
  | pauseDatapath => exact ackOf_clean d .pauseDatapath
  | resumeDatapath => exact ackOf_clean d .resumeDatapath

/-- The success response of the daemon, at the client. -/
theorem parseResponse_successText (hloads : LoadsJson loads) (h0 : n0.bytes.length < nameLen)
    (h1 : n1.bytes.length < nameLen) (hu0 : IsUtf8 n0.bytes) (hu1 : IsUtf8 n1.bytes) (hc0 : Dpdkd.Clean n0.bytes)
    (hc1 : Dpdkd.Clean n1.bytes) (hd : Serving n0 n1 d) {r : RequestEnvelope} (hid : r.id.length ≤ 64) (c : Command) :
    ∃ ms, payloadJson d c = .obj ms ∧
      parseResponse loads (successText (escapeText (utf8 r.id)) (payloadText d c)) = .ok (.success r.requestId ms) := by
  have hobj : ∃ ms, payloadJson d c = .obj ms := by cases c <;> exact ⟨_, rfl⟩
  obtain ⟨ms, hms⟩ := hobj
  have hlen : (utf8 r.id).length ≤ 64 := by rw [r.id_length]; exact hid
  have hrendered := success_rendered hlen (isUtf8_utf8 r.id) (payload_rendered hd h0 h1 hu0 hu1 c)
  have hclean : Dpdkd.Clean (utf8 r.id ++ payloadStrings d c) :=
    List.forall_mem_append.mpr ⟨clean_plain r.id_plain, payloadStrings_clean hd hc0 hc1 c⟩
  have hload := hloads _ _ (hrendered.spells hclean) hrendered.isUtf8 (success_fits _ d c)
  refine ⟨ms, hms, ?_⟩
  rw [successJson, hms] at hload
  have hid : utf8 r.id = utf8 r.requestId := rfl
  rw [hid] at hload
  exact parseResponse_success hload

/-- An error response of the daemon, at the client. -/
theorem parseResponse_errorResponse (hloads : LoadsJson loads) {id : RequestId} (hid : (utf8 id).length ≤ 64)
    (hclean : Dpdkd.Clean (utf8 id)) {e : DpdkdError} (he : Sayable e.message) {code : DatapathErrorCode}
    (hcode : errorCodeName e.code = code.value) (hne : e.message ≠ "") :
    parseResponse loads (errorResponse (utf8 id) e) = .ok (.error id ⟨code, e.message⟩) := by
  have hrendered := error_rendered (e := e) hid (isUtf8_utf8 _) he
  have hload := hloads _ _ (hrendered.spells hclean) hrendered.isUtf8 (error_fits _ e)
  rw [errorJson, hcode] at hload
  have hmessage : utf8 e.message = utf8 (⟨e.message, hne⟩ : NonEmptyStr) := rfl
  rw [hmessage] at hload
  exact parseResponse_error hload

/-! ### One exchange -/

variable (modelDumpJson loads lax)

/-- One exchange as the kernel carries it: the chunks in which the daemon
gets the request, how its writes are cut, and the client's side. -/
structure Delivery where
  reads : List Read
  writes : List Write
  session : Session

/-- Nothing fails, and both sides get the bytes that the other one wrote. -/
def Carried (d : Daemon) (r : RequestEnvelope) (t : Delivery) : Prop :=
  t.session.connect = none ∧ t.session.sendall = none ∧ bytes t.reads = sent modelDumpJson r ∧
    Write.failed ∉ t.writes ∧ bytes t.session.reads = (handleClient dispatchRequest d t.reads t.writes).2.2

instance (d : Daemon) (r : RequestEnvelope) (t : Delivery) : Decidable (Carried modelDumpJson d r t) :=
  inferInstanceAs (Decidable (_ ∧ _))

/-- What a call does to the service, and how it ends for the client. -/
def callService (s : DatapathService) (r : RequestEnvelope) : DatapathService × Answer (Payload r.cmd) :=
  if (compactJson r).length ≥ maxFramePayloadSize then
    (s, .error (.protocol "request payload exceeds the supported IPC frame size"))
  else if 64 < r.id.length then (s, .error (.protocol "IPC response id did not match the request id"))
  else ((s.serve r.cmd).1, .ok (s.serve r.cmd).2)

variable {modelDumpJson loads lax}

/-- The names of a daemon are texts that can be shown. -/
structure Named (ingress egress : NonEmptyStr) (n0 n1 : CStr) : Prop where
  ingress : n0.bytes = utf8 ingress
  egress : n1.bytes = utf8 egress
  ingress_length : n0.bytes.length < nameLen
  egress_length : n1.bytes.length < nameLen
  ingress_clean : Dpdkd.Clean n0.bytes
  egress_clean : Dpdkd.Clean n1.bytes

variable (lax) in
/-- A request with an identifier that fits. -/
theorem typedCall_served (hdump : CompactDump modelDumpJson) (hloads : LoadsJson loads) (hn : Named ingress egress n0 n1)
    (hd : Serving n0 n1 d) (h : Shows ingress egress d s) {r : RequestEnvelope} (hid : r.id.length ≤ 64) {t : Delivery}
    (ht : Carried modelDumpJson d r t) :
    typedCall modelDumpJson loads lax r t.session = .ok (s.serve r.cmd).2 ∧
      (handleClient dispatchRequest d t.reads t.writes).2.1 = (runCommand d r.cmd.command).1 := by
  obtain ⟨hconnect, hsendall, harrives, hwrites, hreturns⟩ := ht
  have hlen := compactJson_payload hid
  have hencode : encodeRequest modelDumpJson r = .ok (frame (compactJson r)) := by
    rw [encodeRequest, hdump r]
    exact framePayload_eq_ok.mpr ⟨hlen, rfl⟩
  rw [sent, hencode] at harrives
  obtain ⟨response, d', hreplies, hclient⟩ := handleClient_one hn.ingress_length hn.egress_length hd hlen harrives hwrites
  rw [hclient] at hreturns ⊢
  have hfail := failure_compactJson hid h
  have hstored := storedId_compactJson hid
  have hidlen : (utf8 r.id).length ≤ 64 := by rw [r.id_length]; exact hid
  cases hreplies with
  | @refused _ _ _ _ _ e he hrest =>
    cases hrest
    rw [hfail, Option.ite_none_right_eq_some] at he
    obtain ⟨hneed, he⟩ := he
    obtain rfl := Option.some.inj he
    rw [Bool.and_eq_true, Bool.not_eq_true'] at hneed
    have hserve := (serve_error_iff (s := s) r.cmd).mpr ⟨hneed, rfl⟩
    have hshown : shownId (storedId (compactJson r)) = utf8 r.id := by
      rw [hstored, shownId, if_neg (utf8_ne_nil r.id_ne)]
    rw [hshown] at hreturns
    have hparse : parseResponse loads (errorResponse (utf8 r.requestId) notActive) =
        .ok (.error r.requestId ⟨.stateConflict, notActive.message⟩) :=
      parseResponse_errorResponse hloads hidlen (clean_plain r.id_plain) (by decide) rfl (by decide)
    have hcall := typedCall_error lax (exchange_reply hencode hconnect hsendall
      (errorResponse_payload hidlen (by decide)) hreturns hparse)
    have hsame : (r.requestId : String) = r.id := rfl
    rw [if_neg (not_not_intro hsame)] at hcall
    rw [hcall, hserve, runCommand_inactive hneed.1 (by rw [h.active]; exact hneed.2)]
    exact ⟨rfl, rfl⟩
  | @served _ _ _ _ _ c hnone hc hrest =>
    cases hrest
    rw [(parseRequest_compactJson r).mpr hid, r.cmd.cString_name, command?_name, Option.some.injEq] at hc
    subst hc
    rw [hstored] at hreturns
    have hok : ∃ p, (s.serve r.cmd).2 = .ok p := by
      cases hserve : (s.serve r.cmd).2 with
      | ok p => exact ⟨p, rfl⟩
      | error e =>
        obtain ⟨⟨hneed, hforwarding⟩, -⟩ := (serve_error_iff r.cmd).mp hserve
        rw [hfail, if_pos (by rw [hneed, hforwarding]; rfl)] at hnone
        cases hnone
    obtain ⟨p, hp⟩ := hok
    obtain ⟨ms, hms, hparse⟩ := parseResponse_successText hloads hn.ingress_length hn.egress_length
      (by rw [hn.ingress]; exact isUtf8_utf8 _) (by rw [hn.egress]; exact isUtf8_utf8 _) hn.ingress_clean hn.egress_clean
      hd hid r.cmd.command
    have hvalid := validatePayload_shows lax h hp
    rw [hms] at hvalid
    have hshort := payloadText_short hd hn.ingress_length hn.egress_length r.cmd.command
    rw [typedCall_success (exchange_reply hencode hconnect hsendall (successText_payload hidlen hshort) hreturns hparse)
      rfl hvalid, hp]
    exact ⟨rfl, rfl⟩

/-- Of a text of characters below `0x80`, the first `n` characters are the
first `n` bytes. -/
theorem utf8_take_low : ∀ (cs : List Char) (n : ℕ), (∀ c ∈ cs, c.val.toNat ≤ 0x7f) →
    utf8 (String.ofList (cs.take n)) = (utf8 (String.ofList cs)).take n
  | [], n, _ => by rw [List.take_nil]; exact List.take_nil.symm
  | c :: cs, 0, _ => rfl
  | c :: cs, n + 1, h => by
    obtain ⟨hc, hcs⟩ := List.forall_mem_cons.mp h
    have ih := utf8_take_low cs n hcs
    simp only [utf8, String.toList_ofList] at ih ⊢
    rw [List.take_succ_cons, List.flatMap_cons, List.flatMap_cons, utf8EncodeChar_low hc, List.singleton_append,
      List.singleton_append, List.take_succ_cons, ih]

/-- The part of an identifier that the daemon stores. -/
def RequestEnvelope.storedPart (r : RequestEnvelope) : RequestId :=
  ⟨String.ofList (r.id.toList.take 64), by
    refine ⟨fun h => ?_, fun c hc => ?_⟩
    · have hlist := congrArg String.toList h
      rw [String.toList_ofList, String.toList_empty, List.take_eq_nil_iff] at hlist
      rcases hlist with hlist | hlist
      · cases hlist
      · exact r.id_ne (String.toList_eq_nil_iff.mp hlist)
    · rw [String.toList_ofList] at hc
      exact r.id_pattern c (List.mem_of_mem_take hc)⟩

theorem RequestEnvelope.storedPart_utf8 (r : RequestEnvelope) : utf8 r.storedPart = (utf8 r.id).take 64 := by
  have h := utf8_take_low r.id.toList 64 fun c hc => (isIdChar_low (r.id_pattern c hc)).1
  rw [String.ofList_toList] at h
  exact h

variable (lax) in
/-- A request whose identifier does not fit the buffer of the daemon. -/
theorem typedCall_long (hdump : CompactDump modelDumpJson) (hloads : LoadsJson loads) (hn : Named ingress egress n0 n1)
    (hd : Serving n0 n1 d) {r : RequestEnvelope} (hid : 64 < r.id.length)
    (hlen : (compactJson r).length < maxFramePayloadSize) {t : Delivery} (ht : Carried modelDumpJson d r t) :
    typedCall modelDumpJson loads lax r t.session =
        .error (.protocol "IPC response id did not match the request id") ∧
      (handleClient dispatchRequest d t.reads t.writes).2.1 = d := by
  obtain ⟨hconnect, hsendall, harrives, hwrites, hreturns⟩ := ht
  have hpayload : 1 ≤ (compactJson r).length ∧ (compactJson r).length < maxFramePayloadSize := by
    refine ⟨?_, hlen⟩
    rw [compactJson, List.length_append, List.length_append, List.length_append, List.length_append, r.id_length]
    omega
  have hencode : encodeRequest modelDumpJson r = .ok (frame (compactJson r)) := by
    rw [encodeRequest, hdump r]
    exact framePayload_eq_ok.mpr ⟨hpayload, rfl⟩
  rw [sent, hencode] at harrives
  obtain ⟨response, d', hreplies, hclient⟩ := handleClient_one hn.ingress_length hn.egress_length hd hpayload harrives
    hwrites
  rw [hclient] at hreturns ⊢
  have hparsed := parseRequest_long hid
  have hplain : ∀ b ∈ utf8 r.storedPart, isPlain b = true := by
    rw [r.storedPart_utf8]
    exact fun b hb => r.id_plain b (List.mem_of_mem_take hb)
  have hstored : storedId (compactJson r) = utf8 r.storedPart := by
    rw [storedId, hparsed, r.storedPart_utf8]
    exact cString_of_no_nul fun h => absurd (r.id_plain 0 (List.mem_of_mem_take h)) (by decide)
  have hfail : Dpdkd.failure d (compactJson r) = some ⟨.invalidRequest, "JSON string exceeds the allowed size"⟩ := by
    unfold Dpdkd.failure
    rw [hparsed]
    rfl
  have hpart : (utf8 r.storedPart).length ≤ 64 := by
    rw [r.storedPart_utf8, List.length_take]
    omega
  cases hreplies with
  | refused he hrest =>
    cases hrest
    rw [hfail, Option.some.injEq] at he
    subst he
    rw [hstored, shownId, if_neg (utf8_ne_nil r.storedPart.2.1)] at hreturns
    have hparse : parseResponse loads
        (errorResponse (utf8 r.storedPart) ⟨.invalidRequest, "JSON string exceeds the allowed size"⟩) =
          .ok (.error r.storedPart ⟨.invalidRequest, "JSON string exceeds the allowed size"⟩) :=
      parseResponse_errorResponse hloads hpart (clean_plain hplain) (by decide) rfl (by decide)
    have hcall := typedCall_error lax (exchange_reply hencode hconnect hsendall
      (errorResponse_payload hpart (by decide)) hreturns hparse)
    have hne : (r.storedPart : String) ≠ r.id := by
      intro h
      have hle := hpart
      rw [h, r.id_length] at hle
      omega
    rw [if_pos hne] at hcall
    exact ⟨hcall, rfl⟩
  | served hnone =>
    rw [hfail] at hnone
    cases hnone

variable (loads lax) in
/-- A request that no frame holds is not sent. -/
theorem typedCall_oversized (hdump : CompactDump modelDumpJson) (hn : Named ingress egress n0 n1)
    (hd : Serving n0 n1 d) {r : RequestEnvelope} (hlen : (compactJson r).length ≥ maxFramePayloadSize) {t : Delivery}
    (ht : Carried modelDumpJson d r t) :
    typedCall modelDumpJson loads lax r t.session =
        .error (.protocol "request payload exceeds the supported IPC frame size") ∧
      (handleClient dispatchRequest d t.reads t.writes).2.1 = d := by
  obtain ⟨hconnect, -, harrives, hwrites, -⟩ := ht
  have hencode : encodeRequest modelDumpJson r = .error
      ⟨"request payload exceeds the supported IPC frame size",
        [("payload_length", (compactJson r).length), ("max_payload_length", maxFramePayloadSize - 1)]⟩ := by
    rw [encodeRequest, hdump r, framePayload, if_pos (Or.inr hlen)]
  rw [sent, hencode] at harrives
  have hnone : bytes t.reads = ([] : List (List UInt8)).flatMap frame ++ [] := harrives
  obtain ⟨e, d', responses, hreplies, -, hloop⟩ := clientLoop_replies hn.ingress_length hn.egress_length
    (Or.inl (by decide)) [] ((bytes t.reads).length + 1) d t.reads t.writes hd (by simp) hnone hwrites (by simp)
  cases hreplies
  refine ⟨?_, by rw [handleClient, hloop]⟩
  rw [typedCall, exchange, hconnect, hencode]

variable (lax) in
/-- **One call.** The client gets what the service returns, and the daemon
goes on showing the service. -/
theorem typedCall_serves (hdump : CompactDump modelDumpJson) (hloads : LoadsJson loads) (hn : Named ingress egress n0 n1)
    (hd : Serving n0 n1 d) (h : Shows ingress egress d s) (r : RequestEnvelope) {t : Delivery}
    (ht : Carried modelDumpJson d r t) :
    typedCall modelDumpJson loads lax r t.session = (callService s r).2 ∧
      Serving n0 n1 (handleClient dispatchRequest d t.reads t.writes).2.1 ∧
      Shows ingress egress (handleClient dispatchRequest d t.reads t.writes).2.1 (callService s r).1 := by
  unfold callService
  by_cases hlen : (compactJson r).length ≥ maxFramePayloadSize
  · obtain ⟨hcall, hstate⟩ := typedCall_oversized loads lax hdump hn hd hlen ht
    rw [if_pos hlen, hcall, hstate]
    exact ⟨rfl, hd, h⟩
  · rw [if_neg hlen]
    by_cases hid : 64 < r.id.length
    · obtain ⟨hcall, hstate⟩ := typedCall_long lax hdump hloads hn hd hid (by omega) ht
      rw [if_pos hid, hcall, hstate]
      exact ⟨rfl, hd, h⟩
    · obtain ⟨hcall, hstate⟩ := typedCall_served lax hdump hloads hn hd h (by omega) ht
      rw [if_neg hid, hcall, hstate]
      exact ⟨rfl, runCommand_serving hd hn.ingress_length hn.egress_length _,
        runCommand_shows hd hn.ingress_length hn.egress_length h r.cmd⟩

/-! ### Histories -/

/-- What happens to the daemon: a client calls, or the forwarding thread
merges the counters of a burst. -/
inductive ExchangeEvent
  | call (r : RequestEnvelope) (t : Delivery)
  | burst (delta : DpStatsSnapshot)

variable (modelDumpJson) in
def exchangeStep (d : Daemon) : ExchangeEvent → Option Daemon
  | .call r t =>
    if Carried modelDumpJson d r t then some (handleClient dispatchRequest d t.reads t.writes).2.1 else none
  | .burst delta => daemonStep d (.burst delta)

/-- What an event does to the service. -/
def serviceAfter (s : DatapathService) : ExchangeEvent → DatapathService
  | .call r _ => (callService s r).1
  | .burst delta => s.burst delta

theorem exchangeStep_shows (hdump : CompactDump modelDumpJson) (hn : Named ingress egress n0 n1)
    (hd : Serving n0 n1 d) (h : Shows ingress egress d s) {e : ExchangeEvent} {d' : Daemon}
    (hstep : exchangeStep modelDumpJson d e = some d') :
    Serving n0 n1 d' ∧ Shows ingress egress d' (serviceAfter s e) := by
  cases e with
  | call r t =>
    rw [exchangeStep, Option.ite_none_right_eq_some] at hstep
    obtain ⟨ht, he⟩ := hstep
    obtain ⟨-, hserving, hshows⟩ := typedCall_serves ⟨fun _ => none, fun _ => none⟩ hdump loadsStrict_loadsJson
      hn hd h r ht
    rw [Option.some.inj he] at hserving hshows
    exact ⟨hserving, hshows⟩
  | burst delta =>
    have hburst : daemonStep d (.burst delta) = some d' := hstep
    refine ⟨daemonStep_serving hn.ingress_length hn.egress_length hd hburst, ?_⟩
    rw [← Option.some.inj hburst]
    exact burst_shows h delta

theorem run_shows (hdump : CompactDump modelDumpJson) (hn : Named ingress egress n0 n1) :
    ∀ {events : List ExchangeEvent} {d d' : Daemon} (s : DatapathService), Serving n0 n1 d → Shows ingress egress d s →
      Run.run (exchangeStep modelDumpJson) d events = some d' →
      Serving n0 n1 d' ∧ Shows ingress egress d' (events.foldl serviceAfter s)
  | [], _, _, _, hd, h, hrun => by
    cases hrun
    exact ⟨hd, h⟩
  | e :: events, _, _, s, hd, h, hrun => by
    obtain ⟨d1, hstep, hrest⟩ := Run.run_cons_eq_some.mp hrun
    obtain ⟨hd1, h1⟩ := exchangeStep_shows hdump hn hd h hstep
    exact run_shows hdump hn (serviceAfter s e) hd1 h1 hrest

/-- The names of an accepted configuration, when they are texts that can be
shown. -/
theorem named_of_datapathInit {config : DatapathConfig} {init : DatapathInit} (hinit : datapathInit config = .ok init)
    (hin : config.ingressPortName.bytes = utf8 ingress) (hout : config.egressPortName.bytes = utf8 egress)
    (hc0 : Dpdkd.Clean (utf8 ingress)) (hc1 : Dpdkd.Clean (utf8 egress)) :
    Named ingress egress config.ingressPortName config.egressPortName := by
  obtain ⟨h0, h1, -, -⟩ := names_of_datapathInit hinit
  exact ⟨hin, hout, h0, h1, by rw [hin]; exact hc0, by rw [hout]; exact hc1⟩

/-- A daemon as it was configured and started, with names that can be shown. -/
structure Started (ingress egress : NonEmptyStr) (config : DatapathConfig) (init : DatapathInit) : Prop where
  accepted : datapathInit config = .ok init
  ingressName : config.ingressPortName.bytes = utf8 ingress
  egressName : config.egressPortName.bytes = utf8 egress
  ingress_clean : Dpdkd.Clean (utf8 ingress)
  egress_clean : Dpdkd.Clean (utf8 egress)

variable {config : DatapathConfig} {init : DatapathInit}

theorem Started.named (hs : Started ingress egress config init) :
    Named ingress egress config.ingressPortName config.egressPortName :=
  named_of_datapathInit hs.accepted hs.ingressName hs.egressName hs.ingress_clean hs.egress_clean

/-- What a history of a started daemon leaves. -/
theorem Started.run (hs : Started ingress egress config init) (hdump : CompactDump modelDumpJson) (env : StartEnv)
    {events : List ExchangeEvent} {d : Daemon}
    (hrun : Run.run (exchangeStep modelDumpJson) (start env init) events = some d) :
    Serving config.ingressPortName config.egressPortName d ∧
      Shows ingress egress d (events.foldl serviceAfter (launched env ingress egress)) :=
  run_shows hdump hs.named _ (run_serving hs.accepted env (Run.run_nil daemonStep _))
    (start_shows hs.accepted env hs.ingressName hs.egressName) hrun

variable (lax) in
/-- A call somewhere in a history. -/
theorem Started.call (hs : Started ingress egress config init) (hdump : CompactDump modelDumpJson)
    (hloads : LoadsJson loads) (env : StartEnv) {before after : List ExchangeEvent} {r : RequestEnvelope} {t : Delivery}
    {d' : Daemon}
    (hrun : Run.run (exchangeStep modelDumpJson) (start env init) (before ++ .call r t :: after) = some d') :
    typedCall modelDumpJson loads lax r t.session =
      (callService (before.foldl serviceAfter (launched env ingress egress)) r).2 := by
  rw [Run.run_append, Option.bind_eq_some_iff] at hrun
  obtain ⟨d, hbefore, hrest⟩ := hrun
  obtain ⟨d1, hstep, -⟩ := Run.run_cons_eq_some.mp hrest
  obtain ⟨hd, h⟩ := hs.run hdump env hbefore
  rw [exchangeStep, Option.ite_none_right_eq_some] at hstep
  exact (typedCall_serves lax hdump hloads hs.named hd h r hstep.1).1

/-- **Refinement of the service.** Whatever the history of a daemon that
started with names that can be shown, calls by clients and bursts in any order, and however the kernel cuts
the streams: every call in it ends for its client as the same call of the
service does, after the same history of the service, and the daemon that is
left shows the service that is left. -/
theorem exchanges_serve (hdump : CompactDump modelDumpJson) (hloads : LoadsJson loads)
    (hs : Started ingress egress config init) (env : StartEnv) {events : List ExchangeEvent} {d : Daemon}
    (hrun : Run.run (exchangeStep modelDumpJson) (start env init) events = some d) :
    (∀ before r t after, events = before ++ .call r t :: after →
      typedCall modelDumpJson loads lax r t.session =
        (callService (before.foldl serviceAfter (launched env ingress egress)) r).2) ∧
      Shows ingress egress d (events.foldl serviceAfter (launched env ingress egress)) := by
  refine ⟨fun before r t after he => ?_, (hs.run hdump env hrun).2⟩
  rw [he] at hrun
  exact hs.call lax hdump hloads env hrun

/-- A request for the counters with the identifier `req-1`. -/
def statsEnvelope : RequestEnvelope := { pingEnvelope with cmd := .getStats }

/-- The response to it after a burst of two packets, in two chunks. -/
def statsReply : List Read :=
  [.data 0 [0], .data 0 (195 :: utf8
    ("\x7b\"id\":\"req-1\",\"ok\":true,\"payload\":\x7b\"stats\":\x7b\"rx_packets\":2,\"tx_packets\":1," ++
      "\"drop_packets\":1,\"drop_parse_errors\":0,\"drop_no_match\":1,\"rx_bursts\":1,\"tx_bursts\":1," ++
      "\"unsent_packets\":0,\"rule_hits\":\x7b\x7d\x7d\x7d\x7d"))]

def statsDelivery : Delivery :=
  ⟨unread (frame (compactJson statsEnvelope)) [.failed], [.took 3, .interrupted], ⟨none, none, statsReply, .timeout⟩⟩

/-- A burst of two packets, of which one is dropped. -/
def twoPackets : DpStatsSnapshot := ⟨2, 1, 1, 0, 1, 1, 1, 0⟩

theorem exchanges_serve_stats :
    typedCall compactJson loadsStrict ⟨fun _ => none, fun _ => none⟩ statsEnvelope statsDelivery.session =
      .ok (.ok (⟨2, 1, 1, 0, 1, 1, 1, 0, []⟩ : DatapathStatsModel)) := by
  have hinit : datapathInit defaultConfig = .ok defaultInit := by decide +kernel
  have hclean : ∀ s ∈ ["dtap0", "dtap1"], ∀ c ∈ utf8 s, isPlain c = true := by decide
  have hs : Started ⟨"dtap0", by decide⟩ ⟨"dtap1", by decide⟩ defaultConfig defaultInit :=
    ⟨hinit, rfl, rfl, clean_plain (hclean _ (by simp)), clean_plain (hclean _ (by simp))⟩
  have hrun : Run.run (exchangeStep compactJson) (start .noDpdk defaultInit)
      [.burst twoPackets, .call statsEnvelope statsDelivery] =
        daemonStep (start .noDpdk defaultInit) (.burst twoPackets) := by decide +kernel
  exact (exchanges_serve (fun _ => rfl) loadsStrict_loadsJson hs .noDpdk hrun).1 [.burst twoPackets] _ _ [] rfl

end Client

end Ctrld
end Pktlab
