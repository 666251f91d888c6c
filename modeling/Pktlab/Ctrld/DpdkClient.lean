/-
# The client of the datapath daemon

`ctrld/pktlab_ctrld/dpdk_client/protocol.py` and the request models of
`models.py`. `struct.Struct(">I")` is the header of `Pktlab.Lib.Wire`;
`sock.recv` answers like `read`, except that the interpreter retries an
interrupted call itself, so an interruption never reaches the loop.
`model_dump_json` is pydantic's and stays a parameter; `CompactDump` is what
is documented of it for these models.

Both ends of the socket are compared here: what one side frames the other
side reads back (`framing_round_trip`), and the daemon understands a request
of the client exactly when its identifier fits the daemon's buffer
(`request_understood_iff`).

Key definitions: `framePayload`, `recvFrame`, `RequestEnvelope`,
`encodeRequest`, `Understood`.
Key theorems: `recvFrame_frame`, `recvFrame_invalid`, `framing_round_trip`,
`request_understood_iff`.
-/
import Pktlab.Dpdkd.Framing
import Pktlab.Dpdkd.JsonComplete

namespace Pktlab
namespace Ctrld

open Utf8 Wire Rfc8259

/-! ### Frames -/

/-- `DatapathProtocolError`, with the numbers of its context. -/
structure DatapathProtocolError where
  message : String
  context : List (String × ℕ)
  deriving DecidableEq, Repr

/-- What `recv_frame` raises. -/
inductive RecvError
  | protocol (e : DatapathProtocolError)
  | os
  deriving DecidableEq, Repr

/-- `MAX_FRAME_PAYLOAD_SIZE`. -/
def maxFramePayloadSize : ℕ := 16384

/-- `_frame_payload`. -/
def framePayload (payload : List UInt8) : Except DatapathProtocolError (List UInt8) :=
  if payload.length = 0 ∨ payload.length ≥ maxFramePayloadSize then
    .error ⟨"request payload exceeds the supported IPC frame size",
      [("payload_length", payload.length), ("max_payload_length", maxFramePayloadSize - 1)]⟩
  else .ok (be32 payload.length ++ payload)

/-- `_read_exact`. -/
def readExact (size : ℕ) (reads : List Read) : Except RecvError (List UInt8) × List Read :=
  pull (fun remaining => .protocol ⟨"unexpected EOF while reading an IPC frame",
    [("expected_bytes", size), ("remaining_bytes", remaining)]⟩) .os size reads

/-- The error of `recv_frame` for an invalid length. -/
def invalidFrameLength (payloadLength : ℕ) : DatapathProtocolError :=
  ⟨"received an invalid IPC frame length",
    [("payload_length", payloadLength), ("max_payload_length", maxFramePayloadSize - 1)]⟩

/-- `recv_frame`. -/
def recvFrame (reads : List Read) : Except RecvError (List UInt8) × List Read :=
  match readExact 4 reads with
  | (.error e, reads) => (.error e, reads)
  | (.ok header, reads) =>
    if ofBe header = 0 ∨ ofBe header ≥ maxFramePayloadSize then
      (.error (.protocol (invalidFrameLength (ofBe header))), reads)
    else readExact (ofBe header) reads

/-- The end of the stream between two frames. -/
def eofError : RecvError :=
  .protocol ⟨"unexpected EOF while reading an IPC frame", [("expected_bytes", 4), ("remaining_bytes", 4)]⟩

theorem framePayload_eq_ok {payload f : List UInt8} :
    framePayload payload = .ok f ↔
      (1 ≤ payload.length ∧ payload.length < maxFramePayloadSize) ∧ f = frame payload := by
  unfold framePayload
  by_cases h : payload.length = 0 ∨ payload.length ≥ maxFramePayloadSize
  · rw [if_pos h]
    refine iff_of_false (fun he => by cases he) fun hf => ?_
    omega
  · rw [if_neg h, Except.ok.injEq]
    refine ⟨fun he => ⟨by omega, he.symm⟩, fun he => he.2.symm⟩

theorem recvFrame_frame {payload rest : List UInt8} {reads : List Read}
    (hp : 1 ≤ payload.length ∧ payload.length < maxFramePayloadSize)
    (hb : bytes reads = frame payload ++ rest) :
    ∃ reads', recvFrame reads = (.ok payload, reads') ∧ bytes reads' = rest ∧
      (Read.failed ∉ reads → Read.failed ∉ reads') := by
  obtain ⟨hpos, hlt⟩ := hp
  rw [frame, List.append_assoc] at hb
  obtain ⟨reads1, h1, hb1, hf1⟩ := pull_append _ RecvError.os hb
  obtain ⟨reads2, h2, hb2, hf2⟩ := pull_append _ RecvError.os hb1
  rw [be32_length] at h1
  have hlen : ofBe (be32 payload.length) = payload.length := by
    unfold maxFramePayloadSize at hlt
    exact ofBe_be32 (by omega)
  refine ⟨reads2, ?_, hb2, fun hf => hf2 (hf1 hf)⟩
  unfold recvFrame readExact
  rw [h1]
  simp only [hlen]
  rw [if_neg (by omega), h2]

theorem recvFrame_invalid {header rest : List UInt8} {reads : List Read} (hlen : header.length = 4)
    (hbad : ofBe header = 0 ∨ ofBe header ≥ maxFramePayloadSize) (hb : bytes reads = header ++ rest) :
    ∃ reads', recvFrame reads = (.error (.protocol (invalidFrameLength (ofBe header))), reads') ∧
      bytes reads' = rest := by
  obtain ⟨reads1, h1, hb1, -⟩ := pull_append _ RecvError.os hb
  rw [hlen] at h1
  refine ⟨reads1, ?_, hb1⟩
  unfold recvFrame readExact
  rw [h1]
  simp only
  rw [if_pos hbad]

theorem recvFrame_end {reads : List Read} (hf : Read.failed ∉ reads) (hb : bytes reads = []) :
    (recvFrame reads).1 = .error eofError := by
  obtain ⟨e, reads', hp, he⟩ := pull_short (fun remaining => RecvError.protocol
    ⟨"unexpected EOF while reading an IPC frame", [("expected_bytes", 4), ("remaining_bytes", remaining)]⟩)
    .os 4 reads (by rw [hb]; decide)
  unfold recvFrame readExact
  rw [hp, he hf, hb]
  rfl

theorem mapM_framePayload : ∀ {payloads : List (List UInt8)},
    (∀ p ∈ payloads, 1 ≤ p.length ∧ p.length < maxFramePayloadSize) →
    payloads.mapM framePayload = .ok (payloads.map frame)
  | [], _ => rfl
  | p :: payloads, h => by
    obtain ⟨hp, hrest⟩ := List.forall_mem_cons.mp h
    have hone : framePayload p = .ok (frame p) := framePayload_eq_ok.mpr ⟨hp, rfl⟩
    rw [List.mapM_cons, hone, mapM_framePayload hrest]
    rfl

/-- **Framing.** Payloads of 1 to 16383 bytes that the client frames are read
back by the daemon, and payloads that the daemon frames by the client, in
order and followed by the end of the stream, however the stream is cut into
chunks and the writes are cut. Both refuse a header with another length and
leave every byte behind it unread. -/
theorem framing_round_trip :
    (∀ payloads : List (List UInt8), (∀ p ∈ payloads, 1 ≤ p.length ∧ p.length ≤ 16383) →
      (∃ frames, payloads.mapM framePayload = .ok frames ∧
        ∀ reads, Read.failed ∉ reads → bytes reads = frames.flatten → ∀ n, payloads.length < n →
          drain (Dpdkd.JsonProto.readFrame Dpdkd.maxFrameSize) n reads = (payloads, some .eof)) ∧
      ∀ writes, Dpdkd.JsonProto.Write.failed ∉ writes →
        ∃ sent, Dpdkd.JsonProto.writeFrames writes payloads = (.ok (), sent) ∧
          ∀ reads, Read.failed ∉ reads → bytes reads = sent → ∀ n, payloads.length < n →
            drain recvFrame n reads = (payloads, some eofError)) ∧
    ∀ header rest reads, header.length = 4 → (ofBe header = 0 ∨ 16384 ≤ ofBe header) →
      bytes reads = header ++ rest →
      (∃ reads', Dpdkd.JsonProto.readFrame Dpdkd.maxFrameSize reads =
          (.error (.error (some Dpdkd.JsonProto.invalidLength)), reads') ∧ bytes reads' = rest) ∧
        ∃ reads', recvFrame reads = (.error (.protocol (invalidFrameLength (ofBe header))), reads') ∧
          bytes reads' = rest := by
  refine ⟨fun payloads hlen => ?_, fun header rest reads hheader hbad hb => ?_⟩
  · have hframe : ∀ p ∈ payloads, 1 ≤ p.length ∧ p.length < 16384 := fun p hp =>
      ⟨(hlen p hp).1, Nat.lt_succ_of_le (hlen p hp).2⟩
    constructor
    · refine ⟨payloads.map frame, mapM_framePayload hframe, fun reads hf hb => ?_⟩
      rw [← List.flatMap_def] at hb
      refine drain_frames (P := Dpdkd.JsonProto.FramePayload Dpdkd.maxFrameSize) ?_ ?_ payloads reads
        hframe hf hb
      · intro payload rest reads hp hf hb
        obtain ⟨reads', hr, hb', hf'⟩ := Dpdkd.JsonProto.readFrame_frame (by decide) hp hb
        exact ⟨reads', hr, hb', hf' hf⟩
      · exact fun reads hf hb => Dpdkd.JsonProto.readFrame_end hf hb
    · intro writes hw
      have hsent := Dpdkd.JsonProto.writeFrames_ok writes payloads hw fun p hp =>
        ⟨(hframe p hp).1, lt_trans (hframe p hp).2 (by decide)⟩
      refine ⟨_, hsent, fun reads hf hb => ?_⟩
      refine drain_frames (P := fun p => 1 ≤ p.length ∧ p.length < maxFramePayloadSize) ?_ ?_ payloads reads
        hframe hf hb
      · intro payload rest reads hp hf hb
        obtain ⟨reads', hr, hb', hf'⟩ := recvFrame_frame hp hb
        exact ⟨reads', hr, hb', hf' hf⟩
      · exact fun reads hf hb => recvFrame_end hf hb
  · exact ⟨Dpdkd.JsonProto.readFrame_invalid hheader hbad hb, recvFrame_invalid hheader hbad hb⟩

/-! ### Requests -/

/-- The values of `cmd` in the request models. -/
inductive DatapathCommand
  | ping
  | getVersion
  | getHealth
  | getPorts
  | getStats
  | resetStats
  | pauseDatapath
  | resumeDatapath
  deriving DecidableEq, Repr

def DatapathCommand.name : DatapathCommand → String
  | .ping => "ping"
  | .getVersion => "get_version"
  | .getHealth => "get_health"
  | .getPorts => "get_ports"
  | .getStats => "get_stats"
  | .resetStats => "reset_stats"
  | .pauseDatapath => "pause_datapath"
  | .resumeDatapath => "resume_datapath"

/-- The characters of `REQUEST_ID_PATTERN`. -/
def isIdChar (c : Char) : Bool :=
  ('A' ≤ c && c ≤ 'Z') || ('a' ≤ c && c ≤ 'z') || ('0' ≤ c && c ≤ '9') || c == '.' || c == '_' || c == ':' ||
    c == '-'

/-- `RequestEnvelope`: one of the request models, whose payload is always
empty. `id` has `min_length=1` and matches `REQUEST_ID_PATTERN`. -/
structure RequestEnvelope where
  id : String
  cmd : DatapathCommand
  id_ne : id ≠ ""
  id_pattern : ∀ c ∈ id.toList, isIdChar c = true

/-- The compact JSON text of a request, its members in field order. No
character of the identifier needs an escape. -/
def compactJson (request : RequestEnvelope) : List UInt8 :=
  utf8 "\x7b\"id\":\"" ++ utf8 request.id ++ utf8 "\",\"cmd\":\"" ++ utf8 request.cmd.name ++
    utf8 "\",\"payload\":\x7b\x7d\x7d"

/-- `model_dump_json` emits compact JSON with the members in field order. -/
def CompactDump (modelDumpJson : RequestEnvelope → List UInt8) : Prop :=
  ∀ request, modelDumpJson request = compactJson request

/-- `encode_request`. -/
def encodeRequest (modelDumpJson : RequestEnvelope → List UInt8) (request : RequestEnvelope) :
    Except DatapathProtocolError (List UInt8) :=
  framePayload (modelDumpJson request)

/-- The daemon understands the frame: however it arrives and whatever follows
it, its length is accepted, and its payload is accepted with the identifier
and the command of the request. -/
def Understood (request : RequestEnvelope) (f : List UInt8) : Prop :=
  ∀ reads rest, bytes reads = f ++ rest → ∃ payload reads',
    Dpdkd.JsonProto.readFrame Dpdkd.maxFrameSize reads = (.ok payload, reads') ∧ bytes reads' = rest ∧
      Dpdkd.JsonProto.parseRequest payload = (⟨utf8 request.id, utf8 request.cmd.name⟩, .ok ())

theorem isIdChar_low {c : Char} (h : isIdChar c = true) :
    c.val.toNat ≤ 0x7f ∧ isPlain (UInt8.ofNat c.val.toNat) = true := by
  have hle : c.val.toNat ≤ 0x7f := by
    simp only [isIdChar, Bool.or_eq_true, Bool.and_eq_true, decide_eq_true_eq, beq_iff_eq, Char.le_def,
      UInt32.le_iff_toNat_le] at h
    rcases h with (((((h | h) | h) | rfl) | rfl) | rfl) | rfl
    · exact h.2.trans (by decide)
    · exact h.2.trans (by decide)
    · exact h.2.trans (by decide)
    · decide
    · decide
    · decide
    · decide
  have hall : ∀ n ≤ 0x7f, isIdChar (Char.ofNat n) = true → isPlain (UInt8.ofNat n) = true := by decide
  refine ⟨hle, hall _ hle ?_⟩
  rw [show c.val.toNat = c.toNat from rfl, Char.ofNat_toNat]
  exact h

theorem RequestEnvelope.id_plain (r : RequestEnvelope) : ∀ b ∈ utf8 r.id, isPlain b = true := by
  intro b hb
  obtain ⟨c, hc, hbc⟩ := List.mem_flatMap.mp hb
  obtain ⟨hlow, hplain⟩ := isIdChar_low (r.id_pattern c hc)
  rw [utf8EncodeChar_low hlow, List.mem_singleton] at hbc
  rw [hbc]
  exact hplain

theorem RequestEnvelope.id_length (r : RequestEnvelope) : (utf8 r.id).length = r.id.length :=
  utf8_length_low fun c hc => (isIdChar_low (r.id_pattern c hc)).1

theorem DatapathCommand.name_plain (c : DatapathCommand) :
    (∀ b ∈ utf8 c.name, isPlain b = true) ∧ (utf8 c.name).length ≤ 32 := by
  cases c <;> decide

open Dpdkd.JsonProto in
/-- The compact text as a request of the grammar. -/
def RequestEnvelope.requestText (r : RequestEnvelope) : RequestText :=
  { lead := []
    fields :=
      [(.id, plainMember (utf8 "id") (quoted (utf8 r.id)) 0 id_chars (.string (chars_plain r.id_plain))),
        (.cmd, plainMember (utf8 "cmd") (quoted (utf8 r.cmd.name)) 0 cmd_chars
          (.string (chars_plain r.cmd.name_plain.1))),
        (.payload, plainMember (utf8 "payload") (utf8 "\x7b\x7d") 1 payload_chars braces_derives)]
    lead_ws := Ws.nil
    fields_perm := List.Perm.refl _
    names := fun fm hfm => by
      simp only [List.mem_cons, List.not_mem_nil, or_false] at hfm
      rcases hfm with rfl | rfl | rfl
      · exact decodes_plain (b := utf8 "id") (by decide)
      · exact decodes_plain (b := utf8 "cmd") (by decide)
      · exact decodes_plain (b := utf8 "payload") (by decide) }

open Dpdkd.JsonProto in
theorem RequestEnvelope.requestText_text (r : RequestEnvelope) : r.requestText.textThen [] = compactJson r := by
  unfold RequestText.textThen RequestEnvelope.requestText compactJson
  simp only [membersText, Member.upTo, plainMember, quoted, List.nil_append, List.append_assoc, List.cons_append]
  rfl

open Dpdkd.JsonProto in
/-- The parser on the compact text of a request. -/
theorem parseRequest_compactJson (r : RequestEnvelope) :
    parseRequest (compactJson r) = (⟨utf8 r.id, utf8 r.cmd.name⟩, .ok ()) ↔ r.id.length ≤ 64 := by
  rw [← r.requestText_text]
  constructor
  · intro h
    -- the identifier was stored, so it fits its buffer
    obtain ⟨-, s', hfills, -⟩ := (parseRequest_iff r.requestText Ws.nil (List.prefix_refl _) _).mp h
    obtain ⟨-, x, ⟨raw, hraw, -, hd, hlen⟩, -⟩ := hfills
    have hid : utf8 r.id = raw := by
      have hquoted : quoted (utf8 r.id) = quoted raw := hraw
      simpa [quoted] using hquoted
    rw [decodes_plain_eq (hid ▸ r.id_plain) hd, ← hid, r.id_length] at hlen
    exact hlen
  · intro hlen
    have hmem : ∀ {f : Field} {m : Member}, (f, m) ∈ r.requestText.fields →
        (f = .id ∧ m.value = quoted (utf8 r.id)) ∨ (f = .cmd ∧ m.value = quoted (utf8 r.cmd.name)) ∨
          (f = .payload ∧ m.value = utf8 "\x7b\x7d" ∧ m.depth = 1) := by
      intro f m hm
      simp only [RequestEnvelope.requestText, List.mem_cons, Prod.mk.injEq, List.not_mem_nil, or_false] at hm
      rcases hm with ⟨rfl, rfl⟩ | ⟨rfl, rfl⟩ | ⟨rfl, rfl⟩
      · exact Or.inl ⟨rfl, rfl⟩
      · exact Or.inr (Or.inl ⟨rfl, rfl⟩)
      · exact Or.inr (Or.inr ⟨rfl, rfl, rfl⟩)
    have hasks : r.requestText.Asks (utf8 r.id) (utf8 r.cmd.name) := by
      refine ⟨fun m hm => ?_, fun m hm => ?_, fun m hm => ?_⟩
      · rcases hmem hm with ⟨-, hv⟩ | ⟨hf, -⟩ | ⟨hf, -⟩
        · exact ⟨_, hv, decodes_plain r.id_plain⟩
        · cases hf
        · cases hf
      · rcases hmem hm with ⟨hf, -⟩ | ⟨-, hv⟩ | ⟨hf, -⟩
        · cases hf
        · exact ⟨_, hv, decodes_plain r.cmd.name_plain.1⟩
        · cases hf
      · rcases hmem hm with ⟨hf, -⟩ | ⟨hf, -⟩ | ⟨-, hv, -⟩
        · cases hf
        · cases hf
        · rw [hv]
          rfl
    have huni : r.requestText.NoUni := by
      intro fm hfm
      simp only [RequestEnvelope.requestText, List.mem_cons, List.not_mem_nil, or_false] at hfm
      rcases hfm with rfl | rfl | rfl <;> exact ⟨rfl, rfl⟩
    have hdepth : ∀ m, (Field.payload, m) ∈ r.requestText.fields → m.depth ≤ 16 := by
      intro m hm
      rcases hmem hm with ⟨hf, -⟩ | ⟨hf, -⟩ | ⟨-, -, hd⟩
      · cases hf
      · cases hf
      · rw [hd]
        decide
    exact parseRequest_asks r.requestText Ws.nil hasks huni (by rw [r.id_length]; exact hlen)
      r.cmd.name_plain.2 hdepth

/-- Both sides have the same limit, so the daemon takes the payload off every
frame of the client, and the parser decides. -/
theorem understood_frame {r : RequestEnvelope} {payload : List UInt8}
    (hlen : 1 ≤ payload.length ∧ payload.length < maxFramePayloadSize) :
    Understood r (frame payload) ↔
      Dpdkd.JsonProto.parseRequest payload = (⟨utf8 r.id, utf8 r.cmd.name⟩, .ok ()) := by
  have hread : ∀ reads rest, bytes reads = frame payload ++ rest → ∃ reads',
      Dpdkd.JsonProto.readFrame Dpdkd.maxFrameSize reads = (.ok payload, reads') ∧ bytes reads' = rest := by
    intro reads rest hb
    obtain ⟨reads', hr, hb', -⟩ := Dpdkd.JsonProto.readFrame_frame (by decide) hlen hb
    exact ⟨reads', hr, hb'⟩
  constructor
  · intro h
    have hb : bytes (unread (frame payload) []) = frame payload ++ [] := bytes_unread _ _
    obtain ⟨payload', reads', hr, -, hp⟩ := h _ _ hb
    obtain ⟨reads'', hr', -⟩ := hread _ _ hb
    rw [hr'] at hr
    cases hr
    exact hp
  · intro hp reads rest hb
    obtain ⟨reads', hr, hb'⟩ := hread reads rest hb
    exact ⟨payload, reads', hr, hb', hp⟩

/-- **Requests of the client.** The daemon understands the frame of a request
exactly when the identifier has at most 64 characters. -/
theorem request_understood_iff {modelDumpJson : RequestEnvelope → List UInt8}
    (hdump : CompactDump modelDumpJson) (r : RequestEnvelope) {f : List UInt8}
    (hf : encodeRequest modelDumpJson r = .ok f) : Understood r f ↔ r.id.length ≤ 64 := by
  rw [encodeRequest, hdump r] at hf
  obtain ⟨hlen, rfl⟩ := framePayload_eq_ok.mp hf
  rw [understood_frame hlen, parseRequest_compactJson]

/-- A ping with the identifier `req-1`. -/
def pingEnvelope : RequestEnvelope := ⟨"req-1", .ping, by decide, by decide⟩

theorem request_understood_ping :
    ∃ f, encodeRequest compactJson pingEnvelope = .ok f ∧ Understood pingEnvelope f := by
  have hf : encodeRequest compactJson pingEnvelope = .ok (frame (compactJson pingEnvelope)) :=
    framePayload_eq_ok.mpr ⟨by decide +kernel, rfl⟩
  exact ⟨_, hf, (request_understood_iff (fun _ => rfl) pingEnvelope hf).mpr (by decide)⟩

/-- A ping whose identifier has 65 characters. -/
def longEnvelope : RequestEnvelope :=
  ⟨String.ofList (List.replicate 65 'a'), .ping, by decide, by decide⟩

/-- Its frame is sent, and the daemon refuses it. -/
theorem long_id_not_understood :
    ¬ ∀ (modelDumpJson : RequestEnvelope → List UInt8), CompactDump modelDumpJson →
      ∀ (r : RequestEnvelope) (f : List UInt8), encodeRequest modelDumpJson r = .ok f → Understood r f := by
  intro h
  have hlen : 1 ≤ (compactJson longEnvelope).length ∧ (compactJson longEnvelope).length < maxFramePayloadSize := by
    decide +kernel
  have hp := (understood_frame hlen).mp (h compactJson (fun _ => rfl) longEnvelope _
    (framePayload_eq_ok.mpr ⟨hlen, rfl⟩))
  have hrejected : (Dpdkd.JsonProto.parseRequest (compactJson longEnvelope)).2 =
      Dpdkd.JsonProto.reject "JSON string exceeds the allowed size" := by decide +kernel
  rw [hp] at hrejected
  cases hrejected

end Ctrld
end Pktlab
