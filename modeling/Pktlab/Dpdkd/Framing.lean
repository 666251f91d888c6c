/-
# The frames of the daemon

`dpdkd/src/json_proto.c`, lines 57 to 190. A descriptor is the list of the
answers that `read` or `write` give on it. `read_exact` is the loop of
`Pktlab.Lib.Wire`; `write_exact` sends what the socket takes, call after call.

Key definitions: `readExact`, `readFrame`, `writeExact`, `writeFrame`,
`writeFrames`.
Key theorems: `readFrame_frame`, `readFrame_invalid`, `readFrame_stuck`,
`writeFrame_ok`.
-/
import Pktlab.Dpdkd.Daemon
import Pktlab.Lib.Wire

namespace Pktlab
namespace Dpdkd
namespace JsonProto

open Wire

/-! ### Reading -/

/-- The values of `PKTLAB_JSON_PROTO_STATUS` other than `OK`; an error may
come with `struct pktlab_dpdkd_error` filled in. -/
inductive ReadFailure
  | eof
  | error (e : Option DpdkdError)
  deriving DecidableEq, Repr

/-- `pktlab_json_proto_read_exact`. -/
def readExact (length : ℕ) (reads : List Read) : Except ReadFailure (List UInt8) × List Read :=
  pull (fun _ => .eof) (.error none) length reads

/-- The error for a length of zero or beyond the buffer. -/
def invalidLength : DpdkdError :=
  ⟨.invalidRequest, "frame length is invalid or exceeds the configured maximum"⟩

/-- The error for a payload that does not come. -/
def incompletePayload : DpdkdError := ⟨.invalidRequest, "failed to read full JSON frame payload"⟩

/-- `pktlab_json_proto_read_frame` with a buffer of `cap` bytes. -/
def readFrame (cap : ℕ) (reads : List Read) : Except ReadFailure (List UInt8) × List Read :=
  match readExact 4 reads with
  | (.error status, reads) => (.error status, reads)
  | (.ok netLength, reads) =>
    if ofBe netLength = 0 ∨ ofBe netLength ≥ cap then (.error (.error (some invalidLength)), reads)
    else
      match readExact (ofBe netLength) reads with
      | (.error _, reads) => (.error (.error (some incompletePayload)), reads)
      | (.ok payload, reads) => (.ok payload, reads)

/-- A payload that `readFrame` accepts. -/
def FramePayload (cap : ℕ) (payload : List UInt8) : Prop := 1 ≤ payload.length ∧ payload.length < cap

variable {cap : ℕ}

/-- **One frame.** -/
theorem readFrame_frame (hcap : cap ≤ 2 ^ 32) {payload rest : List UInt8} {reads : List Read}
    (hp : FramePayload cap payload) (hb : bytes reads = frame payload ++ rest) :
    ∃ reads', readFrame cap reads = (.ok payload, reads') ∧ bytes reads' = rest ∧
      (Read.failed ∉ reads → Read.failed ∉ reads') := by
  obtain ⟨hpos, hlt⟩ := hp
  rw [frame, List.append_assoc] at hb
  obtain ⟨reads1, h1, hb1, hf1⟩ := pull_append (fun _ => ReadFailure.eof) (.error none) hb
  obtain ⟨reads2, h2, hb2, hf2⟩ := pull_append (fun _ => ReadFailure.eof) (.error none) hb1
  rw [be32_length] at h1
  have hlen : ofBe (be32 payload.length) = payload.length := ofBe_be32 (by omega)
  refine ⟨reads2, ?_, hb2, fun hf => hf2 (hf1 hf)⟩
  unfold readFrame readExact
  rw [h1]
  simp only [hlen]
  rw [if_neg (by omega), h2]

/-- **Invalid lengths.** A header with a length of zero or beyond the buffer
is refused, and nothing is read behind it. -/
theorem readFrame_invalid {header rest : List UInt8} {reads : List Read} (hlen : header.length = 4)
    (hbad : ofBe header = 0 ∨ ofBe header ≥ cap) (hb : bytes reads = header ++ rest) :
    ∃ reads', readFrame cap reads = (.error (.error (some invalidLength)), reads') ∧ bytes reads' = rest := by
  obtain ⟨reads1, h1, hb1, -⟩ := pull_append (fun _ => ReadFailure.eof) (.error none) hb
  rw [hlen] at h1
  refine ⟨reads1, ?_, hb1⟩
  unfold readFrame readExact
  rw [h1]
  simp only
  rw [if_pos hbad]

/-- Where no frame starts, none is read. -/
theorem readFrame_stuck {reads : List Read} (h : Stuck cap (bytes reads)) :
    ∃ status reads', readFrame cap reads = (.error status, reads') := by
  by_cases h4 : (bytes reads).length < 4
  · obtain ⟨e, reads', hp, -⟩ := pull_short (fun _ => ReadFailure.eof) (.error none) 4 reads h4
    refine ⟨e, reads', ?_⟩
    unfold readFrame readExact
    rw [hp]
  · obtain ⟨reads1, h1, hb1, -⟩ := pull_ok (fun _ => ReadFailure.eof) (.error none) 4 reads (by omega)
    unfold readFrame readExact
    rw [h1]
    simp only
    by_cases hbad : ofBe ((bytes reads).take 4) = 0 ∨ ofBe ((bytes reads).take 4) ≥ cap
    · exact ⟨_, _, if_pos hbad⟩
    · have hlt : (bytes reads1).length < ofBe ((bytes reads).take 4) := by
        rw [hb1, List.length_drop]
        unfold Stuck at h
        omega
      obtain ⟨e, reads', hp, -⟩ := pull_short (fun _ => ReadFailure.eof) (.error none) _ reads1 hlt
      rw [if_neg hbad, hp]
      exact ⟨_, _, rfl⟩

theorem readFrame_end {reads : List Read} (hf : Read.failed ∉ reads) (hb : bytes reads = []) :
    (readFrame cap reads).1 = .error .eof := by
  obtain ⟨e, reads', hp, he⟩ := pull_short (fun _ => ReadFailure.eof) (.error none) 4 reads (by rw [hb]; decide)
  unfold readFrame readExact
  rw [hp, he hf]

/-! ### Writing -/

/-- An answer of `write`: how many of the bytes it was given it took, an
interruption by a signal, or a failure. A socket whose answers are used up
takes all it is given. -/
inductive Write
  | took (n : ℕ)
  | interrupted
  | failed
  deriving DecidableEq, Repr

/-- `pktlab_json_proto_write_exact`: whether all was sent, and what was. -/
def writeExact : List Write → List UInt8 → Bool × List UInt8 × List Write
  | writes, [] => (true, [], writes)
  | [], b :: bs => (true, b :: bs, [])
  | .failed :: writes, _ :: _ => (false, [], writes)
  | .interrupted :: writes, b :: bs => writeExact writes (b :: bs)
  | .took n :: writes, b :: bs =>
    let rest := writeExact writes ((b :: bs).drop n)
    (rest.1, (b :: bs).take n ++ rest.2.1, rest.2.2)

/-- `pktlab_json_proto_write_frame`. -/
def writeFrame (writes : List Write) (json : List UInt8) : Except DpdkdError Unit × List UInt8 × List Write :=
  if json.length = 0 ∨ json.length > 2 ^ 32 - 1 then
    (.error ⟨.internal, "cannot send an empty or oversized JSON payload"⟩, [], writes)
  else
    match writeExact writes (be32 json.length) with
    | (false, sent, writes) => (.error ⟨.internal, "failed to write frame length"⟩, sent, writes)
    | (true, sent, writes) =>
      match writeExact writes json with
      | (false, sent', writes) => (.error ⟨.internal, "failed to write frame payload"⟩, sent ++ sent', writes)
      | (true, sent', writes) => (.ok (), sent ++ sent', writes)

/-- However the writes are cut, all is sent in order. -/
theorem writeExact_ok : ∀ (writes : List Write) (b : List UInt8), Write.failed ∉ writes →
    ∃ writes', writeExact writes b = (true, b, writes') ∧ Write.failed ∉ writes'
  | writes, [], hf => by
    refine ⟨writes, ?_, hf⟩
    rw [writeExact]
  | [], b :: bs, _ => ⟨[], rfl, List.not_mem_nil⟩
  | .failed :: writes, b :: bs, hf => absurd List.mem_cons_self hf
  | .interrupted :: writes, b :: bs, hf => by
    obtain ⟨writes', hw, hf'⟩ := writeExact_ok writes (b :: bs) fun h => hf (List.mem_cons_of_mem _ h)
    exact ⟨writes', hw, hf'⟩
  | .took n :: writes, b :: bs, hf => by
    obtain ⟨writes', hw, hf'⟩ := writeExact_ok writes ((b :: bs).drop n) fun h => hf (List.mem_cons_of_mem _ h)
    refine ⟨writes', ?_, hf'⟩
    rw [writeExact, hw]
    simp only [List.take_append_drop]

theorem writeFrame_ok {writes : List Write} {json : List UInt8} (hf : Write.failed ∉ writes)
    (hpos : 1 ≤ json.length) (hlt : json.length < 2 ^ 32) :
    ∃ writes', writeFrame writes json = (.ok (), frame json, writes') ∧ Write.failed ∉ writes' := by
  obtain ⟨writes1, h1, hf1⟩ := writeExact_ok writes (be32 json.length) hf
  obtain ⟨writes2, h2, hf2⟩ := writeExact_ok writes1 json hf1
  refine ⟨writes2, ?_, hf2⟩
  rw [writeFrame, if_neg (by omega), h1]
  simp only [h2, frame]

/-- One frame after the other. -/
def writeFrames : List Write → List (List UInt8) → Except DpdkdError Unit × List UInt8
  | _, [] => (.ok (), [])
  | writes, json :: later =>
    match writeFrame writes json with
    | (.error e, sent, _) => (.error e, sent)
    | (.ok (), sent, writes) =>
      let rest := writeFrames writes later
      (rest.1, sent ++ rest.2)

theorem writeFrames_ok : ∀ (writes : List Write) (payloads : List (List UInt8)), Write.failed ∉ writes →
    (∀ p ∈ payloads, 1 ≤ p.length ∧ p.length < 2 ^ 32) →
    writeFrames writes payloads = (.ok (), payloads.flatMap frame)
  | _, [], _, _ => rfl
  | writes, p :: payloads, hf, hp => by
    obtain ⟨⟨hpos, hlt⟩, hrest⟩ := List.forall_mem_cons.mp hp
    obtain ⟨writes', hw, hf'⟩ := writeFrame_ok hf hpos hlt
    rw [writeFrames, hw]
    simp only [writeFrames_ok writes' payloads hf' hrest, List.flatMap_cons]

end JsonProto
end Dpdkd
end Pktlab
