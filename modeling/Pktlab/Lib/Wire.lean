/-
# Length-prefixed frames on a byte stream

A frame is the length of its payload as four bytes, the most significant
first, and the payload. The stream is what `read` returns call after call:
`Read` is one such answer, so a list of them is one way in which the bytes
arrive, cut into chunks at any place and interrupted at any place. `pull` is
the loop that reads on until it has as many bytes as it was asked for;
`pull_ok` and `pull_short` say that it depends only on the bytes of the
stream, not on how they were cut.

Key definitions: `be32`, `frame`, `Splits`, `Read`, `bytes`, `pull`, `drain`.
Key theorems: `ofBe_be32`, `exists_splits`, `Splits.eq_append`, `pull_ok`,
`pull_short`, `drain_frames`.
-/
import Mathlib.Data.List.Basic
import Mathlib.Algebra.Order.Ring.Nat

namespace Wire

/-! ### The header -/

/-- The four bytes of a length, the most significant first. -/
def be32 (n : ℕ) : List UInt8 :=
  [UInt8.ofNat (n / 2 ^ 24), UInt8.ofNat (n / 2 ^ 16), UInt8.ofNat (n / 2 ^ 8), UInt8.ofNat n]

/-- The number that bytes stand for, the most significant first. -/
def ofBe (b : List UInt8) : ℕ := b.foldl (fun n c => n * 2 ^ 8 + c.toNat) 0

@[simp] theorem be32_length (n : ℕ) : (be32 n).length = 4 := rfl

theorem ofBe_be32 {n : ℕ} (h : n < 2 ^ 32) : ofBe (be32 n) = n := by
  simp only [ofBe, be32, List.foldl_cons, List.foldl_nil, UInt8.toNat_ofNat']
  omega

theorem be32_ofBe {b : List UInt8} (h : b.length = 4) : be32 (ofBe b) = b := by
  obtain ⟨b1, b2, b3, b4, rfl⟩ : ∃ b1 b2 b3 b4, b = [b1, b2, b3, b4] := by
    match b, h with
    | [b1, b2, b3, b4], _ => exact ⟨b1, b2, b3, b4, rfl⟩
  have hbyte : ∀ (n : ℕ) (c : UInt8), n % 2 ^ 8 = c.toNat → UInt8.ofNat n = c := fun n c hn => by
    apply UInt8.toNat_inj.mp
    rw [UInt8.toNat_ofNat', hn]
  have h1 := b1.toNat_lt
  have h2 := b2.toNat_lt
  have h3 := b3.toNat_lt
  have h4 := b4.toNat_lt
  simp only [ofBe, be32, List.foldl_cons, List.foldl_nil]
  rw [hbyte _ b1 (by omega), hbyte _ b2 (by omega), hbyte _ b3 (by omega), hbyte _ b4 (by omega)]

/-- A payload behind its length. -/
def frame (payload : List UInt8) : List UInt8 := be32 payload.length ++ payload

/-- No frame with a payload of 1 to `cap - 1` bytes starts here: the header is
incomplete, its length is invalid, or the payload is incomplete. -/
def Stuck (cap : ℕ) (tail : List UInt8) : Prop :=
  tail.length < 4 ∨ ofBe (tail.take 4) = 0 ∨ ofBe (tail.take 4) ≥ cap ∨ tail.length - 4 < ofBe (tail.take 4)

/-- A stream is these frames, and a rest that starts no further one. -/
structure Splits (cap : ℕ) (b : List UInt8) (payloads : List (List UInt8)) (tail : List UInt8) : Prop where
  text : b = payloads.flatMap frame ++ tail
  lengths : ∀ p ∈ payloads, 1 ≤ p.length ∧ p.length < cap
  stuck : Stuck cap tail

/-- Every stream splits. -/
theorem exists_splits (cap : ℕ) : ∀ (n : ℕ) (b : List UInt8), b.length ≤ n → ∃ payloads tail, Splits cap b payloads tail
  | 0, b, h => ⟨[], b, rfl, fun p hp => absurd hp List.not_mem_nil, Or.inl (by omega)⟩
  | n + 1, b, h => by
    by_cases hstuck : Stuck cap b
    · exact ⟨[], b, rfl, fun p hp => absurd hp List.not_mem_nil, hstuck⟩
    · have hfull : ¬ b.length < 4 ∧ ¬ ofBe (b.take 4) = 0 ∧ ¬ ofBe (b.take 4) ≥ cap ∧
          ¬ b.length - 4 < ofBe (b.take 4) := by
        unfold Stuck at hstuck
        simpa only [not_or] using hstuck
      obtain ⟨hlen, hpos, hcap, hrest⟩ := hfull
      -- the first frame, and what follows it
      have hfirst : b = frame ((b.drop 4).take (ofBe (b.take 4))) ++ (b.drop 4).drop (ofBe (b.take 4)) := by
        have hn : ((b.drop 4).take (ofBe (b.take 4))).length = ofBe (b.take 4) := by
          rw [List.length_take, List.length_drop]
          omega
        rw [frame, hn, be32_ofBe (by rw [List.length_take]; omega), List.append_assoc, List.take_append_drop,
          List.take_append_drop]
      obtain ⟨payloads, tail, hb, hp, htail⟩ := exists_splits cap n ((b.drop 4).drop (ofBe (b.take 4)))
        (by rw [List.length_drop, List.length_drop]; omega)
      refine ⟨(b.drop 4).take (ofBe (b.take 4)) :: payloads, tail, ?_, ?_, htail⟩
      · rw [List.flatMap_cons, List.append_assoc, ← hb]
        exact hfirst
      · refine List.forall_mem_cons.mpr ⟨?_, hp⟩
        rw [List.length_take, List.length_drop]
        omega

theorem length_le_flatMap_frame (payloads : List (List UInt8)) :
    payloads.length ≤ (payloads.flatMap frame).length := by
  induction payloads with
  | nil => exact Nat.zero_le _
  | cons p payloads ih =>
    rw [List.flatMap_cons, List.length_append, List.length_cons, frame, List.length_append, be32_length]
    omega

theorem frame_append_inj {p q rest rest' : List UInt8} (hp : p.length < 2 ^ 32) (hq : q.length < 2 ^ 32)
    (h : frame p ++ rest = frame q ++ rest') : p = q ∧ rest = rest' := by
  unfold frame at h
  rw [List.append_assoc, List.append_assoc] at h
  obtain ⟨hhead, htail⟩ := List.append_inj h rfl
  have hlen : p.length = q.length := by rw [← ofBe_be32 hp, hhead, ofBe_be32 hq]
  exact List.append_inj htail hlen

/-- Where a frame starts, the stream is not stuck. -/
theorem not_stuck_frame {cap : ℕ} (hcap : cap ≤ 2 ^ 32) {p : List UInt8} (hpos : 1 ≤ p.length) (hlt : p.length < cap)
    (rest : List UInt8) : ¬ Stuck cap (frame p ++ rest) := by
  have hhead : (frame p ++ rest).take 4 = be32 p.length := by
    rw [frame, List.append_assoc]
    exact List.take_left' (be32_length _)
  have hlen : (frame p ++ rest).length = 4 + p.length + rest.length := by
    rw [frame, List.length_append, List.length_append, be32_length]
  unfold Stuck
  rw [hhead, ofBe_be32 (by omega), hlen]
  omega

/-- A frame behind other frames is one of those into which the stream splits,
at the same place. -/
theorem Splits.eq_append {cap : ℕ} (hcap : cap ≤ 2 ^ 32) : ∀ {b tail : List UInt8} {payloads ps : List (List UInt8)}
    {p rest : List UInt8}, Splits cap b payloads tail → b = ps.flatMap frame ++ (frame p ++ rest) →
    (∀ q ∈ ps, 1 ≤ q.length ∧ q.length < cap) → 1 ≤ p.length → p.length < cap →
    ∃ later, payloads = ps ++ p :: later
  | b, tail, [], ps, p, rest, h, hb, hps, hpos, hlt => by
    have htext := h.text
    rw [List.flatMap_nil, List.nil_append, hb] at htext
    have hstuck := h.stuck
    rw [← htext] at hstuck
    cases ps with
    | nil => exact absurd hstuck (not_stuck_frame hcap hpos hlt rest)
    | cons q ps =>
      obtain ⟨hq, hqlt⟩ := hps q List.mem_cons_self
      rw [List.flatMap_cons, List.append_assoc] at hstuck
      exact absurd hstuck (not_stuck_frame hcap hq hqlt _)
  | b, tail, q :: payloads, ps, p, rest, h, hb, hps, hpos, hlt => by
    obtain ⟨⟨hq, hqlt⟩, hlengths⟩ := List.forall_mem_cons.mp h.lengths
    have htext := h.text
    rw [hb, List.flatMap_cons, List.append_assoc] at htext
    cases ps with
    | nil =>
      obtain ⟨rfl, -⟩ := frame_append_inj (by omega) (by omega) htext
      exact ⟨payloads, rfl⟩
    | cons q' ps =>
      obtain ⟨⟨hq', hqlt'⟩, hps'⟩ := List.forall_mem_cons.mp hps
      rw [List.flatMap_cons, List.append_assoc] at htext
      obtain ⟨rfl, hrest⟩ := frame_append_inj (by omega) (by omega) htext
      obtain ⟨later, hlater⟩ := Splits.eq_append hcap ⟨rfl, hlengths, h.stuck⟩ hrest.symm hps' hpos hlt
      exact ⟨later, by rw [hlater, List.cons_append]⟩

/-! ### The stream -/

/-- An answer of `read`: some bytes, of which there is a first one, an
interruption by a signal, or a failure. The end of the stream is the end of
the list of answers. -/
inductive Read
  | data (first : UInt8) (more : List UInt8)
  | interrupted
  | failed
  deriving DecidableEq, Repr

/-- The bytes that arrive before the first failure. -/
def bytes : List Read → List UInt8
  | [] => []
  | .data b bs :: reads => b :: bs ++ bytes reads
  | .interrupted :: reads => bytes reads
  | .failed :: _ => []

/-- What is left of a chunk stays in front of the stream. -/
def unread : List UInt8 → List Read → List Read
  | [], reads => reads
  | b :: bs, reads => .data b bs :: reads

@[simp] theorem bytes_unread (b : List UInt8) (reads : List Read) : bytes (unread b reads) = b ++ bytes reads := by
  cases b <;> rfl

theorem failed_unread {b : List UInt8} {reads : List Read} (h : Read.failed ∉ reads) :
    Read.failed ∉ unread b reads := by
  cases b with
  | nil => exact h
  | cons b bs => exact fun hmem => (List.mem_cons.mp hmem).elim (fun he => by cases he) h

variable {ε : Type}

/-- Read on until `n` bytes are there. `eof` is the error at the end of the
stream, which may tell how many bytes were still missing, `broken` the one
for a failure. -/
def pull (eof : ℕ → ε) (broken : ε) : ℕ → List Read → Except ε (List UInt8) × List Read
  | 0, reads => (.ok [], reads)
  | n + 1, [] => (.error (eof (n + 1)), [])
  | n + 1, .interrupted :: reads => pull eof broken (n + 1) reads
  | _ + 1, .failed :: reads => (.error broken, reads)
  | n + 1, .data b bs :: reads =>
    if bs.length ≤ n then
      match pull eof broken (n - bs.length) reads with
      | (.ok rest, reads) => (.ok (b :: bs ++ rest), reads)
      | (.error e, reads) => (.error e, reads)
    else (.ok (b :: bs.take n), unread (bs.drop n) reads)

/-- **Enough bytes.** The loop returns the first `n` bytes of the stream and
leaves the others. -/
theorem pull_ok (eof : ℕ → ε) (broken : ε) : ∀ (n : ℕ) (reads : List Read), n ≤ (bytes reads).length →
    ∃ reads', pull eof broken n reads = (.ok ((bytes reads).take n), reads') ∧
      bytes reads' = (bytes reads).drop n ∧ (Read.failed ∉ reads → Read.failed ∉ reads')
  | 0, reads, _ => by
    refine ⟨reads, ?_, rfl, id⟩
    rw [pull, List.take_zero]
  | n + 1, [], h => by
    exact absurd h (by simp [bytes])
  | n + 1, .interrupted :: reads, h => by
    obtain ⟨reads', hp, hb, hf⟩ := pull_ok eof broken (n + 1) reads h
    refine ⟨reads', ?_, hb, fun hmem => hf fun hr => hmem (List.mem_cons_of_mem _ hr)⟩
    rw [pull, hp]
    rfl
  | n + 1, .failed :: reads, h => by
    exact absurd h (by simp [bytes])
  | n + 1, .data b bs :: reads, h => by
    rw [bytes, List.length_append, List.length_cons] at h
    have htail : Read.failed ∉ Read.data b bs :: reads → Read.failed ∉ reads := fun hmem hr =>
      hmem (List.mem_cons_of_mem _ hr)
    by_cases hbs : bs.length ≤ n
    · -- the whole chunk is taken
      obtain ⟨reads', hp, hb, hf⟩ := pull_ok eof broken (n - bs.length) reads (by omega)
      have hn : n + 1 = (b :: bs).length + (n - bs.length) := by
        rw [List.length_cons]
        omega
      refine ⟨reads', ?_, ?_, fun hmem => hf (htail hmem)⟩
      · rw [pull, if_pos hbs, hp, bytes, hn, List.take_length_add_append]
      · rw [hb, bytes, hn, List.drop_length_add_append]
    · refine ⟨unread (bs.drop n) reads, ?_, ?_, fun hmem => failed_unread (htail hmem)⟩
      · rw [pull, if_neg hbs, bytes, List.cons_append, List.take_succ_cons,
          List.take_append_of_le_length (by omega)]
      · rw [bytes_unread, bytes, List.cons_append, List.drop_succ_cons,
          List.drop_append_of_le_length (by omega)]

/-- The loop on a stream of which the first bytes are known. -/
theorem pull_append (eof : ℕ → ε) (broken : ε) {reads : List Read} {b rest : List UInt8}
    (h : bytes reads = b ++ rest) :
    ∃ reads', pull eof broken b.length reads = (.ok b, reads') ∧ bytes reads' = rest ∧
      (Read.failed ∉ reads → Read.failed ∉ reads') := by
  obtain ⟨reads', hp, hb, hf⟩ := pull_ok eof broken b.length reads (by rw [h, List.length_append]; omega)
  rw [h, List.take_left] at hp
  rw [h, List.drop_left] at hb
  exact ⟨reads', hp, hb, hf⟩

/-- **Too few bytes.** The loop ends with an error; without a failure it is
the end of the stream, and `eof` gets what was missing. -/
theorem pull_short (eof : ℕ → ε) (broken : ε) : ∀ (n : ℕ) (reads : List Read), (bytes reads).length < n →
    ∃ e reads', pull eof broken n reads = (.error e, reads') ∧
      (Read.failed ∉ reads → e = eof (n - (bytes reads).length))
  | 0, _, h => absurd h (Nat.not_lt_zero _)
  | n + 1, [], _ => ⟨_, _, rfl, fun _ => rfl⟩
  | n + 1, .interrupted :: reads, h => by
    obtain ⟨e, reads', hp, he⟩ := pull_short eof broken (n + 1) reads h
    refine ⟨e, reads', ?_, fun hmem => he fun hr => hmem (List.mem_cons_of_mem _ hr)⟩
    rw [pull, hp]
  | n + 1, .failed :: reads, _ => by
    refine ⟨broken, reads, ?_, fun hmem => absurd List.mem_cons_self hmem⟩
    rw [pull]
  | n + 1, .data b bs :: reads, h => by
    rw [bytes, List.length_append, List.length_cons] at h
    obtain ⟨e, reads', hp, he⟩ := pull_short eof broken (n - bs.length) reads (by omega)
    refine ⟨e, reads', ?_, fun hmem => ?_⟩
    · rw [pull, if_pos (by omega), hp]
    · rw [he fun hr => hmem (List.mem_cons_of_mem _ hr), bytes, List.length_append, List.length_cons]
      congr 1
      omega

/-! ### Frames from a stream -/

/-- Read `n` frames, or as many as there are before the first error. -/
def drain (read : List Read → Except ε (List UInt8) × List Read) : ℕ → List Read → List (List UInt8) × Option ε
  | 0, _ => ([], none)
  | n + 1, reads =>
    match read reads with
    | (.error e, _) => ([], some e)
    | (.ok payload, reads) =>
      let rest := drain read n reads
      (payload :: rest.1, rest.2)

/-- A reader that takes one frame off every stream that starts with one, and
reports `e` at the end, reads back every list of frames, and then the end. -/
theorem drain_frames {read : List Read → Except ε (List UInt8) × List Read} {P : List UInt8 → Prop} {e : ε}
    (hone : ∀ payload rest reads, P payload → Read.failed ∉ reads → bytes reads = frame payload ++ rest →
      ∃ reads', read reads = (.ok payload, reads') ∧ bytes reads' = rest ∧ Read.failed ∉ reads')
    (hend : ∀ reads, Read.failed ∉ reads → bytes reads = [] → (read reads).1 = .error e) :
    ∀ (payloads : List (List UInt8)) (reads : List Read), (∀ p ∈ payloads, P p) → Read.failed ∉ reads →
      bytes reads = payloads.flatMap frame → ∀ n, payloads.length < n → drain read n reads = (payloads, some e)
  | [], reads, _, hf, hb, n, hn => by
    obtain ⟨n, rfl⟩ := Nat.exists_eq_add_of_le' (show 1 ≤ n from hn)
    have hread := hend reads hf hb
    rcases hr : read reads with ⟨e' | payload, reads'⟩
    · rw [hr] at hread
      cases hread
      rw [drain, hr]
    · rw [hr] at hread
      cases hread
  | p :: payloads, reads, hok, hf, hb, n, hn => by
    obtain ⟨hp, hrest⟩ := List.forall_mem_cons.mp hok
    obtain ⟨n, rfl⟩ := Nat.exists_eq_add_of_le' (show 1 ≤ n by omega)
    rw [List.length_cons] at hn
    rw [List.flatMap_cons] at hb
    obtain ⟨reads', hr, hb', hf'⟩ := hone p _ reads hp hf hb
    have ih := drain_frames hone hend payloads reads' hrest hf' hb' n (by omega)
    rw [drain, hr]
    simp only [ih]

end Wire
