/-
# The parser on memory does what the list functions say

`Tracks json pos` relates how a scan over the list that is left at `pos` ends
and what the scan over the index `pos` returns: the same error, or a position
at or behind `pos` with the same rest. Each scanner on memory, started where
`rest` is left, returns, without a fault, what its list function tracks on
`rest`.

The containers are an induction on the levels that are left, with an induction
on the turns of their loop inside; `depth + levels` does not get smaller, so
the limit on the depth ends the recursion before the levels do.

Key definitions: `Tracks`, `Renders`.
Key theorems: `parseString_tracks`, `skipValue_tracks`,
`parseRequest_in_bounds`.
-/
import Pktlab.Dpdkd.InMemory
import Pktlab.Dpdkd.JsonBounds

namespace Pktlab
namespace Dpdkd
namespace InMemory

open Utf8 Checked
open JsonProto (maxNesting escaped keyCap idCap cmdCap IpcRequest)

variable {json rest r : List UInt8} {pos q : ℕ} {cap : ℕ}

/-- How a scan of the rest ends, and what the scan from `pos` returns. -/
def Tracks (json : List UInt8) (pos : ℕ) : Except Fail (List UInt8) → Status ℕ → Prop
  | .ok rest, .ok q => pos ≤ q ∧ At json q rest
  | .error (.rejected e), .error e' => e' = e
  | _, _ => False

theorem Tracks.reject (json : List UInt8) (pos : ℕ) (message : String) :
    Tracks json pos (JsonProto.reject message) (reject message) := rfl

theorem Tracks.ok (h : At json q rest) (hle : pos ≤ q) : Tracks json pos (.ok rest) (.ok q) := ⟨hle, h⟩

/-- The start may be further in front. -/
theorem Tracks.mono {p : ℕ} {list : Except Fail (List UInt8)} {st : Status ℕ} (h : Tracks json q list st)
    (hle : p ≤ q) : Tracks json p list st := by
  rcases list with (e | _ | _) | rest
  · cases st with
    | ok q' => exact h
    | error e' => exact h
  · exact h
  · exact h
  · cases st with
    | ok q' => exact ⟨le_trans hle h.1, h.2⟩
    | error e => exact h

theorem Tracks.cases {list : Except Fail (List UInt8)} {st : Status ℕ} (h : Tracks json pos list st) :
    (∃ rest q, list = .ok rest ∧ st = .ok q ∧ pos ≤ q ∧ At json q rest) ∨
      ∃ e, list = .error (.rejected e) ∧ st = .error e := by
  rcases list with (e | _ | _) | rest
  · cases st with
    | ok q => exact h.elim
    | error e' => exact Or.inr ⟨e, rfl, congrArg _ h⟩
  · exact h.elim
  · exact h.elim
  · cases st with
    | ok q => exact Or.inl ⟨rest, q, rfl, rfl, h.1, h.2⟩
    | error e => exact h.elim

/-! ### Whitespace and single characters -/

theorem skipWsLoop_tracks : ∀ {rest : List UInt8} {fuel pos : ℕ}, At json pos rest → rest.length < fuel →
    ∃ q, skipWsLoop json fuel pos = .ok q ∧ pos ≤ q ∧ At json q (JsonProto.skipWs rest)
  | [], fuel, pos, h, hf => by
    obtain ⟨fuel, rfl⟩ := Nat.exists_eq_add_of_le' (show 1 ≤ fuel by omega)
    refine ⟨pos, ?_, le_rfl, h⟩
    rw [skipWsLoop, if_neg h.not_lt]
    rfl
  | b :: rest, fuel, pos, h, hf => by
    rw [List.length_cons] at hf
    obtain ⟨fuel, rfl⟩ := Nat.exists_eq_add_of_le' (show 1 ≤ fuel by omega)
    rw [skipWsLoop, if_pos h.lt, h.load, ok_bind, JsonProto.skipWs]
    by_cases hb : b ≠ ascii ' ' ∧ b ≠ ascii '\n' ∧ b ≠ ascii '\r' ∧ b ≠ ascii '\t'
    · rw [if_pos hb, if_pos hb]
      exact ⟨pos, rfl, le_rfl, h⟩
    · obtain ⟨q, hq, hle, hat⟩ := skipWsLoop_tracks h.next (show rest.length < fuel by omega)
      rw [if_neg hb, if_neg hb, h.next.moveTo (Nat.le_succ pos), ok_bind]
      exact ⟨q, hq, by omega, hat⟩

theorem skipWs_tracks (h : At json pos rest) :
    ∃ q, skipWs json pos = .ok q ∧ pos ≤ q ∧ At json q (JsonProto.skipWs rest) := by
  have hlen := h.length_eq
  obtain ⟨q, hq, hle, hat⟩ := skipWsLoop_tracks h (show rest.length < json.length + 1 by omega)
  refine ⟨q, ?_, hle, hat⟩
  rw [skipWs, hq, ok_bind, hat.moveTo hle]

theorem isAt_some {c : Char} (h : At json pos rest) (he : JsonProto.eat c rest = some r) :
    isAt json pos (ascii c) = .ok true ∧ moveTo json pos (pos + 1) = .ok (pos + 1) ∧ At json (pos + 1) r := by
  rw [JsonProto.eat_eq_some] at he
  subst he
  refine ⟨?_, h.next.moveTo (Nat.le_succ pos), h.next⟩
  rw [isAt_cons h]
  simp

theorem isAt_none {c : Char} (h : At json pos rest) (he : JsonProto.eat c rest = none) :
    isAt json pos (ascii c) = .ok false := by
  cases rest with
  | nil => exact isAt_nil h _
  | cons b rest =>
    rw [isAt_cons h]
    simp only [JsonProto.eat, ite_eq_right_iff, reduceCtorEq, imp_false] at he
    simp [he]

theorem at_eat {c : Char} (h : At json pos rest) (he : JsonProto.eat c rest = some r) : At json (pos + 1) r :=
  (isAt_some h he).2.2

/-- A test for a character that is there, or is not. -/
theorem ifAt_some {α : Type} {c : Char} (h : At json pos rest) (he : JsonProto.eat c rest = some r)
    (found other : Except Fault α) :
    (isAt json pos (ascii c) >>= fun b => if b = true then found else other) = found := by
  rw [(isAt_some h he).1, ok_bind, if_pos rfl]

theorem ifAt_none {α : Type} {c : Char} (h : At json pos rest) (he : JsonProto.eat c rest = none)
    (found other : Except Fault α) :
    (isAt json pos (ascii c) >>= fun b => if b = true then found else other) = other := by
  rw [isAt_none h he, ok_bind, if_neg Bool.false_ne_true]

/-- A character that is there, and the step over it. -/
theorem overAt_some {α : Type} {c : Char} (h : At json pos rest) (he : JsonProto.eat c rest = some r)
    (next : ℕ → Except Fault α) (other : Except Fault α) :
    (isAt json pos (ascii c) >>= fun b => if b = true then moveTo json pos (pos + 1) >>= next else other) =
      next (pos + 1) := by
  rw [ifAt_some h he, (isAt_some h he).2.1, ok_bind]

/-! ### Strings -/

/-- There is no array, or it has room for the terminator. -/
def Room (cap : ℕ) (out : List UInt8) : Prop := (cap = 0 ∧ out = []) ∨ out.length < cap

theorem append_tracks {b0 buffer : Buffer cap} {out : List UInt8} (hfills : Fills b0 out buffer)
    (hroom : Room cap out) (c : UInt8) :
    (JsonProto.full cap out = true ∧ append buffer out.length c = .ok none) ∨
      (JsonProto.full cap out = false ∧ ∃ buffer',
        append buffer out.length c = .ok (some (buffer', (JsonProto.store cap out c).length)) ∧
        Fills b0 (JsonProto.store cap out c) buffer' ∧ Room cap (JsonProto.store cap out c)) := by
  unfold append JsonProto.full JsonProto.store
  rcases hroom with ⟨hcap, rfl⟩ | hlt
  · have hn : ¬ 0 < cap := by omega
    refine Or.inr ⟨by simp [hn], buffer, ?_, ?_, ?_⟩
    · rw [if_neg hn, if_neg hn]
      rfl
    · rw [if_neg hn]
      exact hfills
    · rw [if_neg hn]
      exact Or.inl ⟨hcap, rfl⟩
  have hcap : 0 < cap := by omega
  rw [if_pos hcap, if_pos hcap]
  by_cases hfull : out.length + 1 ≥ cap
  · refine Or.inl ⟨by simp [hcap, hfull], ?_⟩
    rw [if_pos hfull]
    rfl
  · obtain ⟨buffer', hstore, hfills'⟩ := hfills.store hlt c
    have hlen : (out ++ [c]).length = out.length + 1 := by simp
    refine Or.inr ⟨by simp [hcap]; omega, buffer', ?_, hfills', Or.inr (by omega)⟩
    rw [if_neg hfull, hstore, ok_bind, hlen]
    rfl

/-- The terminator behind the string. -/
def terminator (cap : ℕ) : Except Fail (List UInt8) → List UInt8
  | .ok _ => if 0 < cap then [0] else []
  | .error _ => []

/-- The same for a string: the array holds what was stored, and on success a
NUL behind it. -/
def TracksString (json : List UInt8) (pos : ℕ) (b0 : Buffer cap) (p : List UInt8 × Except Fail (List UInt8))
    (r : Except Fault (Buffer cap × Status ℕ)) : Prop :=
  ∃ buffer st, r = .ok (buffer, st) ∧ Tracks json pos p.2 st ∧ Fills b0 (p.1 ++ terminator cap p.2) buffer

theorem TracksString.mono {b0 : Buffer cap} {p : List UInt8 × Except Fail (List UInt8)} {p' : ℕ}
    {s : Except Fault (Buffer cap × Status ℕ)} (h : TracksString json q b0 p s) (hle : p' ≤ q) :
    TracksString json p' b0 p s := by
  obtain ⟨buffer, st, hs, htracks, hfills⟩ := h
  exact ⟨buffer, st, hs, htracks.mono hle, hfills⟩

theorem TracksString.reject {b0 buffer : Buffer cap} {out : List UInt8} (hfills : Fills b0 out buffer)
    (json : List UInt8) (pos : ℕ) (message : String) :
    TracksString json pos b0 (out, JsonProto.reject message) (.ok (buffer, reject message)) := by
  refine ⟨buffer, _, rfl, Tracks.reject json pos message, ?_⟩
  show Fills b0 (out ++ []) buffer
  rwa [List.append_nil]

theorem stringLoop_tracks : ∀ {rest out : List UInt8} {fuel pos : ℕ} {b0 buffer : Buffer cap},
    At json pos rest → rest.length < fuel → Fills b0 out buffer → Room cap out →
    TracksString json pos b0 (JsonProto.stringLoop cap rest out) (stringLoop json fuel pos buffer out.length)
  | [], out, fuel, pos, b0, buffer, h, hf, hfills, _ => by
    obtain ⟨fuel, rfl⟩ := Nat.exists_eq_add_of_le' (show 1 ≤ fuel by omega)
    rw [stringLoop, if_neg h.not_lt, JsonProto.stringLoop]
    exact .reject hfills json pos _
  | ch :: rest, out, fuel, pos, b0, buffer, h, hf, hfills, hroom => by
    rw [List.length_cons] at hf
    obtain ⟨fuel, rfl⟩ := Nat.exists_eq_add_of_le' (show 1 ≤ fuel by omega)
    rw [stringLoop, if_pos h.lt, h.load, ok_bind, JsonProto.stringLoop.eq_def]
    simp only
    by_cases hq : ch = ascii '"'
    · -- the closing quote, and the terminator where there is an array
      rw [if_pos hq, if_pos hq]
      have hend : ∃ buffer', terminate buffer out.length = .ok buffer' ∧
          Fills b0 (out ++ terminator cap (.ok rest)) buffer' := by
        unfold terminate terminator
        by_cases hcap : 0 < cap
        · rw [if_pos hcap, if_pos hcap]
          exact hfills.store (hroom.resolve_left fun h0 => by omega) 0
        · rw [if_neg hcap, if_neg hcap, List.append_nil]
          exact ⟨buffer, rfl, hfills⟩
      obtain ⟨buffer', hstore, hfills'⟩ := hend
      rw [hstore, ok_bind, h.next.moveTo (Nat.le_succ pos), ok_bind]
      exact ⟨buffer', _, rfl, Tracks.ok h.next (Nat.le_succ pos), hfills'⟩
    rw [if_neg hq, if_neg hq]
    by_cases hs : ch = ascii '\\'
    · rw [if_pos hs, if_pos hs, h.next.moveTo (Nat.le_succ pos), ok_bind]
      cases rest with
      | nil =>
        rw [if_pos (Nat.not_lt.mp h.next.not_lt)]
        exact .reject hfills json pos _
      | cons b rest =>
        rw [if_neg (Nat.not_le.mpr h.next.lt), h.next.load, ok_bind]
        simp only
        cases he : escaped b with
        | none => exact .reject hfills json pos _
        | some c =>
          simp only
          rcases append_tracks hfills hroom c with ⟨hfull, happ⟩ | ⟨hfull, buffer', happ, hfills', hroom'⟩
          · rw [hfull, happ, ok_bind, if_pos rfl]
            exact .reject hfills json pos _
          · rw [List.length_cons] at hf
            rw [hfull, happ, ok_bind, if_neg Bool.false_ne_true]
            simp only
            rw [h.next.next.moveTo (Nat.le_succ _), ok_bind]
            exact (stringLoop_tracks h.next.next (by omega) hfills' hroom').mono (by omega)
    · rw [if_neg hs, if_neg hs]
      rcases append_tracks hfills hroom ch with ⟨hfull, happ⟩ | ⟨hfull, buffer', happ, hfills', hroom'⟩
      · rw [hfull, happ, ok_bind, if_pos rfl]
        exact .reject hfills json pos _
      · rw [hfull, happ, ok_bind, if_neg Bool.false_ne_true]
        simp only
        rw [h.next.moveTo (Nat.le_succ _), ok_bind]
        exact (stringLoop_tracks h.next (by omega) hfills' hroom').mono (by omega)

theorem parseString_tracks (h : At json pos rest) (b0 : Buffer cap) :
    TracksString json pos b0 (JsonProto.parseString cap rest) (parseString json pos b0) := by
  obtain ⟨q, hq, hle, hat⟩ := skipWs_tracks h
  rw [parseString, hq, ok_bind, JsonProto.parseString]
  cases he : JsonProto.eat '"' (JsonProto.skipWs rest) with
  | none =>
    rw [ifAt_none hat he]
    exact .reject (Fills.nil b0) json pos _
  | some rest' =>
    have hnext := at_eat hat he
    have hlen := hnext.length_eq
    have hroom : Room cap [] := (Nat.eq_zero_or_pos cap).imp_left fun h0 => ⟨h0, rfl⟩
    rw [overAt_some hat he]
    exact (stringLoop_tracks hnext (by omega) (Fills.nil b0) hroom).mono (by omega)

theorem skipString_tracks (h : At json pos rest) :
    ∃ st, skipString json pos = .ok st ∧ Tracks json pos (JsonProto.parseString 0 rest).2 st := by
  obtain ⟨buffer, st, hr, htracks, -⟩ := parseString_tracks h (⟨[], rfl⟩ : Buffer 0)
  exact ⟨st, by rw [skipString, hr]; rfl, htracks⟩

/-! ### Literals and numbers -/

theorem skipLiteral_tracks (literal : String) (h : At json pos rest) :
    ∃ st, skipLiteral json literal pos = .ok st ∧ Tracks json pos (JsonProto.skipLiteral literal rest) st := by
  have hlen := h.length_eq
  unfold skipLiteral JsonProto.skipLiteral
  by_cases hlong : rest.length < (utf8 literal).length
  · rw [if_pos (by omega), if_pos (Or.inl hlong)]
    exact ⟨_, rfl, Tracks.reject json pos _⟩
  rw [if_neg (by omega), compare_eq h (by omega), ok_bind]
  by_cases heq : rest.take (utf8 literal).length = utf8 literal
  · have hsplit : At json pos (utf8 literal ++ rest.drop (utf8 literal).length) := by
      have hjoin := List.take_append_drop (utf8 literal).length rest
      rw [heq] at hjoin
      rwa [hjoin]
    rw [if_pos (decide_eq_true heq), hsplit.forward.moveTo (Nat.le_add_right _ _), ok_bind,
      if_neg (by simp [hlong, heq])]
    exact ⟨_, rfl, Tracks.ok hsplit.forward (Nat.le_add_right _ _)⟩
  · rw [if_neg (by simp [heq]), if_pos (Or.inr heq)]
    exact ⟨_, rfl, Tracks.reject json pos _⟩

theorem skipDigits_tracks : ∀ {rest : List UInt8} {fuel pos : ℕ}, At json pos rest → rest.length < fuel →
    ∃ q, skipDigits json fuel pos = .ok q ∧ pos ≤ q ∧ At json q (JsonProto.skipDigits rest)
  | [], fuel, pos, h, hf => by
    obtain ⟨fuel, rfl⟩ := Nat.exists_eq_add_of_le' (show 1 ≤ fuel by omega)
    refine ⟨pos, ?_, le_rfl, h⟩
    rw [skipDigits, if_neg h.not_lt]
    rfl
  | b :: rest, fuel, pos, h, hf => by
    rw [List.length_cons] at hf
    obtain ⟨fuel, rfl⟩ := Nat.exists_eq_add_of_le' (show 1 ≤ fuel by omega)
    rw [skipDigits, if_pos h.lt, h.load, ok_bind, JsonProto.skipDigits]
    by_cases hb : ascii '0' ≤ b ∧ b ≤ ascii '9'
    · obtain ⟨q, hq, hle, hat⟩ := skipDigits_tracks h.next (show rest.length < fuel by omega)
      rw [if_pos hb, if_pos hb, h.next.moveTo (Nat.le_succ pos), ok_bind]
      exact ⟨q, hq, by omega, hat⟩
    · rw [if_neg hb, if_neg hb]
      exact ⟨pos, rfl, le_rfl, h⟩

/-- With the turns a scan has, whatever position it starts at. -/
theorem skipDigits_at (h : At json pos rest) :
    ∃ q, skipDigits json (json.length + 1) pos = .ok q ∧ pos ≤ q ∧ At json q (JsonProto.skipDigits rest) := by
  have hlen := h.length_eq
  exact skipDigits_tracks h (by omega)

theorem skipFraction_tracks (h : At json pos rest) :
    ∃ q, skipFraction json pos = .ok q ∧ pos ≤ q ∧ At json q (JsonProto.skipFraction rest) := by
  unfold skipFraction JsonProto.skipFraction
  cases he : JsonProto.eat '.' rest with
  | none =>
    rw [ifAt_none h he]
    exact ⟨pos, rfl, le_rfl, h⟩
  | some rest' =>
    have hnext := at_eat h he
    obtain ⟨q, hq, hle, hat⟩ := skipDigits_at hnext
    rw [overAt_some h he]
    exact ⟨q, hq, by omega, hat⟩

theorem isAtEither_some {c d : Char} (h : At json pos rest)
    (he : (JsonProto.eat c rest).or (JsonProto.eat d rest) = some r) :
    isAtEither json pos (ascii c) (ascii d) = .ok true ∧ moveTo json pos (pos + 1) = .ok (pos + 1) ∧
      At json (pos + 1) r := by
  unfold isAtEither
  cases hc : JsonProto.eat c rest with
  | some r' =>
    rw [hc, Option.some_or, Option.some.injEq] at he
    subst he
    obtain ⟨h1, h2, h3⟩ := isAt_some h hc
    exact ⟨by rw [h1]; rfl, h2, h3⟩
  | none =>
    rw [hc, Option.none_or] at he
    obtain ⟨h1, h2, h3⟩ := isAt_some h he
    exact ⟨by rw [ifAt_none h hc, h1], h2, h3⟩

theorem isAtEither_none {c d : Char} (h : At json pos rest)
    (he : (JsonProto.eat c rest).or (JsonProto.eat d rest) = none) :
    isAtEither json pos (ascii c) (ascii d) = .ok false := by
  rw [Option.or_eq_none_iff] at he
  rw [isAtEither, ifAt_none h he.1, isAt_none h he.2]

theorem skipExponent_tracks (h : At json pos rest) :
    ∃ q, skipExponent json pos = .ok q ∧ pos ≤ q ∧ At json q (JsonProto.skipExponent rest) := by
  unfold skipExponent JsonProto.skipExponent
  cases he : (JsonProto.eat 'e' rest).or (JsonProto.eat 'E' rest) with
  | none =>
    rw [isAtEither_none h he, ok_bind, if_neg Bool.false_ne_true]
    exact ⟨pos, rfl, le_rfl, h⟩
  | some rest' =>
    obtain ⟨hmark, hmove, hnext⟩ := isAtEither_some h he
    rw [hmark, ok_bind, if_pos rfl, hmove, ok_bind]
    simp only
    cases hs : (JsonProto.eat '+' rest').or (JsonProto.eat '-' rest') with
    | none =>
      obtain ⟨q, hq, hle, hat⟩ := skipDigits_at hnext
      rw [isAtEither_none hnext hs, ok_bind, if_neg Bool.false_ne_true]
      exact ⟨q, hq, by omega, hat⟩
    | some rest'' =>
      obtain ⟨hsign, hmove', hnext'⟩ := isAtEither_some hnext hs
      obtain ⟨q, hq, hle, hat⟩ := skipDigits_at hnext'
      rw [hsign, ok_bind, if_pos rfl, hmove', ok_bind]
      exact ⟨q, hq, by omega, hat⟩

theorem skipNumber_tracks {b : UInt8} (h : At json pos (b :: rest)) :
    ∃ st, skipNumber json pos = .ok st ∧ Tracks json pos (JsonProto.skipNumber (b :: rest)) st := by
  -- the position behind the sign
  have hsign : ∃ p, skipSign json pos = .ok p ∧ pos ≤ p ∧
      At json p (if b = ascii '-' then rest else b :: rest) := by
    rw [skipSign, h.load, ok_bind]
    by_cases hb : b = ascii '-'
    · rw [if_pos hb, if_pos hb]
      exact ⟨pos + 1, h.next.moveTo (Nat.le_succ pos), Nat.le_succ pos, h.next⟩
    · rw [if_neg hb, if_neg hb]
      exact ⟨pos, rfl, le_rfl, h⟩
  obtain ⟨p, hp, hple, hpat⟩ := hsign
  obtain ⟨q, hq, hqle, hqat⟩ := skipDigits_at hpat
  rw [skipNumber, hp, ok_bind, hq, ok_bind, JsonProto.skipNumber]
  generalize JsonProto.skipDigits (if b = ascii '-' then rest else b :: rest) = afterInt at hqat ⊢
  have hlen := h.length_eq
  have hlen' := hqat.length_eq
  have hno : noDigits json pos q = .ok (decide (afterInt.length = (b :: rest).length ∨
      (afterInt.length + 1 = (b :: rest).length ∧ b = ascii '-'))) := by
    unfold noDigits
    by_cases h0 : q = pos
    · rw [if_pos h0]
      simp only [show afterInt.length = (b :: rest).length by omega, true_or, decide_true]
      rfl
    · rw [if_neg h0]
      by_cases h1 : q = pos + 1
      · rw [if_pos h1, h.load, ok_bind]
        simp only [show ¬ afterInt.length = (b :: rest).length by omega,
          show afterInt.length + 1 = (b :: rest).length by omega, false_or, true_and]
        rfl
      · rw [if_neg h1]
        simp only [show ¬ afterInt.length = (b :: rest).length by omega,
          show ¬ afterInt.length + 1 = (b :: rest).length by omega, false_or, false_and, decide_false]
        rfl
  rw [hno, ok_bind]
  by_cases hnone : afterInt.length = (b :: rest).length ∨
      (afterInt.length + 1 = (b :: rest).length ∧ b = ascii '-')
  · rw [if_pos (decide_eq_true hnone), if_pos hnone]
    exact ⟨_, rfl, Tracks.reject json pos _⟩
  · obtain ⟨q1, hq1, hle1, hat1⟩ := skipFraction_tracks hqat
    obtain ⟨q2, hq2, hle2, hat2⟩ := skipExponent_tracks hat1
    rw [if_neg (by simpa using hnone), if_neg hnone, hq1, ok_bind, hq2, ok_bind]
    exact ⟨_, rfl, Tracks.ok hat2 (by omega)⟩

/-! ### Containers -/

/-- What follows a value in a container: a comma and the next turn, the
closing character, or an error. -/
theorem separator_tracks {next : ℕ → Except Fault (Status ℕ)} {next' : List UInt8 → Except Fail (List UInt8)}
    (close : Char) (message : String) (h : At json pos rest)
    (hnext : ∀ p r, At json p r → pos < p → ∃ st, next p = .ok st ∧ Tracks json p (next' r) st) :
    ∃ st, (do
        let pos ← skipWs json pos
        if ← isAt json pos (ascii ',') then
          let pos ← moveTo json pos (pos + 1)
          next pos
        else if ← isAt json pos (ascii close) then
          let pos ← moveTo json pos (pos + 1)
          return .ok pos
        else return reject message) = .ok st ∧
      Tracks json pos
        (match JsonProto.eat ',' (JsonProto.skipWs rest) with
        | some json => next' json
        | none =>
          match JsonProto.eat close (JsonProto.skipWs rest) with
          | some json => .ok json
          | none => JsonProto.reject message) st := by
  obtain ⟨q, hq, hle, hat⟩ := skipWs_tracks h
  rw [hq, ok_bind]
  cases hcomma : JsonProto.eat ',' (JsonProto.skipWs rest) with
  | some rest' =>
    have hat' := at_eat hat hcomma
    obtain ⟨st, hst, hloop⟩ := hnext _ _ hat' (by omega)
    rw [overAt_some hat hcomma]
    exact ⟨st, hst, hloop.mono (by omega)⟩
  | none =>
    rw [ifAt_none hat hcomma]
    simp only
    cases hclose : JsonProto.eat close (JsonProto.skipWs rest) with
    | some rest' =>
      have hat' := at_eat hat hclose
      rw [overAt_some hat hclose]
      exact ⟨_, rfl, Tracks.ok hat' (by omega)⟩
    | none =>
      rw [ifAt_none hat hclose]
      exact ⟨_, rfl, Tracks.reject json pos _⟩

section Containers

variable {callee : ℕ → ℕ → Except Fault (Status ℕ)} {depth : ℕ}

theorem objectLoop_tracks (hcallee : ∀ fuel pos rest, At json pos rest → 3 * rest.length + 1 ≤ fuel →
      ∃ st, callee (depth + 1) pos = .ok st ∧ Tracks json pos (JsonProto.skipValue fuel (depth + 1) rest) st) :
    ∀ (turns fuel : ℕ) (expect : Bool) {pos : ℕ} {rest : List UInt8}, At json pos rest → rest.length < turns →
      3 * rest.length + 2 ≤ fuel →
      ∃ st, objectLoop json callee depth turns expect pos = .ok st ∧
        Tracks json pos (JsonProto.objectLoop fuel depth expect rest) st
  | 0, _, _, _, _, _, hturns, _ => by omega
  | turns + 1, fuel, expect, pos, [], h, hturns, hfuel => by
    obtain ⟨fuel, rfl⟩ := Nat.exists_eq_add_of_le' (show 1 ≤ fuel by omega)
    rw [objectLoop, if_neg h.not_lt, JsonProto.objectLoop]
    exact ⟨_, rfl, Tracks.reject json pos _⟩
  | turns + 1, fuel, expect, pos, b :: rest, h, hturns, hfuel => by
    obtain ⟨fuel, rfl⟩ := Nat.exists_eq_add_of_le' (show 1 ≤ fuel by omega)
    obtain ⟨q, hq, hle, hat⟩ := skipWs_tracks h
    have hlen := h.length_eq
    rw [List.length_cons] at hturns hfuel hlen
    rw [objectLoop, if_pos h.lt, hq, ok_bind, JsonProto.objectLoop]
    cases hend : JsonProto.eat '}' (JsonProto.skipWs (b :: rest)) with
    | some rest' =>
      have hnext := at_eat hat hend
      rw [overAt_some hat hend]
      exact ⟨_, rfl, Tracks.ok hnext (by omega)⟩
    | none =>
    rw [ifAt_none hat hend]
    simp only
    cases expect with
    | false => exact ⟨_, rfl, Tracks.reject json pos _⟩
    | true =>
    rw [if_neg (by decide), if_neg (by decide)]
    -- the key
    obtain ⟨st, hst, hkey⟩ := skipString_tracks hat
    rw [hst, ok_bind]
    rcases hkey.cases with ⟨rest1, q1, hl1, rfl, hle1, hat1⟩ | ⟨e, hl1, rfl⟩
    case inr =>
      rw [hl1]
      exact ⟨_, rfl, rfl⟩
    obtain ⟨q2, hq2, hle2, hat2⟩ := skipWs_tracks hat1
    rw [hl1]
    simp only
    rw [hq2, ok_bind]
    cases hcolon : JsonProto.eat ':' (JsonProto.skipWs rest1) with
    | none =>
      rw [ifAt_none hat2 hcolon]
      exact ⟨_, rfl, Tracks.reject json pos _⟩
    | some rest2 =>
    have hat3 := at_eat hat2 hcolon
    have hlen3 := hat3.length_eq
    rw [overAt_some hat2 hcolon]
    simp only
    -- the value
    obtain ⟨st, hst, hvalue⟩ := hcallee fuel _ _ hat3 (by omega)
    rw [hst, ok_bind]
    rcases hvalue.cases with ⟨rest4, q4, hl4, rfl, hle4, hat4⟩ | ⟨e, hl4, rfl⟩
    case inr =>
      rw [hl4]
      exact ⟨_, rfl, rfl⟩
    rw [hl4]
    obtain ⟨st, hst, htracks⟩ := separator_tracks '}' "expected ',' or '\x7d' in object" hat4
      fun p r hp hlt => by
        have hlen' := hp.length_eq
        exact objectLoop_tracks hcallee turns fuel true hp (by omega) (by omega)
    exact ⟨st, hst, htracks.mono (by omega)⟩

theorem arrayLoop_tracks (hcallee : ∀ fuel pos rest, At json pos rest → 3 * rest.length + 1 ≤ fuel →
      ∃ st, callee (depth + 1) pos = .ok st ∧ Tracks json pos (JsonProto.skipValue fuel (depth + 1) rest) st) :
    ∀ (turns fuel : ℕ) {pos : ℕ} {rest : List UInt8}, At json pos rest → rest.length < turns →
      3 * rest.length + 2 ≤ fuel →
      ∃ st, arrayLoop json callee depth turns pos = .ok st ∧
        Tracks json pos (JsonProto.arrayLoop fuel depth rest) st
  | 0, _, _, _, _, hturns, _ => by omega
  | turns + 1, fuel, pos, [], h, hturns, hfuel => by
    obtain ⟨fuel, rfl⟩ := Nat.exists_eq_add_of_le' (show 1 ≤ fuel by omega)
    rw [arrayLoop, if_neg h.not_lt, JsonProto.arrayLoop]
    exact ⟨_, rfl, Tracks.reject json pos _⟩
  | turns + 1, fuel, pos, b :: rest, h, hturns, hfuel => by
    obtain ⟨fuel, rfl⟩ := Nat.exists_eq_add_of_le' (show 1 ≤ fuel by omega)
    obtain ⟨q, hq, hle, hat⟩ := skipWs_tracks h
    have hlen := h.length_eq
    have hlen0 := hat.length_eq
    rw [List.length_cons] at hturns hfuel hlen
    rw [arrayLoop, if_pos h.lt, hq, ok_bind, JsonProto.arrayLoop]
    cases hend : JsonProto.eat ']' (JsonProto.skipWs (b :: rest)) with
    | some rest' =>
      have hnext := at_eat hat hend
      rw [overAt_some hat hend]
      exact ⟨_, rfl, Tracks.ok hnext (by omega)⟩
    | none =>
    rw [ifAt_none hat hend]
    simp only
    -- the element
    obtain ⟨st, hst, hvalue⟩ := hcallee fuel _ _ hat (by omega)
    rw [hst, ok_bind]
    rcases hvalue.cases with ⟨rest4, q4, hl4, rfl, hle4, hat4⟩ | ⟨e, hl4, rfl⟩
    case inr =>
      rw [hl4]
      exact ⟨_, rfl, rfl⟩
    rw [hl4]
    obtain ⟨st, hst, htracks⟩ := separator_tracks ']' "expected ',' or ']' in array" hat4
      fun p r hp hlt => by
        have hlen' := hp.length_eq
        exact arrayLoop_tracks hcallee turns fuel hp (by omega) (by omega)
    exact ⟨st, hst, htracks.mono (by omega)⟩

/-- A container is a check of the depth, an opening character and the loop. -/
theorem container_tracks {loop : ℕ → Except Fault (Status ℕ)} {loop' : List UInt8 → Except Fail (List UInt8)}
    (opening : Char) (message : String) (h : At json pos rest)
    (hloop : depth ≤ maxNesting → ∀ p r, At json p r → pos < p →
      ∃ st, loop p = .ok st ∧ Tracks json pos (loop' r) st) :
    ∃ st, (if depth > maxNesting then return reject "JSON nesting exceeds the supported limit"
        else do
          let pos ← skipWs json pos
          if ← isAt json pos (ascii opening) then
            let pos ← moveTo json pos (pos + 1)
            loop pos
          else return reject message) = .ok st ∧
      Tracks json pos
        (if depth > maxNesting then JsonProto.reject "JSON nesting exceeds the supported limit"
        else
          match JsonProto.eat opening (JsonProto.skipWs rest) with
          | none => JsonProto.reject message
          | some json => loop' json) st := by
  by_cases hdepth : depth > maxNesting
  · rw [if_pos hdepth, if_pos hdepth]
    exact ⟨_, rfl, Tracks.reject json pos _⟩
  obtain ⟨q, hq, hle, hat⟩ := skipWs_tracks h
  rw [if_neg hdepth, if_neg hdepth, hq, ok_bind]
  cases hopen : JsonProto.eat opening (JsonProto.skipWs rest) with
  | none =>
    rw [ifAt_none hat hopen]
    exact ⟨_, rfl, Tracks.reject json pos _⟩
  | some rest' =>
    have hat' := at_eat hat hopen
    rw [overAt_some hat hopen]
    exact hloop (Nat.not_lt.mp hdepth) _ _ hat' (by omega)

theorem skipObject_tracks (hcallee : depth ≤ maxNesting → ∀ fuel pos rest, At json pos rest →
      3 * rest.length + 1 ≤ fuel →
      ∃ st, callee (depth + 1) pos = .ok st ∧ Tracks json pos (JsonProto.skipValue fuel (depth + 1) rest) st)
    {fuel : ℕ} (h : At json pos rest) (hpos : 0 < rest.length) (hfuel : 3 * rest.length ≤ fuel) :
    ∃ st, skipObject json callee depth pos = .ok st ∧
      Tracks json pos (JsonProto.skipObject fuel depth rest) st := by
  obtain ⟨fuel, rfl⟩ := Nat.exists_eq_add_of_le' (show 1 ≤ fuel by omega)
  rw [JsonProto.skipObject]
  refine container_tracks '{' _ h fun hdepth p r hat hlt => ?_
  have hlen := h.length_eq
  have hlen' := hat.length_eq
  obtain ⟨st, hst, htracks⟩ := objectLoop_tracks (hcallee hdepth) (json.length + 1) fuel true hat (by omega)
    (by omega)
  exact ⟨st, hst, htracks.mono hlt.le⟩

theorem skipArray_tracks (hcallee : depth ≤ maxNesting → ∀ fuel pos rest, At json pos rest →
      3 * rest.length + 1 ≤ fuel →
      ∃ st, callee (depth + 1) pos = .ok st ∧ Tracks json pos (JsonProto.skipValue fuel (depth + 1) rest) st)
    {fuel : ℕ} (h : At json pos rest) (hpos : 0 < rest.length) (hfuel : 3 * rest.length ≤ fuel) :
    ∃ st, skipArray json callee depth pos = .ok st ∧
      Tracks json pos (JsonProto.skipArray fuel depth rest) st := by
  obtain ⟨fuel, rfl⟩ := Nat.exists_eq_add_of_le' (show 1 ≤ fuel by omega)
  rw [JsonProto.skipArray]
  refine container_tracks '[' _ h fun hdepth p r hat hlt => ?_
  have hlen := h.length_eq
  have hlen' := hat.length_eq
  obtain ⟨st, hst, htracks⟩ := arrayLoop_tracks (hcallee hdepth) (json.length + 1) fuel hat (by omega) (by omega)
  exact ⟨st, hst, htracks.mono hlt.le⟩

end Containers

/-- **Values.** With as many levels as the limit leaves at this depth, and one
for this call, `skip_value` returns what the list function says. -/
theorem skipValue_tracks : ∀ (levels fuel depth : ℕ) {pos : ℕ} {rest : List UInt8}, At json pos rest →
    3 * rest.length + 1 ≤ fuel → maxNesting + 2 ≤ depth + levels → 1 ≤ levels →
    ∃ st, skipValue json levels depth pos = .ok st ∧ Tracks json pos (JsonProto.skipValue fuel depth rest) st
  | 0, _, _, _, _, _, _, _, hlevels => by omega
  | levels + 1, fuel, depth, pos, rest, h, hfuel, hdepth, _ => by
    obtain ⟨fuel, rfl⟩ := Nat.exists_eq_add_of_le' (show 1 ≤ fuel by omega)
    obtain ⟨q, hq, hle, hat⟩ := skipWs_tracks h
    have hlen := h.length_eq
    rw [skipValue, hq, ok_bind, JsonProto.skipValue]
    generalize JsonProto.skipWs rest = rest0 at hat ⊢
    cases rest0 with
    | nil =>
      rw [if_pos (Nat.not_lt.mp hat.not_lt)]
      exact ⟨_, rfl, Tracks.reject json pos _⟩
    | cons b rest0 =>
    have hlen0 := hat.length_eq
    have hcallee : depth ≤ maxNesting → ∀ fuel pos rest, At json pos rest → 3 * rest.length + 1 ≤ fuel →
        ∃ st, skipValue json levels (depth + 1) pos = .ok st ∧
          Tracks json pos (JsonProto.skipValue fuel (depth + 1) rest) st := fun hd fuel pos rest hat hf =>
      skipValue_tracks levels fuel (depth + 1) hat hf (by omega) (by omega)
    have hback : ∀ {list : Except Fail (List UInt8)} {r : Except Fault (Status ℕ)},
        (∃ st, r = .ok st ∧ Tracks json q list st) → ∃ st, r = .ok st ∧ Tracks json pos list st := by
      intro list r hr
      obtain ⟨st, hst, htracks⟩ := hr
      exact ⟨st, hst, htracks.mono hle⟩
    rw [if_neg (Nat.not_le.mpr hat.lt), hat.load, ok_bind]
    simp only
    split
    · exact hback (skipObject_tracks hcallee hat (by simp) (by omega))
    split
    · exact hback (skipArray_tracks hcallee hat (by simp) (by omega))
    split
    · exact hback (skipString_tracks hat)
    split
    · exact hback (skipLiteral_tracks "true" hat)
    split
    · exact hback (skipLiteral_tracks "false" hat)
    split
    · exact hback (skipLiteral_tracks "null" hat)
    split
    · exact hback (skipNumber_tracks hat)
    · exact ⟨_, rfl, Tracks.reject json pos _⟩

/-- Two levels are too few for a value that nests twice, three are enough. -/
example : skipValue (utf8 "[[1]]") 2 1 0 = .error .levels ∧ skipValue (utf8 "[[1]]") 3 1 0 = .ok (.ok 5) := by
  decide +kernel

/-! ### The request -/

/-- The arrays of the request hold what was stored, and zeros behind it. -/
structure Request.Holds (req : Request) (stored : IpcRequest) : Prop where
  id : Fills (Buffer.zeroed idCap) stored.id req.id
  cmd : Fills (Buffer.zeroed cmdCap) stored.cmd req.cmd

/-- The locals on memory are the locals of the list functions; an array that
has not been parsed into is as `memset` left it. -/
structure RequestState.Holds (s : RequestState) (l : JsonProto.RequestState) : Prop where
  request : s.request.Holds l.request
  haveId : s.haveId = l.haveId
  haveCmd : s.haveCmd = l.haveCmd
  havePayload : s.havePayload = l.havePayload
  noId : l.haveId = false → l.request.id = []
  noCmd : l.haveCmd = false → l.request.cmd = []

/-- An array that has not been parsed into. -/
theorem RequestState.Holds.id_zeroed {s : RequestState} {l : JsonProto.RequestState} (hs : s.Holds l)
    (hhave : l.haveId = false) : s.request.id = Buffer.zeroed idCap := by
  have hid := hs.request.id
  rw [hs.noId hhave] at hid
  exact hid.eq_of_nil

theorem RequestState.Holds.cmd_zeroed {s : RequestState} {l : JsonProto.RequestState} (hs : s.Holds l)
    (hhave : l.haveCmd = false) : s.request.cmd = Buffer.zeroed cmdCap := by
  have hcmd := hs.request.cmd
  rw [hs.noCmd hhave] at hcmd
  exact hcmd.eq_of_nil

theorem RequestState.Holds.putId {s : RequestState} {l : JsonProto.RequestState} (hs : s.Holds l)
    {id : Buffer idCap} {out : List UInt8} (hid : Fills (Buffer.zeroed idCap) out id) :
    RequestState.Holds { s with request := { s.request with id }, haveId := true }
      { l with request := { l.request with id := out }, haveId := true } :=
  ⟨⟨hid, hs.request.cmd⟩, rfl, hs.haveCmd, hs.havePayload, fun h => Bool.noConfusion h, hs.noCmd⟩

theorem RequestState.Holds.putCmd {s : RequestState} {l : JsonProto.RequestState} (hs : s.Holds l)
    {cmd : Buffer cmdCap} {out : List UInt8} (hcmd : Fills (Buffer.zeroed cmdCap) out cmd) :
    RequestState.Holds { s with request := { s.request with cmd }, haveCmd := true }
      { l with request := { l.request with cmd := out }, haveCmd := true } :=
  ⟨⟨hs.request.id, hcmd⟩, hs.haveId, rfl, hs.havePayload, hs.noId, fun h => Bool.noConfusion h⟩

theorem RequestState.Holds.putPayload {s : RequestState} {l : JsonProto.RequestState} (hs : s.Holds l) :
    RequestState.Holds { s with havePayload := true } { l with havePayload := true } :=
  ⟨hs.request, hs.haveId, hs.haveCmd, rfl, hs.noId, hs.noCmd⟩

/-- How the parser ends on the list, and what it returns on memory. -/
def Renders (p : IpcRequest × Except Fail Unit) (r : Except Fault (Request × Status Unit)) : Prop :=
  ∃ req st, r = .ok (req, st) ∧ req.Holds p.1 ∧ p.2 = st.mapError .rejected

theorem Renders.reject {req : Request} {stored : IpcRequest} (h : req.Holds stored) (message : String) :
    Renders (stored, JsonProto.reject message) (.ok (req, reject message)) := ⟨req, _, rfl, h, rfl⟩

theorem keyIs_eq {b0 buffer : Buffer keyCap} {key : List UInt8} (h : Fills b0 (key ++ [0]) buffer) (name : String)
    (hname : (0 : UInt8) ∉ utf8 name) (hlen : (utf8 name).length < keyCap) :
    keyIs buffer name = .ok (decide (JsonProto.cString key = utf8 name)) := by
  have hsize := buffer.size
  rw [keyIs, compare_eq (At.start _) (by rw [List.length_append, List.length_singleton, hsize]; exact hlen)]
  congr 1
  rw [decide_eq_decide, List.length_append, List.length_singleton, h, List.append_assoc, List.singleton_append,
    take_nul_iff _ hname]
  rfl

/-- A string that is parsed into an array of zeros. -/
theorem parseString_zeroed (h : At json pos rest) (hcap : 0 < cap) :
    ∃ buffer out, Fills (Buffer.zeroed cap) out buffer ∧
      ((∃ rest' q, JsonProto.parseString cap rest = (out, .ok rest') ∧
          parseString json pos (Buffer.zeroed cap) = .ok (buffer, .ok q) ∧ pos ≤ q ∧ At json q rest') ∨
        ∃ e, JsonProto.parseString cap rest = (out, .error (.rejected e)) ∧
          parseString json pos (Buffer.zeroed cap) = .ok (buffer, .error e)) := by
  obtain ⟨buffer, st, hr, htracks, hfills⟩ := parseString_tracks h (Buffer.zeroed cap)
  have hlen := JsonProto.parseString_length hcap rest
  rcases hp : JsonProto.parseString cap rest with ⟨out, list⟩
  rw [hp] at htracks hfills hlen
  rcases htracks.cases with ⟨rest', q, hlist, rfl, hle, hat⟩ | ⟨e, hlist, rfl⟩
  · cases hlist
    rw [terminator, if_pos hcap] at hfills
    exact ⟨buffer, out, hfills.of_terminated hlen, Or.inl ⟨rest', q, rfl, hr, hle, hat⟩⟩
  · cases hlist
    rw [terminator, List.append_nil] at hfills
    exact ⟨buffer, out, hfills, Or.inr ⟨e, rfl, hr⟩⟩

/-- What becomes of one member, on the list and on memory. -/
def MemberTracks (json : List UInt8) (pos : ℕ)
    (p : IpcRequest × Except Fail (JsonProto.RequestState × List UInt8))
    (r : Except Fault (RequestState × Status ℕ)) : Prop :=
  ∃ s st, r = .ok (s, st) ∧ s.request.Holds p.1 ∧ Tracks json pos (p.2.map (·.2)) st ∧
    ∀ l rest, p.2 = .ok (l, rest) → s.Holds l

theorem MemberTracks.error {s : RequestState} {stored : IpcRequest} (h : s.request.Holds stored)
    (json : List UInt8) (pos : ℕ) (e : DpdkdError) :
    MemberTracks json pos (stored, .error (.rejected e)) (.ok (s, .error e)) :=
  ⟨s, _, rfl, h, rfl, fun _ _ h => by cases h⟩

theorem MemberTracks.ok {s : RequestState} {l : JsonProto.RequestState} (h : s.Holds l) (hat : At json q rest)
    (hle : pos ≤ q) : MemberTracks json pos (l.request, .ok (l, rest)) (.ok (s, .ok q)) :=
  ⟨s, _, rfl, h.request, Tracks.ok hat hle, fun l' r hl => by cases hl; exact h⟩

theorem requestMember_tracks (key : Buffer keyCap) {s : RequestState} {l : JsonProto.RequestState} (hs : s.Holds l)
    (h : At json pos rest) :
    MemberTracks json pos (JsonProto.requestMember l rest) (requestMember json key s pos) := by
  obtain ⟨key', st, hr, htracks, hfills⟩ := parseString_tracks h key
  rw [requestMember, hr, ok_bind, JsonProto.requestMember]
  rcases hp : JsonProto.parseString keyCap rest with ⟨name, e | rest1⟩
  · rw [hp] at htracks
    rcases htracks.cases with ⟨rest1, q1, hl, -⟩ | ⟨e', hl, rfl⟩
    · cases hl
    · cases hl
      exact .error hs.request json pos e'
  rw [hp] at htracks hfills
  rcases htracks.cases with ⟨rest1', q1, hl, rfl, hle1, hat1⟩ | ⟨e', hl, -⟩
  case inr => cases hl
  cases hl
  rw [terminator, if_pos (show 0 < keyCap by decide)] at hfills
  obtain ⟨q2, hq2, hle2, hat2⟩ := skipWs_tracks hat1
  simp only
  rw [hq2, ok_bind]
  cases hcolon : JsonProto.eat ':' (JsonProto.skipWs rest1) with
  | none =>
    rw [ifAt_none hat2 hcolon]
    exact .error hs.request json pos _
  | some rest2 =>
  have hat3 := at_eat hat2 hcolon
  rw [overAt_some hat2 hcolon, keyIs_eq hfills "id" (by decide) (by decide)]
  simp only
  by_cases hid : JsonProto.cString name = utf8 "id"
  · rw [decide_eq_true hid, ok_bind, if_pos rfl, if_pos hid, hs.haveId]
    cases hhave : l.haveId with
    | true => exact .error hs.request json pos _
    | false =>
      rw [if_neg Bool.false_ne_true, if_neg Bool.false_ne_true, hs.id_zeroed hhave]
      obtain ⟨id, out, hfill, ⟨rest4, q4, hl, hr, hle4, hat4⟩ | ⟨e, hl, hr⟩⟩ :=
        @parseString_zeroed _ _ _ idCap hat3 (by decide)
      · rw [hr, ok_bind, hl]
        exact .ok (hs.putId hfill) hat4 (by omega)
      · have hreq : Request.Holds ⟨id, s.request.cmd⟩ ⟨out, l.request.cmd⟩ := ⟨hfill, hs.request.cmd⟩
        rw [hr, ok_bind, hl]
        exact ⟨_, _, rfl, hreq, rfl, fun _ _ h => by cases h⟩
  rw [decide_eq_false hid, ok_bind, if_neg Bool.false_ne_true, if_neg hid,
    keyIs_eq hfills "cmd" (by decide) (by decide)]
  by_cases hcmd : JsonProto.cString name = utf8 "cmd"
  · rw [decide_eq_true hcmd, ok_bind, if_pos rfl, if_pos hcmd, hs.haveCmd]
    cases hhave : l.haveCmd with
    | true => exact .error hs.request json pos _
    | false =>
      rw [if_neg Bool.false_ne_true, if_neg Bool.false_ne_true, hs.cmd_zeroed hhave]
      obtain ⟨cmd, out, hfill, ⟨rest4, q4, hl, hr, hle4, hat4⟩ | ⟨e, hl, hr⟩⟩ :=
        @parseString_zeroed _ _ _ cmdCap hat3 (by decide)
      · rw [hr, ok_bind, hl]
        exact .ok (hs.putCmd hfill) hat4 (by omega)
      · have hreq : Request.Holds ⟨s.request.id, cmd⟩ ⟨l.request.id, out⟩ := ⟨hs.request.id, hfill⟩
        rw [hr, ok_bind, hl]
        exact ⟨_, _, rfl, hreq, rfl, fun _ _ h => by cases h⟩
  rw [decide_eq_false hcmd, ok_bind, if_neg Bool.false_ne_true, if_neg hcmd,
    keyIs_eq hfills "payload" (by decide) (by decide)]
  by_cases hpayload : JsonProto.cString name = utf8 "payload"
  · rw [decide_eq_true hpayload, ok_bind, if_pos rfl, if_pos hpayload, hs.havePayload]
    cases hhave : l.havePayload with
    | true => exact .error hs.request json pos _
    | false =>
      -- the value is skipped from a position of its own, and looked at afterwards
      obtain ⟨q4, hq4, hle4, hat4⟩ := skipWs_tracks hat3
      obtain ⟨st, hst, hvalue⟩ := skipValue_tracks maxLevels (JsonProto.skipFuel (JsonProto.skipWs rest2)) 1 hat4
        le_rfl (by decide) (by decide)
      rw [if_neg Bool.false_ne_true, if_neg Bool.false_ne_true, hq4, ok_bind, hst, ok_bind]
      rcases hvalue.cases with ⟨rest5, q5, hl, rfl, hle5, hat5⟩ | ⟨e', hl, rfl⟩
      · rw [hl]
        simp only
        cases hopen : JsonProto.eat '{' (JsonProto.skipWs rest2) with
        | none =>
          rw [ifAt_none hat4 hopen]
          exact .error hs.request json pos _
        | some rest6 =>
          rw [ifAt_some hat4 hopen, hat5.moveTo (by omega), ok_bind]
          exact .ok hs.putPayload hat5 (by omega)
      · rw [hl]
        exact .error hs.request json pos e'
  · rw [decide_eq_false hpayload, ok_bind, if_neg Bool.false_ne_true, if_neg hpayload]
    exact .error hs.request json pos _

theorem requestEnd_renders {s : RequestState} {l : JsonProto.RequestState} (hs : s.Holds l) (h : At json pos rest) :
    Renders (JsonProto.requestEnd l rest) (requestEnd json s pos) := by
  obtain ⟨q, hq, hle, hat⟩ := skipWs_tracks h
  rw [requestEnd, hq, ok_bind, JsonProto.requestEnd]
  have hlen := hat.length_eq
  cases hrest : JsonProto.skipWs rest with
  | cons b rest' =>
    rw [hrest, List.length_cons] at hlen
    rw [if_pos (show q ≠ json.length by omega)]
    exact .reject hs.request _
  | nil =>
    rw [hrest, List.length_nil] at hlen
    rw [if_neg (show ¬ q ≠ json.length by omega), hs.haveId, hs.haveCmd, hs.havePayload]
    simp only
    split
    · exact .reject hs.request _
    · exact ⟨_, _, rfl, hs.request, rfl⟩

theorem requestLoop_renders (key : Buffer keyCap) : ∀ (turns fuel : ℕ) {s : RequestState}
    {l : JsonProto.RequestState} {pos : ℕ} {rest : List UInt8}, s.Holds l → At json pos rest →
    rest.length < turns → rest.length < fuel →
    Renders (JsonProto.requestLoop fuel l rest) (requestLoop json key turns s pos)
  | 0, _, _, _, _, _, _, _, hturns, _ => by omega
  | turns + 1, fuel, s, l, pos, [], hs, h, _, hfuel => by
    obtain ⟨fuel, rfl⟩ := Nat.exists_eq_add_of_le' (show 1 ≤ fuel by omega)
    rw [requestLoop, if_neg h.not_lt, JsonProto.requestLoop]
    exact requestEnd_renders hs h
  | turns + 1, fuel, s, l, pos, b :: rest, hs, h, hturns, hfuel => by
    obtain ⟨fuel, rfl⟩ := Nat.exists_eq_add_of_le' (show 1 ≤ fuel by omega)
    obtain ⟨q, hq, hle, hat⟩ := skipWs_tracks h
    have hlen := h.length_eq
    rw [List.length_cons] at hturns hfuel hlen
    rw [requestLoop, if_pos h.lt, hq, ok_bind, JsonProto.requestLoop]
    cases hend : JsonProto.eat '}' (JsonProto.skipWs (b :: rest)) with
    | some rest' =>
      have hnext := at_eat hat hend
      rw [overAt_some hat hend]
      exact requestEnd_renders hs hnext
    | none =>
    rw [ifAt_none hat hend]
    simp only
    obtain ⟨s', st, hr, hholds, htracks, hnext⟩ := requestMember_tracks key hs hat
    rw [hr, ok_bind]
    rcases hm : JsonProto.requestMember l (JsonProto.skipWs (b :: rest)) with ⟨stored, e | ⟨l', rest1⟩⟩
    · rw [hm] at hholds htracks
      rcases htracks.cases with ⟨rest1, q1, hl, -⟩ | ⟨e', hl, rfl⟩
      · cases hl
      · cases hl
        exact ⟨_, _, rfl, hholds, rfl⟩
    rw [hm] at htracks hnext
    have hs' := hnext l' rest1 rfl
    rcases htracks.cases with ⟨rest1', q1, hl, rfl, hle1, hat1⟩ | ⟨e', hl, -⟩
    case inr => cases hl
    cases hl
    obtain ⟨q2, hq2, hle2, hat2⟩ := skipWs_tracks hat1
    simp only
    rw [hq2, ok_bind]
    cases hcomma : JsonProto.eat ',' (JsonProto.skipWs rest1) with
    | some rest2 =>
      have hat3 := at_eat hat2 hcomma
      have hlen3 := hat3.length_eq
      rw [overAt_some hat2 hcomma]
      exact requestLoop_renders key turns fuel hs' hat3 (by omega) (by omega)
    | none =>
    rw [ifAt_none hat2 hcomma]
    simp only
    cases hclose : JsonProto.eat '}' (JsonProto.skipWs rest1) with
    | some rest2 =>
      have hat3 := at_eat hat2 hclose
      rw [overAt_some hat2 hclose]
      exact requestEnd_renders hs' hat3
    | none =>
    rw [ifAt_none hat2 hclose]
    cases hws : JsonProto.skipWs rest1 with
    | nil =>
      rw [hws] at hat2
      rw [if_pos (Nat.not_lt.mp hat2.not_lt)]
      exact requestEnd_renders hs' hat2
    | cons b' rest2 =>
      rw [hws] at hat2
      rw [if_neg (Nat.not_le.mpr hat2.lt)]
      exact .reject hs'.request _

theorem zeroed_holds : Request.zeroed.Holds {} := ⟨Fills.nil _, Fills.nil _⟩

/-- **The parser stays in its memory.** On every text, and whatever the stack
holds where `key` is, the parser returns: no read is outside the text, no store
outside `key`, `id` or `cmd`, no position moves back or behind the end, at most
17 calls of `skip_value` are active at a time, and every loop ends. What it
returns is what the list functions say. -/
theorem parseRequest_in_bounds (json : List UInt8) (key : Buffer keyCap) :
    ∃ request status, parseRequest json key = .ok (request, status) ∧
      request.Holds (JsonProto.parseRequest json).1 ∧
      (JsonProto.parseRequest json).2 = status.mapError .rejected := by
  obtain ⟨q, hq, -, hat⟩ := skipWs_tracks (At.start json)
  have hinit : ({} : RequestState).Holds {} := ⟨zeroed_holds, rfl, rfl, rfl, fun _ => rfl, fun _ => rfl⟩
  show Renders (JsonProto.parseRequest json) (parseRequest json key)
  rw [parseRequest, hq, ok_bind, JsonProto.parseRequest]
  cases hopen : JsonProto.eat '{' (JsonProto.skipWs json) with
  | none =>
    rw [ifAt_none hat hopen]
    exact .reject zeroed_holds _
  | some rest =>
    have hat' := at_eat hat hopen
    have hlen := hat'.length_eq
    rw [overAt_some hat hopen]
    exact requestLoop_renders key _ _ hinit hat' (by omega) (by omega)

end InMemory
end Dpdkd
end Pktlab
