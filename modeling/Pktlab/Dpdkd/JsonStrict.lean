/-
# Which of the values that are skipped are JSON

`pktlab_json_proto_skip_value` takes more than the values of RFC 8259: a comma
before the bracket that closes an object or an array, a number with a zero in
front of other digits or without a digit behind its point or its exponent
mark, and control characters in a string. Nothing else: `Tidy` reads the text
token by token up to the end of the value, counting brackets and without a
grammar, and looks for these three. What was skipped is whitespace and one
value exactly when the text is tidy (`skipValue_strict_iff`).

One direction is an induction over the skippers, the other one over the
derivation. Both follow the scan of `tidy` past what they are about:
`resume` is the scan behind it.

Key definitions: `tidyString`, `tidyNumber`, `tidy`, `Tidy`, `StrictUpTo`.
Key theorems: `skipStrict`, `derives_tidy`, `skipValue_strict_iff`.
-/
import Pktlab.Dpdkd.JsonMembers
import Pktlab.Dpdkd.InMemoryTracks

namespace Pktlab
namespace Dpdkd
namespace JsonProto

open Utf8 Rfc8259

/-! ### The three slips -/

/-- What follows the string whose rest this is, if no byte up to its closing
quote is a control character. -/
def tidyString : List UInt8 → Option (List UInt8)
  | [] => none
  | c :: json =>
    if c = ascii '"' then some json
    else if c = ascii '\\' then
      match json with
      | [] => none
      | _ :: json => tidyString json
    else if c < 0x20 then none
    else tidyString json

/-- A digit comes first. -/
def digitFirst : List UInt8 → Bool
  | [] => false
  | b :: _ => isDigit b

/-- A zero that comes first has no digit behind it. -/
def tidyInt (json : List UInt8) : Bool :=
  match eat '0' json with
  | some json => !digitFirst json
  | none => true

/-- A point has a digit behind it. -/
def tidyFraction (json : List UInt8) : Bool :=
  match eat '.' json with
  | some json => digitFirst json
  | none => true

/-- An exponent mark and its sign have a digit behind them. -/
def tidyExponent (json : List UInt8) : Bool :=
  match (eat 'e' json).or (eat 'E' json) with
  | some json => digitFirst (((eat '+' json).or (eat '-' json)).getD json)
  | none => true

/-- What follows the number that starts here, if its three parts are tidy. -/
def tidyNumber (json : List UInt8) : Option (List UInt8) :=
  let int := (eat '-' json).getD json
  let frac := skipDigits int
  let exp := skipFraction frac
  if tidyInt int && tidyFraction frac && tidyExponent exp then some (skipExponent exp) else none

/-- What follows the string or the number that starts here. Any other byte is
passed over. -/
def tidyToken : List UInt8 → Option (List UInt8)
  | [] => none
  | b :: json =>
    if b = ascii '"' then tidyString json
    else if b = ascii '-' ∨ isDigit b then tidyNumber (b :: json)
    else some json

/-- Token after token up to the end of a value: inside `opened` brackets, right
behind a comma or not, strings and numbers are tidy and no bracket closes
behind a comma. -/
def tidy : ℕ → ℕ → Bool → List UInt8 → Bool
  | 0, _, _, _ => false
  | fuel + 1, opened, comma, json =>
    match skipWs json with
    | [] => false
    | b :: json =>
      if b = ascii '{' ∨ b = ascii '[' then tidy fuel (opened + 1) false json
      else if b = ascii '}' ∨ b = ascii ']' then
        !comma && (opened ≤ 1 || tidy fuel (opened - 1) false json)
      else if b = ascii ',' then tidy fuel opened true json
      else if b = ascii ':' then tidy fuel opened false json
      else
        match tidyToken (b :: json) with
        | none => false
        | some json => opened = 0 || tidy fuel opened false json

/-- The text from here to the end of its first value is tidy. -/
def Tidy (json : List UInt8) : Prop := tidy (json.length + 1) 0 false json = true

instance (json : List UInt8) : Decidable (Tidy json) := inferInstanceAs (Decidable (_ = true))

/-- Up to `rest` the text is whitespace and one value of RFC 8259. -/
def StrictUpTo (json rest : List UInt8) : Prop :=
  ∃ w v d u, Ws w ∧ Derives .value v d u ∧ json = w ++ (v ++ rest)

/-! ### The scan, token by token -/

/-- The scan behind a token: at an end when no bracket is open. -/
def resume (fuel opened : ℕ) (json : List UInt8) : Bool := opened = 0 || tidy fuel opened false json

@[simp] theorem resume_zero (fuel : ℕ) (json : List UInt8) : resume fuel 0 json = true := rfl

theorem resume_pos {opened : ℕ} (h : opened ≠ 0) (fuel : ℕ) (json : List UInt8) :
    resume fuel opened json = tidy fuel opened false json := by simp [resume, h]

variable {fuel opened : ℕ} {comma : Bool} {json rest : List UInt8} {b : UInt8}

theorem tidy_ws {w : List UInt8} (hw : Ws w) (fuel opened : ℕ) (comma : Bool) (json : List UInt8) :
    tidy fuel opened comma (w ++ json) = tidy fuel opened comma json := by
  cases fuel with
  | zero => rfl
  | succ fuel => rw [tidy, tidy, skipWs_ws_append hw]

/-- The brackets, the comma and the colon. -/
def isStructural (b : UInt8) : Bool :=
  b = ascii '{' || b = ascii '[' || b = ascii '}' || b = ascii ']' || b = ascii ',' || b = ascii ':'

theorem tidy_open (hb : b = ascii '{' ∨ b = ascii '[') :
    tidy (fuel + 1) opened comma (b :: json) = tidy fuel (opened + 1) false json := by
  have hws : isWs b = false := by rcases hb with rfl | rfl <;> decide
  rw [tidy, skipWs_of_not_ws hws]
  simp only [hb, ↓reduceIte]

theorem tidy_close (hb : b = ascii '}' ∨ b = ascii ']') :
    tidy (fuel + 1) (opened + 1) comma (b :: json) = (!comma && resume fuel opened json) := by
  have hws : isWs b = false := by rcases hb with rfl | rfl <;> decide
  have hopen : ¬ (b = ascii '{' ∨ b = ascii '[') := by rcases hb with rfl | rfl <;> decide
  rw [tidy, skipWs_of_not_ws hws]
  simp only [hb, hopen, ↓reduceIte, Nat.add_sub_cancel, resume]
  cases opened with
  | zero => rfl
  | succ opened => simp

theorem tidy_comma : tidy (fuel + 1) opened comma (ascii ',' :: json) = tidy fuel opened true json := by
  have hopen : ¬ (ascii ',' = ascii '{' ∨ ascii ',' = ascii '[') := by decide
  have hclose : ¬ (ascii ',' = ascii '}' ∨ ascii ',' = ascii ']') := by decide
  rw [tidy, skipWs_of_not_ws (by decide)]
  simp only [hopen, hclose, ↓reduceIte]

theorem tidy_colon : tidy (fuel + 1) opened comma (ascii ':' :: json) = tidy fuel opened false json := by
  have hopen : ¬ (ascii ':' = ascii '{' ∨ ascii ':' = ascii '[') := by decide
  have hclose : ¬ (ascii ':' = ascii '}' ∨ ascii ':' = ascii ']') := by decide
  have hcomma : ¬ ascii ':' = ascii ',' := by decide
  rw [tidy, skipWs_of_not_ws (by decide)]
  simp only [hopen, hclose, hcomma, ↓reduceIte]

theorem tidy_token (hws : isWs b = false) (hb : isStructural b = false) :
    tidy (fuel + 1) opened comma (b :: json) = ((tidyToken (b :: json)).map (resume fuel opened)).getD false := by
  simp only [isStructural, Bool.or_eq_false_iff, decide_eq_false_iff_not] at hb
  obtain ⟨⟨⟨⟨⟨h1, h2⟩, h3⟩, h4⟩, h5⟩, h6⟩ := hb
  rw [tidy, skipWs_of_not_ws hws]
  simp only [h1, h2, h3, h4, h5, h6, or_self, ↓reduceIte]
  cases tidyToken (b :: json) with
  | none => rfl
  | some json => rfl

/-- A string, as the scan sees it. -/
theorem tidy_quote : tidy (fuel + 1) opened comma (ascii '"' :: json) =
    ((tidyString json).map (resume fuel opened)).getD false := by
  rw [tidy_token (by decide) (by decide), tidyToken, if_pos rfl]

theorem number_not_structural (hb : isDigit b = true ∨ b = ascii '-') : isWs b = false ∧ isStructural b = false := by
  have hne : ∀ c : UInt8, isDigit c = false → c ≠ ascii '-' → b ≠ c := by
    rintro c h1 h2 rfl
    rcases hb with hb | hb
    · rw [hb] at h1
      cases h1
    · exact h2 hb
  simp only [isWs, isStructural, Bool.or_eq_false_iff, decide_eq_false_iff_not]
  refine ⟨⟨⟨⟨?_, ?_⟩, ?_⟩, ?_⟩, ⟨⟨⟨⟨⟨?_, ?_⟩, ?_⟩, ?_⟩, ?_⟩, ?_⟩⟩ <;> exact hne _ (by decide) (by decide)

theorem tidy_number (hb : isDigit b = true ∨ b = ascii '-') : tidy (fuel + 1) opened comma (b :: json) =
    ((tidyNumber (b :: json)).map (resume fuel opened)).getD false := by
  obtain ⟨hws, hs⟩ := number_not_structural hb
  have hq : b ≠ ascii '"' := by
    rintro rfl
    revert hb
    decide
  rw [tidy_token hws hs, tidyToken, if_neg hq, if_pos hb.symm]

/-- A byte that means nothing to the scan. -/
def isPassed (b : UInt8) : Bool :=
  !isWs b && !isStructural b && b != ascii '"' && b != ascii '-' && !isDigit b

theorem tidy_passed (hb : isPassed b = true) :
    tidy (fuel + 1) opened comma (b :: json) = resume fuel opened json := by
  simp only [isPassed, Bool.and_eq_true, Bool.not_eq_true', bne_iff_ne, ne_eq] at hb
  obtain ⟨⟨⟨⟨hws, hs⟩, hq⟩, hm⟩, hd⟩ := hb
  rw [tidy_token hws hs, tidyToken, if_neg hq, if_neg (by simp [hm, hd])]
  rfl

/-- The bytes of a literal are passed over one after the other. -/
theorem tidy_passes : ∀ {w : List UInt8} {fuel : ℕ} {comma : Bool}, (∀ c ∈ w, isPassed c = true) → w ≠ [] →
    (w ++ rest).length < fuel →
    ∃ fuel', rest.length < fuel' ∧ tidy fuel opened comma (w ++ rest) = resume fuel' opened rest
  | [], _, _, _, hne, _ => absurd rfl hne
  | b :: w, fuel, comma, hw, _, hf => by
    obtain ⟨hb, hw'⟩ := List.forall_mem_cons.mp hw
    simp only [List.cons_append, List.length_cons, List.length_append] at hf
    obtain ⟨fuel, rfl⟩ := Nat.exists_eq_add_of_le' (show 1 ≤ fuel by omega)
    rw [List.cons_append, tidy_passed hb]
    cases w with
    | nil => exact ⟨fuel, by omega, rfl⟩
    | cons b' w =>
      by_cases h0 : opened = 0
      · rw [h0]
        exact ⟨fuel, by omega, rfl⟩
      · rw [resume_pos h0]
        exact tidy_passes hw' (List.cons_ne_nil b' w) (by simp only [List.length_append]; omega)

/-! ### Strings and numbers -/

/-- A string that is skipped without a control character in it. -/
theorem tidyString_sound : ∀ {json out r j : List UInt8}, (stringLoop 0 json out).2 = .ok r →
    tidyString json = some j → j = r ∧ ∃ k, Chars k false ∧ json = k ++ ascii '"' :: r
  | [], out, r, j, h, _ => by
    rw [stringLoop] at h
    cases h
  | c :: json, out, r, j, h, ht => by
    rw [stringLoop.eq_def] at h
    rw [tidyString.eq_def] at ht
    simp only at h ht
    by_cases hq : c = ascii '"'
    · rw [if_pos hq] at h ht
      cases h
      cases ht
      exact ⟨rfl, [], .nil, by rw [hq]; rfl⟩
    rw [if_neg hq] at h ht
    by_cases hs : c = ascii '\\'
    · rw [if_pos hs] at h ht
      cases json with
      | nil => cases h
      | cons e json =>
        simp only [escaped_eq] at h ht
        cases he : unescape e with
        | none =>
          rw [he] at h
          cases h
        | some x =>
          rw [he] at h
          obtain ⟨hj, k, hk, heq⟩ := tidyString_sound (by simpa [full] using h) ht
          refine ⟨hj, ascii '\\' :: e :: k, .esc he hk, ?_⟩
          rw [hs, heq]
          rfl
    · rw [if_neg hs] at h ht
      by_cases hc : c < 0x20
      · rw [if_pos hc] at ht
        cases ht
      · rw [if_neg hc] at ht
        obtain ⟨hj, k, hk, heq⟩ := tidyString_sound (by simpa [full] using h) ht
        have hplain : isPlain c = true := by
          simp only [isPlain, Bool.and_eq_true, decide_eq_true_eq, bne_iff_ne, ne_eq]
          exact ⟨⟨UInt8.not_lt.mp hc, hq⟩, hs⟩
        refine ⟨hj, c :: k, .plain hplain hk, ?_⟩
        rw [heq]
        rfl

theorem tidyString_plain {c : UInt8} (hc : isPlain c = true) (json : List UInt8) :
    tidyString (c :: json) = tidyString json := by
  have hlow : ¬ c < 0x20 := by
    simp only [isPlain, Bool.and_eq_true, decide_eq_true_eq] at hc
    exact UInt8.not_lt.mpr hc.1.1
  rw [tidyString.eq_def]
  simp only [isPlain_not_quote hc, isPlain_not_backslash hc, hlow, ↓reduceIte]

theorem tidyString_escape (e : UInt8) (json : List UInt8) :
    tidyString (ascii '\\' :: e :: json) = tidyString json := by
  have hq : ascii '\\' ≠ ascii '"' := by decide
  rw [tidyString, if_neg hq, if_pos rfl]

theorem isPlain_of_hex {c : UInt8} (h : (hexValue c).isSome) : isPlain c = true := by
  have hrange : (48 ≤ c.toNat ∧ c.toNat ≤ 57) ∨ (97 ≤ c.toNat ∧ c.toNat ≤ 102) ∨
      (65 ≤ c.toNat ∧ c.toNat ≤ 70) := by
    unfold hexValue at h
    split_ifs at h with h1 h2 h3
    · rw [isDigit_iff] at h1
      exact Or.inl h1
    · rw [Bool.and_eq_true, decide_eq_true_eq, decide_eq_true_eq] at h2
      exact Or.inr (Or.inl h2)
    · rw [Bool.and_eq_true, decide_eq_true_eq, decide_eq_true_eq] at h3
      exact Or.inr (Or.inr h3)
    · cases h
  have hne : ∀ d : UInt8, d.toNat = 34 ∨ d.toNat = 92 → c ≠ d := by
    rintro d hd rfl
    omega
  simp only [isPlain, Bool.and_eq_true, decide_eq_true_eq, bne_iff_ne, ne_eq]
  refine ⟨⟨?_, hne _ (Or.inl (by decide))⟩, hne _ (Or.inr (by decide))⟩
  show 32 ≤ c.toNat
  omega

theorem tidyString_chars {k : List UInt8} {u : Bool} (hk : Chars k u) (rest : List UInt8) :
    tidyString (k ++ ascii '"' :: rest) = some rest := by
  induction hk with
  | nil =>
    rw [List.nil_append, tidyString.eq_def]
    simp only [↓reduceIte]
  | plain hc _ ih => rw [List.cons_append, tidyString_plain hc, ih]
  | esc _ _ ih => rw [List.cons_append, List.cons_append, tidyString_escape, ih]
  | uni h1 h2 h3 h4 _ ih =>
    simp only [List.cons_append]
    rw [tidyString_escape, tidyString_plain (isPlain_of_hex h1), tidyString_plain (isPlain_of_hex h2),
      tidyString_plain (isPlain_of_hex h3), tidyString_plain (isPlain_of_hex h4), ih]

theorem skipDigits_text : ∀ json : List UInt8, ∃ ds, json = ds ++ skipDigits json ∧
    (∀ c ∈ ds, isDigit c = true) ∧ digitFirst (skipDigits json) = false
  | [] => ⟨[], rfl, by simp, rfl⟩
  | b :: json => by
    rw [skipDigits]
    by_cases hb : ascii '0' ≤ b ∧ b ≤ ascii '9'
    · obtain ⟨ds, heq, hds, hend⟩ := skipDigits_text json
      rw [if_pos hb]
      refine ⟨b :: ds, ?_, List.forall_mem_cons.mpr ⟨(isDigit_iff b).mpr hb, hds⟩, hend⟩
      rw [List.cons_append, ← heq]
    · rw [if_neg hb]
      refine ⟨[], rfl, by simp, ?_⟩
      rw [digitFirst, ← Bool.not_eq_true, isDigit_iff]
      exact hb

/-- The digits that come first, if one does. -/
theorem skipDigits_digits {json : List UInt8} (h : digitFirst json = true) :
    ∃ ds, json = ds ++ skipDigits json ∧ Digits ds := by
  obtain ⟨ds, heq, hds, hend⟩ := skipDigits_text json
  refine ⟨ds, heq, ?_, hds⟩
  rintro rfl
  rw [List.nil_append] at heq
  rw [← heq, h] at hend
  cases hend

theorem tidyInt_sound {json : List UInt8} (ht : tidyInt json = true) (hne : skipDigits json ≠ json) :
    ∃ int, json = int ++ skipDigits json ∧ (int = [ascii '0'] ∨ (Digits int ∧ int.head? ≠ some (ascii '0'))) := by
  obtain ⟨ds, heq, hds, -⟩ := skipDigits_text json
  refine ⟨ds, heq, ?_⟩
  cases ds with
  | nil => exact absurd heq.symm hne
  | cons d ds =>
    by_cases hd : d = ascii '0'
    · -- behind a leading zero there is no digit that could belong to it
      subst hd
      unfold tidyInt at ht
      rw [heq, List.cons_append, eat_self] at ht
      cases ds with
      | nil => exact Or.inl rfl
      | cons d' ds =>
        simp only [List.cons_append, digitFirst, hds d' (by simp)] at ht
        cases ht
    · exact Or.inr ⟨⟨List.cons_ne_nil d ds, hds⟩, by simpa using hd⟩

theorem tidyFraction_sound {json : List UInt8} (ht : tidyFraction json = true) :
    ∃ frac, json = frac ++ skipFraction json ∧ (frac = [] ∨ ∃ ds, frac = ascii '.' :: ds ∧ Digits ds) := by
  unfold tidyFraction at ht
  unfold skipFraction
  cases he : eat '.' json with
  | none => exact ⟨[], rfl, Or.inl rfl⟩
  | some rest =>
    rw [he] at ht
    obtain ⟨ds, heq, hds⟩ := skipDigits_digits ht
    refine ⟨ascii '.' :: ds, ?_, Or.inr ⟨ds, rfl, hds⟩⟩
    rw [eat_eq_some.mp he, List.cons_append, ← heq]

/-- One of two characters, and which one. -/
theorem eat_or_eq_some {c d : Char} {json rest : List UInt8} (h : (eat c json).or (eat d json) = some rest) :
    ∃ x, json = x :: rest ∧ (x = ascii c ∨ x = ascii d) := by
  cases hc : eat c json with
  | some r =>
    rw [hc, Option.some_or, Option.some.injEq] at h
    exact ⟨ascii c, by rw [← h, eat_eq_some.mp hc], Or.inl rfl⟩
  | none =>
    rw [hc, Option.none_or] at h
    exact ⟨ascii d, eat_eq_some.mp h, Or.inr rfl⟩

theorem tidyExponent_sound {json : List UInt8} (ht : tidyExponent json = true) :
    ∃ exp, json = exp ++ skipExponent json ∧ (exp = [] ∨ ∃ e sign ds, exp = e :: sign ++ ds ∧
      (e = ascii 'e' ∨ e = ascii 'E') ∧ (sign = [] ∨ sign = [ascii '+'] ∨ sign = [ascii '-']) ∧ Digits ds) := by
  unfold tidyExponent at ht
  unfold skipExponent
  cases he : (eat 'e' json).or (eat 'E' json) with
  | none => exact ⟨[], rfl, Or.inl rfl⟩
  | some rest =>
    rw [he] at ht
    obtain ⟨e, heq, hmark⟩ := eat_or_eq_some he
    obtain ⟨ds, hds, hdigits⟩ := skipDigits_digits ht
    simp only
    cases hs : (eat '+' rest).or (eat '-' rest) with
    | none =>
      rw [hs, Option.getD_none] at hds
      refine ⟨e :: [] ++ ds, ?_, Or.inr ⟨e, [], ds, rfl, hmark, Or.inl rfl, hdigits⟩⟩
      rw [heq, Option.getD_none, List.cons_append, List.cons_append, List.nil_append, ← hds]
    | some rest' =>
      rw [hs, Option.getD_some] at hds
      obtain ⟨sign, hsign, hor⟩ := eat_or_eq_some hs
      refine ⟨e :: [sign] ++ ds, ?_, Or.inr ⟨e, [sign], ds, rfl, hmark, ?_, hdigits⟩⟩
      · rw [heq, Option.getD_some, hsign]
        simp only [List.cons_append, List.nil_append]
        rw [← hds]
      · rcases hor with rfl | rfl
        · exact Or.inr (Or.inl rfl)
        · exact Or.inr (Or.inr rfl)

/-- What is left behind the sign, as the scanner writes it. -/
theorem afterSign_eq (b : UInt8) (json : List UInt8) :
    (if b = ascii '-' then json else b :: json) = (eat '-' (b :: json)).getD (b :: json) := by
  by_cases hb : b = ascii '-'
  · rw [if_pos hb, hb, eat_self, Option.getD_some]
  · rw [if_neg hb, eat_ne hb, Option.getD_none]

theorem tidyNumber_eq_some {json j : List UInt8} : tidyNumber json = some j ↔
    tidyInt ((eat '-' json).getD json) = true ∧ tidyFraction (skipDigits ((eat '-' json).getD json)) = true ∧
      tidyExponent (skipFraction (skipDigits ((eat '-' json).getD json))) = true ∧
      skipExponent (skipFraction (skipDigits ((eat '-' json).getD json))) = j := by
  unfold tidyNumber
  simp only [Option.ite_none_right_eq_some, Bool.and_eq_true, Option.some.injEq, and_assoc]

/-- A number that is skipped and is tidy is one of RFC 8259. -/
theorem tidyNumber_sound {json r j : List UInt8} (h : skipNumber json = .ok r) (ht : tidyNumber json = some j) :
    j = r ∧ ∃ v, Number v ∧ json = v ++ r := by
  obtain ⟨hint, hfrac, hexp, hj⟩ := tidyNumber_eq_some.mp ht
  cases json with
  | nil => cases h
  | cons b json =>
    rw [skipNumber, afterSign_eq] at h
    have hsign : ∃ minus, b :: json = minus ++ (eat '-' (b :: json)).getD (b :: json) ∧
        (minus = [] ∨ minus = [ascii '-']) := by
      cases he : eat '-' (b :: json) with
      | none => exact ⟨[], rfl, Or.inl rfl⟩
      | some rest => exact ⟨[ascii '-'], eat_eq_some.mp he, Or.inr rfl⟩
    obtain ⟨minus, hm, hmor⟩ := hsign
    generalize (eat '-' (b :: json)).getD (b :: json) = afterSign at hint hfrac hexp hj h hm
    split at h
    · cases h
    rename_i hdigits
    cases h
    -- the scanner has refused a sign and nothing else
    have hne : skipDigits afterSign ≠ afterSign := by
      intro heq
      apply hdigits
      rw [heq]
      rcases hmor with rfl | rfl
      · rw [hm]
        exact Or.inl rfl
      · rw [List.singleton_append, List.cons.injEq] at hm
        rw [hm.1, ← hm.2]
        exact Or.inr ⟨rfl, rfl⟩
    obtain ⟨int, hi, hior⟩ := tidyInt_sound hint hne
    obtain ⟨frac, hf, hfor⟩ := tidyFraction_sound hfrac
    obtain ⟨exp, he, heor⟩ := tidyExponent_sound hexp
    refine ⟨hj.symm, minus ++ int ++ frac ++ exp, ⟨⟨minus, int, frac, exp, hmor, hior, hfor, heor⟩, rfl⟩, ?_⟩
    calc b :: json = minus ++ afterSign := hm
      _ = minus ++ (int ++ skipDigits afterSign) := by rw [← hi]
      _ = minus ++ (int ++ (frac ++ skipFraction (skipDigits afterSign))) := by rw [← hf]
      _ = minus ++ (int ++ (frac ++ (exp ++ skipExponent (skipFraction (skipDigits afterSign))))) := by rw [← he]
      _ = minus ++ int ++ frac ++ exp ++ skipExponent (skipFraction (skipDigits afterSign)) := by
        simp only [List.append_assoc]

theorem digitFirst_stop {json : List UInt8} (h : digitFirst json = false) : skipDigits json = json := by
  obtain ⟨ds, heq, hds, -⟩ := skipDigits_text json
  cases ds with
  | nil => exact heq.symm
  | cons d ds =>
    rw [heq, List.cons_append, digitFirst, hds d List.mem_cons_self] at h
    cases h

theorem skipDigits_lt {json : List UInt8} (h : digitFirst json = true) : (skipDigits json).length < json.length := by
  obtain ⟨ds, heq, hds⟩ := skipDigits_digits h
  have hpos := List.length_pos_iff.mpr hds.1
  have hlen := congrArg List.length heq
  rw [List.length_append] at hlen
  omega

theorem digitFirst_digits {ds : List UInt8} (h : Digits ds) (rest : List UInt8) :
    digitFirst (ds ++ rest) = true := by
  obtain ⟨d, ds', rfl⟩ := List.exists_cons_of_ne_nil h.1
  exact h.2 d List.mem_cons_self

/-- What the scanner leaves of the text behind the integer part is at most as
long as what its parts leave. -/
theorem tail_length (json : List UInt8) :
    (skipExponent (skipFraction (skipDigits json))).length ≤ (skipFraction (skipDigits json)).length ∧
      (skipFraction (skipDigits json)).length ≤ (skipDigits json).length ∧
      (skipDigits json).length ≤ json.length :=
  ⟨skipExponent_length_le _, skipFraction_length_le _, skipDigits_length_le _⟩

/-- The exponent of a number behind which the scan stops. -/
theorem tidyExponent_parts (n : NumberParts) {rest : List UInt8} (h : skipExponent (n.exp ++ rest) = rest) :
    tidyExponent (n.exp ++ rest) = true := by
  unfold tidyExponent
  rcases n.exp_ok with he | ⟨e, sign, ds, he, hmark, hsign, hds⟩
  · rw [he, List.nil_append] at h ⊢
    cases hm : (eat 'e' rest).or (eat 'E' rest) with
    | none => rfl
    | some j =>
      -- otherwise the scan would have gone on
      have hlt := eat_or_length hm
      have hle := skipDigits_length_le (((eat '+' j).or (eat '-' j)).getD j)
      have hle' : (((eat '+' j).or (eat '-' j)).getD j).length ≤ j.length := by
        cases hs : (eat '+' j).or (eat '-' j) with
        | none => exact le_rfl
        | some j' =>
          have := eat_or_length hs
          rw [Option.getD_some]
          omega
      have hlen := congrArg List.length h
      rw [skipExponent, hm] at hlen
      simp only at hlen
      omega
  · rw [he]
    simp only [List.cons_append, List.append_assoc, eat_mark hmark, eat_sign hsign hds]
    exact digitFirst_digits hds rest

/-- Its fraction, and what the scan leaves behind it. -/
theorem tidyFraction_parts (n : NumberParts) {rest : List UInt8}
    (h : skipExponent (skipFraction (n.frac ++ (n.exp ++ rest))) = rest) :
    tidyFraction (n.frac ++ (n.exp ++ rest)) = true ∧
      skipFraction (n.frac ++ (n.exp ++ rest)) = n.exp ++ rest := by
  have hle := skipExponent_length_le (skipFraction (n.frac ++ (n.exp ++ rest)))
  rw [h] at hle
  -- what starts the exponent is neither a digit nor a point
  have hexp : ∀ c t, n.exp ++ rest = c :: t → (isDigit c = true ∨ c = ascii '.') → n.exp ++ rest = rest := by
    intro c t heq hc
    rcases n.exp_ok with he | ⟨e, sign, ds, he, hmark, -, -⟩
    · rw [he, List.nil_append]
    · rw [he, List.cons_append, List.cons_append, List.cons.injEq] at heq
      rw [← heq.1] at hc
      rcases hmark with rfl | rfl <;> exact absurd hc (by decide)
  rcases n.frac_ok with hf | ⟨ds, hf, hds⟩
  · rw [hf, List.nil_append] at hle ⊢
    unfold tidyFraction skipFraction at *
    cases hp : eat '.' (n.exp ++ rest) with
    | none => exact ⟨rfl, rfl⟩
    | some j =>
      have hlt := eat_length hp
      have hlt' := skipDigits_length_le j
      have hrest := hexp _ _ (eat_eq_some.mp hp) (Or.inr rfl)
      rw [hp] at hle
      rw [hrest] at hlt
      simp only at hle
      omega
  · rw [hf, List.cons_append] at hle ⊢
    unfold tidyFraction skipFraction at *
    rw [eat_self] at hle ⊢
    simp only at hle ⊢
    rw [skipDigits_append hds.2] at hle ⊢
    refine ⟨digitFirst_digits hds _, ?_⟩
    cases hd : digitFirst (n.exp ++ rest) with
    | false => exact digitFirst_stop hd
    | true =>
      have hlt := skipDigits_lt hd
      cases hx : n.exp ++ rest with
      | nil =>
        rw [hx] at hd
        cases hd
      | cons c t =>
        have hrest := hexp c t hx (Or.inl (by rw [hx] at hd; exact hd))
        rw [hrest] at hle hlt
        omega

/-- A number behind which the scanner stops is tidy. -/
theorem tidyNumber_complete {v : List UInt8} (hv : Number v) {rest : List UInt8}
    (h : skipNumber (v ++ rest) = .ok rest) : tidyNumber (v ++ rest) = some rest := by
  obtain ⟨n, rfl⟩ := hv
  obtain ⟨hne, hdig⟩ := digits_int n
  obtain ⟨d, ds, hint⟩ := List.exists_cons_of_ne_nil hne
  have hd : d ≠ ascii '-' := by
    rintro rfl
    exact absurd (hdig (ascii '-') (by simp [hint])) (by decide)
  have htext : n.text ++ rest = n.minus ++ (n.int ++ (n.frac ++ (n.exp ++ rest))) := by
    simp only [NumberParts.text, List.append_assoc]
  have hsign : (eat '-' (n.text ++ rest)).getD (n.text ++ rest) = n.int ++ (n.frac ++ (n.exp ++ rest)) := by
    rw [htext]
    rcases n.minus_ok with hm | hm
    · rw [hm, List.nil_append, hint, List.cons_append, eat_ne hd, Option.getD_none]
    · rw [hm, List.singleton_append, eat_self, Option.getD_some]
  have hskip : skipExponent (skipFraction (skipDigits (n.frac ++ (n.exp ++ rest)))) = rest := by
    cases hcons : n.text ++ rest with
    | nil =>
      rw [hcons] at h
      cases h
    | cons b json =>
      rw [hcons] at h hsign
      rw [skipNumber, afterSign_eq, hsign, skipDigits_append hdig] at h
      split at h
      · cases h
      · exact Except.ok.inj h
  -- no digit follows the integer part: the scan would leave less than what is behind the number
  have hfirst : digitFirst (n.frac ++ (n.exp ++ rest)) = false := by
    cases hx : digitFirst (n.frac ++ (n.exp ++ rest)) with
    | false => rfl
    | true =>
      have hlt := skipDigits_lt hx
      obtain ⟨h1, h2, -⟩ := tail_length (n.frac ++ (n.exp ++ rest))
      rw [hskip] at h1
      rcases n.frac_ok with hf | ⟨ds', hf, -⟩
      · rcases n.exp_ok with he | ⟨e, sign, ds', he, hmark, -, -⟩
        · rw [hf, he, List.nil_append, List.nil_append] at hlt h2 h1
          omega
        · rw [hf, he, List.nil_append, List.cons_append, List.cons_append, digitFirst] at hx
          rcases hmark with rfl | rfl <;> exact absurd hx (by decide)
      · rw [hf, List.cons_append, digitFirst] at hx
        exact absurd hx (by decide)
  rw [digitFirst_stop hfirst] at hskip
  obtain ⟨hfrac, hfrest⟩ := tidyFraction_parts n hskip
  have hint' : tidyInt (n.int ++ (n.frac ++ (n.exp ++ rest))) = true := by
    unfold tidyInt
    rcases n.int_ok with hi | ⟨-, hi⟩
    · rw [hi, List.singleton_append, eat_self]
      simp only [hfirst, Bool.not_false]
    · have hd0 : d ≠ ascii '0' := by
        rintro rfl
        rw [hint] at hi
        exact hi rfl
      rw [hint, List.cons_append, eat_ne hd0]
  refine tidyNumber_eq_some.mpr ?_
  rw [hsign, skipDigits_append hdig, digitFirst_stop hfirst, hfrest]
  rw [hfrest] at hskip
  exact ⟨hint', hfrac, tidyExponent_parts n hskip, hskip⟩

/-! ### What is skipped and tidy is JSON -/

/-- The scan goes on behind `rest`, with enough turns for it. -/
def GoesOn (opened : ℕ) (rest : List UInt8) : Prop := ∃ fuel, rest.length < fuel ∧ resume fuel opened rest = true

/-- The rest of a container, up to the bracket that closes it: nothing but
whitespace, unless there is a comma before it, or what `nt` derives. -/
def ClosesWith (close : Char) (nt : Nt) (comma : Bool) (json rest : List UInt8) : Prop :=
  ∃ b, json = b ++ ascii close :: rest ∧ ((comma = false ∧ Ws b) ∨ ∃ d u, Derives nt b d u)

/-- A value that is skipped in a tidy text is one of RFC 8259, and so is what
the loops over members and elements skip; the scan goes on behind it. -/
structure SkipStrict (fuel : ℕ) : Prop where
  value : ∀ depth json r, skipValue fuel depth json = .ok r → ∀ f opened comma, json.length < f →
    tidy f opened comma json = true → StrictUpTo json r ∧ GoesOn opened r
  object : ∀ depth json r, skipObject fuel depth json = .ok r → ∀ f opened comma, json.length < f →
    tidy f opened comma json = true → StrictUpTo json r ∧ GoesOn opened r
  array : ∀ depth json r, skipArray fuel depth json = .ok r → ∀ f opened comma, json.length < f →
    tidy f opened comma json = true → StrictUpTo json r ∧ GoesOn opened r
  members : ∀ depth json r, objectLoop fuel depth true json = .ok r → ∀ f opened comma, json.length < f →
    tidy f (opened + 1) comma json = true → ClosesWith '}' .members comma json r ∧ GoesOn opened r
  elements : ∀ depth json r, arrayLoop fuel depth json = .ok r → ∀ f opened comma, json.length < f →
    tidy f (opened + 1) comma json = true → ClosesWith ']' .elements comma json r ∧ GoesOn opened r

theorem GoesOn.tidy {opened : ℕ} {rest : List UInt8} (h : GoesOn (opened + 1) rest) :
    ∃ f, rest.length < f ∧ tidy f (opened + 1) false rest = true := by
  obtain ⟨f, hf, hres⟩ := h
  rw [resume_pos (Nat.succ_ne_zero opened)] at hres
  exact ⟨f, hf, hres⟩

/-- Whitespace and a bracket that closes: there is no comma before it. -/
theorem tidy_wsClose {c : Char} (hc : ascii c = ascii '}' ∨ ascii c = ascii ']') {f opened : ℕ} {comma : Bool}
    {w rest : List UInt8} (hw : Ws w) (hf : (w ++ ascii c :: rest).length < f)
    (ht : tidy f (opened + 1) comma (w ++ ascii c :: rest) = true) : comma = false ∧ GoesOn opened rest := by
  simp only [List.length_append, List.length_cons] at hf
  obtain ⟨f, rfl⟩ := Nat.exists_eq_add_of_le' (show 1 ≤ f by omega)
  rw [tidy_ws hw, tidy_close hc, Bool.and_eq_true, Bool.not_eq_true'] at ht
  exact ⟨ht.1, f, by omega, ht.2⟩

/-- Whitespace and a comma. -/
theorem tidy_wsComma {f opened : ℕ} {comma : Bool} {w rest : List UInt8} (hw : Ws w)
    (hf : (w ++ ascii ',' :: rest).length < f) (ht : tidy f opened comma (w ++ ascii ',' :: rest) = true) :
    ∃ f', rest.length < f' ∧ tidy f' opened true rest = true := by
  simp only [List.length_append, List.length_cons] at hf
  obtain ⟨f, rfl⟩ := Nat.exists_eq_add_of_le' (show 1 ≤ f by omega)
  rw [tidy_ws hw, tidy_comma] at ht
  exact ⟨f, by omega, ht⟩

/-- Whitespace and an opening bracket. -/
theorem tidy_wsOpen {c : Char} (hc : ascii c = ascii '{' ∨ ascii c = ascii '[') {f opened : ℕ} {comma : Bool}
    {w rest : List UInt8} (hw : Ws w) (hf : (w ++ ascii c :: rest).length < f)
    (ht : tidy f opened comma (w ++ ascii c :: rest) = true) :
    ∃ f', rest.length < f' ∧ tidy f' (opened + 1) false rest = true := by
  simp only [List.length_append, List.length_cons] at hf
  obtain ⟨f, rfl⟩ := Nat.exists_eq_add_of_le' (show 1 ≤ f by omega)
  rw [tidy_ws hw, tidy_open hc] at ht
  exact ⟨f, by omega, ht⟩

/-- A key and its colon. -/
theorem tidy_key {f opened : ℕ} {comma : Bool} {json j1 j2 : List UInt8} (hkey : (parseString 0 json).2 = .ok j1)
    (hcolon : eat ':' (skipWs j1) = some j2) (hf : json.length < f) (ht : tidy f (opened + 1) comma json = true) :
    (∃ w k w', Ws w ∧ Chars k false ∧ Ws w' ∧ json = w ++ quoted k ++ w' ++ [ascii ':'] ++ j2) ∧
      ∃ f', j2.length < f' ∧ tidy f' (opened + 1) false j2 = true := by
  unfold parseString at hkey
  cases hq : eat '"' (skipWs json) with
  | none =>
    rw [hq] at hkey
    cases hkey
  | some j =>
    rw [hq] at hkey
    obtain ⟨w, hw, rfl⟩ := eat_skipWs_text hq
    simp only [List.length_append, List.length_cons] at hf
    obtain ⟨f, rfl⟩ := Nat.exists_eq_add_of_le' (show 2 ≤ f by omega)
    rw [tidy_ws hw, tidy_quote] at ht
    cases hstr : tidyString j with
    | none =>
      rw [hstr] at ht
      cases ht
    | some j' =>
      obtain ⟨rfl, k, hk, rfl⟩ := tidyString_sound hkey hstr
      obtain ⟨w', hw', rfl⟩ := eat_skipWs_text hcolon
      rw [hstr, Option.map_some, Option.getD_some, resume_pos (Nat.succ_ne_zero opened), tidy_ws hw',
        tidy_colon] at ht
      simp only [List.length_append, List.length_cons] at hf
      exact ⟨⟨w, k, w', hw, hk, hw', by simp [quoted]⟩, f, by omega, ht⟩

theorem objectLoop_strict {fuel : ℕ} (ih : SkipStrict fuel) {depth : ℕ} {json r : List UInt8}
    (h : objectLoop (fuel + 1) depth true json = .ok r) {f opened : ℕ} {comma : Bool} (hf : json.length < f)
    (ht : tidy f (opened + 1) comma json = true) : ClosesWith '}' .members comma json r ∧ GoesOn opened r := by
  rcases objectLoop_eq_ok.mp h with hend | ⟨-, j1, j2, j3, hkey, hcolon, hvalue, hrest⟩
  · obtain ⟨w, hw, rfl⟩ := eat_skipWs_text hend
    obtain ⟨hcomma, hgo⟩ := tidy_wsClose (Or.inl rfl) hw hf ht
    exact ⟨⟨w, rfl, Or.inl ⟨hcomma, hw⟩⟩, hgo⟩
  obtain ⟨⟨w1, k, w2, hw1, hk, hw2, rfl⟩, f2, hf2, ht2⟩ := tidy_key hkey hcolon hf ht
  obtain ⟨⟨w3, v, d, u, hw3, hv, rfl⟩, hgo⟩ := ih.value _ _ _ hvalue _ _ _ hf2 ht2
  obtain ⟨f3, hf3, ht3⟩ := hgo.tidy
  rcases hrest with ⟨j4, hsep, hloop⟩ | ⟨-, hend⟩
  · obtain ⟨w4, hw4, rfl⟩ := eat_skipWs_text hsep
    obtain ⟨f4, hf4, ht4⟩ := tidy_wsComma hw4 hf3 ht3
    obtain ⟨⟨b, rfl, hb⟩, hgo'⟩ := ih.members _ _ _ hloop _ _ _ hf4 ht4
    obtain ⟨d', u', hd'⟩ := hb.resolve_left fun hn => Bool.noConfusion hn.1
    exact ⟨⟨_, by simp, Or.inr ⟨_, _, .members hw1 hk hw2 hw3 hv hw4 hd'⟩⟩, hgo'⟩
  · obtain ⟨w4, hw4, rfl⟩ := eat_skipWs_text hend
    obtain ⟨-, hgo'⟩ := tidy_wsClose (Or.inl rfl) hw4 hf3 ht3
    exact ⟨⟨_, by simp, Or.inr ⟨_, _, .member hw1 hk hw2 hw3 hv hw4⟩⟩, hgo'⟩

theorem arrayLoop_strict {fuel : ℕ} (ih : SkipStrict fuel) {depth : ℕ} {json r : List UInt8}
    (h : arrayLoop (fuel + 1) depth json = .ok r) {f opened : ℕ} {comma : Bool} (hf : json.length < f)
    (ht : tidy f (opened + 1) comma json = true) : ClosesWith ']' .elements comma json r ∧ GoesOn opened r := by
  rcases arrayLoop_eq_ok.mp h with hend | ⟨-, -, j1, hvalue, hrest⟩
  · obtain ⟨w, hw, rfl⟩ := eat_skipWs_text hend
    obtain ⟨hcomma, hgo⟩ := tidy_wsClose (Or.inr rfl) hw hf ht
    exact ⟨⟨w, rfl, Or.inl ⟨hcomma, hw⟩⟩, hgo⟩
  obtain ⟨⟨w1, v, d, u, hw1, hv, rfl⟩, hgo⟩ := ih.value _ _ _ hvalue _ _ _ hf ht
  obtain ⟨f3, hf3, ht3⟩ := hgo.tidy
  rcases hrest with ⟨j2, hsep, hloop⟩ | ⟨-, hend⟩
  · obtain ⟨w2, hw2, rfl⟩ := eat_skipWs_text hsep
    obtain ⟨f4, hf4, ht4⟩ := tidy_wsComma hw2 hf3 ht3
    obtain ⟨⟨b, rfl, hb⟩, hgo'⟩ := ih.elements _ _ _ hloop _ _ _ hf4 ht4
    obtain ⟨d', u', hd'⟩ := hb.resolve_left fun hn => Bool.noConfusion hn.1
    exact ⟨⟨_, by simp, Or.inr ⟨_, _, .elements hw1 hv hw2 hd'⟩⟩, hgo'⟩
  · obtain ⟨w2, hw2, rfl⟩ := eat_skipWs_text hend
    obtain ⟨-, hgo'⟩ := tidy_wsClose (Or.inr rfl) hw2 hf3 ht3
    exact ⟨⟨_, by simp, Or.inr ⟨_, _, .element hw1 hv hw2⟩⟩, hgo'⟩

theorem skipObject_strict {fuel : ℕ} (ih : SkipStrict fuel) {depth : ℕ} {json r : List UInt8}
    (h : skipObject (fuel + 1) depth json = .ok r) {f opened : ℕ} {comma : Bool} (hf : json.length < f)
    (ht : tidy f opened comma json = true) : StrictUpTo json r ∧ GoesOn opened r := by
  rw [skipObject] at h
  split at h
  · cases h
  split at h
  · cases h
  rename_i j hopen
  obtain ⟨w, hw, rfl⟩ := eat_skipWs_text hopen
  obtain ⟨f', hf', ht'⟩ := tidy_wsOpen (Or.inl rfl) hw hf ht
  obtain ⟨⟨b, rfl, hb⟩, hgo⟩ := ih.members _ _ _ h _ _ _ hf' ht'
  refine ⟨⟨w, ascii '{' :: b ++ [ascii '}'], ?_⟩, hgo⟩
  rcases hb with ⟨-, hws⟩ | ⟨d, u, hd⟩
  · exact ⟨_, _, hw, .emptyObject hws, by simp⟩
  · exact ⟨_, _, hw, .object hd, by simp⟩

theorem skipArray_strict {fuel : ℕ} (ih : SkipStrict fuel) {depth : ℕ} {json r : List UInt8}
    (h : skipArray (fuel + 1) depth json = .ok r) {f opened : ℕ} {comma : Bool} (hf : json.length < f)
    (ht : tidy f opened comma json = true) : StrictUpTo json r ∧ GoesOn opened r := by
  rw [skipArray] at h
  split at h
  · cases h
  split at h
  · cases h
  rename_i j hopen
  obtain ⟨w, hw, rfl⟩ := eat_skipWs_text hopen
  obtain ⟨f', hf', ht'⟩ := tidy_wsOpen (Or.inr rfl) hw hf ht
  obtain ⟨⟨b, rfl, hb⟩, hgo⟩ := ih.elements _ _ _ h _ _ _ hf' ht'
  refine ⟨⟨w, ascii '[' :: b ++ [ascii ']'], ?_⟩, hgo⟩
  rcases hb with ⟨-, hws⟩ | ⟨d, u, hd⟩
  · exact ⟨_, _, hw, .emptyArray hws, by simp⟩
  · exact ⟨_, _, hw, .array hd, by simp⟩

theorem skipLiteral_strict {literal : String} (hl : utf8 literal ∈ [utf8 "true", utf8 "false", utf8 "null"])
    {json r : List UInt8} (h : skipLiteral literal json = .ok r) {f opened : ℕ} {comma : Bool} (hf : json.length < f)
    (ht : tidy f opened comma json = true) : StrictUpTo json r ∧ GoesOn opened r := by
  have hpassed : ∀ l ∈ [utf8 "true", utf8 "false", utf8 "null"], (∀ c ∈ l, isPassed c = true) ∧ l ≠ [] := by
    decide
  obtain ⟨hp, hne⟩ := hpassed _ hl
  obtain rfl := skipLiteral_text h
  obtain ⟨f', hf', heq⟩ := @tidy_passes opened r _ _ comma hp hne hf
  rw [heq] at ht
  exact ⟨⟨[], utf8 literal, 0, false, Ws.nil, .literal hl, rfl⟩, f', hf', ht⟩

/-- A string that is skipped as a value. -/
theorem skipString_strict {j r : List UInt8} (h : (parseString 0 (ascii '"' :: j)).2 = .ok r) {f opened : ℕ}
    {comma : Bool} (hf : (ascii '"' :: j).length < f) (ht : tidy f opened comma (ascii '"' :: j) = true) :
    StrictUpTo (ascii '"' :: j) r ∧ GoesOn opened r := by
  have hq : eat '"' (skipWs (ascii '"' :: j)) = some j := by
    rw [skipWs_of_not_ws (by decide), eat_self]
  rw [List.length_cons] at hf
  obtain ⟨f, rfl⟩ := Nat.exists_eq_add_of_le' (show 1 ≤ f by omega)
  rw [parseString, hq] at h
  rw [tidy_quote] at ht
  cases hstr : tidyString j with
  | none =>
    rw [hstr] at ht
    cases ht
  | some j' =>
    obtain ⟨rfl, k, hk, rfl⟩ := tidyString_sound h hstr
    rw [hstr] at ht
    simp only [List.length_append, List.length_cons] at hf
    exact ⟨⟨[], quoted k, 0, false, Ws.nil, .string hk, by simp [quoted]⟩, f, by omega, ht⟩

/-- A number that is skipped as a value. -/
theorem skipNumber_strict {b : UInt8} (hb : isDigit b = true ∨ b = ascii '-') {j r : List UInt8}
    (h : skipNumber (b :: j) = .ok r) {f opened : ℕ} {comma : Bool} (hf : (b :: j).length < f)
    (ht : tidy f opened comma (b :: j) = true) : StrictUpTo (b :: j) r ∧ GoesOn opened r := by
  have hr : r.length < j.length + 1 := by
    have hsettles := skipNumber_settles b j
    rw [h] at hsettles
    exact hsettles
  rw [List.length_cons] at hf
  obtain ⟨f, rfl⟩ := Nat.exists_eq_add_of_le' (show 1 ≤ f by omega)
  rw [tidy_number hb] at ht
  cases hnum : tidyNumber (b :: j) with
  | none =>
    rw [hnum] at ht
    cases ht
  | some j' =>
    obtain ⟨rfl, v, hv, heq⟩ := tidyNumber_sound h hnum
    rw [hnum] at ht
    exact ⟨⟨[], v, 0, false, Ws.nil, .number hv, heq⟩, f, by omega, ht⟩

theorem skipValue_strict {fuel : ℕ} (ih : SkipStrict fuel) {depth : ℕ} {json r : List UInt8}
    (h : skipValue (fuel + 1) depth json = .ok r) {f opened : ℕ} {comma : Bool} (hf : json.length < f)
    (ht : tidy f opened comma json = true) : StrictUpTo json r ∧ GoesOn opened r := by
  obtain ⟨w, hw, heq⟩ := skipWs_text json
  have hrest : StrictUpTo (skipWs json) r ∧ GoesOn opened r := by
    rw [skipValue] at h
    rw [heq, tidy_ws hw] at ht
    have hlen := skipWs_length_le json
    cases hjson : skipWs json with
    | nil =>
      rw [hjson] at h
      cases h
    | cons b j =>
      rw [hjson] at h ht hlen
      simp only at h
      split_ifs at h with h1 h2 h3 h4 h5 h6 h7
      · exact ih.object _ _ _ h _ _ _ (by omega) ht
      · exact ih.array _ _ _ h _ _ _ (by omega) ht
      · subst h3
        exact skipString_strict h (by omega) ht
      · exact skipLiteral_strict (by decide) h (by omega) ht
      · exact skipLiteral_strict (by decide) h (by omega) ht
      · exact skipLiteral_strict (by decide) h (by omega) ht
      · exact skipNumber_strict (h7.symm.imp_left (isDigit_iff b).mpr) h (by omega) ht
      · cases h
  obtain ⟨⟨w', v, d, u, hw', hv, hjson⟩, hgo⟩ := hrest
  refine ⟨⟨w ++ w', v, d, u, hw.append hw', hv, ?_⟩, hgo⟩
  rw [List.append_assoc, ← hjson]
  exact heq

theorem skipStrict (fuel : ℕ) : SkipStrict fuel := by
  induction fuel with
  | zero =>
    constructor
    · intro depth json r h
      rw [skipValue] at h
      cases h
    · intro depth json r h
      rw [skipObject] at h
      cases h
    · intro depth json r h
      rw [skipArray] at h
      cases h
    · intro depth json r h
      rw [objectLoop.eq_def] at h
      cases h
    · intro depth json r h
      rw [arrayLoop.eq_def] at h
      cases h
  | succ fuel ih =>
    exact ⟨fun _ _ _ h _ _ _ => skipValue_strict ih h, fun _ _ _ h _ _ _ => skipObject_strict ih h,
      fun _ _ _ h _ _ _ => skipArray_strict ih h, fun _ _ _ h _ _ _ => objectLoop_strict ih h,
      fun _ _ _ h _ _ _ => arrayLoop_strict ih h⟩

/-! ### What is JSON is tidy -/

/-- The scan of a text with `b` in front goes on behind `b`, and behind the
closing bracket when `b` is the inside of a container. -/
def TidyOn (b : List UInt8) : Nt → Prop
  | .value => ∀ f opened comma rest, (b ++ rest).length < f → (Number b → skipNumber (b ++ rest) = .ok rest) →
      ∃ f', rest.length < f' ∧ tidy f opened comma (b ++ rest) = resume f' opened rest
  | .members => ∀ f opened comma rest, (b ++ ascii '}' :: rest).length < f →
      ∃ f', rest.length < f' ∧ tidy f (opened + 1) comma (b ++ ascii '}' :: rest) = resume f' opened rest
  | .elements => ∀ f opened comma rest, (b ++ ascii ']' :: rest).length < f →
      ∃ f', rest.length < f' ∧ tidy f (opened + 1) comma (b ++ ascii ']' :: rest) = resume f' opened rest

/-- A value with a comma or a closing bracket behind it. -/
theorem TidyOn.before {v : List UInt8} (hv : TidyOn v .value) {w : List UInt8} (hw : Ws w) {c : UInt8}
    (hc : isNumeric c = false) (rest : List UInt8) {f : ℕ} (opened : ℕ) (comma : Bool)
    (hf : (v ++ (w ++ c :: rest)).length < f) :
    ∃ f', (c :: rest).length < f' ∧
      tidy f (opened + 1) comma (v ++ (w ++ c :: rest)) = tidy f' (opened + 1) false (c :: rest) := by
  have hnum : Number v → skipNumber (v ++ (w ++ c :: rest)) = .ok (w ++ c :: rest) := fun ⟨n, hn⟩ => by
    rw [hn]
    exact skipNumber_ok n (follows_ws hw hc rest)
  obtain ⟨f', hf', heq⟩ := hv f (opened + 1) comma _ hf hnum
  rw [List.length_append] at hf'
  rw [resume_pos (Nat.succ_ne_zero opened), tidy_ws hw] at heq
  exact ⟨f', by omega, heq⟩

/-- A member up to its value. -/
theorem tidy_memberHead {w1 k w2 w3 : List UInt8} {u : Bool} (h1 : Ws w1) (hk : Chars k u) (h2 : Ws w2)
    (h3 : Ws w3) (f opened : ℕ) (comma : Bool) (rest : List UInt8) :
    tidy (f + 2) (opened + 1) comma (w1 ++ quoted k ++ w2 ++ [ascii ':'] ++ w3 ++ rest) =
      tidy f (opened + 1) false rest := by
  have he : w1 ++ quoted k ++ w2 ++ [ascii ':'] ++ w3 ++ rest =
      w1 ++ (ascii '"' :: (k ++ ascii '"' :: (w2 ++ ascii ':' :: (w3 ++ rest)))) := by simp [quoted]
  rw [he, tidy_ws h1, tidy_quote, tidyString_chars hk, Option.map_some, Option.getD_some,
    resume_pos (Nat.succ_ne_zero opened), tidy_ws h2, tidy_colon, tidy_ws h3]

theorem derives_tidy {nt : Nt} {b : List UInt8} {d : ℕ} {u : Bool} (h : Derives nt b d u) : TidyOn b nt := by
  induction h with
  | @literal b hb =>
    intro f opened comma rest hf _
    have hpassed : ∀ l ∈ [utf8 "true", utf8 "false", utf8 "null"], (∀ c ∈ l, isPassed c = true) ∧ l ≠ [] := by
      decide
    exact tidy_passes (hpassed b hb).1 (hpassed b hb).2 hf
  | @number b hn =>
    intro f opened comma rest hf hskip
    have htidy := tidyNumber_complete hn (hskip hn)
    obtain ⟨n, rfl⟩ := hn
    obtain ⟨c, t, ht, hc⟩ := number_cons n
    rw [ht] at htidy hf ⊢
    simp only [List.cons_append, List.length_cons, List.length_append] at hf htidy ⊢
    obtain ⟨f, rfl⟩ := Nat.exists_eq_add_of_le' (show 1 ≤ f by omega)
    rw [tidy_number hc, htidy, Option.map_some, Option.getD_some]
    exact ⟨f, by omega, rfl⟩
  | @string b u hb =>
    intro f opened comma rest hf _
    rw [quoted_append] at hf ⊢
    simp only [List.length_append, List.length_cons] at hf
    obtain ⟨f, rfl⟩ := Nat.exists_eq_add_of_le' (show 1 ≤ f by omega)
    rw [tidy_quote, tidyString_chars hb, Option.map_some, Option.getD_some]
    exact ⟨f, by omega, rfl⟩
  | @emptyObject w hw =>
    intro f opened comma rest hf _
    simp only [List.length_append, List.length_cons] at hf
    obtain ⟨f, rfl⟩ := Nat.exists_eq_add_of_le' (show 2 ≤ f by omega)
    have he : ascii '{' :: w ++ [ascii '}'] ++ rest = ascii '{' :: (w ++ ascii '}' :: rest) := by simp
    rw [he, tidy_open (Or.inl rfl), tidy_ws hw, tidy_close (Or.inl rfl)]
    exact ⟨f, by omega, rfl⟩
  | @object b d u _ ih =>
    intro f opened comma rest hf _
    simp only [List.length_append, List.length_cons, List.length_nil] at hf
    obtain ⟨f, rfl⟩ := Nat.exists_eq_add_of_le' (show 1 ≤ f by omega)
    have he : ascii '{' :: b ++ [ascii '}'] ++ rest = ascii '{' :: (b ++ ascii '}' :: rest) := by simp
    rw [he, tidy_open (Or.inl rfl)]
    exact ih f opened false rest (by simp only [List.length_append, List.length_cons]; omega)
  | @emptyArray w hw =>
    intro f opened comma rest hf _
    simp only [List.length_append, List.length_cons] at hf
    obtain ⟨f, rfl⟩ := Nat.exists_eq_add_of_le' (show 2 ≤ f by omega)
    have he : ascii '[' :: w ++ [ascii ']'] ++ rest = ascii '[' :: (w ++ ascii ']' :: rest) := by simp
    rw [he, tidy_open (Or.inr rfl), tidy_ws hw, tidy_close (Or.inr rfl)]
    exact ⟨f, by omega, rfl⟩
  | @array b d u _ ih =>
    intro f opened comma rest hf _
    simp only [List.length_append, List.length_cons, List.length_nil] at hf
    obtain ⟨f, rfl⟩ := Nat.exists_eq_add_of_le' (show 1 ≤ f by omega)
    have he : ascii '[' :: b ++ [ascii ']'] ++ rest = ascii '[' :: (b ++ ascii ']' :: rest) := by simp
    rw [he, tidy_open (Or.inr rfl)]
    exact ih f opened false rest (by simp only [List.length_append, List.length_cons]; omega)
  | @member w1 k w2 w3 v w4 d u u' h1 hk h2 h3 _ h4 ih =>
    intro f opened comma rest hf
    simp only [List.length_append, List.length_cons, quoted, List.length_nil] at hf
    obtain ⟨f, rfl⟩ := Nat.exists_eq_add_of_le' (show 2 ≤ f by omega)
    rw [List.append_assoc, List.append_assoc _ v, tidy_memberHead h1 hk h2 h3]
    obtain ⟨f', hf', heq⟩ := TidyOn.before ih h4 (by decide) rest opened false
      (show (v ++ (w4 ++ ascii '}' :: rest)).length < f by simp only [List.length_append, List.length_cons]; omega)
    rw [List.length_cons] at hf'
    obtain ⟨f', rfl⟩ := Nat.exists_eq_add_of_le' (show 1 ≤ f' by omega)
    rw [heq, tidy_close (Or.inl rfl)]
    exact ⟨f', by omega, rfl⟩
  | @members w1 k w2 w3 v w4 b d d' u u' u'' h1 hk h2 h3 _ h4 _ ih ih' =>
    intro f opened comma rest hf
    simp only [List.length_append, List.length_cons, quoted, List.length_nil] at hf
    obtain ⟨f, rfl⟩ := Nat.exists_eq_add_of_le' (show 2 ≤ f by omega)
    have he : w1 ++ quoted k ++ w2 ++ [ascii ':'] ++ w3 ++ v ++ w4 ++ ascii ',' :: b ++ ascii '}' :: rest =
        w1 ++ quoted k ++ w2 ++ [ascii ':'] ++ w3 ++ (v ++ (w4 ++ ascii ',' :: (b ++ ascii '}' :: rest))) := by simp
    rw [he, tidy_memberHead h1 hk h2 h3]
    obtain ⟨f', hf', heq⟩ := TidyOn.before ih h4 (by decide) (b ++ ascii '}' :: rest) opened false
      (show (v ++ (w4 ++ ascii ',' :: (b ++ ascii '}' :: rest))).length < f by
        simp only [List.length_append, List.length_cons]; omega)
    rw [List.length_cons] at hf'
    obtain ⟨f', rfl⟩ := Nat.exists_eq_add_of_le' (show 1 ≤ f' by omega)
    rw [heq, tidy_comma]
    exact ih' f' opened true rest (by omega)
  | @element w1 v w2 d u h1 _ h2 ih =>
    intro f opened comma rest hf
    rw [List.append_assoc, List.append_assoc] at hf ⊢
    rw [List.length_append] at hf
    rw [tidy_ws h1]
    obtain ⟨f', hf', heq⟩ := TidyOn.before ih h2 (by decide) rest opened comma
      (show (v ++ (w2 ++ ascii ']' :: rest)).length < f by omega)
    rw [List.length_cons] at hf'
    obtain ⟨f', rfl⟩ := Nat.exists_eq_add_of_le' (show 1 ≤ f' by omega)
    rw [heq, tidy_close (Or.inr rfl)]
    exact ⟨f', by omega, rfl⟩
  | @elements w1 v w2 b d d' u u' h1 _ h2 _ ih ih' =>
    intro f opened comma rest hf
    have he : w1 ++ v ++ w2 ++ ascii ',' :: b ++ ascii ']' :: rest =
        w1 ++ (v ++ (w2 ++ ascii ',' :: (b ++ ascii ']' :: rest))) := by simp
    rw [he, List.length_append] at hf
    rw [he, tidy_ws h1]
    obtain ⟨f', hf', heq⟩ := TidyOn.before ih h2 (by decide) (b ++ ascii ']' :: rest) opened comma
      (show (v ++ (w2 ++ ascii ',' :: (b ++ ascii ']' :: rest))).length < f by omega)
    rw [List.length_cons] at hf'
    obtain ⟨f', rfl⟩ := Nat.exists_eq_add_of_le' (show 1 ≤ f' by omega)
    rw [heq, tidy_comma]
    exact ih' f' opened true rest (by omega)

/-! ### The values that are skipped -/

theorem tidy_of_strict {fuel depth : ℕ} {json rest : List UInt8} (h : skipValue fuel depth json = .ok rest)
    (hstrict : StrictUpTo json rest) : Tidy json := by
  obtain ⟨w, v, d, u, hw, hv, rfl⟩ := hstrict
  have hnum : Number v → skipNumber (v ++ rest) = .ok rest := by
    rintro ⟨n, rfl⟩
    obtain ⟨c, t, ht, hc⟩ := number_cons n
    rw [skipValue_ws hw, ht] at h
    rw [ht]
    cases fuel with
    | zero =>
      rw [skipValue] at h
      cases h
    | succ fuel =>
      rw [List.cons_append, skipValue_number hc] at h
      exact h
  obtain ⟨f, -, heq⟩ := derives_tidy hv ((w ++ (v ++ rest)).length + 1) 0 false rest
    (by simp only [List.length_append]; omega) hnum
  rw [Tidy, tidy_ws hw, heq]
  rfl

theorem strict_iff_tidy {fuel depth : ℕ} {json rest : List UInt8} (h : skipValue fuel depth json = .ok rest) :
    StrictUpTo json rest ↔ Tidy json :=
  ⟨tidy_of_strict h, fun ht => ((skipStrict fuel).value depth json rest h _ 0 false (Nat.lt_succ_self _) ht).1⟩

/-- Whitespace and one value of RFC 8259. -/
def StrictValue (b : List UInt8) : Prop := ∃ w v d u, Ws w ∧ Derives .value v d u ∧ b = w ++ v

theorem strictValue_iff {b rest : List UInt8} : StrictValue b ↔ StrictUpTo (b ++ rest) rest := by
  constructor
  · rintro ⟨w, v, d, u, hw, hv, rfl⟩
    exact ⟨w, v, d, u, hw, hv, List.append_assoc w v rest⟩
  · rintro ⟨w, v, d, u, hw, hv, heq⟩
    rw [← List.append_assoc] at heq
    exact ⟨w, v, d, u, hw, hv, List.append_cancel_right heq⟩

/-- What `skip_value` returns on memory is what the list function says, and
what it consumed stands between the two positions. -/
theorem skipValue_span {json : List UInt8} {depth p q : ℕ}
    (h : InMemory.skipValue json (maxNesting + 2) depth p = .ok (.ok q)) :
    skipValue (skipFuel (json.drop p)) depth (json.drop p) = .ok (json.drop q) ∧
      json.drop p = (json.drop p).take (q - p) ++ json.drop q := by
  have hp : p ≤ json.length := by
    by_contra hp
    have hws : InMemory.skipWs json p = .error .cursor := by
      have hlt : ¬ p < json.length := by omega
      have hle : ¬ (p ≤ p ∧ p ≤ json.length) := by omega
      rw [InMemory.skipWs, InMemory.skipWsLoop, if_neg hlt]
      exact if_neg hle
    rw [InMemory.skipValue, hws] at h
    cases h
  have hat : Checked.At json p (json.drop p) := ⟨hp, rfl⟩
  obtain ⟨st, hst, htracks⟩ := InMemory.skipValue_tracks (maxNesting + 2) (skipFuel (json.drop p)) depth hat le_rfl
    (by omega) (by decide)
  rw [h, Except.ok.injEq] at hst
  subst hst
  rcases htracks.cases with ⟨rest, q', hl, hq, hle, hat'⟩ | ⟨e, -, he⟩
  · cases hq
    rw [hl, hat'.drop]
    refine ⟨rfl, ?_⟩
    exact hat.append_drop hat' hle
  · cases he

/-- Values that are skipped and are none: a comma in front of the closing
bracket, a superfluous zero, a missing digit, a control character. -/
theorem skipValue_skips_slips :
    List.Forall
      (fun text => InMemory.skipValue text (maxNesting + 2) 1 0 = .ok (.ok text.length) ∧ ¬ StrictValue text)
      [utf8 "[1,]", utf8 "\x7b\"a\":1,\x7d", utf8 "01", utf8 "1.", utf8 "1e+", utf8 "\"\x01\""] := by
  have hslips : ∀ text ∈ [utf8 "[1,]", utf8 "\x7b\"a\":1,\x7d", utf8 "01", utf8 "1.", utf8 "1e+",
      utf8 "\"\x01\""],
      InMemory.skipValue text (maxNesting + 2) 1 0 = .ok (.ok text.length) ∧ ¬ Tidy text := by
    decide +kernel
  rw [List.forall_iff_forall_mem]
  intro text htext
  obtain ⟨hskip, htidy⟩ := hslips text htext
  have hspan := (skipValue_span hskip).1
  rw [List.drop_zero, List.drop_length] at hspan
  refine ⟨hskip, fun hstrict => htidy (tidy_of_strict hspan ?_)⟩
  have hup := (@strictValue_iff text []).mp hstrict
  rwa [List.append_nil] at hup

/-- **Strict JSON.** Whenever `skip_value` succeeds, whatever the text, the
position and the depth, what it skipped is whitespace and one value of
RFC 8259 exactly when the text from the position to the end of that value has
no control character in a string, no number with a superfluous leading zero or
a missing digit, and no comma in front of a closing bracket. -/
theorem skipValue_strict_iff (json : List UInt8) (depth p q : ℕ)
    (h : InMemory.skipValue json (maxNesting + 2) depth p = .ok (.ok q)) :
    StrictValue ((json.drop p).take (q - p)) ↔ Tidy (json.drop p) := by
  obtain ⟨hskip, hspan⟩ := skipValue_span h
  have hiff := @strictValue_iff ((json.drop p).take (q - p)) (json.drop q)
  rw [← hspan] at hiff
  rw [hiff]
  exact strict_iff_tidy hskip

theorem skipValue_strict_array : StrictValue (((utf8 ": [1, -2.5e3],").drop 1).take (13 - 1)) :=
  (skipValue_strict_iff (utf8 ": [1, -2.5e3],") 1 1 13 (by decide +kernel)).mpr (by decide +kernel)

end JsonProto
end Dpdkd
end Pktlab
