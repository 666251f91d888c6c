/-
# Strings, numbers and literals of the grammar under the scanners

What the scanners that do not recurse do on the texts of RFC 8259: on a
complete token they stop exactly at its end (`stringLoop_ok`,
`skipNumber_ok`), or they fail for a reason that can be read off the token
(`stringLoop_only`: a `\u` escape, or more bytes than the buffer holds); on a
token that is cut off they do not succeed (`stringLoop_cut`), except for a
number, whose rest then holds nothing that could close a container
(`skipNumber_cut`).
-/
import Pktlab.Dpdkd.JsonBounds
import Pktlab.Lib.Outline

namespace Pktlab
namespace Dpdkd
namespace JsonProto

open Utf8 Rfc8259 Outline

/-! ### Whitespace and single characters -/

theorem skipWs_of_not_ws {b : UInt8} (h : isWs b = false) (json : List UInt8) :
    skipWs (b :: json) = b :: json := by
  simp only [isWs, Bool.or_eq_false_iff, decide_eq_false_iff_not] at h
  obtain ⟨⟨⟨h1, h2⟩, h3⟩, h4⟩ := h
  simp [skipWs, h1, h2, h3, h4]

theorem skipWs_cons_ws {b : UInt8} (h : isWs b = true) (json : List UInt8) :
    skipWs (b :: json) = skipWs json := by
  simp only [isWs, Bool.or_eq_true, decide_eq_true_eq] at h
  have hn : ¬ (b ≠ ascii ' ' ∧ b ≠ ascii '\n' ∧ b ≠ ascii '\r' ∧ b ≠ ascii '\t') := by
    rintro ⟨h1, h2, h3, h4⟩
    rcases h with ((h | h) | h) | h
    · exact h1 h
    · exact h2 h
    · exact h3 h
    · exact h4 h
  rw [skipWs, if_neg hn]

theorem skipWs_ws_append : ∀ {w : List UInt8}, Ws w → ∀ json, skipWs (w ++ json) = skipWs json
  | [], _, _ => rfl
  | b :: w, h, json => by
    rw [List.cons_append, skipWs_cons_ws (h b List.mem_cons_self)]
    exact skipWs_ws_append (fun c hc => h c (List.mem_cons_of_mem _ hc)) json

theorem skipWs_ws {w : List UInt8} (h : Ws w) : skipWs w = [] := by
  have := skipWs_ws_append h []
  rwa [List.append_nil] at this

theorem skipWs_skipWs : ∀ json : List UInt8, skipWs (skipWs json) = skipWs json
  | [] => rfl
  | b :: json => by
    cases h : isWs b with
    | true => rw [skipWs_cons_ws h, skipWs_skipWs json]
    | false => rw [skipWs_of_not_ws h, skipWs_of_not_ws h]

@[simp] theorem eat_nil (c : Char) : eat c [] = none := rfl

@[simp] theorem eat_self (c : Char) (json : List UInt8) : eat c (ascii c :: json) = some json := by
  simp [eat]

theorem eat_ne {c : Char} {b : UInt8} (h : b ≠ ascii c) (json : List UInt8) :
    eat c (b :: json) = none := by
  simp [eat, h]

/-- A structural character after whitespace is found. -/
theorem eat_after_ws {c : Char} (hc : isWs (ascii c) = false) {w : List UInt8} (hw : Ws w)
    (json : List UInt8) : eat c (skipWs (w ++ ascii c :: json)) = some json := by
  rw [skipWs_ws_append hw, skipWs_of_not_ws hc, eat_self]

/-- A prefix of two texts one after the other ends inside the first or goes
into the second. -/
theorem prefix_append_cases {p a b : List UInt8} (h : p <+: a ++ b) :
    (p <+: a ∧ p.length < a.length) ∨ ∃ q, p = a ++ q ∧ q <+: b := by
  rcases Nat.lt_or_ge p.length a.length with hl | hl
  · exact Or.inl ⟨List.prefix_of_prefix_length_le h (List.prefix_append a b) hl.le, hl⟩
  · have ha := List.prefix_of_prefix_length_le (List.prefix_append a b) h hl
    obtain ⟨q, rfl⟩ := ha
    exact Or.inr ⟨q, rfl, (List.prefix_append_right_inj a).mp h⟩

/-! ### Strings -/

@[simp] theorem stringLoop_quote (cap : ℕ) (json out : List UInt8) :
    stringLoop cap (ascii '"' :: json) out = (out, .ok json) := by
  rw [stringLoop.eq_def]
  simp only [↓reduceIte]

theorem stringLoop_raw {ch : UInt8} (hq : ch ≠ ascii '"') (hb : ch ≠ ascii '\\') (cap : ℕ) (json out : List UInt8) :
    stringLoop cap (ch :: json) out =
      if full cap out then (out, reject "JSON string exceeds the allowed size")
      else stringLoop cap json (store cap out ch) := by
  rw [stringLoop.eq_def]
  simp only [hq, hb, ↓reduceIte]

theorem stringLoop_plain {ch : UInt8} (h : isPlain ch = true) (cap : ℕ) (json out : List UInt8) :
    stringLoop cap (ch :: json) out =
      if full cap out then (out, reject "JSON string exceeds the allowed size")
      else stringLoop cap json (store cap out ch) :=
  stringLoop_raw (isPlain_not_quote h) (isPlain_not_backslash h) cap json out

theorem escaped_eq (b : UInt8) : escaped b = unescape b := rfl

theorem stringLoop_esc {e x : UInt8} (h : unescape e = some x) (cap : ℕ) (json out : List UInt8) :
    stringLoop cap (ascii '\\' :: e :: json) out =
      if full cap out then (out, reject "JSON string exceeds the allowed size")
      else stringLoop cap json (store cap out x) := by
  have hq : ascii '\\' ≠ ascii '"' := by decide
  rw [stringLoop, if_neg hq, if_pos rfl]
  simp only [escaped_eq, h]

theorem stringLoop_uni (cap : ℕ) (json out : List UInt8) :
    stringLoop cap (ascii '\\' :: ascii 'u' :: json) out =
      (out, reject "unsupported JSON escape sequence") := by
  have hq : ascii '\\' ≠ ascii '"' := by decide
  rw [stringLoop, if_neg hq, if_pos rfl]
  simp only [escaped_eq, unescape_u]

/-- There is room for a byte and the terminator. -/
theorem full_eq_false {cap : ℕ} {out : List UInt8} (h : 0 < cap → out.length + 1 < cap) : full cap out = false := by
  simp only [full, Bool.and_eq_false_iff, decide_eq_false_iff_not]
  omega

theorem store_length {cap : ℕ} (h : 0 < cap) (out : List UInt8) (ch : UInt8) :
    (store cap out ch).length = out.length + 1 := by
  simp [store, h]

/-- What a plain or escaped byte adds to the output of a string. -/
theorem store_append {cap : ℕ} (h : 0 < cap) (out s : List UInt8) (ch : UInt8) :
    store cap out ch ++ s = out ++ ch :: s := by
  simp [store, h]

/-- A byte for which there is room, and what follows it. -/
theorem stringLoop_stored {cap : ℕ} {json rest out s : List UInt8} {ch : UInt8}
    (hl : 0 < cap → out.length + (ch :: s).length < cap)
    (hlater : ∀ {out : List UInt8}, (0 < cap → out.length + s.length < cap) →
      stringLoop cap json out = (if 0 < cap then out ++ s else out, .ok rest)) :
    (if full cap out then (out, reject "JSON string exceeds the allowed size")
      else stringLoop cap json (store cap out ch)) = (if 0 < cap then out ++ ch :: s else out, .ok rest) := by
  rw [List.length_cons] at hl
  rw [full_eq_false (by omega), if_neg Bool.false_ne_true]
  by_cases hcap : 0 < cap
  · rw [hlater fun _ => by rw [store_length hcap]; omega, if_pos hcap, if_pos hcap, store_append hcap]
  · rw [hlater fun h => absurd h hcap, if_neg hcap, if_neg hcap, store, if_neg hcap]

/-- The text of a string that the buffer can hold is decoded into it, and the
scan stops after the closing quote. -/
theorem stringLoop_unquotes {cap : ℕ} {k s : List UInt8} (h : Unquotes k s) (rest : List UInt8) :
    ∀ {out : List UInt8}, (0 < cap → out.length + s.length < cap) →
      stringLoop cap (k ++ ascii '"' :: rest) out = (if 0 < cap then out ++ s else out, .ok rest) := by
  induction h with
  | nil =>
    intro out _
    simp
  | plain hq hb _ ih =>
    intro out hl
    rw [List.cons_append, stringLoop_raw hq hb]
    exact stringLoop_stored hl ih
  | esc he _ ih =>
    intro out hl
    rw [List.cons_append, List.cons_append, stringLoop_esc he]
    exact stringLoop_stored hl ih

theorem unquotes_of_decodes {b : List UInt8} {u : Bool} (h : Chars b u) (hu : u = false) :
    ∀ {s : List UInt8}, Decodes b s → Unquotes b s := by
  induction h with
  | nil =>
    intro s hs
    cases hs
    exact .nil
  | plain hc _ ih =>
    intro s hs
    obtain ⟨s', rfl, hs'⟩ := decodes_plain_inv hc hs
    exact .plain (isPlain_not_quote hc) (isPlain_not_backslash hc) (ih hu hs')
  | esc he _ ih =>
    intro s hs
    obtain ⟨s', rfl, hs'⟩ := decodes_esc_inv he hs
    exact .esc he (ih hu hs')
  | uni => simp at hu

/-- A complete string of the grammar without `\u` escapes is decoded. -/
theorem stringLoop_ok {b : List UInt8} {u : Bool} (h : Chars b u) (hu : u = false) (cap : ℕ)
    (rest : List UInt8) {s : List UInt8} (hs : Decodes b s) (out : List UInt8)
    (hl : 0 < cap → out.length + s.length < cap) :
    stringLoop cap (b ++ ascii '"' :: rest) out = (if 0 < cap then out ++ s else out, .ok rest) :=
  stringLoop_unquotes (unquotes_of_decodes h hu hs) rest hl

/-- A byte that was stored, and what was stored behind it. -/
theorem stored_before {cap : ℕ} {out o s : List UInt8} {ch : UInt8} (hroom : ¬ full cap out = true)
    (h : 0 < cap → o = store cap out ch ++ s ∧
      ((store cap out ch).length < cap → (store cap out ch).length + s.length < cap)) :
    0 < cap → o = out ++ ch :: s ∧ (out.length < cap → out.length + (ch :: s).length < cap) := by
  intro hcap
  obtain ⟨ho, hlen⟩ := h hcap
  rw [store_append hcap] at ho
  rw [store_length hcap] at hlen
  simp only [full, hcap, decide_true, Bool.true_and, decide_eq_true_eq, not_le] at hroom
  refine ⟨ho, fun _ => ?_⟩
  have := hlen hroom
  rw [List.length_cons]
  omega

/-- If the scan of a complete string succeeds, it stopped after the closing
quote, there is no `\u` escape, and the decoded string fits the buffer. -/
theorem stringLoop_only {b : List UInt8} {u : Bool} (h : Chars b u) (cap : ℕ) (rest : List UInt8) :
    ∀ {out o r : List UInt8}, stringLoop cap (b ++ ascii '"' :: rest) out = (o, .ok r) →
      r = rest ∧ u = false ∧ ∃ s, Decodes b s ∧
        (0 < cap → o = out ++ s ∧ (out.length < cap → out.length + s.length < cap)) := by
  induction h with
  | nil =>
    intro out o r hr
    simp only [List.nil_append, stringLoop_quote, Prod.mk.injEq, Except.ok.injEq] at hr
    obtain ⟨rfl, rfl⟩ := hr
    exact ⟨rfl, rfl, [], .nil, fun _ => ⟨by simp, fun h => by simpa using h⟩⟩
  | @plain c b u hc _ ih =>
    intro out o r hr
    rw [List.cons_append, stringLoop_plain hc] at hr
    split at hr
    · simp [reject] at hr
    · rename_i hnf
      obtain ⟨h1, h2, s, hs, h3⟩ := ih hr
      exact ⟨h1, h2, c :: s, .plain hc hs, stored_before hnf h3⟩
  | @esc e x b u he _ ih =>
    intro out o r hr
    rw [List.cons_append, List.cons_append, stringLoop_esc he] at hr
    split at hr
    · simp [reject] at hr
    · rename_i hnf
      obtain ⟨h1, h2, s, hs, h3⟩ := ih hr
      exact ⟨h1, h2, x :: s, .esc he hs, stored_before hnf h3⟩
  | uni =>
    intro out o r hr
    rw [List.cons_append, List.cons_append, stringLoop_uni] at hr
    simp [reject] at hr

/-- A string that is cut off before its closing quote is not accepted. -/
theorem stringLoop_cut {b : List UInt8} {u : Bool} (h : Chars b u) (cap : ℕ) :
    ∀ {p : List UInt8}, p <+: b → ∀ out r, (stringLoop cap p out).2 ≠ .ok r := by
  induction h with
  | nil =>
    intro p hp out r
    rw [List.prefix_nil.mp hp]
    simp [stringLoop, reject]
  | @plain c b u hc _ ih =>
    intro p hp out r
    rcases List.prefix_cons_iff.mp hp with rfl | ⟨q, rfl, hq⟩
    · simp [stringLoop, reject]
    · rw [stringLoop_plain hc]
      split
      · simp [reject]
      · exact ih hq _ r
  | @esc e x b u he _ ih =>
    intro p hp out r
    rcases List.prefix_cons_iff.mp hp with rfl | ⟨q, rfl, hq⟩
    · simp [stringLoop, reject]
    rcases List.prefix_cons_iff.mp hq with rfl | ⟨q', rfl, hq'⟩
    · have hne : ascii '\\' ≠ ascii '"' := by decide
      simp [stringLoop, hne, reject]
    · rw [stringLoop_esc he]
      split
      · simp [reject]
      · exact ih hq' _ r
  | uni =>
    intro p hp out r
    rcases List.prefix_cons_iff.mp hp with rfl | ⟨q, rfl, hq⟩
    · simp [stringLoop, reject]
    rcases List.prefix_cons_iff.mp hq with rfl | ⟨q', rfl, -⟩
    · have hne : ascii '\\' ≠ ascii '"' := by decide
      simp [stringLoop, hne, reject]
    · rw [stringLoop_uni]
      simp [reject]

/-- `parseString` on whitespace and an opening quote. -/
theorem parseString_quote {w : List UInt8} (hw : Ws w) (cap : ℕ) (json : List UInt8) :
    parseString cap (w ++ ascii '"' :: json) = stringLoop cap json [] := by
  rw [parseString, eat_after_ws (by decide) hw]

theorem quoted_append (b rest : List UInt8) :
    quoted b ++ rest = ascii '"' :: (b ++ ascii '"' :: rest) := by
  simp [quoted]

/-- A string that is cut off before its closing quote, whitespace before it. -/
theorem parseString_cut {w b p : List UInt8} {u : Bool} (hw : Ws w) (h : Chars b u)
    (hp : p <+: quoted b) (hlt : p.length < (quoted b).length) (cap : ℕ) (r : List UInt8) :
    (parseString cap (w ++ p)).2 ≠ .ok r := by
  rcases List.prefix_cons_iff.mp (show p <+: ascii '"' :: (b ++ [ascii '"']) from hp) with rfl | ⟨q, rfl, hq⟩
  · rw [List.append_nil, parseString, skipWs_ws hw]
    simp [reject]
  · rw [parseString_quote hw]
    refine stringLoop_cut h cap ?_ [] r
    refine List.prefix_of_prefix_length_le hq (List.prefix_append b _) ?_
    simp only [quoted, List.length_cons, List.length_append, List.length_nil] at hlt
    omega

/-! ### Numbers -/

/-- The bytes that occur in numbers. -/
def isNumeric (c : UInt8) : Bool :=
  isDigit c || c = ascii '+' || c = ascii '-' || c = ascii '.' || c = ascii 'e' || c = ascii 'E'

/-- Nothing here can end a number early: the text is empty or starts with a
byte that no number contains. -/
def Follows (rest : List UInt8) : Prop := ∀ c ∈ rest.head?, isNumeric c = false

theorem isDigit_iff (c : UInt8) : isDigit c = true ↔ ascii '0' ≤ c ∧ c ≤ ascii '9' := by
  simp [isDigit]

theorem skipDigits_append : ∀ {ds : List UInt8}, (∀ c ∈ ds, isDigit c = true) → ∀ rest,
    skipDigits (ds ++ rest) = skipDigits rest
  | [], _, _ => rfl
  | c :: ds, h, rest => by
    rw [List.cons_append, skipDigits, if_pos ((isDigit_iff c).mp (h c List.mem_cons_self))]
    exact skipDigits_append (fun d hd => h d (List.mem_cons_of_mem _ hd)) rest

theorem skipDigits_stop {rest : List UInt8} (h : ∀ c ∈ rest.head?, isDigit c = false) :
    skipDigits rest = rest := by
  cases rest with
  | nil => rfl
  | cons c rest =>
    have hc := h c rfl
    rw [skipDigits, if_neg]
    rw [← isDigit_iff, hc]
    simp

theorem Follows.not_digit {rest : List UInt8} (h : Follows rest) :
    ∀ c ∈ rest.head?, isDigit c = false := fun c hc => by
  have := h c hc
  simp only [isNumeric, Bool.or_eq_false_iff] at this
  exact this.1.1.1.1.1

theorem Follows.eat_none {rest : List UInt8} (h : Follows rest) {c : Char}
    (hc : isNumeric (ascii c) = true) : eat c rest = none := by
  cases rest with
  | nil => rfl
  | cons b rest =>
    refine eat_ne ?_ rest
    rintro rfl
    rw [h _ rfl] at hc
    cases hc

/-- The sign of an exponent is passed over, if it is there. -/
theorem eat_sign {sign ds : List UInt8} (hs : sign = [] ∨ sign = [ascii '+'] ∨ sign = [ascii '-']) (hds : Digits ds)
    (rest : List UInt8) :
    ((eat '+' (sign ++ (ds ++ rest))).or (eat '-' (sign ++ (ds ++ rest)))).getD (sign ++ (ds ++ rest)) =
      ds ++ rest := by
  rcases hs with rfl | rfl | rfl
  · obtain ⟨d, ds', rfl⟩ := List.exists_cons_of_ne_nil hds.1
    have hd := hds.2 d List.mem_cons_self
    have h1 : d ≠ ascii '+' := by rintro rfl; exact absurd hd (by decide)
    have h2 : d ≠ ascii '-' := by rintro rfl; exact absurd hd (by decide)
    simp [eat_ne h1, eat_ne h2]
  · simp
  · have h1 : ascii '-' ≠ ascii '+' := by decide
    simp [eat_ne h1]

theorem eat_mark {e : UInt8} (he : e = ascii 'e' ∨ e = ascii 'E') (rest : List UInt8) :
    (eat 'e' (e :: rest)).or (eat 'E' (e :: rest)) = some rest := by
  rcases he with rfl | rfl
  · simp
  · have h1 : ascii 'E' ≠ ascii 'e' := by decide
    simp [eat_ne h1]

/-- The exponent of a number is read to its end. -/
theorem skipExponent_ok (n : NumberParts) {rest : List UInt8} (hr : Follows rest) :
    skipExponent (n.exp ++ rest) = rest := by
  rcases n.exp_ok with h | ⟨e, sign, ds, h, he, hs, hds⟩
  · rw [h, List.nil_append, skipExponent, hr.eat_none (by decide), hr.eat_none (by decide)]
    rfl
  · rw [h]
    simp only [List.cons_append, List.append_assoc, skipExponent, eat_mark he, eat_sign hs hds]
    rw [skipDigits_append hds.2, skipDigits_stop hr.not_digit]

/-- What follows the digits of a number starts with no digit. -/
theorem exp_head_not_digit (n : NumberParts) {rest : List UInt8} (hr : Follows rest) :
    ∀ c ∈ (n.exp ++ rest).head?, isDigit c = false ∧ c ≠ ascii '.' := by
  rcases n.exp_ok with h | ⟨e, sign, ds, h, he, -, -⟩
  · rw [h, List.nil_append]
    intro c hc
    refine ⟨hr.not_digit c hc, ?_⟩
    rintro rfl
    exact absurd (hr _ hc) (by decide)
  · rw [h]
    intro c hc
    have : c = e := by simpa using hc.symm
    subst this
    rcases he with rfl | rfl <;> decide

theorem skipFraction_ok (n : NumberParts) {rest : List UInt8} (hr : Follows rest) :
    skipFraction (n.frac ++ (n.exp ++ rest)) = n.exp ++ rest := by
  have hh := exp_head_not_digit n hr
  rcases n.frac_ok with h | ⟨ds, h, hds⟩
  · rw [h, List.nil_append, skipFraction]
    cases hx : n.exp ++ rest with
    | nil => rfl
    | cons c t =>
      rw [hx] at hh
      rw [eat_ne (hh c rfl).2]
  · rw [h, List.cons_append, skipFraction, eat_self]
    show skipDigits (ds ++ (n.exp ++ rest)) = _
    rw [skipDigits_append hds.2, skipDigits_stop fun c hc => (hh c hc).1]

theorem frac_head_not_digit (n : NumberParts) {rest : List UInt8} (hr : Follows rest) :
    ∀ c ∈ (n.frac ++ (n.exp ++ rest)).head?, isDigit c = false := by
  rcases n.frac_ok with h | ⟨ds, h, -⟩
  · rw [h, List.nil_append]
    exact fun c hc => (exp_head_not_digit n hr c hc).1
  · rw [h]
    intro c hc
    have : c = ascii '.' := by simpa using hc.symm
    subst this
    decide

theorem digits_int (n : NumberParts) : Digits n.int := by
  rcases n.int_ok with h | h
  · rw [h]
    exact ⟨by simp, fun c hc => by rw [List.mem_singleton] at hc; subst hc; decide⟩
  · exact h.1

/-- A complete number is read to its end. -/
theorem skipNumber_ok (n : NumberParts) {rest : List UInt8} (hr : Follows rest) :
    skipNumber (n.text ++ rest) = .ok rest := by
  obtain ⟨hne, hdig⟩ := digits_int n
  obtain ⟨d, ds, hint⟩ := List.exists_cons_of_ne_nil hne
  have hd : isDigit d = true := hdig d (by simp [hint])
  have hdm : d ≠ ascii '-' := by rintro rfl; exact absurd hd (by decide)
  have hafter : skipDigits (n.int ++ (n.frac ++ (n.exp ++ rest))) = n.frac ++ (n.exp ++ rest) := by
    rw [skipDigits_append hdig, skipDigits_stop (frac_head_not_digit n hr)]
  have hend : skipExponent (skipFraction (n.frac ++ (n.exp ++ rest))) = rest := by
    rw [skipFraction_ok n hr, skipExponent_ok n hr]
  rcases n.minus_ok with hm | hm
  · have htext : n.text ++ rest = d :: (ds ++ (n.frac ++ (n.exp ++ rest))) := by
      simp [NumberParts.text, hm, hint]
    rw [hint, List.cons_append] at hafter
    rw [htext, skipNumber]
    simp only [hdm, ↓reduceIte, and_false, or_false]
    rw [hafter, hend, if_neg]
    simp only [List.length_cons, List.length_append]
    omega
  · have htext : n.text ++ rest = ascii '-' :: (n.int ++ (n.frac ++ (n.exp ++ rest))) := by
      simp [NumberParts.text, hm]
    rw [htext, skipNumber]
    simp only [↓reduceIte, and_true]
    rw [hafter, hend, if_neg]
    simp only [hint, List.length_cons, List.length_append]
    omega

/-- What is before `rest` is made of numeric bytes. -/
def NumericUpTo (json rest : List UInt8) : Prop := ∃ v, json = v ++ rest ∧ ∀ c ∈ v, isNumeric c = true

theorem NumericUpTo.refl (json : List UInt8) : NumericUpTo json json := ⟨[], rfl, by simp⟩

theorem NumericUpTo.trans {a b c : List UInt8} (h : NumericUpTo a b) (h' : NumericUpTo b c) : NumericUpTo a c := by
  obtain ⟨v, rfl, hv⟩ := h
  obtain ⟨v', rfl, hv'⟩ := h'
  exact ⟨v ++ v', (List.append_assoc v v' c).symm, List.forall_mem_append.mpr ⟨hv, hv'⟩⟩

theorem NumericUpTo.cons {b : UInt8} (h : isNumeric b = true) (json : List UInt8) :
    NumericUpTo (b :: json) json := ⟨[b], rfl, by simpa using h⟩

theorem skipDigits_numeric : ∀ json : List UInt8, NumericUpTo json (skipDigits json)
  | [] => NumericUpTo.refl []
  | b :: json => by
    rw [skipDigits]
    split
    · rename_i hb
      have hnum : isNumeric b = true := by simp [isNumeric, (isDigit_iff b).mpr hb]
      exact (NumericUpTo.cons hnum json).trans (skipDigits_numeric json)
    · exact NumericUpTo.refl _

theorem eat_numeric {c : Char} (hc : isNumeric (ascii c) = true) {json rest : List UInt8}
    (h : eat c json = some rest) : NumericUpTo json rest := by
  rw [eat_eq_some] at h
  rw [h]
  exact NumericUpTo.cons hc rest

theorem eat_or_numeric {c d : Char} (hc : isNumeric (ascii c) = true) (hd : isNumeric (ascii d) = true)
    {json rest : List UInt8} (h : (eat c json).or (eat d json) = some rest) : NumericUpTo json rest := by
  rcases heat : eat c json with _ | r
  · rw [heat, Option.none_or] at h
    exact eat_numeric hd h
  · rw [heat, Option.some_or] at h
    exact (Option.some.inj h) ▸ eat_numeric hc heat

theorem skipFraction_numeric (json : List UInt8) : NumericUpTo json (skipFraction json) := by
  rw [skipFraction]
  split
  · rename_i rest h
    exact (eat_numeric (by decide) h).trans (skipDigits_numeric rest)
  · exact NumericUpTo.refl _

theorem skipExponent_numeric (json : List UInt8) : NumericUpTo json (skipExponent json) := by
  rw [skipExponent]
  split
  · rename_i rest h
    refine (eat_or_numeric (by decide) (by decide) h).trans (NumericUpTo.trans ?_ (skipDigits_numeric _))
    rcases hs : (eat '+' rest).or (eat '-' rest) with _ | r
    · exact NumericUpTo.refl _
    · exact eat_or_numeric (by decide) (by decide) hs
  · exact NumericUpTo.refl _

theorem skipNumber_numeric {json rest : List UInt8} (h : skipNumber json = .ok rest) : NumericUpTo json rest := by
  cases json with
  | nil => cases h
  | cons b json =>
    rw [skipNumber] at h
    generalize hs : (if b = ascii '-' then json else b :: json) = afterSign at h
    split at h
    · cases h
    · cases h
      refine NumericUpTo.trans ?_ ((skipDigits_numeric afterSign).trans
        ((skipFraction_numeric _).trans (skipExponent_numeric _)))
      rw [← hs]
      split
      · rename_i hb
        exact NumericUpTo.cons (by rw [hb]; decide) json
      · exact NumericUpTo.refl _

/-- A number is made of numeric bytes. -/
theorem number_numeric (n : NumberParts) : ∀ c ∈ n.text, isNumeric c = true := by
  have hdig : ∀ c, isDigit c = true → isNumeric c = true := fun c h => by simp [isNumeric, h]
  intro c hc
  simp only [NumberParts.text, List.mem_append] at hc
  rcases hc with ((hc | hc) | hc) | hc
  · rcases n.minus_ok with h | h
    · simp [h] at hc
    · rw [h, List.mem_singleton] at hc
      subst hc
      decide
  · exact hdig c ((digits_int n).2 c hc)
  · rcases n.frac_ok with h | ⟨ds, h, hds⟩
    · simp [h] at hc
    · rw [h] at hc
      rcases List.mem_cons.mp hc with rfl | hc
      · decide
      · exact hdig c (hds.2 c hc)
  · rcases n.exp_ok with h | ⟨e, sign, ds, h, he, hs, hds⟩
    · simp [h] at hc
    · rw [h] at hc
      simp only [List.cons_append, List.mem_cons, List.mem_append] at hc
      rcases hc with rfl | hc | hc
      · rcases he with rfl | rfl <;> decide
      · rcases hs with rfl | rfl | rfl
        · simp at hc
        · rw [List.mem_singleton] at hc; subst hc; decide
        · rw [List.mem_singleton] at hc; subst hc; decide
      · exact hdig c (hds.2 c hc)

/-- What is left of a number that is cut off holds no structural character. -/
theorem skipNumber_cut (n : NumberParts) {p r : List UInt8} (hp : p <+: n.text)
    (h : skipNumber p = .ok r) : ∀ c ∈ r, isNumeric c = true := fun c hc => by
  obtain ⟨v, rfl, -⟩ := skipNumber_numeric h
  exact number_numeric n c (hp.subset (List.mem_append_right v hc))

end JsonProto
end Dpdkd
end Pktlab
