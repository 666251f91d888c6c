/-
# The outline of a text with strings and brackets

Where the members of an object begin and end, read off a text without asking
whether it is well-formed: `outline` cuts it at the commas that stand outside
strings and inside no further bracket, up to the bracket that closes the
object or the end of the text. A string ends at the first quote that no
backslash precedes; between its quotes every byte may stand, control
characters and NUL as well, and `unquote` says which bytes it stands for.

`Passes m d v m' d'` says that the cutter goes over `v` without a cut, from
one of its states to another; it composes, so that what a parser consumed can
be followed piece by piece.

Key definitions: `outline`, `unquote`, `closing`, `entry`, `object`,
`stringValue`, `Passes`.
Key theorems: `Passes.append`, `passes_string`, `outline_comma`, `entry_eq`,
`stringValue_eq`.
-/
import Pktlab.Lib.Rfc8259

namespace Outline

open Utf8 Rfc8259

/-! ### Strings -/

/-- The bytes that the text between two quotes stands for. A `\u` escape is
not decoded. -/
def unquote : List UInt8 → Option (List UInt8)
  | [] => some []
  | c :: b =>
    if c = ascii '"' then none
    else if c = ascii '\\' then
      match b with
      | [] => none
      | e :: b' => (unescape e).bind fun x => (unquote b').map (x :: ·)
    else (unquote b).map (c :: ·)

/-- The text up to the closing quote, and what follows the quote. -/
def closing : List UInt8 → Option (List UInt8 × List UInt8)
  | [] => none
  | c :: b =>
    if c = ascii '"' then some ([], b)
    else if c = ascii '\\' then
      match b with
      | [] => none
      | e :: b' => (closing b').map fun p => (c :: e :: p.1, p.2)
    else (closing b).map fun p => (c :: p.1, p.2)

/-- The bytes that the text of a string stands for, up to its closing quote,
to the first escape that `unquote` does not decode, or to the end. -/
def stem : List UInt8 → List UInt8
  | [] => []
  | c :: b =>
    if c = ascii '"' then []
    else if c = ascii '\\' then
      match b with
      | [] => []
      | e :: b' =>
        match unescape e with
        | none => []
        | some x => x :: stem b'
    else c :: stem b

/-- What follows the character `c`, which stands first after whitespace. -/
def after (c : Char) (b : List UInt8) : Option (List UInt8) :=
  match b.dropWhile isWs with
  | [] => none
  | x :: rest => if x = ascii c then some rest else none

/-- The text between the quotes of a string that stands first, and what
follows it. -/
def stringAt (b : List UInt8) : Option (List UInt8 × List UInt8) := (after '"' b).bind closing

/-! ### Members -/

/-- Outside strings, in a string, and right after a backslash in a string. -/
inductive Mode
  | text
  | string
  | escape

def isOpen (c : UInt8) : Bool := c = ascii '{' || c = ascii '['

def isClose (c : UInt8) : Bool := c = ascii '}' || c = ascii ']'

/-- Put bytes in front of the first piece. -/
def prepend (v : List UInt8) : List (List UInt8 × List UInt8) → List (List UInt8 × List UInt8)
  | [] => []
  | p :: ps => (v ++ p.1, p.2) :: ps

/-- The pieces between the commas that no bracket and no string encloses, each
with the text that follows it. -/
def outline : Mode → ℕ → List UInt8 → List (List UInt8 × List UInt8)
  | _, _, [] => [([], [])]
  | .text, d, c :: b =>
    if c = ascii '"' then prepend [c] (outline .string d b)
    else if isOpen c then prepend [c] (outline .text (d + 1) b)
    else if isClose c then
      match d with
      | 0 => [([], c :: b)]
      | d + 1 => prepend [c] (outline .text d b)
    else if c = ascii ',' ∧ d = 0 then ([], c :: b) :: outline .text 0 b
    else prepend [c] (outline .text d b)
  | .string, d, c :: b =>
    if c = ascii '"' then prepend [c] (outline .text d b)
    else if c = ascii '\\' then prepend [c] (outline .escape d b)
    else prepend [c] (outline .string d b)
  | .escape, d, c :: b => prepend [c] (outline .string d b)

/-- The texts from each piece on. -/
def starts (b : List UInt8) : List (List UInt8) := (outline .text 0 b).map fun p => p.1 ++ p.2

/-- A member: the text between the quotes of its key, and the text of its
value. -/
structure Entry where
  key : List UInt8
  value : List UInt8
  deriving DecidableEq

/-- The member that a piece is. -/
def entry (piece : List UInt8) : Option Entry :=
  (stringAt piece).bind fun p => (after ':' p.2).map fun value => ⟨p.1, value⟩

def blank (b : List UInt8) : Bool := b.all isWs

/-- The members among pieces; a blank piece is none. -/
def entries : List (List UInt8 × List UInt8) → Option (List Entry)
  | [] => some []
  | p :: ps => if blank p.1 then entries ps else (entry p.1).bind fun e => (entries ps).map (e :: ·)

/-- The members of the object that a text starts with. -/
def object (text : List UInt8) : Option (List Entry) :=
  (after '{' text).bind fun body => entries (outline .text 0 body)

/-- The string that a value is: nothing but whitespace around its quotes. -/
def stringValue (value : List UInt8) : Option (List UInt8) :=
  (stringAt value).bind fun p => if blank p.2 then unquote p.1 else none

/-! ### Strings and what is around them -/

section Strings

variable {k s w : List UInt8}

theorem dropWhile_ws (hw : Ws w) (b : List UInt8) : (w ++ b).dropWhile isWs = b.dropWhile isWs := by
  induction w with
  | nil => rfl
  | cons c w ih =>
    obtain ⟨hc, hrest⟩ := List.forall_mem_cons.mp hw
    rw [List.cons_append, List.dropWhile_cons_of_pos hc]
    exact ih hrest

theorem after_eq {c : Char} (hc : isWs (ascii c) = false) (hw : Ws w) (rest : List UInt8) :
    after c (w ++ ascii c :: rest) = some rest := by
  unfold after
  rw [dropWhile_ws hw, List.dropWhile_cons_of_neg (by simp [hc])]
  simp

/-- The texts that `unquote` decodes, by their first byte. -/
inductive Unquotes : List UInt8 → List UInt8 → Prop
  | nil : Unquotes [] []
  | plain {c : UInt8} {b s : List UInt8} : c ≠ ascii '"' → c ≠ ascii '\\' → Unquotes b s →
      Unquotes (c :: b) (c :: s)
  | esc {e x : UInt8} {b s : List UInt8} : unescape e = some x → Unquotes b s →
      Unquotes (ascii '\\' :: e :: b) (x :: s)

theorem unquote_plain {c : UInt8} (hq : c ≠ ascii '"') (hb : c ≠ ascii '\\') (b : List UInt8) :
    unquote (c :: b) = (unquote b).map (c :: ·) := by
  rw [unquote.eq_def]
  simp only [hq, hb, ↓reduceIte]

theorem unquote_backslash (e : UInt8) (b : List UInt8) :
    unquote (ascii '\\' :: e :: b) = (unescape e).bind fun x => (unquote b).map (x :: ·) := by
  have hq : ascii '\\' ≠ ascii '"' := by decide
  rw [unquote.eq_def]
  simp only [hq, ↓reduceIte]

theorem Unquotes.eq {k s : List UInt8} (h : Unquotes k s) : unquote k = some s := by
  induction h with
  | nil => rfl
  | plain hq hb _ ih => rw [unquote_plain hq hb, ih, Option.map_some]
  | esc he _ ih => rw [unquote_backslash, he, Option.bind_some, ih, Option.map_some]

theorem closing_quote (b : List UInt8) : closing (ascii '"' :: b) = some ([], b) := by
  rw [closing.eq_def]
  simp only [↓reduceIte]

theorem closing_plain {c : UInt8} (hq : c ≠ ascii '"') (hb : c ≠ ascii '\\') (b : List UInt8) :
    closing (c :: b) = (closing b).map fun p => (c :: p.1, p.2) := by
  rw [closing.eq_def]
  simp only [hq, hb, ↓reduceIte]

theorem closing_backslash (e : UInt8) (b : List UInt8) :
    closing (ascii '\\' :: e :: b) = (closing b).map fun p => (ascii '\\' :: e :: p.1, p.2) := by
  have hq : ascii '\\' ≠ ascii '"' := by decide
  rw [closing.eq_def]
  simp only [hq, ↓reduceIte]

/-- Only at its end does the text of a string meet a quote that closes it. -/
theorem closing_eq (h : Unquotes k s) (rest : List UInt8) : closing (k ++ ascii '"' :: rest) = some (k, rest) := by
  induction h with
  | nil => exact closing_quote rest
  | plain hq hb _ ih => rw [List.cons_append, closing_plain hq hb, ih, Option.map_some]
  | esc _ _ ih => rw [List.cons_append, List.cons_append, closing_backslash, ih, Option.map_some]

theorem stringAt_eq (hw : Ws w) (hk : Unquotes k s) (rest : List UInt8) :
    stringAt (w ++ quoted k ++ rest) = some (k, rest) := by
  have htext : w ++ quoted k ++ rest = w ++ ascii '"' :: (k ++ ascii '"' :: rest) := by
    simp [quoted]
  unfold stringAt
  rw [htext, after_eq (by decide) hw, Option.bind_some, closing_eq hk]

theorem entry_eq {w' v : List UInt8} (hw : Ws w) (hk : Unquotes k s) (hw' : Ws w') :
    entry (w ++ quoted k ++ (w' ++ ascii ':' :: v)) = some ⟨k, v⟩ := by
  unfold entry
  rw [stringAt_eq hw hk, Option.bind_some, after_eq (by decide) hw', Option.map_some]

theorem blank_eq_true : blank w = true ↔ Ws w := by
  unfold blank Ws
  exact List.all_eq_true

theorem stringValue_eq {w' : List UInt8} (hw : Ws w) (hk : Unquotes k s) (hw' : Ws w') :
    stringValue (w ++ quoted k ++ w') = some s := by
  unfold stringValue
  rw [stringAt_eq hw hk, Option.bind_some, if_pos (blank_eq_true.mpr hw'), hk.eq]

/-- The value text is a string with whitespace around it, which stands for
`s`. -/
def IsString (value s : List UInt8) : Prop :=
  ∃ w k w', Ws w ∧ Ws w' ∧ value = w ++ quoted k ++ w' ∧ Unquotes k s

theorem IsString.eq {value s : List UInt8} (h : IsString value s) : stringValue value = some s := by
  obtain ⟨w, k, w', hw, hw', rfl, hk⟩ := h
  exact stringValue_eq hw hk hw'

theorem unescape_ne_zero {e x : UInt8} (h : unescape e = some x) : (0 : UInt8) ≠ x ∧ (0 : UInt8) ≠ e := by
  constructor
  · rintro rfl
    unfold unescape at h
    split_ifs at h
    all_goals exact absurd h (by decide)
  · rintro rfl
    rw [show unescape 0 = none by decide] at h
    cases h

/-- A string stands for a NUL exactly when one is written in it. -/
theorem Unquotes.nul (h : Unquotes k s) : (0 : UInt8) ∈ s ↔ (0 : UInt8) ∈ k := by
  induction h with
  | nil => exact Iff.rfl
  | plain _ _ _ ih => rw [List.mem_cons, List.mem_cons, ih]
  | esc he _ ih =>
    obtain ⟨hx, he0⟩ := unescape_ne_zero he
    have hb : (0 : UInt8) ≠ ascii '\\' := by decide
    rw [List.mem_cons, List.mem_cons, List.mem_cons, ih]
    simp [hx, he0, hb]

theorem IsString.nul {value s : List UInt8} (h : IsString value s) : (0 : UInt8) ∈ s ↔ (0 : UInt8) ∈ value := by
  obtain ⟨w, k, w', hw, hw', rfl, hk⟩ := h
  have hws : ∀ {v : List UInt8}, Ws v → (0 : UInt8) ∉ v := fun hv h0 => by
    have hzero := hv 0 h0
    revert hzero
    decide
  have hquote : (0 : UInt8) ≠ ascii '"' := by decide
  simp [hk.nul, quoted, hws hw, hws hw', hquote]

/-! ### The beginning of a string -/

theorem stem_quote (b : List UInt8) : stem (ascii '"' :: b) = [] := by
  rw [stem.eq_def]
  simp only [↓reduceIte]

theorem stem_plain {c : UInt8} (hq : c ≠ ascii '"') (hb : c ≠ ascii '\\') (b : List UInt8) :
    stem (c :: b) = c :: stem b := by
  rw [stem.eq_def]
  simp only [hq, hb, ↓reduceIte]

theorem stem_esc {e x : UInt8} (he : unescape e = some x) (b : List UInt8) :
    stem (ascii '\\' :: e :: b) = x :: stem b := by
  have hq : ascii '\\' ≠ ascii '"' := by decide
  rw [stem.eq_def]
  simp only [hq, he, ↓reduceIte]

theorem stem_stop {e : UInt8} (he : unescape e = none) (b : List UInt8) :
    stem (ascii '\\' :: e :: b) = [] := by
  have hq : ascii '\\' ≠ ascii '"' := by decide
  rw [stem.eq_def]
  simp only [hq, he, ↓reduceIte]

/-- What is behind the closing quote is not looked at. -/
theorem stem_chars {u : Bool} (h : Chars k u) (rest : List UInt8) : stem (k ++ ascii '"' :: rest) = stem k := by
  induction h with
  | nil => exact stem_quote rest
  | plain hc _ ih =>
    have hq := isPlain_not_quote hc
    have hb := isPlain_not_backslash hc
    rw [List.cons_append, stem_plain hq hb, stem_plain hq hb, ih]
  | esc he _ ih => rw [List.cons_append, List.cons_append, stem_esc he, stem_esc he, ih]
  | uni => rw [List.cons_append, List.cons_append, stem_stop unescape_u, stem_stop unescape_u]

theorem stem_no_nul {u : Bool} (h : Chars k u) : (0 : UInt8) ∉ stem k := by
  induction h with
  | nil => exact List.not_mem_nil
  | plain hc _ ih =>
    rw [stem_plain (isPlain_not_quote hc) (isPlain_not_backslash hc), List.mem_cons, not_or]
    refine ⟨?_, ih⟩
    rintro rfl
    exact absurd hc (by decide)
  | esc he _ ih =>
    rw [stem_esc he, List.mem_cons, not_or]
    exact ⟨(unescape_ne_zero he).1, ih⟩
  | uni =>
    rw [stem_stop unescape_u]
    exact List.not_mem_nil

/-- A string begins with its stem, and it is its stem exactly when there is no
`\u` escape in it. -/
theorem decodes_stem {u : Bool} (h : Chars k u) :
    ∀ {s : List UInt8}, Decodes k s → ∃ z, s = stem k ++ z ∧ (z = [] ↔ u = false) := by
  induction h with
  | nil =>
    intro s hs
    cases hs
    exact ⟨[], rfl, by simp⟩
  | plain hc _ ih =>
    intro s hs
    obtain ⟨s', rfl, hs'⟩ := decodes_plain_inv hc hs
    obtain ⟨z, rfl, hz⟩ := ih hs'
    refine ⟨z, ?_, hz⟩
    rw [stem_plain (isPlain_not_quote hc) (isPlain_not_backslash hc), List.cons_append]
  | esc he _ ih =>
    intro s hs
    obtain ⟨s', rfl, hs'⟩ := decodes_esc_inv he hs
    obtain ⟨z, rfl, hz⟩ := ih hs'
    refine ⟨z, ?_, hz⟩
    rw [stem_esc he, List.cons_append]
  | uni =>
    intro s hs
    refine ⟨s, ?_, by simp [decodes_uni_inv hs]⟩
    rw [stem_stop unescape_u, List.nil_append]

/-- Without a `\u` escape the stem is all that the string stands for. -/
theorem decodes_iff_stem {u : Bool} (h : Chars k u) (hu : u = false) : Decodes k s ↔ s = stem k := by
  have hall : ∀ {s : List UInt8}, Decodes k s → s = stem k := by
    intro s hs
    obtain ⟨z, rfl, hz⟩ := decodes_stem h hs
    rw [hz.mpr hu, List.append_nil]
  constructor
  · exact hall
  · rintro rfl
    obtain ⟨s, hs⟩ := h.decodes hu
    exact hall hs ▸ hs

/-! ### Lists of members -/

theorem entries_blank {p : List UInt8 × List UInt8} (h : Ws p.1) (ps : List (List UInt8 × List UInt8)) :
    entries (p :: ps) = entries ps := by
  rw [entries, if_pos (blank_eq_true.mpr h)]

theorem entries_cons {p : List UInt8 × List UInt8} {e : Entry} {es : List Entry}
    {ps : List (List UInt8 × List UInt8)} (h : entry p.1 = some e) (hps : entries ps = some es) :
    entries (p :: ps) = some (e :: es) := by
  have hne : ¬ blank p.1 = true := by
    intro hb
    have hdrop : p.1.dropWhile isWs = [] := by
      rw [List.dropWhile_eq_nil_iff]
      exact blank_eq_true.mp hb
    simp [entry, stringAt, after, hdrop] at h
  rw [entries, if_neg hne, h, Option.bind_some, hps, Option.map_some]

end Strings

/-! ### Going over a text without a cut -/

@[simp] theorem prepend_nil (ps : List (List UInt8 × List UInt8)) : prepend [] ps = ps := by
  cases ps with
  | nil => rfl
  | cons p ps => rfl

theorem prepend_append (u v : List UInt8) (ps : List (List UInt8 × List UInt8)) :
    prepend (u ++ v) ps = prepend u (prepend v ps) := by
  cases ps with
  | nil => rfl
  | cons p ps => simp [prepend]

/-- Over `v`, from the mode `m` in `d` brackets to `m'` in `d'`. -/
def Passes (m : Mode) (d : ℕ) (v : List UInt8) (m' : Mode) (d' : ℕ) : Prop :=
  ∀ rest, outline m d (v ++ rest) = prepend v (outline m' d' rest)

section Passes

variable {m m' m'' : Mode} {d d' d'' : ℕ} {u v w k s : List UInt8}

theorem Passes.nil (m : Mode) (d : ℕ) : Passes m d [] m d := fun _ => (prepend_nil _).symm

theorem Passes.append (hu : Passes m d u m' d') (hv : Passes m' d' v m'' d'') :
    Passes m d (u ++ v) m'' d'' := by
  intro rest
  rw [List.append_assoc, hu, hv, prepend_append]

/-- A byte that neither a string nor a bracket nor a cut begins with. -/
def Neutral (c : UInt8) : Prop :=
  c ≠ ascii '"' ∧ isOpen c = false ∧ isClose c = false ∧ c ≠ ascii ','

instance (c : UInt8) : Decidable (Neutral c) := inferInstanceAs (Decidable (_ ∧ _ ∧ _ ∧ _))

theorem passes_neutral_byte {c : UInt8} (h : Neutral c) : Passes .text d [c] .text d := by
  obtain ⟨hq, hopen, hclose, hcomma⟩ := h
  intro rest
  rw [List.singleton_append, outline.eq_def]
  simp only [hq, hopen, hclose, hcomma, false_and, Bool.false_eq_true, ↓reduceIte]

theorem passes_neutral : ∀ {v : List UInt8}, (∀ c ∈ v, Neutral c) → Passes .text d v .text d
  | [], _ => Passes.nil _ _
  | c :: v, h => by
    obtain ⟨hc, hv⟩ := List.forall_mem_cons.mp h
    exact (passes_neutral_byte hc).append (passes_neutral hv)

theorem isWs_neutral {c : UInt8} (h : isWs c = true) : Neutral c := by
  simp only [isWs, Bool.or_eq_true, decide_eq_true_eq] at h
  unfold Neutral
  rcases h with ((rfl | rfl) | rfl) | rfl
  · decide
  · decide
  · decide
  · decide

theorem passes_ws (hw : Ws w) : Passes .text d w .text d := passes_neutral fun c hc => isWs_neutral (hw c hc)

theorem passes_open {c : UInt8} (h : isOpen c = true) : Passes .text d [c] .text (d + 1) := by
  have hq : c ≠ ascii '"' := by
    rintro rfl
    exact absurd h (by decide)
  intro rest
  rw [List.singleton_append, outline.eq_def]
  simp only [hq, h, ↓reduceIte]

theorem passes_close {c : UInt8} (h : isClose c = true) : Passes .text (d + 1) [c] .text d := by
  have hq : c ≠ ascii '"' := by
    rintro rfl
    exact absurd h (by decide)
  have hopen : isOpen c = false := by
    simp only [isClose, Bool.or_eq_true, decide_eq_true_eq] at h
    rcases h with rfl | rfl
    · decide
    · decide
  intro rest
  rw [List.singleton_append, outline.eq_def]
  simp only [hq, hopen, h, Bool.false_eq_true, ↓reduceIte]

/-- Inside a bracket a comma is no cut. -/
theorem passes_comma : Passes .text (d + 1) [ascii ','] .text (d + 1) := by
  have hq : ascii ',' ≠ ascii '"' := by decide
  have hopen : isOpen (ascii ',') = false := by decide
  have hclose : isClose (ascii ',') = false := by decide
  intro rest
  rw [List.singleton_append, outline.eq_def]
  simp only [hq, hopen, hclose, Bool.false_eq_true, Nat.succ_ne_zero, and_false, ↓reduceIte]

theorem passes_quote : Passes .text d [ascii '"'] .string d := by
  intro rest
  rw [List.singleton_append, outline.eq_def]
  simp only [↓reduceIte]

theorem passes_unquote : Passes .string d [ascii '"'] .text d := by
  intro rest
  rw [List.singleton_append, outline.eq_def]
  simp only [↓reduceIte]

theorem Unquotes.passes (h : Unquotes k s) : Passes .string d k .string d := by
  induction h with
  | nil => exact Passes.nil _ _
  | @plain c b s hq hb _ ih =>
    have hc : Passes .string d [c] .string d := by
      intro rest
      rw [List.singleton_append, outline.eq_def]
      simp only [hq, hb, ↓reduceIte]
    exact hc.append ih
  | @esc e x b s _ _ ih =>
    have hb : Passes .string d [ascii '\\'] .escape d := by
      have hq : ascii '\\' ≠ ascii '"' := by decide
      intro rest
      rw [List.singleton_append, outline.eq_def]
      simp only [hq, ↓reduceIte]
    have he : Passes .escape d [e] .string d := by
      intro rest
      rw [List.singleton_append, outline.eq_def]
    exact (hb.append he).append ih

/-- A whole string. -/
theorem passes_string (h : Unquotes k s) : Passes .text d (quoted k) .text d :=
  (passes_quote.append h.passes).append passes_unquote

/-! ### Cuts -/

theorem outline_comma (h : Passes .text 0 v .text 0) (b : List UInt8) :
    outline .text 0 (v ++ ascii ',' :: b) = (v, ascii ',' :: b) :: outline .text 0 b := by
  have hq : ascii ',' ≠ ascii '"' := by decide
  have hopen : isOpen (ascii ',') = false := by decide
  have hclose : isClose (ascii ',') = false := by decide
  have hcut : outline .text 0 (ascii ',' :: b) = ([], ascii ',' :: b) :: outline .text 0 b := by
    rw [outline.eq_def]
    simp only [hq, hopen, hclose, Bool.false_eq_true, and_self, ↓reduceIte]
  rw [h, hcut, prepend, List.append_nil]

theorem outline_brace (h : Passes .text 0 v .text 0) (b : List UInt8) :
    outline .text 0 (v ++ ascii '}' :: b) = [(v, ascii '}' :: b)] := by
  have hq : ascii '}' ≠ ascii '"' := by decide
  have hopen : isOpen (ascii '}') = false := by decide
  have hclose : isClose (ascii '}') = true := by decide
  have hcut : outline .text 0 (ascii '}' :: b) = [([], ascii '}' :: b)] := by
    rw [outline.eq_def]
    simp only [hq, hopen, hclose, Bool.false_eq_true, ↓reduceIte]
  rw [h, hcut, prepend, List.append_nil]

theorem outline_end (h : Passes .text 0 v .text 0) : outline .text 0 v = [(v, [])] := by
  have hend := h []
  rw [List.append_nil] at hend
  rw [hend, outline, prepend, List.append_nil]

/-- The first piece and what follows it are the text. -/
theorem outline_cons : ∀ (m : Mode) (d : ℕ) (b : List UInt8), ∃ p ps, outline m d b = p :: ps ∧ p.1 ++ p.2 = b
  | m, d, [] => ⟨([], []), [], by rw [outline], rfl⟩
  | m, d, c :: b => by
    have hprepend : ∀ {m' : Mode} {d' : ℕ},
        ∃ p ps, prepend [c] (outline m' d' b) = p :: ps ∧ p.1 ++ p.2 = c :: b := by
      intro m' d'
      obtain ⟨p, ps, hout, hp⟩ := outline_cons m' d' b
      refine ⟨([c] ++ p.1, p.2), ps, by rw [hout, prepend], ?_⟩
      rw [List.append_assoc, hp, List.singleton_append]
    rw [outline.eq_def]
    cases m with
    | text =>
      dsimp only
      split_ifs
      · exact hprepend
      · exact hprepend
      · cases d with
        | zero => exact ⟨([], c :: b), [], rfl, rfl⟩
        | succ d => exact hprepend
      · exact ⟨([], c :: b), _, rfl, rfl⟩
      · exact hprepend
    | string =>
      dsimp only
      split_ifs
      · exact hprepend
      · exact hprepend
      · exact hprepend
    | escape => exact hprepend

theorem starts_cons (b : List UInt8) : ∃ ts, starts b = b :: ts := by
  obtain ⟨p, ps, hout, hp⟩ := outline_cons .text 0 b
  exact ⟨ps.map fun p => p.1 ++ p.2, by rw [starts, hout, List.map_cons, hp]⟩

theorem starts_comma (h : Passes .text 0 v .text 0) (b : List UInt8) :
    starts (v ++ ascii ',' :: b) = (v ++ ascii ',' :: b) :: starts b := by
  rw [starts, outline_comma h, List.map_cons, starts]

theorem starts_brace (h : Passes .text 0 v .text 0) (b : List UInt8) :
    starts (v ++ ascii '}' :: b) = [v ++ ascii '}' :: b] := by
  rw [starts, outline_brace h, List.map_cons, List.map_nil]

theorem starts_end (h : Passes .text 0 v .text 0) : starts v = [v] := by
  rw [starts, outline_end h, List.map_cons, List.map_nil, List.append_nil]

end Passes

end Outline
