/-
# Printing JSON

`dumps` is `json.dumps(…, indent=2, sort_keys=True)`: a member or an element on
each line, two spaces deeper than what holds it, `": "` behind a name, the
members sorted by name at every level, and only ASCII in strings, where a
character beyond U+FFFF is a pair of `\u` escapes. What is printed of a value
spells it (`spells_print`), in ASCII, so it is a text of RFC 8259 whose value
is the sorted one (`dumps_text`).

Key definitions: `escapeChar`, `print`, `sortKeys`, `dumps`, `Printable`.
Key theorems: `decodes_escape`, `spells_print`, `dumps_spells`, `dumps_text`.
-/
import Pktlab.Lib.Json
import Mathlib.Data.List.Sort

namespace Rfc8259

open Utf8

/-! ### Strings -/

def hexDigit (n : ℕ) : UInt8 := UInt8.ofNat (if n < 10 then 0x30 + n else 0x57 + n)

/-- A `\u` escape. -/
def escapeUnit (n : ℕ) : List UInt8 :=
  [ascii '\\', ascii 'u', hexDigit (n / 4096), hexDigit (n / 256 % 16), hexDigit (n / 16 % 16), hexDigit (n % 16)]

/-- The letter of the short escape of a character, if it has one. -/
def shortEscape (c : Char) : Option UInt8 :=
  if c = '"' then some (ascii '"')
  else if c = '\\' then some (ascii '\\')
  else if c = '\n' then some (ascii 'n')
  else if c = '\r' then some (ascii 'r')
  else if c = '\t' then some (ascii 't')
  else if c = '\x0c' then some (ascii 'f')
  else if c = '\x08' then some (ascii 'b')
  else none

/-- `ensure_ascii`. -/
def escapeChar (c : Char) : List UInt8 :=
  match shortEscape c with
  | some e => [ascii '\\', e]
  | none =>
    if 0x20 ≤ c.toNat ∧ c.toNat ≤ 0x7e then String.utf8EncodeChar c
    else if c.toNat < 0x10000 then escapeUnit c.toNat
    else escapeUnit (0xD800 + (c.toNat - 0x10000) / 0x400) ++ escapeUnit (0xDC00 + (c.toNat - 0x10000) % 0x400)

/-- What stands between the quotes. -/
def escape (b : List UInt8) : List UInt8 :=
  match decodeUtf8 b with
  | some s => s.toList.flatMap escapeChar
  | none => []

/-! ### Values -/

/-- A line feed and the indentation of a level. -/
def indent (level : ℕ) : List UInt8 := ascii '\n' :: List.replicate (2 * level) (ascii ' ')

mutual

def print (level : ℕ) : Json → List UInt8
  | .lit b => b
  | .num b => b
  | .str b => quoted (escape b)
  | .arr [] => utf8 "[]"
  | .arr (j :: js) => ascii '[' :: printElements level (j :: js) ++ [ascii ']']
  | .obj [] => utf8 "{}"
  | .obj (m :: ms) => ascii '{' :: printMembers level (m :: ms) ++ [ascii '}']

def printMembers (level : ℕ) : List (List UInt8 × Json) → List UInt8
  | [] => []
  | [(k, j)] => indent (level + 1) ++ quoted (escape k) ++ utf8 ": " ++ print (level + 1) j ++ indent level
  | (k, j) :: m :: ms =>
    indent (level + 1) ++ quoted (escape k) ++ utf8 ": " ++ print (level + 1) j ++ ascii ',' ::
      printMembers level (m :: ms)

def printElements (level : ℕ) : List Json → List UInt8
  | [] => []
  | [j] => indent (level + 1) ++ print (level + 1) j ++ indent level
  | j :: j' :: js => indent (level + 1) ++ print (level + 1) j ++ ascii ',' :: printElements level (j' :: js)

end

mutual

/-- The members of every object sorted by name. Names are compared by their
bytes in UTF-8, which is how they compare by code points. -/
def sortKeys : Json → Json
  | .arr js => .arr (sortElements js)
  | .obj ms => .obj ((sortMembers ms).insertionSort fun m n => m.1 ≤ n.1)
  | .lit b => .lit b
  | .num b => .num b
  | .str b => .str b

def sortMembers : List (List UInt8 × Json) → List (List UInt8 × Json)
  | [] => []
  | (k, j) :: ms => (k, sortKeys j) :: sortMembers ms

def sortElements : List Json → List Json
  | [] => []
  | j :: js => sortKeys j :: sortElements js

end

/-- `json.dumps(j, indent=2, sort_keys=True)`. -/
def dumps (j : Json) : List UInt8 := print 0 (sortKeys j)

/-- A value that can be printed: its literals and numbers are such, and its
strings are texts. -/
inductive Printable : Json → Prop
  | lit {b : List UInt8} : b ∈ [utf8 "true", utf8 "false", utf8 "null"] → Printable (.lit b)
  | num {b : List UInt8} : Number b → Printable (.num b)
  | str {s : List UInt8} : IsUtf8 s → Printable (.str s)
  | arr {js : List Json} : (∀ j ∈ js, Printable j) → Printable (.arr js)
  | obj {ms : List (List UInt8 × Json)} : (∀ m ∈ ms, IsUtf8 m.1) → (∀ m ∈ ms, Printable m.2) → Printable (.obj ms)

/-! ### What is escaped decodes -/

theorem hexValue_hexDigit : ∀ d < 16, hexValue (hexDigit d) = some d := by decide

theorem codeUnit_escapeUnit {n : ℕ} (hn : n < 0x10000) :
    codeUnit (hexDigit (n / 4096)) (hexDigit (n / 256 % 16)) (hexDigit (n / 16 % 16)) (hexDigit (n % 16)) = some n := by
  rw [codeUnit, hexValue_hexDigit _ (by omega), hexValue_hexDigit _ (by omega), hexValue_hexDigit _ (by omega),
    hexValue_hexDigit _ (by omega)]
  exact congrArg some (by omega)

/-- A character with a short escape is what that stands for. -/
theorem unescape_shortEscape {c : Char} {e : UInt8} (h : shortEscape c = some e) :
    ∃ x, unescape e = some x ∧ String.utf8EncodeChar c = [x] := by
  unfold shortEscape at h
  split_ifs at h with h1 h2 h3 h4 h5 h6 h7
  all_goals
    cases h
    subst c
    exact ⟨_, rfl, by decide⟩

theorem isPlain_ofNat : ∀ n ≤ 0x7e, 0x20 ≤ n → n ≠ 0x22 → n ≠ 0x5c → isPlain (UInt8.ofNat n) = true := by decide

/-- What is escaped of a character stands for it. -/
theorem decodes_escapeChar (c : Char) {b s : List UInt8} (h : Decodes b s) :
    Decodes (escapeChar c ++ b) (String.utf8EncodeChar c ++ s) := by
  have hchar : Char.ofNat c.toNat = c := Char.ofNat_toNat c
  have hvalid : c.toNat < 0xD800 ∨ 0xDFFF < c.toNat ∧ c.toNat < 0x110000 := c.valid
  unfold escapeChar
  split
  · rename_i e he
    obtain ⟨x, hx, hc⟩ := unescape_shortEscape he
    rw [hc]
    exact .esc hx h
  · rename_i hshort
    split_ifs with hplain hbmp
    · have hquote : c.toNat ≠ 0x22 := by
        intro hn
        rw [← hchar, hn] at hshort
        cases hshort
      have hback : c.toNat ≠ 0x5c := by
        intro hn
        rw [← hchar, hn] at hshort
        cases hshort
      have hlow : c.val.toNat ≤ 0x7f := le_trans hplain.2 (by decide)
      rw [utf8EncodeChar_low hlow]
      exact .plain (isPlain_ofNat _ hplain.2 hplain.1 hquote hback) h
    · have huni := Decodes.uni (codeUnit_escapeUnit hbmp) (by omega) h
      rw [hchar] at huni
      exact huni
    · -- the two halves of a pair
      have hpair := Decodes.pair (codeUnit_escapeUnit (n := 0xD800 + (c.toNat - 0x10000) / 0x400) (by omega))
        (codeUnit_escapeUnit (n := 0xDC00 + (c.toNat - 0x10000) % 0x400) (by omega)) (by omega) (by omega) (by omega)
        (by omega) h
      have hsum : 0x10000 + (0xD800 + (c.toNat - 0x10000) / 0x400 - 0xD800) * 0x400 +
          (0xDC00 + (c.toNat - 0x10000) % 0x400 - 0xDC00) = c.toNat := by omega
      rw [hsum, hchar] at hpair
      exact hpair

/-- **What is escaped decodes.** -/
theorem decodes_escape {b : List UInt8} (hb : IsUtf8 b) : Decodes (escape b) b := by
  obtain ⟨cs, rfl⟩ := hb
  have hdecode : decodeUtf8 (cs.flatMap String.utf8EncodeChar) = some (String.ofList cs) := by
    have h := decodeUtf8_utf8 (String.ofList cs)
    rwa [utf8, String.toList_ofList] at h
  rw [escape, hdecode]
  simp only [String.toList_ofList]
  clear hdecode
  induction cs with
  | nil => exact .nil
  | cons c cs ih =>
    rw [List.flatMap_cons, List.flatMap_cons]
    exact decodes_escapeChar c ih

/-! ### What is printed spells -/

theorem ws_indent (level : ℕ) : Ws (indent level) := by
  intro c hc
  rcases List.mem_cons.mp hc with rfl | hc
  · decide
  · rw [List.eq_of_mem_replicate hc]
    decide

theorem ws_space : Ws [ascii ' '] := by decide

theorem utf8_colon : utf8 ": " = [ascii ':', ascii ' '] := by decide

/-- The members of an object, one or more. -/
theorem spellsMembers_print : ∀ {ms : List (List UInt8 × Json)}, ms ≠ [] → (∀ m ∈ ms, IsUtf8 m.1) →
    (∀ m ∈ ms, ∀ level, Spells m.2 (print level m.2)) → ∀ level, SpellsMembers ms (printMembers level ms)
  | [], hne, _, _, _ => absurd rfl hne
  | [(k, j)], _, hk, hj, level => by
    have h := SpellsMembers.one (ws_indent (level + 1)) (decodes_escape (hk (k, j) List.mem_cons_self)) Ws.nil ws_space
      (hj (k, j) List.mem_cons_self (level + 1)) (ws_indent level)
    rw [printMembers, utf8_colon]
    simpa using h
  | (k, j) :: m :: ms, _, hk, hj, level => by
    have hrest := spellsMembers_print (List.cons_ne_nil m ms) (fun x hx => hk x (List.mem_cons_of_mem _ hx))
      (fun x hx => hj x (List.mem_cons_of_mem _ hx)) level
    have h := SpellsMembers.more (ws_indent (level + 1)) (decodes_escape (hk (k, j) List.mem_cons_self)) Ws.nil ws_space
      (hj (k, j) List.mem_cons_self (level + 1)) Ws.nil hrest
    rw [printMembers, utf8_colon]
    simpa using h

/-- The elements of an array, one or more. -/
theorem spellsElements_print : ∀ {js : List Json}, js ≠ [] → (∀ j ∈ js, ∀ level, Spells j (print level j)) →
    ∀ level, SpellsElements js (printElements level js)
  | [], hne, _, _ => absurd rfl hne
  | [j], _, hj, level => by
    rw [printElements]
    exact .one (ws_indent (level + 1)) (hj j List.mem_cons_self (level + 1)) (ws_indent level)
  | j :: j' :: js, _, hj, level => by
    have hrest := spellsElements_print (List.cons_ne_nil j' js) (fun x hx => hj x (List.mem_cons_of_mem _ hx)) level
    have h := SpellsElements.more (ws_indent (level + 1)) (hj j List.mem_cons_self (level + 1)) Ws.nil hrest
    rw [printElements]
    simpa using h

/-- **What is printed spells**, at every level. -/
theorem spells_print {j : Json} (h : Printable j) : ∀ level, Spells j (print level j) := by
  induction h with
  | lit hb =>
    intro level
    rw [print]
    exact .lit hb
  | num hb =>
    intro level
    rw [print]
    exact .num hb
  | str hs =>
    intro level
    rw [print]
    exact .str (decodes_escape hs)
  | @arr js _ ih =>
    intro level
    cases js with
    | nil => exact .emptyArr Ws.nil
    | cons j js =>
      rw [print]
      exact .arr (spellsElements_print (List.cons_ne_nil j js) ih level)
  | @obj ms hk _ ih =>
    intro level
    cases ms with
    | nil => exact .emptyObj Ws.nil
    | cons m ms =>
      rw [print]
      exact .obj (spellsMembers_print (List.cons_ne_nil m ms) hk ih level)

/-! ### What is printed is ASCII -/

theorem hexDigit_low : ∀ d < 16, (hexDigit d).toNat ≤ 0x7f := by decide

theorem isUtf8_low_all {b : List UInt8} (h : ∀ c ∈ b, c.toNat ≤ 0x7f) : IsUtf8 b := by
  induction b with
  | nil => exact isUtf8_nil
  | cons c b ih =>
    exact (isUtf8_low (h c List.mem_cons_self)).append (ih fun d hd => h d (List.mem_cons_of_mem c hd))

theorem isUtf8_escapeUnit {n : ℕ} (hn : n < 0x10000) : IsUtf8 (escapeUnit n) := by
  refine isUtf8_low_all fun c hc => ?_
  simp only [escapeUnit, List.mem_cons, List.not_mem_nil, or_false] at hc
  rcases hc with rfl | rfl | rfl | rfl | rfl | rfl
  · decide
  · decide
  all_goals exact hexDigit_low _ (by omega)

theorem isUtf8_escapeChar (c : Char) : IsUtf8 (escapeChar c) := by
  have hvalid : c.toNat < 0xD800 ∨ 0xDFFF < c.toNat ∧ c.toNat < 0x110000 := c.valid
  unfold escapeChar
  split
  · rename_i e he
    have hletter : e.toNat ≤ 0x7f := by
      unfold shortEscape at he
      split_ifs at he <;> cases he <;> decide
    exact (isUtf8_low (b := ascii '\\') (by decide)).append (isUtf8_low hletter)
  · split_ifs with hplain hbmp
    · exact isUtf8_encode c
    · exact isUtf8_escapeUnit hbmp
    · exact (isUtf8_escapeUnit (by omega)).append (isUtf8_escapeUnit (by omega))

theorem isUtf8_escape (b : List UInt8) : IsUtf8 (escape b) := by
  unfold escape
  split
  · exact IsUtf8.flatMap fun c _ => isUtf8_escapeChar c
  · exact isUtf8_nil

theorem Digits.isUtf8 {b : List UInt8} (h : Digits b) : IsUtf8 b := by
  refine isUtf8_low_all fun c hc => ?_
  have hdigit := h.2 c hc
  rw [isDigit, Bool.and_eq_true, decide_eq_true_eq, decide_eq_true_eq] at hdigit
  have hnine : c.toNat ≤ (ascii '9').toNat := hdigit.2
  exact le_trans hnine (by decide)

theorem Number.isUtf8 {b : List UInt8} (h : Number b) : IsUtf8 b := by
  obtain ⟨n, rfl⟩ := h
  have hsign : ∀ c ∈ ['-', '+', '.', 'e', 'E', '0'], IsUtf8 [ascii c] := by
    intro c hc
    refine isUtf8_low ?_
    revert c
    decide
  refine ((IsUtf8.append ?_ ?_).append ?_).append ?_
  · rcases n.minus_ok with h | h <;> rw [h]
    · exact isUtf8_nil
    · exact hsign _ (by decide)
  · rcases n.int_ok with h | h
    · rw [h]
      exact hsign _ (by decide)
    · exact h.1.isUtf8
  · rcases n.frac_ok with h | ⟨ds, h, hds⟩ <;> rw [h]
    · exact isUtf8_nil
    · exact (hsign '.' (by decide)).append hds.isUtf8
  · rcases n.exp_ok with h | ⟨e, sign, ds, h, he, hs, hds⟩ <;> rw [h]
    · exact isUtf8_nil
    · have hletter : IsUtf8 [e] := by
        rcases he with rfl | rfl
        · exact hsign _ (by decide)
        · exact hsign _ (by decide)
      have hsigns : IsUtf8 sign := by
        rcases hs with rfl | rfl | rfl
        · exact isUtf8_nil
        · exact hsign _ (by decide)
        · exact hsign _ (by decide)
      exact (hletter.append hsigns).append hds.isUtf8

theorem isUtf8_quoted {b : List UInt8} (h : IsUtf8 b) : IsUtf8 (quoted b) :=
  ((isUtf8_low (b := ascii '"') (by decide)).append h).append (isUtf8_low (by decide))

theorem isUtf8_indent (level : ℕ) : IsUtf8 (indent level) := by
  refine isUtf8_low_all fun c hc => ?_
  rcases List.mem_cons.mp hc with rfl | hc
  · decide
  · rw [List.eq_of_mem_replicate hc]
    decide

theorem isUtf8_comma : IsUtf8 [ascii ','] := isUtf8_low (by decide)

theorem isUtf8_printMembers : ∀ {ms : List (List UInt8 × Json)}, (∀ m ∈ ms, ∀ level, IsUtf8 (print level m.2)) →
    ∀ level, IsUtf8 (printMembers level ms)
  | [], _, _ => isUtf8_nil
  | [(k, j)], h, level => by
    rw [printMembers]
    exact ((((isUtf8_indent _).append (isUtf8_quoted (isUtf8_escape k))).append (isUtf8_utf8 _)).append
      (h (k, j) List.mem_cons_self _)).append (isUtf8_indent _)
  | (k, j) :: m :: ms, h, level => by
    have hrest := isUtf8_printMembers (fun x hx => h x (List.mem_cons_of_mem _ hx)) level
    rw [printMembers]
    exact ((((isUtf8_indent _).append (isUtf8_quoted (isUtf8_escape k))).append (isUtf8_utf8 _)).append
      (h (k, j) List.mem_cons_self _)).append (isUtf8_comma.append hrest)

theorem isUtf8_printElements : ∀ {js : List Json}, (∀ j ∈ js, ∀ level, IsUtf8 (print level j)) →
    ∀ level, IsUtf8 (printElements level js)
  | [], _, _ => isUtf8_nil
  | [j], h, level => by
    rw [printElements]
    exact ((isUtf8_indent _).append (h j List.mem_cons_self _)).append (isUtf8_indent _)
  | j :: j' :: js, h, level => by
    have hrest := isUtf8_printElements (fun x hx => h x (List.mem_cons_of_mem _ hx)) level
    rw [printElements]
    exact ((isUtf8_indent _).append (h j List.mem_cons_self _)).append (isUtf8_comma.append hrest)

theorem isUtf8_print {j : Json} (h : Printable j) : ∀ level, IsUtf8 (print level j) := by
  induction h with
  | @lit b hb =>
    intro level
    rw [print]
    simp only [List.mem_cons, List.not_mem_nil, or_false] at hb
    rcases hb with rfl | rfl | rfl <;> exact isUtf8_utf8 _
  | num hb =>
    intro level
    rw [print]
    exact hb.isUtf8
  | str _ =>
    intro level
    rw [print]
    exact isUtf8_quoted (isUtf8_escape _)
  | @arr js _ ih =>
    intro level
    cases js with
    | nil => exact isUtf8_utf8 _
    | cons j js =>
      rw [print]
      exact ((isUtf8_low (b := ascii '[') (by decide)).append (isUtf8_printElements ih level)).append
        (isUtf8_low (by decide))
  | @obj ms _ _ ih =>
    intro level
    cases ms with
    | nil => exact isUtf8_utf8 _
    | cons m ms =>
      rw [print]
      exact ((isUtf8_low (b := ascii '{') (by decide)).append (isUtf8_printMembers ih level)).append
        (isUtf8_low (by decide))

/-! ### Sorted values -/

theorem mem_sortMembers {ms : List (List UInt8 × Json)} {m : List UInt8 × Json} (h : m ∈ sortMembers ms) :
    ∃ m' ∈ ms, m = (m'.1, sortKeys m'.2) := by
  induction ms with
  | nil => cases h
  | cons m' ms ih =>
    rw [sortMembers] at h
    rcases List.mem_cons.mp h with rfl | h
    · exact ⟨m', List.mem_cons_self, rfl⟩
    · obtain ⟨x, hx, rfl⟩ := ih h
      exact ⟨x, List.mem_cons_of_mem _ hx, rfl⟩

theorem mem_sortElements {js : List Json} {j : Json} (h : j ∈ sortElements js) : ∃ j' ∈ js, j = sortKeys j' := by
  induction js with
  | nil => cases h
  | cons j' js ih =>
    rw [sortElements] at h
    rcases List.mem_cons.mp h with rfl | h
    · exact ⟨j', List.mem_cons_self, rfl⟩
    · obtain ⟨x, hx, rfl⟩ := ih h
      exact ⟨x, List.mem_cons_of_mem _ hx, rfl⟩

theorem Printable.sortKeys {j : Json} (h : Printable j) : Printable (sortKeys j) := by
  induction h with
  | lit hb => exact .lit hb
  | num hb => exact .num hb
  | str hs => exact .str hs
  | arr _ ih =>
    rw [Rfc8259.sortKeys]
    refine .arr fun j hj => ?_
    obtain ⟨x, hx, rfl⟩ := mem_sortElements hj
    exact ih x hx
  | obj hk _ ih =>
    rw [Rfc8259.sortKeys]
    refine .obj (fun m hm => ?_) fun m hm => ?_
    all_goals
      rw [List.mem_insertionSort] at hm
      obtain ⟨x, hx, rfl⟩ := mem_sortMembers hm
    · exact hk x hx
    · exact ih x hx

/-- What is dumped spells the sorted value. -/
theorem dumps_spells {j : Json} (h : Printable j) : Spells (sortKeys j) (dumps j) := spells_print h.sortKeys 0

/-- **What is dumped is a JSON text.** -/
theorem dumps_text {j : Json} (h : Printable j) : Text (dumps j) := (dumps_spells h).text (isUtf8_print h.sortKeys 0)

end Rfc8259
