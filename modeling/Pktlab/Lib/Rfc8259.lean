/-
# The JSON grammar of RFC 8259, over bytes

`Chars` are the bytes between the quotes of a string, `Number` the number
texts, and `Derives .value b d u` says that `b` is one value; `d` is how deep
its arrays and objects nest and `u` whether a string in it uses a `\u`
escape. Whitespace is derived where the RFC allows it around the structural
characters. `Text` adds what the RFC asks of a whole text: valid UTF-8, and
whitespace around one value.

`Decodes raw s` is the meaning of a string: the bytes `s` (UTF-8) that the
text `raw` between the quotes stands for.

Key definitions: `Chars`, `Decodes`, `Number`, `Derives`, `Text`.
-/
import Pktlab.Lib.Utf8
import Mathlib.Data.List.TakeWhile

namespace Rfc8259

open Utf8

/-- `ws`: space, tab, line feed, carriage return. -/
def isWs (c : UInt8) : Bool :=
  c = ascii ' ' || c = ascii '\n' || c = ascii '\r' || c = ascii '\t'

def Ws (w : List UInt8) : Prop := ∀ c ∈ w, isWs c = true

instance (w : List UInt8) : Decidable (Ws w) := inferInstanceAs (Decidable (∀ c ∈ w, isWs c = true))

def isDigit (c : UInt8) : Bool := ascii '0' ≤ c && c ≤ ascii '9'

def hexValue (c : UInt8) : Option ℕ :=
  if isDigit c then some (c.toNat - 0x30)
  else if ascii 'a' ≤ c && c ≤ ascii 'f' then some (c.toNat - 0x57)
  else if ascii 'A' ≤ c && c ≤ ascii 'F' then some (c.toNat - 0x37)
  else none

/-- What a backslash and `e` stand for, `\u` apart. -/
def unescape (e : UInt8) : Option UInt8 :=
  if e = ascii '"' then some (ascii '"')
  else if e = ascii '\\' then some (ascii '\\')
  else if e = ascii '/' then some (ascii '/')
  else if e = ascii 'b' then some 0x08
  else if e = ascii 'f' then some 0x0C
  else if e = ascii 'n' then some 0x0A
  else if e = ascii 'r' then some 0x0D
  else if e = ascii 't' then some 0x09
  else none

/-- A byte that stands for itself: no control character, no quote, no
backslash. The bytes of multi-byte characters are among them. -/
def isPlain (c : UInt8) : Bool := 0x20 ≤ c && c != ascii '"' && c != ascii '\\'

/-- The bytes between the quotes of a string; `u` says that a `\u` escape
occurs. -/
inductive Chars : List UInt8 → Bool → Prop
  | nil : Chars [] false
  | plain {c : UInt8} {b : List UInt8} {u : Bool} : isPlain c = true → Chars b u → Chars (c :: b) u
  | esc {e x : UInt8} {b : List UInt8} {u : Bool} :
      unescape e = some x → Chars b u → Chars (ascii '\\' :: e :: b) u
  | uni {h1 h2 h3 h4 : UInt8} {b : List UInt8} {u : Bool} :
      (hexValue h1).isSome → (hexValue h2).isSome → (hexValue h3).isSome → (hexValue h4).isSome →
      Chars b u → Chars (ascii '\\' :: ascii 'u' :: h1 :: h2 :: h3 :: h4 :: b) true

/-- The code unit of four hexadecimal digits. -/
def codeUnit (h1 h2 h3 h4 : UInt8) : Option ℕ := do
  let a ← hexValue h1
  let b ← hexValue h2
  let c ← hexValue h3
  let d ← hexValue h4
  pure (((a * 16 + b) * 16 + c) * 16 + d)

/-- The bytes a string's text stands for. A `\u` escape stands for one
character, or two of them for a surrogate pair. -/
inductive Decodes : List UInt8 → List UInt8 → Prop
  | nil : Decodes [] []
  | plain {c : UInt8} {b s : List UInt8} : isPlain c = true → Decodes b s → Decodes (c :: b) (c :: s)
  | esc {e x : UInt8} {b s : List UInt8} :
      unescape e = some x → Decodes b s → Decodes (ascii '\\' :: e :: b) (x :: s)
  | uni {h1 h2 h3 h4 : UInt8} {n : ℕ} {b s : List UInt8} :
      codeUnit h1 h2 h3 h4 = some n → ¬ (0xD800 ≤ n ∧ n ≤ 0xDFFF) → Decodes b s →
      Decodes (ascii '\\' :: ascii 'u' :: h1 :: h2 :: h3 :: h4 :: b)
        (String.utf8EncodeChar (Char.ofNat n) ++ s)
  | pair {h1 h2 h3 h4 l1 l2 l3 l4 : UInt8} {m n : ℕ} {b s : List UInt8} :
      codeUnit h1 h2 h3 h4 = some m → codeUnit l1 l2 l3 l4 = some n →
      0xD800 ≤ m → m ≤ 0xDBFF → 0xDC00 ≤ n → n ≤ 0xDFFF → Decodes b s →
      Decodes (ascii '\\' :: ascii 'u' :: h1 :: h2 :: h3 :: h4 ::
          ascii '\\' :: ascii 'u' :: l1 :: l2 :: l3 :: l4 :: b)
        (String.utf8EncodeChar (Char.ofNat (0x10000 + (m - 0xD800) * 0x400 + (n - 0xDC00))) ++ s)

def Digits (b : List UInt8) : Prop := b ≠ [] ∧ ∀ c ∈ b, isDigit c = true

/-- `number = [ minus ] int [ frac ] [ exp ]`. -/
structure NumberParts where
  minus : List UInt8
  int : List UInt8
  frac : List UInt8
  exp : List UInt8
  minus_ok : minus = [] ∨ minus = [ascii '-']
  int_ok : int = [ascii '0'] ∨ (Digits int ∧ int.head? ≠ some (ascii '0'))
  frac_ok : frac = [] ∨ ∃ ds, frac = ascii '.' :: ds ∧ Digits ds
  exp_ok : exp = [] ∨ ∃ e sign ds, exp = e :: sign ++ ds ∧ (e = ascii 'e' ∨ e = ascii 'E') ∧
    (sign = [] ∨ sign = [ascii '+'] ∨ sign = [ascii '-']) ∧ Digits ds

def NumberParts.text (n : NumberParts) : List UInt8 := n.minus ++ n.int ++ n.frac ++ n.exp

def Number (b : List UInt8) : Prop := ∃ n : NumberParts, b = n.text

/-- A string with its quotes. -/
def quoted (b : List UInt8) : List UInt8 := ascii '"' :: b ++ [ascii '"']

/-- The nonterminals: a value, the members of a non-empty object, the
elements of a non-empty array. -/
inductive Nt
  | value
  | members
  | elements

/-- `Derives nt b d u`: `b` is an `nt` whose containers nest `d` deep; `u`
says that a string in it uses a `\u` escape. -/
inductive Derives : Nt → List UInt8 → ℕ → Bool → Prop
  | literal {b : List UInt8} : b ∈ [utf8 "true", utf8 "false", utf8 "null"] →
      Derives .value b 0 false
  | number {b : List UInt8} : Number b → Derives .value b 0 false
  | string {b : List UInt8} {u : Bool} : Chars b u → Derives .value (quoted b) 0 u
  | emptyObject {w : List UInt8} : Ws w →
      Derives .value (ascii '{' :: w ++ [ascii '}']) 1 false
  | object {b : List UInt8} {d : ℕ} {u : Bool} : Derives .members b d u →
      Derives .value (ascii '{' :: b ++ [ascii '}']) (d + 1) u
  | emptyArray {w : List UInt8} : Ws w →
      Derives .value (ascii '[' :: w ++ [ascii ']']) 1 false
  | array {b : List UInt8} {d : ℕ} {u : Bool} : Derives .elements b d u →
      Derives .value (ascii '[' :: b ++ [ascii ']']) (d + 1) u
  | member {w1 k w2 w3 v w4 : List UInt8} {d : ℕ} {u u' : Bool} :
      Ws w1 → Chars k u → Ws w2 → Ws w3 → Derives .value v d u' → Ws w4 →
      Derives .members (w1 ++ quoted k ++ w2 ++ [ascii ':'] ++ w3 ++ v ++ w4) d (u || u')
  | members {w1 k w2 w3 v w4 b : List UInt8} {d d' : ℕ} {u u' u'' : Bool} :
      Ws w1 → Chars k u → Ws w2 → Ws w3 → Derives .value v d u' → Ws w4 →
      Derives .members b d' u'' →
      Derives .members (w1 ++ quoted k ++ w2 ++ [ascii ':'] ++ w3 ++ v ++ w4 ++ ascii ',' :: b)
        (max d d') (u || u' || u'')
  | element {w1 v w2 : List UInt8} {d : ℕ} {u : Bool} :
      Ws w1 → Derives .value v d u → Ws w2 → Derives .elements (w1 ++ v ++ w2) d u
  | elements {w1 v w2 b : List UInt8} {d d' : ℕ} {u u' : Bool} :
      Ws w1 → Derives .value v d u → Ws w2 → Derives .elements b d' u' →
      Derives .elements (w1 ++ v ++ w2 ++ ascii ',' :: b) (max d d') (u || u')

/-- A JSON text: one value, whitespace around it, in valid UTF-8. -/
def Text (b : List UInt8) : Prop :=
  IsUtf8 b ∧ ∃ w v w' d u, Ws w ∧ Derives .value v d u ∧ Ws w' ∧ b = w ++ v ++ w'

/-! ### Facts about the pieces -/

theorem isPlain_not_quote {c : UInt8} (h : isPlain c = true) : c ≠ ascii '"' := by
  intro he
  subst he
  exact absurd h (by decide)

theorem isPlain_not_backslash {c : UInt8} (h : isPlain c = true) : c ≠ ascii '\\' := by
  intro he
  subst he
  exact absurd h (by decide)

theorem unescape_u : unescape (ascii 'u') = none := by decide

theorem Ws.nil : Ws [] := fun _ h => by simp at h

theorem Ws.append {a b : List UInt8} (ha : Ws a) (hb : Ws b) : Ws (a ++ b) := fun c hc =>
  (List.mem_append.mp hc).elim (ha c) (hb c)

theorem Ws.of_prefix {a b : List UInt8} (h : a <+: b) (hb : Ws b) : Ws a :=
  fun c hc => hb c (h.subset hc)

/-- Every text of characters that decodes is one. -/
theorem Decodes.chars {b s : List UInt8} (h : Decodes b s) : ∃ u, Chars b u := by
  have hex : ∀ {h1 h2 h3 h4 : UInt8} {n : ℕ}, codeUnit h1 h2 h3 h4 = some n →
      (hexValue h1).isSome ∧ (hexValue h2).isSome ∧ (hexValue h3).isSome ∧ (hexValue h4).isSome := by
    intro h1 h2 h3 h4 n h
    simp only [codeUnit, Option.bind_eq_bind, Option.bind_eq_some_iff] at h
    obtain ⟨a, ha, b, hb, c, hc, d, hd, -⟩ := h
    simp [ha, hb, hc, hd]
  induction h with
  | nil => exact ⟨_, .nil⟩
  | plain hc _ ih => exact ⟨_, .plain hc ih.choose_spec⟩
  | esc he _ ih => exact ⟨_, .esc he ih.choose_spec⟩
  | uni hn _ _ ih =>
    obtain ⟨a, b, c, d⟩ := hex hn
    exact ⟨_, .uni a b c d ih.choose_spec⟩
  | pair hm hn _ _ _ _ _ ih =>
    obtain ⟨a, b, c, d⟩ := hex hm
    obtain ⟨a', b', c', d'⟩ := hex hn
    exact ⟨_, .uni a b c d (.uni a' b' c' d' ih.choose_spec)⟩

/-- Without a `\u` escape every text of characters decodes. -/
theorem Chars.decodes {b : List UInt8} {u : Bool} (h : Chars b u) (hu : u = false) :
    ∃ s, Decodes b s := by
  induction h with
  | nil => exact ⟨[], .nil⟩
  | plain hc _ ih => exact ⟨_, .plain hc (ih hu).choose_spec⟩
  | esc he _ ih => exact ⟨_, .esc he (ih hu).choose_spec⟩
  | uni => simp at hu

theorem decodes_plain_inv {c : UInt8} {b s : List UInt8} (hc : isPlain c = true)
    (h : Decodes (c :: b) s) : ∃ s', s = c :: s' ∧ Decodes b s' := by
  have hb := isPlain_not_backslash hc
  cases h with
  | plain _ h => exact ⟨_, rfl, h⟩
  | esc => exact absurd rfl hb
  | uni => exact absurd rfl hb
  | pair => exact absurd rfl hb

theorem decodes_esc_inv {e x : UInt8} {b s : List UInt8} (he : unescape e = some x)
    (h : Decodes (ascii '\\' :: e :: b) s) : ∃ s', s = x :: s' ∧ Decodes b s' := by
  have hu : e ≠ ascii 'u' := by
    rintro rfl
    rw [unescape_u] at he
    cases he
  cases h with
  | plain hc => exact absurd rfl (isPlain_not_backslash hc)
  | esc he' h =>
    rw [he] at he'
    cases he'
    exact ⟨_, rfl, h⟩
  | uni => exact absurd rfl hu
  | pair => exact absurd rfl hu

/-- A `\u` escape stands for at least one byte. -/
theorem decodes_uni_inv {b s : List UInt8} (h : Decodes (ascii '\\' :: ascii 'u' :: b) s) : s ≠ [] := by
  have hchar : ∀ (c : Char) (t : List UInt8), String.utf8EncodeChar c ++ t ≠ [] := fun c t heq =>
    String.utf8EncodeChar_ne_nil (List.append_eq_nil_iff.mp heq).1
  cases h with
  | plain hc => exact absurd rfl (isPlain_not_backslash hc)
  | esc he =>
    rw [unescape_u] at he
    cases he
  | uni => exact hchar _ _
  | pair => exact hchar _ _

end Rfc8259
