/-
# What Python's built-in types do

The operations on `str`, `int` and `float` that a Python program can lean on
without importing anything, as CPython 3.11 and later carry them out. A
`ValueError` or an `OverflowError` is `none`.

* `CodePoint`, `Str`: a `str` is a list of code points, surrogates among them;
  one without surrogates is a list of characters, and can be encoded.
* `strip`, `splitAll`, `splitFirst`: `str.strip()`, `str.split(sep)`,
  `str.split(sep, 1)`, for lists of either.
* `DigitTable`: which characters `str.isdigit` accepts and which of them
  `int()` can read; the two differ (superscripts, circled digits), and which
  characters there are depends on the Unicode version of the interpreter.
* `intOfStr`, `strOfInt`: both refuse more than `maxStrDigits` digits.
* `ceilTrueDivPow2`: `math.ceil(a / 2 ** k)`, through the nearest double.
* `setdefault`: `dict.setdefault`.
* `IPv4Network`, `IPv4Interface`, `IpResult`: the values of `ipaddress`.
-/
import Pktlab.Lib.Utf8
import Mathlib.Data.Nat.Size
import Mathlib.Data.List.TakeWhile
import Mathlib.Tactic

namespace Python

/-! ### Code points -/

/-- A code point of a `str`: a character or a surrogate. -/
inductive CodePoint
  | char (c : Char)
  | surrogate (n : Fin 0x800)
  deriving DecidableEq, Repr

instance : Coe Char CodePoint := ⟨.char⟩

/-- `ord(c)`. -/
def CodePoint.ord : CodePoint → ℕ
  | .char c => c.toNat
  | .surrogate n => 0xD800 + n.val

def CodePoint.toChar? : CodePoint → Option Char
  | .char c => some c
  | .surrogate _ => none

/-- `str`. -/
abbrev Str := List CodePoint

instance : Coe String Str := ⟨fun s => s.toList.map .char⟩

namespace Str

/-- No surrogates are in the string, so it can be encoded. -/
def Encodable (s : Str) : Prop := ∀ c ∈ s, c.toChar?.isSome

instance (s : Str) : Decidable s.Encodable := inferInstanceAs (Decidable (∀ c ∈ s, c.toChar?.isSome))

/-- The characters of a string; there is nothing else in one that can be
encoded. -/
def text (s : Str) : String := String.ofList (s.filterMap CodePoint.toChar?)

end Str

/-! ### Strings -/

/-- `str.isspace` of one character. -/
def isSpace (c : Char) : Bool :=
  (0x09 ≤ c.toNat && c.toNat ≤ 0x0D) || (0x1C ≤ c.toNat && c.toNat ≤ 0x20) || c.toNat == 0x85 ||
    c.toNat == 0xA0 || c.toNat == 0x1680 || (0x2000 ≤ c.toNat && c.toNat ≤ 0x200A) ||
    c.toNat == 0x2028 || c.toNat == 0x2029 || c.toNat == 0x202F || c.toNat == 0x205F ||
    c.toNat == 0x3000

/-- `str.isspace` of one code point. -/
def CodePoint.isSpace : CodePoint → Bool
  | .char c => Python.isSpace c
  | .surrogate _ => false

/-- `str.strip()`, where `space` says what is white space. -/
def strip {α : Type} (space : α → Bool) (s : List α) : List α :=
  ((s.dropWhile space).reverse.dropWhile space).reverse

section Split

variable {α : Type} [DecidableEq α]

/-- `str.split(sep)` for one character. -/
def splitAll (sep : α) : List α → List (List α)
  | [] => [[]]
  | c :: s =>
    if c = sep then [] :: splitAll sep s
    else
      match splitAll sep s with
      | [] => [[c]]
      | part :: parts => (c :: part) :: parts

/-- `str.partition(sep)`: what is before and after the first `sep`, if there
is one. -/
def splitFirst (sep : α) : List α → Option (List α × List α)
  | [] => none
  | c :: s => if c = sep then some ([], s) else (splitFirst sep s).map fun p => (c :: p.1, p.2)

end Split

/-- The line boundaries of `str.splitlines`. -/
def isLineBreak (c : Char) : Bool :=
  (0x0A ≤ c.toNat && c.toNat ≤ 0x0D) || (0x1C ≤ c.toNat && c.toNat ≤ 0x1E) || c.toNat == 0x85 ||
    c.toNat == 0x2028 || c.toNat == 0x2029

/-- `str.splitlines()`, up to empty lines. -/
def splitLines : List Char → List (List Char)
  | [] => [[]]
  | c :: s =>
    if isLineBreak c then [] :: splitLines s
    else
      match splitLines s with
      | [] => [[c]]
      | line :: lines => (c :: line) :: lines

/-- `line.split()[0]`, if the line has a word. -/
def firstWord (line : List Char) : Option (List Char) :=
  match (line.dropWhile isSpace).takeWhile fun c => !isSpace c with
  | [] => none
  | word => some word

/-! ### Dictionaries -/

/-- `d.setdefault(k, v)`: the dictionary afterwards and the value under `k`. -/
def setdefault {κ ν : Type} [BEq κ] (d : List (κ × ν)) (k : κ) (v : ν) : List (κ × ν) × ν :=
  match d.lookup k with
  | some w => (d, w)
  | none => ((k, v) :: d, v)

/-! ### Values of `ipaddress` -/

/-- `IPv4Address`. -/
abbrev IPv4Address := BitVec 32

/-- `IPv4Network`: its address and its prefix length. -/
structure IPv4Network where
  address : IPv4Address
  prefixlen : Fin 33
  deriving DecidableEq

/-- `IPv4Interface`. -/
structure IPv4Interface where
  ip : IPv4Address
  network : IPv4Network
  deriving DecidableEq

/-- `network.netmask`. -/
def IPv4Network.netmask (n : IPv4Network) : IPv4Address := BitVec.allOnes 32 <<< (32 - n.prefixlen.val)

/-- `address in network`. -/
def IPv4Network.contains (n : IPv4Network) (a : IPv4Address) : Bool := a &&& n.netmask == n.address

/-- What `ip_address`, `ip_interface` and `ip_network` do with a string: they
raise `ValueError`, or return a value of version 6 or of version 4. -/
inductive IpResult (α : Type)
  | invalid
  | v6
  | v4 (value : α)

/-! ### Integers as text -/

/-- The code points with a digit value, and the value of those that are decimal
digits. -/
structure DigitTable where
  digit : CodePoint → Bool
  decimal : CodePoint → Option ℕ
  /-- a decimal digit is a digit, with a value below ten -/
  decimal_digit : ∀ c d, decimal c = some d → digit c = true ∧ d < 10
  /-- in ASCII there are the ten digits and no others -/
  ascii : ∀ c : Char, c.toNat < 0x80 → digit c = c.isDigit ∧
    decimal c = if c.isDigit then some (c.toNat - 0x30) else none
  surrogate : ∀ n, digit (.surrogate n) = false

/-- `str.isdigit()`. -/
def DigitTable.isdigit (t : DigitTable) (s : Str) : Bool := !s.isEmpty && s.all t.digit

/-- The default of `sys.set_int_max_str_digits`. -/
def maxStrDigits : ℕ := 4300

/-- The number a string of decimal digits denotes. -/
def DigitTable.value (t : DigitTable) (s : Str) : ℕ :=
  s.foldl (fun n c => 10 * n + (t.decimal c).getD 0) 0

/-- `int(s)` of a non-empty string without sign, spaces and underscores. -/
def DigitTable.intOfStr (t : DigitTable) (s : Str) : Option ℕ :=
  if (∀ c ∈ s, (t.decimal c).isSome) ∧ s.length ≤ maxStrDigits then some (t.value s) else none

/-- `str(n)`. -/
def strOfInt (n : ℕ) : Option String := if n < 10 ^ maxStrDigits then some (toString n) else none

/-- The digits of ASCII alone. -/
def asciiDigits : DigitTable where
  digit c := c.toChar?.any Char.isDigit
  decimal c := (c.toChar?.filter Char.isDigit).map fun c => c.toNat - 0x30
  decimal_digit := by
    intro c d h
    obtain ⟨c, hdigit, rfl⟩ := Option.map_eq_some_iff.mp h
    obtain ⟨hchar, hc⟩ := Option.filter_eq_some_iff.mp hdigit
    have hle : c.toNat ≤ 0x39 := by
      simp only [Char.isDigit, Bool.and_eq_true, decide_eq_true_eq] at hc
      exact hc.2
    rw [hchar]
    exact ⟨hc, by omega⟩
  ascii := by
    intro c _
    refine ⟨rfl, ?_⟩
    cases hc : c.isDigit with
    | false => simp [CodePoint.toChar?, hc]
    | true => simp [CodePoint.toChar?, hc]
  surrogate _ := rfl

/-! ### True division -/

/-- The nearest integer to `a / b`, ties to even. -/
def roundDiv (a b : ℕ) : ℕ :=
  if 2 * (a % b) > b ∨ (2 * (a % b) = b ∧ a / b % 2 = 1) then a / b + 1 else a / b

/-- The integer nearest to `n` among those with 53 significant bits. -/
def nearestDouble (n : ℕ) : ℕ := roundDiv n (2 ^ (n.size - 53)) * 2 ^ (n.size - 53)

/-- `math.ceil(a / 2 ** k)`: scaling by a power of two is exact, so the
quotient is the nearest double to `a`, scaled; it is too large for a double
from `2 ** 1024` on. -/
def ceilTrueDivPow2 (a k : ℕ) : Option ℕ :=
  if nearestDouble a < 2 ^ (1024 + k) then some ((nearestDouble a + (2 ^ k - 1)) / 2 ^ k) else none

theorem roundDiv_le (a b : ℕ) : roundDiv a b ≤ a / b + 1 := by
  unfold roundDiv
  split <;> omega

theorem le_roundDiv (a b : ℕ) : a / b ≤ roundDiv a b := by
  unfold roundDiv
  split <;> omega

section Split

variable {α : Type} [DecidableEq α]

theorem splitFirst_eq_some {sep : α} : ∀ {s before after : List α},
    splitFirst sep s = some (before, after) → s = before ++ sep :: after
  | [], _, _, h => by cases h
  | c :: s, before, after, h => by
    unfold splitFirst at h
    split at h
    · rename_i hc
      cases h
      rw [hc]
      rfl
    · obtain ⟨⟨b, a⟩, hsplit, hp⟩ := Option.map_eq_some_iff.mp h
      cases hp
      rw [splitFirst_eq_some hsplit]
      rfl

/-- The first separator: there is none before it. -/
theorem splitFirst_eq_some_iff {sep : α} : ∀ {s before after : List α},
    splitFirst sep s = some (before, after) ↔ s = before ++ sep :: after ∧ sep ∉ before
  | [], before, after => by simp [splitFirst]
  | c :: s, before, after => by
    unfold splitFirst
    by_cases hc : c = sep
    · subst hc
      rw [if_pos rfl]
      constructor
      · intro h
        cases h
        exact ⟨rfl, List.not_mem_nil⟩
      · rintro ⟨h, hmem⟩
        cases before with
        | nil =>
          cases h
          rfl
        | cons b before =>
          cases h
          exact absurd List.mem_cons_self hmem
    · rw [if_neg hc]
      cases before with
      | nil =>
        refine iff_of_false (fun h => ?_) fun h => hc (List.cons.inj h.1).1
        obtain ⟨p, -, hp⟩ := Option.map_eq_some_iff.mp h
        cases hp
      | cons b before =>
        rw [Option.map_eq_some_iff, List.cons_append, List.cons.injEq, List.mem_cons, not_or]
        constructor
        · rintro ⟨⟨b', a'⟩, h, heq⟩
          cases heq
          obtain ⟨hs, hmem⟩ := splitFirst_eq_some_iff.mp h
          exact ⟨⟨rfl, hs⟩, Ne.symm hc, hmem⟩
        · rintro ⟨⟨rfl, hs⟩, -, hmem⟩
          exact ⟨(before, after), splitFirst_eq_some_iff.mpr ⟨hs, hmem⟩, rfl⟩

theorem splitFirst_append {sep : α} {before after : List α} (h : sep ∉ before) :
    splitFirst sep (before ++ sep :: after) = some (before, after) :=
  splitFirst_eq_some_iff.mpr ⟨rfl, h⟩

/-- Without a separator there is nothing to split. -/
theorem splitFirst_eq_none {sep : α} {s : List α} (h : sep ∉ s) : splitFirst sep s = none := by
  cases hsplit : splitFirst sep s with
  | none => rfl
  | some parts =>
    rw [splitFirst_eq_some hsplit] at h
    exact absurd (List.mem_append_right _ List.mem_cons_self) h

theorem splitAll_eq_singleton {sep : α} : ∀ {s : List α}, sep ∉ s → splitAll sep s = [s]
  | [], _ => rfl
  | c :: s, h => by
    rw [List.mem_cons, not_or] at h
    rw [splitAll, if_neg (Ne.symm h.1), splitAll_eq_singleton h.2]

/-- A character other than the separator is in one of the parts. -/
theorem mem_splitAll {sep c : α} : ∀ {s : List α}, c ∈ s → c ≠ sep → ∃ part ∈ splitAll sep s, c ∈ part
  | [], h, _ => by cases h
  | d :: s, h, hne => by
    unfold splitAll
    rcases List.mem_cons.mp h with rfl | h
    · rw [if_neg hne]
      split
      · exact ⟨_, List.mem_singleton.mpr rfl, List.mem_singleton.mpr rfl⟩
      · exact ⟨_, List.mem_cons_self, List.mem_cons_self⟩
    · obtain ⟨part, hpart, hc⟩ := mem_splitAll h hne
      split
      · exact ⟨part, List.mem_cons_of_mem _ hpart, hc⟩
      · split
        · rename_i hnil
          rw [hnil] at hpart
          cases hpart
        · rename_i head tail hcons
          rw [hcons] at hpart
          rcases List.mem_cons.mp hpart with rfl | hpart
          · exact ⟨_, List.mem_cons_self, List.mem_cons_of_mem _ hc⟩
          · exact ⟨part, List.mem_cons_of_mem _ hpart, hc⟩

/-- The parts hold no other characters. -/
theorem mem_of_mem_splitAll {sep c : α} : ∀ {s part : List α}, part ∈ splitAll sep s → c ∈ part → c ∈ s
  | [], part, h, hc => by
    obtain rfl := List.mem_singleton.mp h
    exact hc
  | d :: s, part, h, hc => by
    unfold splitAll at h
    split at h
    · rcases List.mem_cons.mp h with rfl | h
      · cases hc
      · exact List.mem_cons_of_mem _ (mem_of_mem_splitAll h hc)
    · split at h
      · obtain rfl := List.mem_singleton.mp h
        obtain rfl := List.mem_singleton.mp hc
        exact List.mem_cons_self
      · rename_i first parts hparts
        rcases List.mem_cons.mp h with rfl | h
        · rcases List.mem_cons.mp hc with rfl | hc
          · exact List.mem_cons_self
          · exact List.mem_cons_of_mem _ (mem_of_mem_splitAll (hparts ▸ List.mem_cons_self) hc)
        · exact List.mem_cons_of_mem _ (mem_of_mem_splitAll (hparts ▸ List.mem_cons_of_mem _ h) hc)

end Split

section Strip

variable {α : Type} {space : α → Bool} {c : α} {s : List α}

theorem mem_dropWhile (h : c ∈ s) (hc : space c = false) : c ∈ s.dropWhile space := by
  rw [← List.takeWhile_append_dropWhile (p := space) (l := s)] at h
  rcases List.mem_append.mp h with h | h
  · exact absurd (List.mem_takeWhile_imp h) (by simp [hc])
  · exact h

theorem mem_strip (h : c ∈ s) (hc : space c = false) : c ∈ strip space s := by
  unfold strip
  rw [List.mem_reverse]
  exact mem_dropWhile (List.mem_reverse.mpr (mem_dropWhile h hc)) hc

theorem mem_of_mem_strip (h : c ∈ strip space s) : c ∈ s := by
  unfold strip at h
  rw [List.mem_reverse] at h
  exact (List.dropWhile_suffix _).mem (List.mem_reverse.mp ((List.dropWhile_suffix _).mem h))

end Strip

theorem Str.mem_text {s : Str} {c : Char} : c ∈ s.text.toList ↔ .char c ∈ s := by
  unfold Str.text
  rw [String.toList_ofList, List.mem_filterMap]
  constructor
  · rintro ⟨d, hd, hc⟩
    cases d with
    | surrogate n => cases hc
    | char d =>
      cases hc
      exact hd
  · exact fun h => ⟨_, h, rfl⟩

/-- The characters of a string that can be encoded are all of it. -/
theorem Str.coe_text {s : Str} (h : s.Encodable) : (s.text : Str) = s := by
  unfold Str.text
  rw [String.toList_ofList]
  induction s with
  | nil => rfl
  | cons c s ih =>
    obtain ⟨hc, hs⟩ := List.forall_mem_cons.mp h
    cases c with
    | surrogate n => cases hc
    | char c => exact congrArg (CodePoint.char c :: ·) (ih hs)

theorem isSpace_of_isLineBreak {c : Char} (h : isLineBreak c = true) : isSpace c = true := by
  simp only [isLineBreak, isSpace, Bool.or_eq_true, Bool.and_eq_true, decide_eq_true_eq, beq_iff_eq] at *
  omega

/-- A string without white space is one line. -/
theorem splitLines_of_noSpace : ∀ {s : List Char}, (∀ c ∈ s, isSpace c = false) → splitLines s = [s]
  | [], _ => rfl
  | c :: s, h => by
    obtain ⟨hc, hs⟩ := List.forall_mem_cons.mp h
    have hbreak : isLineBreak c ≠ true := fun hb => by simp [isSpace_of_isLineBreak hb] at hc
    rw [splitLines, if_neg hbreak, splitLines_of_noSpace hs]

/-- A string without white space is its own first word. -/
theorem firstWord_of_noSpace {s : List Char} (h : ∀ c ∈ s, isSpace c = false) (hne : s ≠ []) :
    firstWord s = some s := by
  have hdrop : s.dropWhile isSpace = s := by
    cases s with
    | nil => rfl
    | cons c s => exact List.dropWhile_cons_of_neg (by simp [h c List.mem_cons_self])
  have htake : (s.takeWhile fun c => !isSpace c) = s :=
    List.takeWhile_eq_self_iff.mpr fun c hc => by simp [h c hc]
  unfold firstWord
  rw [hdrop, htake]
  cases s with
  | nil => exact absurd rfl hne
  | cons c s => rfl

/-- A word has no white space. -/
theorem noSpace_of_firstWord {line word : List Char} (h : firstWord line = some word) :
    ∀ c ∈ word, isSpace c = false := by
  unfold firstWord at h
  split at h
  · cases h
  · cases h
    intro c hc
    simpa using List.mem_takeWhile_imp hc

/-- A key that is there keeps its value; a new one is added. -/
theorem setdefault_cases {κ ν : Type} [BEq κ] [LawfulBEq κ] (d : List (κ × ν)) (k : κ) (v : ν) :
    (∃ w, (k, w) ∈ d ∧ setdefault d k v = (d, w)) ∨
      ((∀ p ∈ d, p.1 ≠ k) ∧ setdefault d k v = ((k, v) :: d, v)) := by
  unfold setdefault
  cases h : d.lookup k with
  | some w =>
    obtain ⟨l₁, l₂, rfl, -⟩ := List.lookup_eq_some_iff.mp h
    exact Or.inl ⟨w, by simp, rfl⟩
  | none =>
    refine Or.inr ⟨fun p hp heq => ?_, rfl⟩
    exact absurd (List.lookup_eq_none_iff.mp h p hp) (by simp [heq])

theorem lt_pow_maxStrDigits {n k : ℕ} (hk : k ≤ maxStrDigits) (h : n < 10 ^ k) : n < 10 ^ maxStrDigits :=
  h.trans_le (Nat.pow_le_pow_right (by omega) hk)

theorem two_pow_le_pow_maxStrDigits {k : ℕ} (hk : k ≤ maxStrDigits) : 2 ^ k ≤ 10 ^ maxStrDigits :=
  (Nat.pow_le_pow_left (by omega) k).trans (Nat.pow_le_pow_right (by omega) hk)

/-- An integer with at most 53 significant bits is a double. -/
theorem nearestDouble_eq {n : ℕ} (h : n < 2 ^ 53) : nearestDouble n = n := by
  have hsize : n.size - 53 = 0 := Nat.sub_eq_zero_of_le (Nat.size_le.mpr h)
  unfold nearestDouble roundDiv
  rw [hsize, pow_zero, Nat.mod_one]
  simp

/-- Below a power of two, rounding does not leave it behind. -/
theorem nearestDouble_le_of_size (n : ℕ) : nearestDouble n ≤ 2 ^ n.size := by
  have hsplit : 2 ^ n.size = 2 ^ (n.size - (n.size - 53)) * 2 ^ (n.size - 53) := by
    rw [← pow_add]
    congr 1
    omega
  have hdiv : n / 2 ^ (n.size - 53) < 2 ^ (n.size - (n.size - 53)) := by
    rw [Nat.div_lt_iff_lt_mul (by positivity), ← hsplit]
    exact Nat.lt_size_self n
  have hround := roundDiv_le n (2 ^ (n.size - 53))
  unfold nearestDouble
  calc roundDiv n (2 ^ (n.size - 53)) * 2 ^ (n.size - 53)
      ≤ 2 ^ (n.size - (n.size - 53)) * 2 ^ (n.size - 53) := Nat.mul_le_mul_right _ (by omega)
    _ = 2 ^ n.size := hsplit.symm

theorem le_nearestDouble_of_size {n k : ℕ} (hk : k < n.size) : 2 ^ k ≤ nearestDouble n := by
  have hn : 2 ^ (n.size - 1) ≤ n := Nat.lt_size.mp (by omega)
  have hsplit : 2 ^ (n.size - 1) = 2 ^ (n.size - 1 - (n.size - 53)) * 2 ^ (n.size - 53) := by
    rw [← pow_add]
    congr 1
    omega
  have hdiv : 2 ^ (n.size - 1 - (n.size - 53)) ≤ n / 2 ^ (n.size - 53) := by
    rw [Nat.le_div_iff_mul_le (by positivity), ← hsplit]
    exact hn
  calc 2 ^ k ≤ 2 ^ (n.size - 1) := Nat.pow_le_pow_right (by omega) (by omega)
    _ = 2 ^ (n.size - 1 - (n.size - 53)) * 2 ^ (n.size - 53) := hsplit
    _ ≤ nearestDouble n := Nat.mul_le_mul_right _ (hdiv.trans (le_roundDiv _ _))

/-- With a full significand only the last half unit rounds up to the next power. -/
theorem roundDiv_lt_pow {n P : ℕ} (hn : n < 2 ^ 53 * (2 * P)) :
    roundDiv n (2 * P) < 2 ^ 53 ↔ n < 2 ^ 53 * (2 * P) - P := by
  have hP : 0 < P := by
    rcases Nat.eq_zero_or_pos P with rfl | h
    · simp at hn
    · exact h
  have hq : n / (2 * P) < 2 ^ 53 := by
    rwa [Nat.div_lt_iff_lt_mul (by omega)]
  have hr : n % (2 * P) < 2 * P := Nat.mod_lt _ (by omega)
  have hn' : 2 * P * (n / (2 * P)) + n % (2 * P) = n := Nat.div_add_mod n (2 * P)
  by_cases hlast : n / (2 * P) = 2 ^ 53 - 1
  · -- the last quotient is odd, so a tie rounds up
    unfold roundDiv
    rw [hlast] at hn' ⊢
    split <;> omega
  · have hround := roundDiv_le n (2 * P)
    have hmul : 2 * P * (n / (2 * P) + 1) ≤ 2 * P * (2 ^ 53 - 1) :=
      Nat.mul_le_mul_left _ (by omega)
    rw [Nat.mul_add] at hmul
    refine iff_of_true (by omega) (by omega)

/-- Rounding to a double reaches `2 ^ K` from half a unit in the last place
below it. -/
theorem nearestDouble_lt {n K : ℕ} (hK : 54 ≤ K) :
    nearestDouble n < 2 ^ K ↔ n < 2 ^ K - 2 ^ (K - 54) := by
  have hpow : 2 ^ K = 2 ^ 53 * (2 * 2 ^ (K - 54)) := by
    rw [← pow_succ', ← pow_add]
    congr 1
    omega
  rcases lt_trichotomy n.size K with hs | hs | hs
  · have hn : n < 2 ^ (K - 1) := Nat.size_le.mp (by omega)
    have hhalf : 2 ^ K = 2 * 2 ^ (K - 1) := by
      rw [← pow_succ']
      congr 1
      omega
    have hulp : 2 ^ (K - 54) ≤ 2 ^ (K - 1) := Nat.pow_le_pow_right (by omega) (by omega)
    refine iff_of_true ?_ (by omega)
    exact (nearestDouble_le_of_size n).trans_lt (Nat.pow_lt_pow_right (by omega) hs)
  · have he : 2 ^ (n.size - 53) = 2 * 2 ^ (K - 54) := by
      rw [← pow_succ']
      congr 1
      omega
    have hn : n < 2 ^ 53 * (2 * 2 ^ (K - 54)) := by
      rw [← hpow, ← hs]
      exact Nat.lt_size_self n
    unfold nearestDouble
    rw [he, hpow, Nat.mul_lt_mul_right (by positivity)]
    exact roundDiv_lt_pow hn
  · refine iff_of_false (Nat.not_lt.mpr (le_nearestDouble_of_size hs)) ?_
    have hn : 2 ^ K ≤ n := Nat.lt_size.mp hs
    omega

/-- The quotient overflows from half a unit below `2 ** 1024` on. -/
theorem ceilTrueDivPow2_isSome {a k : ℕ} :
    (∃ c, ceilTrueDivPow2 a k = some c) ↔ a < 2 ^ (1024 + k) - 2 ^ (970 + k) := by
  have hexp : 1024 + k - 54 = 970 + k := by omega
  rw [← hexp, ← nearestDouble_lt (by omega)]
  unfold ceilTrueDivPow2
  split <;> simp [*]

theorem ceilTrueDivPow2_le {a k c : ℕ} (h : ceilTrueDivPow2 a k = some c) : c ≤ 2 ^ 1024 := by
  unfold ceilTrueDivPow2 at h
  split at h
  · rename_i hlt
    rw [Option.some.injEq] at h
    rw [← h]
    have hpos : 0 < 2 ^ k := by positivity
    rw [pow_add] at hlt
    apply Nat.le_of_lt_succ
    rw [Nat.div_lt_iff_lt_mul hpos, Nat.succ_mul]
    omega
  · cases h

end Python
