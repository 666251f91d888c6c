/-
# The grammar of the lcores

`_parse_lcore_spec` (`config/validation.py`) against the language it is for:
pieces between commas, each a numeral or an ascending range of numerals, that
stand for disjoint sets of CPUs (`LcoreSpec`).

On ASCII texts whose numerals `int` can read, the parser knows this language
exactly, reports one issue for any other text, and returns the CPUs in the
order they are written, as many as are denoted. There is one exception: a
range is expanded before anything limits its size, so a text whose ranges
outgrow a list raises instead (`parseLcoreSpec_exact_iff`).

Key definitions: `IsNumeral`, `Denotes`, `LcoreSpec`, `denoted`, `ParsedExactly`.
Key theorems: `exists_denotes_iff`, `lcoreSpec_iff`, `parseLcoreSpec_exact_iff`.
-/
import Pktlab.Ctrld.SilentRuntime
import Mathlib.Data.List.Forall2
import Mathlib.Order.Interval.Finset.Nat

namespace Pktlab
namespace Ctrld

open Python

/-! ### The language -/

/-- A decimal numeral. -/
def IsNumeral (text : Str) : Prop := asciiDigits.isdigit text = true

/-- What a numeral stands for. -/
def numeralValue (text : Str) : ℕ := asciiDigits.value text

/-- A piece stands for the CPUs from `range.1` to `range.2`. -/
inductive Denotes : Str → ℕ × ℕ → Prop
  | numeral {text : Str} : IsNumeral text → Denotes text (numeralValue text, numeralValue text)
  | range {startText endText : Str} : IsNumeral startText → IsNumeral endText →
      numeralValue startText ≤ numeralValue endText →
      Denotes (startText ++ .char '-' :: endText) (numeralValue startText, numeralValue endText)

/-- The CPUs of a range, in order. -/
def rangeCpus (range : ℕ × ℕ) : List ℕ := List.range' range.1 (range.2 + 1 - range.1)

/-- A specification: the pieces of a text between commas, trimmed and without
the blank ones, stand for disjoint ranges. -/
structure LcoreSpec (value : Str) (ranges : List (ℕ × ℕ)) : Prop where
  pieces : lcoreTokens value ≠ []
  denotes : List.Forall₂ Denotes (lcoreTokens value) ranges
  disjoint : ranges.Pairwise fun r s => r.2 < s.1 ∨ s.2 < r.1

/-- The set of CPUs that is denoted. -/
def denoted (ranges : List (ℕ × ℕ)) : Finset ℕ :=
  ranges.toFinset.biUnion fun range => Finset.Icc range.1 range.2

/-- A text in ASCII. -/
def Ascii (text : Str) : Prop := ∀ c ∈ text, c.ord < 0x80

/-- No numeral of the text is longer than `int` reads. -/
def ShortNumerals (value : Str) : Prop :=
  ∀ token ∈ lcoreTokens value, ∀ text ∈ numerals token, IsNumeral text → text.length ≤ maxStrDigits

/-! ### ASCII -/

section Ascii

variable {py : Interpreter} {text : Str}

/-- In ASCII all interpreters know the same digits. -/
theorem digits_ascii {c : CodePoint} (h : c.ord < 0x80) :
    py.digits.digit c = asciiDigits.digit c ∧ py.digits.decimal c = asciiDigits.decimal c := by
  cases c with
  | surrogate n =>
    rw [CodePoint.ord] at h
    omega
  | char c =>
    obtain ⟨hdigit, hdecimal⟩ := py.digits.ascii c h
    obtain ⟨hdigit', hdecimal'⟩ := asciiDigits.ascii c h
    exact ⟨hdigit.trans hdigit'.symm, hdecimal.trans hdecimal'.symm⟩

theorem isdigit_ascii (h : Ascii text) : py.digits.isdigit text = true ↔ IsNumeral text := by
  unfold IsNumeral DigitTable.isdigit
  simp only [Bool.and_eq_true, List.all_eq_true]
  exact and_congr_right fun _ => forall₂_congr fun c hc => by rw [(digits_ascii (h c hc)).1]

theorem value_ascii (h : Ascii text) : py.digits.value text = numeralValue text := by
  unfold numeralValue DigitTable.value
  refine List.foldl_ext _ _ _ fun n c hc => ?_
  rw [(digits_ascii (h c hc)).2]

theorem IsNumeral.digits (h : IsNumeral text) {c : CodePoint} (hc : c ∈ text) : asciiDigits.digit c = true :=
  List.all_eq_true.mp (Bool.and_eq_true_iff.mp h).2 c hc

theorem IsNumeral.noDash (h : IsNumeral text) : .char '-' ∉ text := fun hdash =>
  absurd (h.digits hdash) (by decide)

theorem IsNumeral.decimal (hnumeral : IsNumeral text) (h : Ascii text) :
    ∀ c ∈ text, (py.digits.decimal c).isSome := by
  intro c hc
  have hdigit := hnumeral.digits hc
  rw [(digits_ascii (h c hc)).2]
  cases c with
  | surrogate n => cases hdigit
  | char c =>
    have hchar : c.isDigit = true := hdigit
    rw [(asciiDigits.ascii c (h _ hc)).2, if_pos hchar]
    rfl

theorem lcoreTokens_ascii {value : Str} (h : Ascii value) {token : Str}
    (htoken : token ∈ lcoreTokens value) : Ascii token := by
  unfold lcoreTokens at htoken
  obtain ⟨part, hpart, rfl⟩ := List.mem_map.mp (List.mem_filter.mp htoken).1
  exact fun c hc => h c (mem_of_mem_splitAll hpart (mem_of_mem_strip hc))

theorem numerals_ascii {token : Str} (h : Ascii token) (htext : text ∈ numerals token) :
    Ascii text := by
  unfold numerals at htext
  cases hsplit : splitFirst (.char '-') token with
  | none =>
    rw [hsplit] at htext
    obtain rfl := List.mem_singleton.mp htext
    exact h
  | some parts =>
    obtain ⟨startText, endText⟩ := parts
    rw [hsplit] at htext
    rw [splitFirst_eq_some hsplit] at h
    rcases List.mem_cons.mp htext with rfl | htext
    · exact fun c hc => h c (List.mem_append_left _ hc)
    · obtain rfl := List.mem_singleton.mp htext
      exact fun c hc => h c (List.mem_append_right _ (List.mem_cons_of_mem _ hc))

end Ascii

/-! ### Pieces -/

section Pieces

variable {py : Interpreter} {token : Str}

/-- What a piece denotes is what the parser reads it as. -/
theorem Denotes.read {range : ℕ × ℕ} (h : Denotes token range) (hascii : Ascii token) :
    Numeric py token ∧ 0 < cpus py token ∧ expand py token = rangeCpus range := by
  cases h with
  | numeral hnumeral =>
    have hsplit := splitFirst_eq_none hnumeral.noDash
    refine ⟨?_, ?_, ?_⟩
    · unfold Numeric numerals
      rw [hsplit]
      exact List.forall_mem_singleton.mpr ((isdigit_ascii hascii).mpr hnumeral)
    · unfold cpus
      rw [hsplit]
      exact Nat.one_pos
    · unfold expand rangeCpus
      rw [hsplit, value_ascii hascii, Nat.add_sub_cancel_left]
      rfl
  | @range startText endText hstart hend hle =>
    have hsplit : splitFirst (.char '-') (startText ++ .char '-' :: endText) = some (startText, endText) :=
      splitFirst_append hstart.noDash
    have hasciiStart : Ascii startText := fun c hc => hascii c (List.mem_append_left _ hc)
    have hasciiEnd : Ascii endText := fun c hc =>
      hascii c (List.mem_append_right _ (List.mem_cons_of_mem _ hc))
    have hcpus : cpus py (startText ++ .char '-' :: endText) =
        numeralValue endText + 1 - numeralValue startText := by
      unfold cpus
      rw [hsplit, ← value_ascii hasciiStart, ← value_ascii hasciiEnd]
    refine ⟨?_, by rw [hcpus]; omega, ?_⟩
    · unfold Numeric numerals
      rw [hsplit]
      exact List.forall_mem_cons.mpr ⟨(isdigit_ascii hasciiStart).mpr hstart,
        List.forall_mem_singleton.mpr ((isdigit_ascii hasciiEnd).mpr hend)⟩
    · unfold expand
      rw [hsplit, hcpus]
      show List.range' (py.digits.value startText) _ = _
      rw [value_ascii hasciiStart]
      rfl

/-- A piece that the parser reads denotes a range. -/
theorem exists_denotes (hascii : Ascii token) (hnumeric : Numeric py token) (hcpus : 0 < cpus py token) :
    ∃ range, Denotes token range := by
  unfold Numeric numerals at hnumeric
  unfold cpus at hcpus
  cases hsplit : splitFirst (.char '-') token with
  | none =>
    rw [hsplit] at hnumeric
    exact ⟨_, .numeral ((isdigit_ascii hascii).mp (hnumeric token (List.mem_singleton.mpr rfl)))⟩
  | some parts =>
    obtain ⟨startText, endText⟩ := parts
    rw [hsplit] at hnumeric hcpus
    obtain rfl := splitFirst_eq_some hsplit
    have hasciiStart : Ascii startText := fun c hc => hascii c (List.mem_append_left _ hc)
    have hasciiEnd : Ascii endText := fun c hc =>
      hascii c (List.mem_append_right _ (List.mem_cons_of_mem _ hc))
    obtain ⟨hstart, hend⟩ := List.forall_mem_cons.mp hnumeric
    simp only [value_ascii hasciiStart, value_ascii hasciiEnd] at hcpus
    exact ⟨_, .range ((isdigit_ascii hasciiStart).mp hstart)
      ((isdigit_ascii hasciiEnd).mp (hend endText (List.mem_singleton.mpr rfl))) (by omega)⟩

theorem Denotes.le {range : ℕ × ℕ} (h : Denotes token range) : range.1 ≤ range.2 := by
  cases h with
  | numeral _ => exact le_rfl
  | range _ _ hle => exact hle

/-- The numerals of a piece can be read when none of them is too long. -/
theorem Numeric.readable {value : Str} (hascii : Ascii value) (hshort : ShortNumerals value)
    (htoken : token ∈ lcoreTokens value) (h : Numeric py token) : Readable py token := by
  intro text htext
  have hasciiText := numerals_ascii (lcoreTokens_ascii hascii htoken) htext
  have hnumeral := (isdigit_ascii hasciiText).mp (h text htext)
  exact ⟨hnumeral.decimal hasciiText, hshort token htoken text htext hnumeral⟩

end Pieces

/-! ### Specifications -/

theorem mem_rangeCpus {range : ℕ × ℕ} {n : ℕ} : n ∈ rangeCpus range ↔ range.1 ≤ n ∧ n ≤ range.2 := by
  unfold rangeCpus
  rw [List.mem_range'_1]
  omega

theorem disjoint_rangeCpus_iff {r s : ℕ × ℕ} (hr : r.1 ≤ r.2) (hs : s.1 ≤ s.2) :
    List.Disjoint (rangeCpus r) (rangeCpus s) ↔ r.2 < s.1 ∨ s.2 < r.1 := by
  constructor
  · intro h
    by_contra hmeet
    have hbefore : max r.1 s.1 ∈ rangeCpus r := mem_rangeCpus.mpr ⟨le_max_left _ _, by omega⟩
    exact h hbefore (mem_rangeCpus.mpr ⟨le_max_right _ _, by omega⟩)
  · intro h n hr' hs'
    rw [mem_rangeCpus] at hr' hs'
    omega

/-- The CPUs of ranges are distinct when the ranges are disjoint. -/
theorem nodup_cpus_iff {ranges : List (ℕ × ℕ)} (h : ∀ range ∈ ranges, range.1 ≤ range.2) :
    (ranges.flatMap rangeCpus).Nodup ↔ ranges.Pairwise fun r s => r.2 < s.1 ∨ s.2 < r.1 := by
  have hnodup : ∀ range ∈ ranges, (rangeCpus range).Nodup := fun range _ => List.nodup_range'
  rw [List.nodup_flatMap, and_iff_right hnodup]
  exact List.Pairwise.iff_of_mem fun hr hs => disjoint_rangeCpus_iff (h _ hr) (h _ hs)

theorem denotes_flatMap {py : Interpreter} : ∀ {tokens : List Str} {ranges : List (ℕ × ℕ)},
    (∀ token ∈ tokens, Ascii token) → List.Forall₂ Denotes tokens ranges →
      tokens.flatMap (expand py) = ranges.flatMap rangeCpus
  | [], [], _, .nil => rfl
  | token :: tokens, range :: ranges, hascii, .cons h hrest => by
    rw [List.flatMap_cons, List.flatMap_cons, (h.read (hascii token List.mem_cons_self)).2.2,
      denotes_flatMap (fun t ht => hascii t (List.mem_cons_of_mem _ ht)) hrest]

theorem denotes_le : ∀ {tokens : List Str} {ranges : List (ℕ × ℕ)},
    List.Forall₂ Denotes tokens ranges → ∀ range ∈ ranges, range.1 ≤ range.2
  | _, _, .nil, _, hrange => absurd hrange List.not_mem_nil
  | _, _, .cons h hrest, range, hrange => by
    rcases List.mem_cons.mp hrange with rfl | hrange
    · exact h.le
    · exact denotes_le hrest range hrange

theorem exists_denotes_all {py : Interpreter} : ∀ {tokens : List Str},
    (∀ token ∈ tokens, Ascii token) → (∀ token ∈ tokens, Numeric py token ∧ 0 < cpus py token) →
      ∃ ranges, List.Forall₂ Denotes tokens ranges
  | [], _, _ => ⟨[], .nil⟩
  | token :: tokens, hascii, h => by
    obtain ⟨hnumeric, hcpus⟩ := h token List.mem_cons_self
    obtain ⟨range, hrange⟩ := exists_denotes (hascii token List.mem_cons_self) hnumeric hcpus
    obtain ⟨ranges, hranges⟩ := exists_denotes_all
      (fun t ht => hascii t (List.mem_cons_of_mem _ ht)) fun t ht => h t (List.mem_cons_of_mem _ ht)
    exact ⟨range :: ranges, .cons hrange hranges⟩

theorem denotes_read (py : Interpreter) : ∀ {tokens : List Str} {ranges : List (ℕ × ℕ)},
    (∀ token ∈ tokens, Ascii token) → List.Forall₂ Denotes tokens ranges →
      ∀ token ∈ tokens, Numeric py token ∧ 0 < cpus py token
  | _, _, _, .nil, _, htoken => absurd htoken List.not_mem_nil
  | _, _, hascii, .cons h hrest, token, htoken => by
    rcases List.mem_cons.mp htoken with rfl | htoken
    · obtain ⟨hnumeric, hcpus, -⟩ := h.read (hascii token List.mem_cons_self)
      exact ⟨hnumeric, hcpus⟩
    · exact denotes_read py (fun t ht => hascii t (List.mem_cons_of_mem _ ht)) hrest token htoken

section Spec

variable (py : Interpreter) {value : Str}

theorem LcoreSpec.cpus {ranges : List (ℕ × ℕ)} (h : LcoreSpec value ranges) (hascii : Ascii value) :
    (lcoreTokens value).flatMap (expand py) = ranges.flatMap rangeCpus :=
  denotes_flatMap (fun _ => lcoreTokens_ascii hascii) h.denotes

theorem LcoreSpec.nodup {ranges : List (ℕ × ℕ)} (h : LcoreSpec value ranges) :
    (ranges.flatMap rangeCpus).Nodup := (nodup_cpus_iff (denotes_le h.denotes)).mpr h.disjoint

/-- As many CPUs are listed as are denoted. -/
theorem LcoreSpec.length {ranges : List (ℕ × ℕ)} (h : LcoreSpec value ranges) :
    (ranges.flatMap rangeCpus).length = (denoted ranges).card := by
  have hset : (ranges.flatMap rangeCpus).toFinset = denoted ranges := by
    ext n
    simp only [List.mem_toFinset, List.mem_flatMap, denoted, Finset.mem_biUnion, Finset.mem_Icc,
      mem_rangeCpus]
  rw [← hset, List.toFinset_card_of_nodup h.nodup]

/-- **The language**, as the parser tests it. -/
theorem lcoreSpec_iff (hascii : Ascii value) (hshort : ShortNumerals value) :
    (∃ ranges, LcoreSpec value ranges) ↔ lcoreTokens value ≠ [] ∧
      (∀ token ∈ lcoreTokens value, Numeric py token ∧ Readable py token ∧ 0 < Ctrld.cpus py token) ∧
      ((lcoreTokens value).flatMap (expand py)).Nodup := by
  have htokens : ∀ token ∈ lcoreTokens value, Ascii token := fun _ => lcoreTokens_ascii hascii
  constructor
  · rintro ⟨ranges, h⟩
    refine ⟨h.pieces, fun token htoken => ?_, (h.cpus py hascii) ▸ h.nodup⟩
    obtain ⟨hnumeric, hcpus⟩ := denotes_read py htokens h.denotes token htoken
    exact ⟨hnumeric, hnumeric.readable hascii hshort htoken, hcpus⟩
  · rintro ⟨hpieces, hread, hnodup⟩
    obtain ⟨ranges, hranges⟩ := exists_denotes_all htokens fun token htoken =>
      ⟨(hread token htoken).1, (hread token htoken).2.2⟩
    rw [denotes_flatMap htokens hranges] at hnodup
    exact ⟨ranges, hpieces, hranges, (nodup_cpus_iff (denotes_le hranges)).mp hnodup⟩

end Spec

/-! ### The parser -/

/-- What is to be returned for a text. -/
structure Answers (value : Str) (issues : List ValidationIssue) (ids : List ℕ) : Prop where
  silent_iff : issues = [] ↔ ∃ ranges, LcoreSpec value ranges
  cpus : ∀ ranges, LcoreSpec value ranges → ids = ranges.flatMap rangeCpus
  one : issues = [] ∨ ∃ issue, issues = [issue]

/-- The parser answers, and the runtime that is derived counts the CPUs. -/
structure ParsedExactly (py : Interpreter) (value : Str) : Prop where
  answers : ∀ path, ∃ issues ids, parseLcoreSpec py value path = .ok (issues, ids) ∧
    Answers value issues ids
  lcoreCount : ∀ ranges, LcoreSpec value ranges →
    ∀ (pathPrefix : String) (requested : DpdkProcessConfigModel) (portCount : ℕ)
      (issues : List ValidationIssue) (effective : EffectiveDpdkRuntimeModel),
      requested.effectiveLcores = value →
      deriveEffectiveDpdkRuntimeInto pathPrefix requested py portCount = .ok (issues, effective) →
      effective.lcoreCount = (denoted ranges).card

section Parser

variable {py : Interpreter} {value : Str}

/-- Pieces that are read and fit a list have their CPUs in one. -/
theorem LcoresFit.length_le {tokens : List Str} (h : LcoresFit py 0 tokens) (hne : tokens ≠ [])
    (hread : ∀ token ∈ tokens, Numeric py token ∧ 0 < cpus py token) :
    (tokens.flatMap (expand py)).length ≤ py.listCap := by
  have hlength : (tokens.flatMap (expand py)).length = (tokens.map (cpus py)).sum := by
    rw [List.length_flatMap]
    exact congrArg List.sum (List.map_congr_left fun token _ => length_expand token)
  -- the last piece is where the list is longest
  obtain ⟨before, token, rfl⟩ : ∃ before token, tokens = before ++ [token] :=
    ⟨_, _, (List.dropLast_append_getLast hne).symm⟩
  have hbefore : ∀ t ∈ before, Numeric py t ∧ 0 < cpus py t := fun t ht =>
    hread t (List.mem_append_left _ ht)
  have hfit := (h before token [] rfl hbefore (hread token (by simp)).1).2
  rw [hlength]
  omega

/-- A text of the language that does not raise is read as what it denotes. -/
theorem parse_of_spec (hascii : Ascii value) (hshort : ShortNumerals value)
    {ranges : List (ℕ × ℕ)} (hspec : LcoreSpec value ranges) (hsafe : LcoresSafe py value) (path : String) :
    parseLcoreSpec py value path = .ok ([], ranges.flatMap rangeCpus) := by
  obtain ⟨hpieces, hread, hnodup⟩ := (lcoreSpec_iff py hascii hshort).mp ⟨ranges, hspec⟩
  have hlen := hsafe.length_le hpieces fun token htoken => ⟨(hread token htoken).1, (hread token htoken).2.2⟩
  rw [← hspec.cpus py hascii]
  exact parseLcoreSpec_silent.mpr ⟨hpieces, hread, rfl, hnodup, hlen⟩

/-- What the parser returns is right. -/
theorem answers_of_parse (hascii : Ascii value) (hshort : ShortNumerals value) {path : String}
    {issues : List ValidationIssue} {ids : List ℕ}
    (h : parseLcoreSpec py value path = .ok (issues, ids)) : Answers value issues ids := by
  have hsafe : LcoresSafe py value := (parseLcoreSpec_returns value path).mp ⟨_, h⟩
  have hspec : ∀ ranges, LcoreSpec value ranges → issues = [] ∧ ids = ranges.flatMap rangeCpus := by
    intro ranges hranges
    rw [parse_of_spec hascii hshort hranges hsafe path] at h
    cases h
    exact ⟨rfl, rfl⟩
  refine ⟨⟨?_, fun ⟨ranges, hranges⟩ => (hspec ranges hranges).1⟩,
    fun ranges hranges => (hspec ranges hranges).2, ?_⟩
  · rintro rfl
    obtain ⟨hpieces, hread, hids, hnodup, -⟩ := parseLcoreSpec_silent.mp h
    exact (lcoreSpec_iff py hascii hshort).mpr ⟨hpieces, hread, hids ▸ hnodup⟩
  · rcases parseLcoreSpec_issues h with hnil | ⟨code, message, hone⟩
    · exact .inl hnil
    · exact .inr ⟨_, hone⟩

/-- The runtime counts the CPUs that the parser returned. -/
theorem lcoreCount_of_derive (hascii : Ascii value) (hshort : ShortNumerals value)
    {ranges : List (ℕ × ℕ)} (hspec : LcoreSpec value ranges) {pathPrefix : String}
    {requested : DpdkProcessConfigModel} {portCount : ℕ} {issues : List ValidationIssue}
    {effective : EffectiveDpdkRuntimeModel} (hvalue : requested.effectiveLcores = value)
    (h : deriveEffectiveDpdkRuntimeInto pathPrefix requested py portCount = .ok (issues, effective)) :
    effective.lcoreCount = (denoted ranges).card := by
  unfold deriveEffectiveDpdkRuntimeInto at h
  simp only [bind_eq_ok, Except.ok.injEq, Prod.mk.injEq] at h
  obtain ⟨⟨issuesLcores, ids⟩, hlcores, _, -, _, -, _, -, _, -, made, hmake, -, rfl⟩ := h
  rw [hvalue] at hlcores
  have hids := (answers_of_parse hascii hshort hlcores).cpus ranges hspec
  have hlen := hspec.length
  have hne : ids ≠ [] := by
    rw [hids, ← hspec.cpus py hascii]
    obtain ⟨hpieces, hread, -⟩ := (lcoreSpec_iff py hascii hshort).mp ⟨ranges, hspec⟩
    exact expand_ne_nil hpieces fun token htoken => (hread token htoken).2.2
  rw [make_eq_ok hmake]
  simp only [if_neg hne]
  rw [hids, hlen]

/-- **Exact lcore parsing.** On ASCII texts with numerals that `int` reads,
the parser does what it is for exactly when the CPUs it lists, up to the first
piece it rejects, fit a list. -/
theorem parseLcoreSpec_exact_iff (py : Interpreter) {value : Str} (hascii : Ascii value)
    (hshort : ShortNumerals value) : ParsedExactly py value ↔ LcoresSafe py value := by
  constructor
  · intro h
    obtain ⟨issues, ids, hparse, -⟩ := h.answers ""
    exact (parseLcoreSpec_returns value "").mp ⟨_, hparse⟩
  · intro hsafe
    refine ⟨fun path => ?_, fun ranges hspec pathPrefix requested portCount issues effective hvalue h =>
      lcoreCount_of_derive hascii hshort hspec hvalue h⟩
    obtain ⟨⟨issues, ids⟩, hparse⟩ := (parseLcoreSpec_returns value path).mpr hsafe
    exact ⟨issues, ids, hparse, answers_of_parse hascii hshort hparse⟩

end Parser

instance (text : Str) : Decidable (IsNumeral text) :=
  inferInstanceAs (Decidable (asciiDigits.isdigit text = true))

instance (text : Str) : Decidable (Ascii text) :=
  inferInstanceAs (Decidable (∀ c ∈ text, c.ord < 0x80))

instance (value : Str) : Decidable (ShortNumerals value) :=
  inferInstanceAs (Decidable (∀ token ∈ lcoreTokens value, ∀ text ∈ numerals token,
    IsNumeral text → text.length ≤ maxStrDigits))

theorem parseLcoreSpec_exact_sample :
    Ascii " 0-2,08," ∧ ShortNumerals " 0-2,08," ∧
    parseLcoreSpec asciiInterpreter " 0-2,08," "lcores" = .ok ([], [0, 1, 2, 8]) ∧
    ParsedExactly asciiInterpreter " 0-2,08," := by
  have hascii : Ascii " 0-2,08," := by decide
  have hshort : ShortNumerals " 0-2,08," := by decide
  have hparse : parseLcoreSpec asciiInterpreter " 0-2,08," "lcores" = .ok ([], [0, 1, 2, 8]) := by
    decide +kernel
  exact ⟨hascii, hshort, hparse, (parseLcoreSpec_exact_iff asciiInterpreter hascii hshort).mpr
    ((parseLcoreSpec_returns _ "lcores").mp ⟨_, hparse⟩)⟩

/-- A range that is longer than a list can be raises an `OverflowError`. -/
theorem endless_range_raises :
    ¬∀ (py : Interpreter) (value : Str), Ascii value → ShortNumerals value →
      ParsedExactly py value := by
  intro h
  obtain ⟨issues, ids, hparse, -⟩ :=
    (h asciiInterpreter "0-99999999999999999999" (by decide) (by decide)).answers "lcores"
  have hraises : parseLcoreSpec asciiInterpreter "0-99999999999999999999" "lcores" =
      .error .overflowError := by decide +kernel
  rw [hraises] at hparse
  cases hparse

end Ctrld
end Pktlab
