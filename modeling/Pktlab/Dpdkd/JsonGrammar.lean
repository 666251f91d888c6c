/-
# Values of the grammar under the skippers

For a value `b` of RFC 8259 whose containers nest `d` deep:

* `skipValue_iff`: on `b` and what may follow it the skipper succeeds exactly
  when `b` has no `\u` escape and nests within the limit, and then it stops at
  the end of `b`;
* `derives_cuts`: on a prefix of `b` with nothing behind it it does not
  succeed, or what it leaves closes no container (a number that is cut off).

Each is an induction on the derivation, with the members of an object and the
elements of an array beside the values; the loops enter it through
`objectLoop_eq_ok` and `arrayLoop_eq_ok`, which say once what a turn that
succeeds has done.
-/
import Pktlab.Dpdkd.JsonLeaves

namespace Pktlab
namespace Dpdkd
namespace JsonProto

open Utf8 Rfc8259

/-! ### One turn of each skipper -/

theorem skipValue_skipWs (fuel depth : ℕ) (json : List UInt8) :
    skipValue fuel depth (skipWs json) = skipValue fuel depth json := by
  cases fuel with
  | zero => rw [skipValue, skipValue]
  | succ fuel => rw [skipValue, skipValue, skipWs_skipWs]

theorem skipValue_ws {w : List UInt8} (hw : Ws w) (fuel depth : ℕ) (json : List UInt8) :
    skipValue fuel depth (w ++ json) = skipValue fuel depth json := by
  rw [← skipValue_skipWs fuel depth (w ++ json), skipWs_ws_append hw, skipValue_skipWs]

theorem objectLoop_eq_ok {fuel depth : ℕ} {json r : List UInt8} :
    objectLoop (fuel + 1) depth true json = .ok r ↔
      eat '}' (skipWs json) = some r ∨
      (eat '}' (skipWs json) = none ∧ ∃ j1 j2 j3, (parseString 0 json).2 = .ok j1 ∧
        eat ':' (skipWs j1) = some j2 ∧ skipValue fuel (depth + 1) j2 = .ok j3 ∧
        ((∃ j4, eat ',' (skipWs j3) = some j4 ∧ objectLoop fuel depth true j4 = .ok r) ∨
          (eat ',' (skipWs j3) = none ∧ eat '}' (skipWs j3) = some r))) := by
  have hps : ∀ json, parseString 0 (skipWs json) = parseString 0 json := fun json => by
    rw [parseString, parseString, skipWs_skipWs]
  cases json with
  | nil =>
    rw [objectLoop]
    simp [skipWs, reject, parseString]
  | cons b json =>
    rw [objectLoop]
    cases h0 : eat '}' (skipWs (b :: json)) with
    | some r' => simp
    | none =>
      simp only [reduceCtorEq, false_or, true_and, Bool.not_true, Bool.false_eq_true, ↓reduceIte, hps]
      cases h1 : (parseString 0 (b :: json)).2 with
      | error e => simp
      | ok j1 =>
        cases h2 : eat ':' (skipWs j1) with
        | none => simp [h2, reject]
        | some j2 =>
          cases h3 : skipValue fuel (depth + 1) j2 with
          | error e => simp [h2, h3]
          | ok j3 =>
            cases h4 : eat ',' (skipWs j3) with
            | some j4 => simp [h2, h3, h4]
            | none =>
              cases h5 : eat '}' (skipWs j3) with
              | some j4 => simp [h2, h3, h4, h5]
              | none => simp [h2, h3, h4, h5, reject]

theorem arrayLoop_eq_ok {fuel depth : ℕ} {json r : List UInt8} :
    arrayLoop (fuel + 1) depth json = .ok r ↔
      eat ']' (skipWs json) = some r ∨
      (json ≠ [] ∧ eat ']' (skipWs json) = none ∧ ∃ j1, skipValue fuel (depth + 1) json = .ok j1 ∧
        ((∃ j2, eat ',' (skipWs j1) = some j2 ∧ arrayLoop fuel depth j2 = .ok r) ∨
          (eat ',' (skipWs j1) = none ∧ eat ']' (skipWs j1) = some r))) := by
  cases json with
  | nil =>
    rw [arrayLoop]
    simp [skipWs, reject]
  | cons b json =>
    rw [arrayLoop]
    cases h0 : eat ']' (skipWs (b :: json)) with
    | some r' => simp
    | none =>
      simp only [reduceCtorEq, false_or, true_and, skipValue_skipWs, ne_eq, not_false_eq_true]
      cases h1 : skipValue fuel (depth + 1) (b :: json) with
      | error e => simp
      | ok j1 =>
        cases h2 : eat ',' (skipWs j1) with
        | some j2 => simp [h2]
        | none =>
          cases h3 : eat ']' (skipWs j1) with
          | some j2 => simp [h2, h3]
          | none => simp [h2, h3, reject]

theorem skipValue_brace (fuel depth : ℕ) (json : List UInt8) :
    skipValue (fuel + 2) depth (ascii '{' :: json) =
      if depth > maxNesting then reject "JSON nesting exceeds the supported limit"
      else objectLoop fuel depth true json := by
  have hw : skipWs (ascii '{' :: json) = ascii '{' :: json := skipWs_of_not_ws (by decide) json
  rw [skipValue, hw]
  simp only [↓reduceIte]
  rw [skipObject, hw, eat_self]

theorem skipValue_bracket (fuel depth : ℕ) (json : List UInt8) :
    skipValue (fuel + 2) depth (ascii '[' :: json) =
      if depth > maxNesting then reject "JSON nesting exceeds the supported limit"
      else arrayLoop fuel depth json := by
  have hw : skipWs (ascii '[' :: json) = ascii '[' :: json := skipWs_of_not_ws (by decide) json
  have hne : ascii '[' ≠ ascii '{' := by decide
  rw [skipValue, hw]
  simp only [hne, ↓reduceIte]
  rw [skipArray, hw, eat_self]

theorem skipValue_quote (fuel depth : ℕ) (json : List UInt8) :
    skipValue (fuel + 1) depth (ascii '"' :: json) = (stringLoop 0 json []).2 := by
  have hw : skipWs (ascii '"' :: json) = ascii '"' :: json := skipWs_of_not_ws (by decide) json
  have h1 : ascii '"' ≠ ascii '{' := by decide
  have h2 : ascii '"' ≠ ascii '[' := by decide
  rw [skipValue, hw]
  simp only [h1, h2, ↓reduceIte]
  rw [parseString, hw, eat_self]

/-- A byte that starts a number selects `skipNumber`. -/
theorem skipValue_number {b : UInt8} (hb : isDigit b = true ∨ b = ascii '-') (fuel depth : ℕ)
    (json : List UInt8) : skipValue (fuel + 1) depth (b :: json) = skipNumber (b :: json) := by
  have hne : ∀ c : UInt8, isDigit c = false → c ≠ ascii '-' → b ≠ c := by
    rintro c h1 h2 rfl
    rcases hb with hb | hb
    · rw [hb] at h1
      cases h1
    · exact h2 hb
  have hws : isWs b = false := by
    cases h : isWs b with
    | false => rfl
    | true =>
      simp only [isWs, Bool.or_eq_true, decide_eq_true_eq] at h
      rcases h with ((h | h) | h) | h <;> exact absurd h (hne _ (by decide) (by decide))
  have hnum : b = ascii '-' ∨ (ascii '0' ≤ b ∧ b ≤ ascii '9') :=
    hb.symm.imp id (isDigit_iff b).mp
  rw [skipValue, skipWs_of_not_ws hws]
  simp only [hne (ascii '{') (by decide) (by decide), hne (ascii '[') (by decide) (by decide),
    hne (ascii '"') (by decide) (by decide), hne (ascii 't') (by decide) (by decide),
    hne (ascii 'f') (by decide) (by decide), hne (ascii 'n') (by decide) (by decide), hnum, ↓reduceIte]

/-- The first byte of a number. -/
theorem number_cons (n : NumberParts) :
    ∃ b t, n.text = b :: t ∧ (isDigit b = true ∨ b = ascii '-') := by
  obtain ⟨d, ds, hint⟩ := List.exists_cons_of_ne_nil (digits_int n).1
  rcases n.minus_ok with hm | hm
  · exact ⟨d, ds ++ n.frac ++ n.exp, by simp [NumberParts.text, hm, hint],
      Or.inl ((digits_int n).2 d (by simp [hint]))⟩
  · exact ⟨ascii '-', n.int ++ n.frac ++ n.exp, by simp [NumberParts.text, hm], Or.inr rfl⟩

/-- Each of the three literals is recognised by its first byte. -/
theorem skipValue_literal {b : List UInt8} (hb : b ∈ [utf8 "true", utf8 "false", utf8 "null"]) :
    ∃ literal : String, b = utf8 literal ∧ ∀ (fuel depth : ℕ) (p : List UInt8), p ≠ [] →
      p.head? = b.head? → skipValue (fuel + 1) depth p = skipLiteral literal p := by
  have key : ∀ {literal : String} {c : UInt8} {t p : List UInt8} {fuel depth : ℕ},
      utf8 literal = c :: t → isWs c = false → c ≠ ascii '{' → c ≠ ascii '[' → c ≠ ascii '"' →
      (∀ json, (if c = ascii 't' then skipLiteral "true" json
        else if c = ascii 'f' then skipLiteral "false" json
        else if c = ascii 'n' then skipLiteral "null" json
        else reject "") = skipLiteral literal json) → (c = ascii 't' ∨ c = ascii 'f' ∨ c = ascii 'n') →
      p ≠ [] → p.head? = (utf8 literal).head? →
      skipValue (fuel + 1) depth p = skipLiteral literal p := by
    intro literal c t p fuel depth hl hw h1 h2 h3 hsel hin hp hh
    obtain ⟨a, q, rfl⟩ := List.exists_cons_of_ne_nil hp
    rw [hl, List.head?_cons, List.head?_cons, Option.some.injEq] at hh
    subst hh
    rw [skipValue, skipWs_of_not_ws hw]
    simp only [h1, h2, h3, ↓reduceIte]
    rw [← hsel (a :: q)]
    rcases hin with rfl | rfl | rfl
    · simp
    · have : ascii 'f' ≠ ascii 't' := by decide
      simp [this]
    · have h4 : ascii 'n' ≠ ascii 't' := by decide
      have h5 : ascii 'n' ≠ ascii 'f' := by decide
      simp [h4, h5]
  simp only [List.mem_cons, List.not_mem_nil, or_false] at hb
  rcases hb with rfl | rfl | rfl
  · refine ⟨"true", rfl, fun fuel depth p hp hh => ?_⟩
    exact key (c := ascii 't') (t := utf8 "rue") rfl (by decide) (by decide) (by decide) (by decide)
      (fun json => by simp) (Or.inl rfl) hp hh
  · refine ⟨"false", rfl, fun fuel depth p hp hh => ?_⟩
    have hne : ascii 'f' ≠ ascii 't' := by decide
    exact key (c := ascii 'f') (t := utf8 "alse") rfl (by decide) (by decide) (by decide) (by decide)
      (fun json => by simp [hne]) (Or.inr (Or.inl rfl)) hp hh
  · refine ⟨"null", rfl, fun fuel depth p hp hh => ?_⟩
    have h4 : ascii 'n' ≠ ascii 't' := by decide
    have h5 : ascii 'n' ≠ ascii 'f' := by decide
    exact key (c := ascii 'n') (t := utf8 "ull") rfl (by decide) (by decide) (by decide) (by decide)
      (fun json => by simp [h4, h5]) (Or.inr (Or.inr rfl)) hp hh

theorem skipLiteral_append (literal : String) (rest : List UInt8) :
    skipLiteral literal (utf8 literal ++ rest) = .ok rest := by
  rw [skipLiteral, if_neg]
  · rw [List.drop_left]
  · simp

theorem skipLiteral_short {literal : String} {p : List UInt8} (h : p.length < (utf8 literal).length) :
    skipLiteral literal p = reject "invalid JSON literal" := by
  rw [skipLiteral, if_pos (Or.inl h)]

/-! ### Complete values -/

/-- The containers of a value that starts at `depth` stay within
`maxNesting`. -/
def Fits (depth d : ℕ) : Prop := d = 0 ∨ depth + d ≤ maxNesting + 1

theorem fits_succ {depth d : ℕ} : Fits depth (d + 1) ↔ depth ≤ maxNesting ∧ Fits (depth + 1) d := by
  unfold Fits
  omega

theorem fits_max {depth d d' : ℕ} : Fits depth (max d d') ↔ Fits depth d ∧ Fits depth d' := by
  unfold Fits
  omega

theorem follows_ws {w : List UInt8} (hw : Ws w) {c : UInt8} (hc : isNumeric c = false)
    (rest : List UInt8) : Follows (w ++ c :: rest) := by
  intro b hb
  cases w with
  | nil =>
    rw [List.nil_append, List.head?_cons, Option.mem_some_iff] at hb
    rw [← hb, hc]
  | cons a w =>
    rw [List.cons_append, List.head?_cons, Option.mem_some_iff] at hb
    subst hb
    have ha := hw a List.mem_cons_self
    simp only [isWs, Bool.or_eq_true, decide_eq_true_eq] at ha
    rcases ha with ((rfl | rfl) | rfl) | rfl <;> decide

/-- A complete string that nothing stores: it is accepted unless it has a
`\u` escape. -/
theorem parseString_iff {w k : List UInt8} {u : Bool} (hw : Ws w) (hk : Chars k u)
    (rest r : List UInt8) :
    (parseString 0 (w ++ (quoted k ++ rest))).2 = .ok r ↔ r = rest ∧ u = false := by
  rw [quoted_append, parseString_quote hw]
  refine ⟨fun h => ?_, fun ⟨hr, hu⟩ => ?_⟩
  · have heq : stringLoop 0 (k ++ ascii '"' :: rest) [] = ((stringLoop 0 (k ++ ascii '"' :: rest) []).1, .ok r) :=
      Prod.ext rfl h
    obtain ⟨h1, h2, -⟩ := stringLoop_only hk 0 rest heq
    exact ⟨h1, h2⟩
  · obtain ⟨s, hs⟩ := hk.decodes hu
    rw [stringLoop_ok hk hu 0 rest hs [] (fun h => absurd h (lt_irrefl 0)), hr]

/-- What is before the value of a member: if the key is scanned at all, the
scan of the member goes on at its value. -/
theorem memberHead_iff {w1 k w2 w3 : List UInt8} {u : Bool} (h1 : Ws w1) (hk : Chars k u) (h2 : Ws w2)
    (h3 : Ws w3) (fuel depth : ℕ) (rest : List UInt8) (Q : List UInt8 → Prop) :
    (∃ j1 j2 j3, (parseString 0 (w1 ++ (quoted k ++ (w2 ++ ascii ':' :: (w3 ++ rest))))).2 = .ok j1 ∧
      eat ':' (skipWs j1) = some j2 ∧ skipValue fuel (depth + 1) j2 = .ok j3 ∧ Q j3) ↔
      u = false ∧ ∃ j3, skipValue fuel (depth + 1) rest = .ok j3 ∧ Q j3 := by
  simp only [parseString_iff h1 hk]
  refine ⟨?_, fun ⟨hu, j3, hv, hq⟩ => ⟨_, w3 ++ rest, j3, ⟨rfl, hu⟩, ?_, ?_, hq⟩⟩
  · rintro ⟨j1, j2, j3, ⟨rfl, hu⟩, hc, hv, hq⟩
    rw [eat_after_ws (by decide) h2, Option.some.injEq] at hc
    rw [← hc, skipValue_ws h3] at hv
    exact ⟨hu, j3, hv, hq⟩
  · rw [eat_after_ws (by decide) h2]
  · rw [skipValue_ws h3, hv]

/-- What the skippers do on a complete value, on the members of an object up
to its closing brace, and on the elements of an array up to its closing
bracket. -/
def Skips (d : ℕ) (u : Bool) (b : List UInt8) : Nt → Prop
  | .value => ∀ fuel depth rest r, 3 * b.length + 1 ≤ fuel → Follows rest →
      (skipValue fuel depth (b ++ rest) = .ok r ↔ r = rest ∧ u = false ∧ Fits depth d)
  | .members => ∀ fuel depth rest r, 3 * b.length + 2 ≤ fuel →
      (objectLoop fuel depth true (b ++ ascii '}' :: rest) = .ok r ↔
        r = rest ∧ u = false ∧ Fits (depth + 1) d)
  | .elements => ∀ fuel depth rest r, 3 * b.length + 2 ≤ fuel →
      (arrayLoop fuel depth (b ++ ascii ']' :: rest) = .ok r ↔
        r = rest ∧ u = false ∧ Fits (depth + 1) d)

/-- The first byte of a value: no whitespace and no closing bracket. -/
theorem value_cons {b : List UInt8} {d : ℕ} {u : Bool} (h : Derives .value b d u) :
    ∃ c t, b = c :: t ∧ isWs c = false ∧ c ≠ ascii ']' := by
  cases h with
  | literal hb =>
    simp only [List.mem_cons, List.not_mem_nil, or_false] at hb
    rcases hb with rfl | rfl | rfl
    · exact ⟨ascii 't', utf8 "rue", rfl, by decide, by decide⟩
    · exact ⟨ascii 'f', utf8 "alse", rfl, by decide, by decide⟩
    · exact ⟨ascii 'n', utf8 "ull", rfl, by decide, by decide⟩
  | number hn =>
    obtain ⟨n, rfl⟩ := hn
    obtain ⟨c, t, ht, hc⟩ := number_cons n
    refine ⟨c, t, ht, ?_, ?_⟩
    · by_contra hw
      simp only [isWs, Bool.not_eq_false, Bool.or_eq_true, decide_eq_true_eq] at hw
      rcases hw with ((rfl | rfl) | rfl) | rfl <;> revert hc <;> decide
    · rintro rfl
      revert hc
      decide
  | string _ => exact ⟨ascii '"', _, rfl, by decide, by decide⟩
  | emptyObject _ => exact ⟨ascii '{', _, rfl, by decide, by decide⟩
  | object _ => exact ⟨ascii '{', _, rfl, by decide, by decide⟩
  | emptyArray _ => exact ⟨ascii '[', _, rfl, by decide, by decide⟩
  | array _ => exact ⟨ascii '[', _, rfl, by decide, by decide⟩

theorem eat_quoted_none {c : Char} (hc : ascii '"' ≠ ascii c) {w : List UInt8} (hw : Ws w)
    (k rest : List UInt8) : eat c (skipWs (w ++ (quoted k ++ rest))) = none := by
  rw [quoted_append, skipWs_ws_append hw, skipWs_of_not_ws (by decide), eat_ne hc]

theorem eat_value_none {w b : List UInt8} {d : ℕ} {u : Bool} (hw : Ws w) (h : Derives .value b d u)
    (rest : List UInt8) : eat ']' (skipWs (w ++ (b ++ rest))) = none := by
  obtain ⟨c, t, rfl, hc, hne⟩ := value_cons h
  rw [skipWs_ws_append hw, List.cons_append, skipWs_of_not_ws hc, eat_ne hne]

/-- A character other than the one that is there. -/
theorem eat_other (c c' : Char) (hc : isWs (ascii c) = false) (hne : ascii c ≠ ascii c') {w : List UInt8}
    (hw : Ws w) (rest : List UInt8) : eat c' (skipWs (w ++ ascii c :: rest)) = none := by
  rw [skipWs_ws_append hw, skipWs_of_not_ws hc, eat_ne hne]

/-- An empty container. -/
theorem objectLoop_empty {w : List UInt8} (hw : Ws w) (fuel depth : ℕ) (rest : List UInt8) :
    objectLoop (fuel + 1) depth true (w ++ ascii '}' :: rest) = .ok rest :=
  objectLoop_eq_ok.mpr (Or.inl (eat_after_ws (by decide) hw rest))

theorem arrayLoop_empty {w : List UInt8} (hw : Ws w) (fuel depth : ℕ) (rest : List UInt8) :
    arrayLoop (fuel + 1) depth (w ++ ascii ']' :: rest) = .ok rest :=
  arrayLoop_eq_ok.mpr (Or.inl (eat_after_ws (by decide) hw rest))

theorem ok_inj {r rest : List UInt8} : (Except.ok rest : Except Fail (List UInt8)) = .ok r ↔ r = rest := by
  rw [Except.ok.injEq]
  exact eq_comm

/-- **The skippers on the grammar.** -/
theorem derives_skips {nt : Nt} {b : List UInt8} {d : ℕ} {u : Bool} (h : Derives nt b d u) :
    Skips d u b nt := by
  induction h with
  | literal hb =>
    intro fuel depth rest r hf _
    obtain ⟨fuel, rfl⟩ := Nat.exists_eq_add_of_le' (le_trans (Nat.le_add_left 1 _) hf)
    obtain ⟨literal, rfl, hlit⟩ := skipValue_literal hb
    have hne : utf8 literal ≠ [] := by
      intro he
      simp [he] at hb
      revert hb
      decide
    obtain ⟨c, t, hct⟩ := List.exists_cons_of_ne_nil hne
    rw [hlit fuel depth _ (by simp [hct]) (by simp [hct]), skipLiteral_append, ok_inj]
    simp [Fits]
  | number hn =>
    intro fuel depth rest r hf hr
    obtain ⟨fuel, rfl⟩ := Nat.exists_eq_add_of_le' (le_trans (Nat.le_add_left 1 _) hf)
    obtain ⟨n, rfl⟩ := hn
    obtain ⟨c, t, ht, hc⟩ := number_cons n
    have hstep := skipValue_number hc fuel depth (t ++ rest)
    rw [← List.cons_append, ← ht] at hstep
    rw [hstep, skipNumber_ok n hr, ok_inj]
    simp [Fits]
  | @string b u hb =>
    intro fuel depth rest r hf _
    obtain ⟨fuel, rfl⟩ := Nat.exists_eq_add_of_le' (le_trans (Nat.le_add_left 1 _) hf)
    have hp := parseString_iff Ws.nil hb rest r
    rw [quoted_append, parseString_quote Ws.nil] at hp
    rw [quoted_append, skipValue_quote, hp]
    simp [Fits]
  | @emptyObject w hw =>
    intro fuel depth rest r hf _
    simp only [List.length_append, List.length_cons] at hf
    obtain ⟨fuel, rfl⟩ := Nat.exists_eq_add_of_le' (show 3 ≤ fuel by omega)
    have he : ascii '{' :: w ++ [ascii '}'] ++ rest = ascii '{' :: (w ++ ascii '}' :: rest) := by simp
    rw [he, skipValue_brace, objectLoop_empty hw, fits_succ]
    by_cases hd : depth > maxNesting
    · simp [hd, reject, Nat.not_le.mpr hd]
    · simp [hd, Nat.not_lt.mp hd, Fits, eq_comm]
  | @object b d u _ ih =>
    intro fuel depth rest r hf _
    simp only [List.length_append, List.length_cons] at hf
    obtain ⟨fuel, rfl⟩ := Nat.exists_eq_add_of_le' (show 2 ≤ fuel by omega)
    have he : ascii '{' :: b ++ [ascii '}'] ++ rest = ascii '{' :: (b ++ ascii '}' :: rest) := by simp
    rw [he, skipValue_brace, fits_succ]
    by_cases hd : depth > maxNesting
    · simp [hd, reject, Nat.not_le.mpr hd]
    · rw [if_neg hd, ih fuel depth rest r (by omega)]
      simp [Nat.not_lt.mp hd]
  | @emptyArray w hw =>
    intro fuel depth rest r hf _
    simp only [List.length_append, List.length_cons] at hf
    obtain ⟨fuel, rfl⟩ := Nat.exists_eq_add_of_le' (show 3 ≤ fuel by omega)
    have he : ascii '[' :: w ++ [ascii ']'] ++ rest = ascii '[' :: (w ++ ascii ']' :: rest) := by simp
    rw [he, skipValue_bracket, arrayLoop_empty hw, fits_succ]
    by_cases hd : depth > maxNesting
    · simp [hd, reject, Nat.not_le.mpr hd]
    · simp [hd, Nat.not_lt.mp hd, Fits, eq_comm]
  | @array b d u _ ih =>
    intro fuel depth rest r hf _
    simp only [List.length_append, List.length_cons] at hf
    obtain ⟨fuel, rfl⟩ := Nat.exists_eq_add_of_le' (show 2 ≤ fuel by omega)
    have he : ascii '[' :: b ++ [ascii ']'] ++ rest = ascii '[' :: (b ++ ascii ']' :: rest) := by simp
    rw [he, skipValue_bracket, fits_succ]
    by_cases hd : depth > maxNesting
    · simp [hd, reject, Nat.not_le.mpr hd]
    · rw [if_neg hd, ih fuel depth rest r (by omega)]
      simp [Nat.not_lt.mp hd]
  | @member w1 k w2 w3 v w4 d u u' h1 hk h2 h3 _ h4 ih =>
    intro fuel depth rest r hf
    simp only [List.length_append, List.length_cons, quoted, List.length_nil] at hf
    obtain ⟨fuel, rfl⟩ := Nat.exists_eq_add_of_le' (show 1 ≤ fuel by omega)
    have he : w1 ++ quoted k ++ w2 ++ [ascii ':'] ++ w3 ++ v ++ w4 ++ ascii '}' :: rest =
        w1 ++ (quoted k ++ (w2 ++ ascii ':' :: (w3 ++ (v ++ (w4 ++ ascii '}' :: rest))))) := by simp
    have hv := fun j => ih fuel (depth + 1) (w4 ++ ascii '}' :: rest) j (by omega)
      (follows_ws h4 (by decide) rest)
    rw [he, objectLoop_eq_ok, eat_quoted_none (by decide) h1, memberHead_iff h1 hk h2 h3]
    simp only [hv, and_assoc, exists_eq_left, eat_after_ws (c := '}') (by decide) h4,
      eat_other '}' ',' (by decide) (by decide) h4, reduceCtorEq, false_and, exists_false,
      false_or, true_and, Option.some.injEq, Bool.or_eq_false_iff]
    tauto
  | @members w1 k w2 w3 v w4 b d d' u u' u'' h1 hk h2 h3 _ h4 _ ih ih' =>
    intro fuel depth rest r hf
    simp only [List.length_append, List.length_cons, quoted, List.length_nil] at hf
    obtain ⟨fuel, rfl⟩ := Nat.exists_eq_add_of_le' (show 1 ≤ fuel by omega)
    have he : w1 ++ quoted k ++ w2 ++ [ascii ':'] ++ w3 ++ v ++ w4 ++ ascii ',' :: b ++ ascii '}' :: rest =
        w1 ++ (quoted k ++ (w2 ++ ascii ':' :: (w3 ++ (v ++ (w4 ++ ascii ',' ::
          (b ++ ascii '}' :: rest)))))) := by simp
    have hv := fun j => ih fuel (depth + 1) (w4 ++ ascii ',' :: (b ++ ascii '}' :: rest)) j (by omega)
      (follows_ws h4 (by decide) _)
    have hb := ih' fuel depth rest r (by omega)
    rw [he, objectLoop_eq_ok, eat_quoted_none (by decide) h1, memberHead_iff h1 hk h2 h3]
    simp only [hv, hb, and_assoc, exists_eq_left, eat_after_ws (c := ',') (by decide) h4,
      reduceCtorEq, false_and, or_false, false_or, true_and, Option.some.injEq, exists_eq_left',
      Bool.or_eq_false_iff, fits_max]
    tauto
  | @element w1 v w2 d u h1 hd h2 ih =>
    intro fuel depth rest r hf
    simp only [List.length_append] at hf
    obtain ⟨fuel, rfl⟩ := Nat.exists_eq_add_of_le' (show 1 ≤ fuel by omega)
    have he : w1 ++ v ++ w2 ++ ascii ']' :: rest = w1 ++ (v ++ (w2 ++ ascii ']' :: rest)) := by simp
    have hv := fun j => ih fuel (depth + 1) (w2 ++ ascii ']' :: rest) j (by omega)
      (follows_ws h2 (by decide) rest)
    rw [he, arrayLoop_eq_ok, eat_value_none h1 hd, skipValue_ws h1]
    simp only [hv, and_assoc, exists_eq_left, eat_after_ws (c := ']') (by decide) h2,
      eat_other ']' ',' (by decide) (by decide) h2, reduceCtorEq, false_and, exists_false,
      false_or, true_and, Option.some.injEq]
    have hne : w1 ++ (v ++ (w2 ++ ascii ']' :: rest)) ≠ [] := by simp
    tauto
  | @elements w1 v w2 b d d' u u' h1 hd h2 _ ih ih' =>
    intro fuel depth rest r hf
    simp only [List.length_append, List.length_cons] at hf
    obtain ⟨fuel, rfl⟩ := Nat.exists_eq_add_of_le' (show 1 ≤ fuel by omega)
    have he : w1 ++ v ++ w2 ++ ascii ',' :: b ++ ascii ']' :: rest =
        w1 ++ (v ++ (w2 ++ ascii ',' :: (b ++ ascii ']' :: rest))) := by simp
    have hv := fun j => ih fuel (depth + 1) (w2 ++ ascii ',' :: (b ++ ascii ']' :: rest)) j (by omega)
      (follows_ws h2 (by decide) _)
    have hb := ih' fuel depth rest r (by omega)
    rw [he, arrayLoop_eq_ok, eat_value_none h1 hd, skipValue_ws h1]
    simp only [hv, hb, and_assoc, exists_eq_left, eat_after_ws (c := ',') (by decide) h2,
      reduceCtorEq, false_and, or_false, false_or, true_and, Option.some.injEq, exists_eq_left',
      Bool.or_eq_false_iff, fits_max]
    have hne : w1 ++ (v ++ (w2 ++ ascii ',' :: (b ++ ascii ']' :: rest))) ≠ [] := by simp
    tauto

/-- The skipper on a complete value. -/
theorem skipValue_iff {b : List UInt8} {d : ℕ} {u : Bool} (h : Derives .value b d u) {fuel : ℕ}
    (depth : ℕ) {rest : List UInt8} (r : List UInt8) (hf : 3 * b.length + 1 ≤ fuel) (hr : Follows rest) :
    skipValue fuel depth (b ++ rest) = .ok r ↔ r = rest ∧ u = false ∧ Fits depth d :=
  derives_skips h fuel depth rest r hf hr

/-! ### Values that are cut off -/

theorem follows_of_ws {w : List UInt8} (hw : Ws w) : Follows w := by
  cases w with
  | nil => exact fun c hc => by simp at hc
  | cons a w =>
    have ha := hw a List.mem_cons_self
    intro c hc
    rw [List.head?_cons, Option.mem_some_iff] at hc
    subst hc
    simp only [isWs, Bool.or_eq_true, decide_eq_true_eq] at ha
    rcases ha with ((rfl | rfl) | rfl) | rfl <;> decide

/-- What is left of a number that is cut off closes nothing and separates
nothing. -/
theorem eat_numeric_none {c : Char} (hc : isNumeric (ascii c) = false) {j : List UInt8}
    (hj : ∀ b ∈ j, isNumeric b = true) : eat c (skipWs j) = none := by
  cases j with
  | nil => rfl
  | cons b j =>
    have hb := hj b List.mem_cons_self
    have hw : isWs b = false := by
      by_contra hw
      simp only [isWs, Bool.not_eq_false, Bool.or_eq_true, decide_eq_true_eq] at hw
      rcases hw with ((rfl | rfl) | rfl) | rfl <;> revert hb <;> decide
    rw [skipWs_of_not_ws hw, eat_ne]
    rintro rfl
    rw [hb] at hc
    cases hc

theorem eat_ws_none (c : Char) {w : List UInt8} (hw : Ws w) : eat c (skipWs w) = none := by
  rw [skipWs_ws hw, eat_nil]

/-- A key and its colon that are cut off: if both are found, the cut is
behind them. -/
theorem keyHead_cut {w1 k w2 tail p j1 j2 : List UInt8} {u : Bool} {cap : ℕ} (h1 : Ws w1) (hk : Chars k u)
    (h2 : Ws w2) (hp : p <+: w1 ++ (quoted k ++ (w2 ++ ascii ':' :: tail)))
    (hkey : (parseString cap p).2 = .ok j1) (hcolon : eat ':' (skipWs j1) = some j2) :
    j2 <+: tail ∧ p = w1 ++ (quoted k ++ (w2 ++ ascii ':' :: j2)) := by
  rcases prefix_append_cases hp with ⟨hw, -⟩ | ⟨q, rfl, hq⟩
  · rw [parseString, eat_ws_none _ (h1.of_prefix hw)] at hkey
    cases hkey
  rcases prefix_append_cases hq with ⟨hq', hlt⟩ | ⟨q', rfl, hq'⟩
  · exact absurd hkey (parseString_cut h1 hk hq' hlt cap j1)
  -- the key is complete, so its scan stopped behind it
  rw [quoted_append, parseString_quote h1] at hkey
  have heq : stringLoop cap (k ++ ascii '"' :: q') [] =
      ((stringLoop cap (k ++ ascii '"' :: q') []).1, .ok j1) := Prod.ext rfl hkey
  obtain ⟨rfl, -⟩ := stringLoop_only hk cap q' heq
  rcases prefix_append_cases hq' with ⟨hw, -⟩ | ⟨t, rfl, ht⟩
  · rw [eat_ws_none _ (h2.of_prefix hw)] at hcolon
    cases hcolon
  rcases List.prefix_cons_iff.mp ht with rfl | ⟨t', rfl, ht'⟩
  · rw [List.append_nil, eat_ws_none _ h2] at hcolon
    cases hcolon
  · rw [eat_after_ws (by decide) h2, Option.some.injEq] at hcolon
    subst hcolon
    exact ⟨ht', rfl⟩

/-- What the skippers do on a text that is cut off: a value leaves only
numeric bytes, members and elements that nothing closes are not accepted. -/
def Cuts (b : List UInt8) : Nt → Prop
  | .value => ∀ p, p <+: b → p.length < b.length → ∀ fuel depth r, 3 * p.length + 1 ≤ fuel →
      skipValue fuel depth p = .ok r → ∀ c ∈ r, isNumeric c = true
  | .members => ∀ p, p <+: b → ∀ fuel depth r, 3 * p.length + 2 ≤ fuel →
      objectLoop fuel depth true p ≠ .ok r
  | .elements => ∀ p, p <+: b → ∀ fuel depth r, 3 * p.length + 2 ≤ fuel →
      arrayLoop fuel depth p ≠ .ok r

/-- A value between whitespace and what follows it, cut off somewhere: the
scan leaves numeric bytes, or the cut is behind the value. -/
theorem skipValue_prefix {w v tail p r : List UInt8} (hw : Ws w) (hv : Cuts v .value)
    (hp : p <+: w ++ (v ++ tail)) {fuel depth : ℕ} (hf : 3 * p.length + 1 ≤ fuel)
    (h : skipValue fuel depth p = .ok r) :
    (∀ c ∈ r, isNumeric c = true) ∨ ∃ q, q <+: tail ∧ p = w ++ (v ++ q) := by
  rcases prefix_append_cases hp with ⟨hpw, -⟩ | ⟨q, rfl, hq⟩
  · have hws := hw.of_prefix hpw
    cases fuel with
    | zero =>
      rw [skipValue] at h
      cases h
    | succ fuel =>
      rw [skipValue, skipWs_ws hws] at h
      cases h
  rw [skipValue_ws hw] at h
  rw [List.length_append] at hf
  rcases prefix_append_cases hq with ⟨hq', hlt⟩ | ⟨q', rfl, hq'⟩
  · exact Or.inl (hv q hq' hlt fuel depth r (by omega) h)
  · exact Or.inr ⟨q', hq', rfl⟩

/-- A turn of the loop over members on a text that is cut off: if it goes
on, the cut is behind the value of the member. -/
theorem objectLoop_prefix {w1 k w2 w3 v tail p r : List UInt8} {u : Bool} (h1 : Ws w1) (hk : Chars k u)
    (h2 : Ws w2) (h3 : Ws w3) {d : ℕ} {u' : Bool} (hd : Derives .value v d u') (hv : Cuts v .value)
    (hp : p <+: w1 ++ (quoted k ++ (w2 ++ ascii ':' :: (w3 ++ (v ++ tail)))))
    (hfol : ∀ q, q <+: tail → Follows q) {fuel depth : ℕ} (hf : 3 * p.length + 2 ≤ fuel + 1)
    (h : objectLoop (fuel + 1) depth true p = .ok r) :
    ∃ q, q <+: tail ∧ q.length < p.length ∧
      ((∃ j, eat ',' (skipWs q) = some j ∧ objectLoop fuel depth true j = .ok r) ∨
        eat '}' (skipWs q) = some r) := by
  rcases objectLoop_eq_ok.mp h with hend | ⟨-, j1, j2, j3, hkey, hcolon, hval, hnext⟩
  · -- the first byte of the member is its opening quote, or it is not there
    rcases prefix_append_cases hp with ⟨hw, -⟩ | ⟨q, rfl, hq⟩
    · rw [eat_ws_none _ (h1.of_prefix hw)] at hend
      cases hend
    · rw [quoted_append] at hq
      rcases List.prefix_cons_iff.mp hq with rfl | ⟨q, rfl, -⟩
      · rw [List.append_nil, eat_ws_none _ h1] at hend
        cases hend
      · rw [eat_other '"' '}' (by decide) (by decide) h1] at hend
        cases hend
  obtain ⟨hj2, rfl⟩ := keyHead_cut h1 hk h2 hp hkey hcolon
  simp only [List.length_append, List.length_cons, quoted, List.length_nil] at hf
  rcases skipValue_prefix h3 hv hj2 (by omega) hval with hnum | ⟨q, hq, rfl⟩
  · rw [eat_numeric_none (by decide) hnum, eat_numeric_none (by decide) hnum] at hnext
    simp at hnext
  simp only [List.length_append] at hf
  rw [skipValue_ws h3, skipValue_iff hd _ _ (by omega) (hfol q hq)] at hval
  obtain ⟨rfl, -⟩ := hval
  refine ⟨j3, hq, ?_, hnext.imp id fun h => h.2⟩
  simp only [List.length_append, List.length_cons]
  omega

/-- The same for the loop over elements. -/
theorem arrayLoop_prefix {w v tail p r : List UInt8} (hw : Ws w) {d : ℕ} {u : Bool}
    (hd : Derives .value v d u) (hv : Cuts v .value) (hp : p <+: w ++ (v ++ tail))
    (hfol : ∀ q, q <+: tail → Follows q) {fuel depth : ℕ} (hf : 3 * p.length + 2 ≤ fuel + 1)
    (h : arrayLoop (fuel + 1) depth p = .ok r) :
    ∃ q, q <+: tail ∧ q.length < p.length ∧
      ((∃ j, eat ',' (skipWs q) = some j ∧ arrayLoop fuel depth j = .ok r) ∨
        eat ']' (skipWs q) = some r) := by
  obtain ⟨c, t, rfl, hc, hne⟩ := value_cons hd
  rcases arrayLoop_eq_ok.mp h with hend | ⟨-, -, j, hval, hnext⟩
  · rcases prefix_append_cases hp with ⟨hpw, -⟩ | ⟨q, rfl, hq⟩
    · rw [eat_ws_none _ (hw.of_prefix hpw)] at hend
      cases hend
    · rcases List.prefix_cons_iff.mp hq with rfl | ⟨q, rfl, -⟩
      · rw [List.append_nil, eat_ws_none _ hw] at hend
        cases hend
      · rw [skipWs_ws_append hw, skipWs_of_not_ws hc, eat_ne hne] at hend
        cases hend
  rcases skipValue_prefix hw hv hp (by omega) hval with hnum | ⟨q, hq, rfl⟩
  · rw [eat_numeric_none (by decide) hnum, eat_numeric_none (by decide) hnum] at hnext
    simp at hnext
  simp only [List.length_append, List.length_cons] at hf
  rw [skipValue_ws hw, skipValue_iff hd _ _ (by simp only [List.length_cons]; omega) (hfol q hq)] at hval
  obtain ⟨rfl, -⟩ := hval
  refine ⟨j, hq, ?_, hnext.imp id fun h => h.2⟩
  simp only [List.length_append, List.length_cons]
  omega

/-- What is between a value and a comma, or the end, is no part of a number. -/
theorem follows_prefix_comma {w b : List UInt8} (hw : Ws w) :
    ∀ q, q <+: w ++ ascii ',' :: b → Follows q := by
  intro q hq
  rcases prefix_append_cases hq with ⟨hq', -⟩ | ⟨t, rfl, ht⟩
  · exact follows_of_ws (hw.of_prefix hq')
  rcases List.prefix_cons_iff.mp ht with rfl | ⟨t', rfl, -⟩
  · rw [List.append_nil]
    exact follows_of_ws hw
  · exact follows_ws hw (by decide) t'

/-- After a cut behind a value comes the comma with what is left of the
rest, or nothing. -/
theorem eat_prefix_comma {w b q : List UInt8} (hw : Ws w) (hq : q <+: w ++ ascii ',' :: b) (c : Char)
    (hc : ascii ',' ≠ ascii c) :
    eat c (skipWs q) = none ∧ ∀ j, eat ',' (skipWs q) = some j → j <+: b ∧ j.length < q.length := by
  have hnil : ∀ {w' : List UInt8}, Ws w' → eat c (skipWs w') = none ∧
      ∀ j, eat ',' (skipWs w') = some j → j <+: b ∧ j.length < w'.length := fun hw' =>
    ⟨eat_ws_none _ hw', fun j hj => by rw [eat_ws_none _ hw'] at hj; cases hj⟩
  rcases prefix_append_cases hq with ⟨hq', -⟩ | ⟨t, rfl, ht⟩
  · exact hnil (hw.of_prefix hq')
  rcases List.prefix_cons_iff.mp ht with rfl | ⟨t', rfl, ht'⟩
  · rw [List.append_nil]
    exact hnil hw
  · refine ⟨eat_other ',' c (by decide) hc hw t', fun j hj => ?_⟩
    rw [eat_after_ws (by decide) hw, Option.some.injEq] at hj
    subst hj
    refine ⟨ht', ?_⟩
    simp only [List.length_append, List.length_cons]
    omega

/-- A container that is cut off before its closing character. -/
theorem prefix_container {o e : UInt8} {b p : List UInt8} (hp : p <+: o :: b ++ [e])
    (hlt : p.length < (o :: b ++ [e]).length) : p = [] ∨ ∃ q, p = o :: q ∧ q <+: b := by
  rcases List.prefix_cons_iff.mp (show p <+: o :: (b ++ [e]) from hp) with rfl | ⟨q, rfl, hq⟩
  · exact Or.inl rfl
  · refine Or.inr ⟨q, rfl, List.prefix_of_prefix_length_le hq (List.prefix_append b _) ?_⟩
    simp only [List.length_append, List.length_cons, List.length_nil] at hlt
    omega

theorem skipValue_nil_ne_ok (fuel depth : ℕ) (r : List UInt8) : skipValue fuel depth [] ≠ .ok r := by
  cases fuel with
  | zero => simp [skipValue]
  | succ fuel => simp [skipValue, skipWs, reject]

theorem skipValue_object_cut {b : List UInt8} (hb : Cuts b .members) {p : List UInt8}
    (hp : p <+: ascii '{' :: b ++ [ascii '}']) (hlt : p.length < (ascii '{' :: b ++ [ascii '}']).length)
    {fuel depth : ℕ} (hf : 3 * p.length + 1 ≤ fuel) (r : List UInt8) : skipValue fuel depth p ≠ .ok r := by
  rcases prefix_container hp hlt with rfl | ⟨q, rfl, hq⟩
  · exact skipValue_nil_ne_ok fuel depth r
  rw [List.length_cons] at hf
  obtain ⟨fuel, rfl⟩ := Nat.exists_eq_add_of_le' (show 2 ≤ fuel by omega)
  rw [skipValue_brace]
  split
  · exact fun h => by cases h
  · exact hb q hq fuel depth r (by omega)

theorem skipValue_array_cut {b : List UInt8} (hb : Cuts b .elements) {p : List UInt8}
    (hp : p <+: ascii '[' :: b ++ [ascii ']']) (hlt : p.length < (ascii '[' :: b ++ [ascii ']']).length)
    {fuel depth : ℕ} (hf : 3 * p.length + 1 ≤ fuel) (r : List UInt8) : skipValue fuel depth p ≠ .ok r := by
  rcases prefix_container hp hlt with rfl | ⟨q, rfl, hq⟩
  · exact skipValue_nil_ne_ok fuel depth r
  rw [List.length_cons] at hf
  obtain ⟨fuel, rfl⟩ := Nat.exists_eq_add_of_le' (show 2 ≤ fuel by omega)
  rw [skipValue_bracket]
  split
  · exact fun h => by cases h
  · exact hb q hq fuel depth r (by omega)

/-- Whitespace in an empty container closes nothing. -/
theorem ws_cuts {w : List UInt8} (hw : Ws w) : Cuts w .members ∧ Cuts w .elements := by
  refine ⟨fun p hp fuel depth r hf h => ?_, fun p hp fuel depth r hf h => ?_⟩
  · obtain ⟨fuel, rfl⟩ := Nat.exists_eq_add_of_le' (show 1 ≤ fuel by omega)
    have hn := eat_ws_none '}' (hw.of_prefix hp)
    rcases objectLoop_eq_ok.mp h with hend | ⟨-, j1, -, -, hkey, -⟩
    · rw [hn] at hend
      cases hend
    · rw [parseString, eat_ws_none '"' (hw.of_prefix hp)] at hkey
      cases hkey
  · obtain ⟨fuel, rfl⟩ := Nat.exists_eq_add_of_le' (show 1 ≤ fuel by omega)
    have hn := eat_ws_none ']' (hw.of_prefix hp)
    rcases arrayLoop_eq_ok.mp h with hend | ⟨-, -, j, hval, -⟩
    · rw [hn] at hend
      cases hend
    · rw [← List.append_nil p, skipValue_ws (hw.of_prefix hp)] at hval
      exact skipValue_nil_ne_ok _ _ _ hval

/-- **A text that is cut off is not accepted.** -/
theorem derives_cuts {nt : Nt} {b : List UInt8} {d : ℕ} {u : Bool} (h : Derives nt b d u) :
    Cuts b nt := by
  induction h with
  | @literal b hb =>
    intro p hp hlt fuel depth r hf h
    cases p with
    | nil => exact absurd h (skipValue_nil_ne_ok fuel depth r)
    | cons c p =>
      obtain ⟨fuel, rfl⟩ := Nat.exists_eq_add_of_le' (show 1 ≤ fuel by omega)
      obtain ⟨literal, rfl, hlit⟩ := skipValue_literal hb
      have hhead : (c :: p).head? = (utf8 literal).head? := by
        obtain ⟨t, ht⟩ := hp
        rw [← ht]
        rfl
      rw [hlit fuel depth _ (by simp) hhead, skipLiteral_short hlt] at h
      cases h
  | number hn =>
    intro p hp hlt fuel depth r hf h
    obtain ⟨n, rfl⟩ := hn
    obtain ⟨c, t, ht, hc⟩ := number_cons n
    rw [ht] at hp
    rcases List.prefix_cons_iff.mp hp with rfl | ⟨q, rfl, -⟩
    · exact absurd h (skipValue_nil_ne_ok fuel depth r)
    · obtain ⟨fuel, rfl⟩ := Nat.exists_eq_add_of_le' (show 1 ≤ fuel by omega)
      rw [skipValue_number hc] at h
      rw [← ht] at hp
      exact skipNumber_cut n hp h
  | @string b u hb =>
    intro p hp hlt fuel depth r hf h
    rcases prefix_container hp hlt with rfl | ⟨q, rfl, hq⟩
    · exact absurd h (skipValue_nil_ne_ok fuel depth r)
    · obtain ⟨fuel, rfl⟩ := Nat.exists_eq_add_of_le' (show 1 ≤ fuel by omega)
      rw [skipValue_quote] at h
      exact absurd h (stringLoop_cut hb 0 hq [] r)
  | emptyObject hw =>
    intro p hp hlt fuel depth r hf h
    exact absurd h (skipValue_object_cut (ws_cuts hw).1 hp hlt hf r)
  | object _ ih =>
    intro p hp hlt fuel depth r hf h
    exact absurd h (skipValue_object_cut ih hp hlt hf r)
  | emptyArray hw =>
    intro p hp hlt fuel depth r hf h
    exact absurd h (skipValue_array_cut (ws_cuts hw).2 hp hlt hf r)
  | array _ ih =>
    intro p hp hlt fuel depth r hf h
    exact absurd h (skipValue_array_cut ih hp hlt hf r)
  | @member w1 k w2 w3 v w4 d u u' h1 hk h2 h3 hd h4 ih =>
    intro p hp fuel depth r hf h
    obtain ⟨fuel, rfl⟩ := Nat.exists_eq_add_of_le' (show 1 ≤ fuel by omega)
    have he : w1 ++ quoted k ++ w2 ++ [ascii ':'] ++ w3 ++ v ++ w4 =
        w1 ++ (quoted k ++ (w2 ++ ascii ':' :: (w3 ++ (v ++ w4)))) := by simp
    rw [he] at hp
    obtain ⟨q, hq, -, hnext⟩ := objectLoop_prefix h1 hk h2 h3 hd ih hp
      (fun q hq => follows_of_ws (h4.of_prefix hq)) hf h
    simp [eat_ws_none _ (h4.of_prefix hq)] at hnext
  | @members w1 k w2 w3 v w4 b d d' u u' u'' h1 hk h2 h3 hd h4 _ ih ih' =>
    intro p hp fuel depth r hf h
    obtain ⟨fuel, rfl⟩ := Nat.exists_eq_add_of_le' (show 1 ≤ fuel by omega)
    have he : w1 ++ quoted k ++ w2 ++ [ascii ':'] ++ w3 ++ v ++ w4 ++ ascii ',' :: b =
        w1 ++ (quoted k ++ (w2 ++ ascii ':' :: (w3 ++ (v ++ (w4 ++ ascii ',' :: b))))) := by simp
    rw [he] at hp
    obtain ⟨q, hq, hqlt, hnext⟩ := objectLoop_prefix h1 hk h2 h3 hd ih hp (follows_prefix_comma h4) hf h
    obtain ⟨hclose, hcomma⟩ := eat_prefix_comma h4 hq '}' (by decide)
    rcases hnext with ⟨j, hj, hloop⟩ | hend
    · obtain ⟨hjb, hjlt⟩ := hcomma j hj
      exact ih' j hjb fuel depth r (by omega) hloop
    · rw [hclose] at hend
      cases hend
  | @element w1 v w2 d u h1 hd h2 ih =>
    intro p hp fuel depth r hf h
    obtain ⟨fuel, rfl⟩ := Nat.exists_eq_add_of_le' (show 1 ≤ fuel by omega)
    rw [List.append_assoc] at hp
    obtain ⟨q, hq, -, hnext⟩ := arrayLoop_prefix h1 hd ih hp
      (fun q hq => follows_of_ws (h2.of_prefix hq)) hf h
    simp [eat_ws_none _ (h2.of_prefix hq)] at hnext
  | @elements w1 v w2 b d d' u u' h1 hd h2 _ ih ih' =>
    intro p hp fuel depth r hf h
    obtain ⟨fuel, rfl⟩ := Nat.exists_eq_add_of_le' (show 1 ≤ fuel by omega)
    rw [List.append_assoc, List.append_assoc] at hp
    obtain ⟨q, hq, hqlt, hnext⟩ := arrayLoop_prefix h1 hd ih hp (follows_prefix_comma h2) hf h
    obtain ⟨hclose, hcomma⟩ := eat_prefix_comma h2 hq ']' (by decide)
    rcases hnext with ⟨j, hj, hloop⟩ | hend
    · obtain ⟨hjb, hjlt⟩ := hcomma j hj
      exact ih' j hjb fuel depth r (by omega) hloop
    · rw [hclose] at hend
      cases hend

end JsonProto
end Dpdkd
end Pktlab
