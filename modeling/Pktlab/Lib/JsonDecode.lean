/-
# A decoder for JSON texts

`decode b` is the value of the text `b`, whitespace around it, with the
strings decoded and the numbers as they are written. The decoder consumes the
value and hands on what follows; it is complete: whatever spells a value is
decoded to it (`decode_spells`), so a text spells one value at most
(`Spells.inj`).

Key definitions: `decodeString`, `scanNumber`, `decodeValue`, `decode`.
Key theorems: `decodeString_decodes`, `scanNumber_number`,
`decodeValue_spells`, `decode_spells`, `Spells.inj`.
-/
import Pktlab.Lib.Json

namespace Rfc8259

open Utf8

/-! ### The decoder -/

/-- A code unit that is half of a pair. -/
def isSurrogate (n : ℕ) : Bool := 0xD800 ≤ n && n ≤ 0xDFFF

/-- The character of a pair of code units. -/
def pairChar (m n : ℕ) : Char := Char.ofNat (0x10000 + (m - 0xD800) * 0x400 + (n - 0xDC00))

/-- The rest of a string behind its opening quote: what it stands for, and
what follows its closing quote. -/
def decodeString : List UInt8 → Option (List UInt8 × List UInt8)
  | [] => none
  | c :: b =>
    if c = ascii '"' then some ([], b)
    else if c = ascii '\\' then
      match b with
      | [] => none
      | e :: b =>
        if e = ascii 'u' then
          match b with
          | h1 :: h2 :: h3 :: h4 :: b =>
            match codeUnit h1 h2 h3 h4 with
            | none => none
            | some m =>
              if isSurrogate m then
                match b with
                | s :: u :: l1 :: l2 :: l3 :: l4 :: b =>
                  match codeUnit l1 l2 l3 l4 with
                  | none => none
                  | some n =>
                    if s = ascii '\\' ∧ u = ascii 'u' ∧ m ≤ 0xDBFF ∧ 0xDC00 ≤ n ∧ n ≤ 0xDFFF then
                      (decodeString b).map (Prod.map (String.utf8EncodeChar (pairChar m n) ++ ·) id)
                    else none
                | _ => none
              else (decodeString b).map (Prod.map (String.utf8EncodeChar (Char.ofNat m) ++ ·) id)
          | _ => none
        else
          match unescape e with
          | none => none
          | some x => (decodeString b).map (Prod.map (x :: ·) id)
    else if isPlain c then (decodeString b).map (Prod.map (c :: ·) id)
    else none

/-- A byte that a number can go on with. -/
def continuesNumber (c : UInt8) : Bool :=
  isDigit c || c = ascii '.' || c = ascii 'e' || c = ascii 'E'

/-- One digit or more. -/
def scanDigits (b : List UInt8) : Option (List UInt8 × List UInt8) :=
  if b.takeWhile isDigit = [] then none else some (b.takeWhile isDigit, b.dropWhile isDigit)

/-- `int`: a zero, or digits that do not start with one. -/
def scanInt : List UInt8 → Option (List UInt8 × List UInt8)
  | [] => none
  | c :: b => if c = ascii '0' then some ([c], b) else scanDigits (c :: b)

/-- `[ frac ]`. -/
def scanFrac : List UInt8 → Option (List UInt8 × List UInt8)
  | [] => some ([], [])
  | c :: b => if c = ascii '.' then (scanDigits b).map (Prod.map (c :: ·) id) else some ([], c :: b)

/-- The sign of an exponent. -/
def scanSign : List UInt8 → List UInt8 × List UInt8
  | [] => ([], [])
  | c :: b => if c = ascii '+' ∨ c = ascii '-' then ([c], b) else ([], c :: b)

/-- `[ exp ]`. -/
def scanExp : List UInt8 → Option (List UInt8 × List UInt8)
  | [] => some ([], [])
  | c :: b =>
    if c = ascii 'e' ∨ c = ascii 'E' then
      (scanDigits (scanSign b).2).map (Prod.map (fun ds => c :: (scanSign b).1 ++ ds) id)
    else some ([], c :: b)

/-- `[ minus ]`. -/
def scanMinus : List UInt8 → List UInt8 × List UInt8
  | [] => ([], [])
  | c :: b => if c = ascii '-' then ([c], b) else ([], c :: b)

/-- A number, and what follows it. -/
def scanNumber (b : List UInt8) : Option (List UInt8 × List UInt8) := do
  let (int, b') ← scanInt (scanMinus b).2
  let (frac, b') ← scanFrac b'
  let (exp, b') ← scanExp b'
  pure ((scanMinus b).1 ++ int ++ frac ++ exp, b')

/-- The literal that the text starts with. -/
def scanLiteral (b : List UInt8) : Option (List UInt8 × List UInt8) :=
  ([utf8 "true", utf8 "false", utf8 "null"].find? fun l => l.isPrefixOf b).map fun l => (l, b.drop l.length)

/-- A character, with whitespace before it. -/
def expect (c : Char) (b : List UInt8) : Option (List UInt8) :=
  match b.dropWhile isWs with
  | [] => none
  | d :: b => if d = ascii c then some b else none

mutual

/-- A value, and what follows it. -/
def decodeValue : ℕ → List UInt8 → Option (Json × List UInt8)
  | _, [] => none
  | 0, _ => none
  | n + 1, c :: b =>
    if c = ascii '{' then
      match expect '}' b with
      | some b => some (.obj [], b)
      | none => (decodeMembers n b).map (Prod.map .obj id)
    else if c = ascii '[' then
      match expect ']' b with
      | some b => some (.arr [], b)
      | none => (decodeElements n b).map (Prod.map .arr id)
    else if c = ascii '"' then (decodeString b).map (Prod.map .str id)
    else if c = ascii '-' ∨ isDigit c then (scanNumber (c :: b)).map (Prod.map .num id)
    else (scanLiteral (c :: b)).map (Prod.map .lit id)

/-- The members of an object, one or more, up to its closing bracket. -/
def decodeMembers : ℕ → List UInt8 → Option (List (List UInt8 × Json) × List UInt8)
  | 0, _ => none
  | n + 1, b => do
    let b ← expect '"' b
    let (k, b) ← decodeString b
    let b ← expect ':' b
    let (j, b) ← decodeValue n (b.dropWhile isWs)
    match expect ',' b with
    | some b => (decodeMembers n b).map (Prod.map ((k, j) :: ·) id)
    | none => (expect '}' b).map fun b => ([(k, j)], b)

/-- The elements of an array, one or more, up to its closing bracket. -/
def decodeElements : ℕ → List UInt8 → Option (List Json × List UInt8)
  | 0, _ => none
  | n + 1, b => do
    let (j, b) ← decodeValue n (b.dropWhile isWs)
    match expect ',' b with
    | some b => (decodeElements n b).map (Prod.map (j :: ·) id)
    | none => (expect ']' b).map fun b => ([j], b)

end

/-- The value of a text. A value takes a turn for each of its bytes at most. -/
def decode (b : List UInt8) : Option Json :=
  match decodeValue b.length (b.dropWhile isWs) with
  | none => none
  | some (j, rest) => if rest.dropWhile isWs = [] then some j else none

/-! ### Strings -/

theorem decodeString_decodes {raw s : List UInt8} (h : Decodes raw s) (rest : List UInt8) :
    decodeString (raw ++ ascii '"' :: rest) = some (s, rest) := by
  have hback : ascii '\\' ≠ ascii '"' := by decide
  induction h with
  | nil => rw [List.nil_append, decodeString.eq_def]; simp only [↓reduceIte]
  | plain hc _ ih =>
    rw [List.cons_append, decodeString.eq_def]
    simp only [isPlain_not_quote hc, isPlain_not_backslash hc, hc, ↓reduceIte, ih, Option.map_some, Prod.map, id]
  | @esc e x b s he _ ih =>
    have hu : e ≠ ascii 'u' := by
      rintro rfl
      rw [unescape_u] at he
      cases he
    rw [List.cons_append, List.cons_append, decodeString.eq_def]
    simp only [hback, hu, he, ↓reduceIte, ih, Option.map_some, Prod.map, id]
  | @uni h1 h2 h3 h4 n b s hn hrange _ ih =>
    have hs : isSurrogate n = false := by
      rw [Bool.eq_false_iff]
      intro hs
      simp only [isSurrogate, Bool.and_eq_true, decide_eq_true_eq] at hs
      exact hrange hs
    simp only [List.cons_append]
    rw [decodeString.eq_def]
    simp only [hback, ↓reduceIte, hn, hs, ih, Option.map_some, Prod.map, id, Bool.false_eq_true]
  | @pair h1 h2 h3 h4 l1 l2 l3 l4 m n b s hm hn hm1 hm2 hn1 hn2 _ ih =>
    have hs : isSurrogate m = true := by
      simp only [isSurrogate, Bool.and_eq_true, decide_eq_true_eq]
      omega
    simp only [List.cons_append]
    rw [decodeString.eq_def]
    simp only [hback, ↓reduceIte, hm, hs, hn, hm2, hn1, hn2, and_self, ih, Option.map_some, Prod.map, id]
    rfl

/-! ### Numbers -/

/-- The text behind a number: it does not go on with it. -/
def Stops (rest : List UInt8) : Prop := ∀ c ∈ rest.head?, continuesNumber c = false

theorem stops_cons {c : UInt8} {rest : List UInt8} (h : continuesNumber c = false) : Stops (c :: rest) := by
  intro d hd
  rw [List.head?_cons, Option.mem_some_iff] at hd
  exact hd ▸ h

theorem scanDigits_digits {ds rest : List UInt8} (h : Digits ds) (hrest : ∀ c ∈ rest.head?, isDigit c = false) :
    scanDigits (ds ++ rest) = some (ds, rest) := by
  have htake : (ds ++ rest).takeWhile isDigit = ds := by
    rw [List.takeWhile_append_of_pos h.2]
    cases rest with
    | nil => simp
    | cons c rest => simp [hrest c rfl]
  have hdrop : (ds ++ rest).dropWhile isDigit = rest := by
    rw [List.dropWhile_append_of_pos h.2]
    cases rest with
    | nil => rfl
    | cons c rest => simp [hrest c rfl]
  rw [scanDigits, htake, hdrop, if_neg h.1]

theorem scanMinus_minus {minus rest : List UInt8} (h : minus = [] ∨ minus = [ascii '-'])
    (hrest : rest.head? ≠ some (ascii '-')) : scanMinus (minus ++ rest) = (minus, rest) := by
  rcases h with rfl | rfl
  · cases rest with
    | nil => rfl
    | cons c rest =>
      have hc : c ≠ ascii '-' := fun he => hrest (by rw [he]; rfl)
      simp [scanMinus, hc]
  · simp [scanMinus]

theorem scanInt_int {int rest : List UInt8} (h : int = [ascii '0'] ∨ (Digits int ∧ int.head? ≠ some (ascii '0')))
    (hrest : ∀ c ∈ rest.head?, isDigit c = false) : scanInt (int ++ rest) = some (int, rest) := by
  rcases h with rfl | ⟨hdigits, hhead⟩
  · simp [scanInt]
  · cases int with
    | nil => exact absurd rfl hdigits.1
    | cons c int =>
      have hc : c ≠ ascii '0' := fun he => hhead (by rw [he]; rfl)
      rw [List.cons_append, scanInt, if_neg hc, ← List.cons_append, scanDigits_digits hdigits hrest]

theorem scanFrac_frac {frac rest : List UInt8} (h : frac = [] ∨ ∃ ds, frac = ascii '.' :: ds ∧ Digits ds)
    (hdot : rest.head? ≠ some (ascii '.')) (hrest : ∀ c ∈ rest.head?, isDigit c = false) :
    scanFrac (frac ++ rest) = some (frac, rest) := by
  rcases h with rfl | ⟨ds, rfl, hds⟩
  · cases rest with
    | nil => rfl
    | cons c rest =>
      have hc : c ≠ ascii '.' := fun he => hdot (by rw [he]; rfl)
      simp [scanFrac, hc]
  · simp [scanFrac, scanDigits_digits hds hrest]

theorem scanSign_sign {sign ds : List UInt8} (h : sign = [] ∨ sign = [ascii '+'] ∨ sign = [ascii '-'])
    (hds : Digits ds) (rest : List UInt8) : scanSign (sign ++ (ds ++ rest)) = (sign, ds ++ rest) := by
  rcases h with rfl | rfl | rfl
  · cases ds with
    | nil => exact absurd rfl hds.1
    | cons c ds =>
      have hc := hds.2 c List.mem_cons_self
      have hplus : c ≠ ascii '+' := by rintro rfl; exact absurd hc (by decide)
      have hminus : c ≠ ascii '-' := by rintro rfl; exact absurd hc (by decide)
      simp [scanSign, hplus, hminus]
  · simp [scanSign]
  · simp [scanSign]

theorem scanExp_exp {exp rest : List UInt8}
    (h : exp = [] ∨ ∃ e sign ds, exp = e :: sign ++ ds ∧ (e = ascii 'e' ∨ e = ascii 'E') ∧
      (sign = [] ∨ sign = [ascii '+'] ∨ sign = [ascii '-']) ∧ Digits ds)
    (hrest : Stops rest) : scanExp (exp ++ rest) = some (exp, rest) := by
  rcases h with rfl | ⟨e, sign, ds, rfl, he, hsign, hds⟩
  · cases rest with
    | nil => rfl
    | cons c rest =>
      have hc := hrest c rfl
      simp only [continuesNumber, Bool.or_eq_false_iff, decide_eq_false_iff_not] at hc
      rw [List.nil_append, scanExp, if_neg (by rintro (h | h); exacts [hc.1.2 h, hc.2 h])]
  · have hdigit : ∀ c ∈ rest.head?, isDigit c = false := by
      intro c hc
      have := hrest c hc
      simp only [continuesNumber, Bool.or_eq_false_iff] at this
      exact this.1.1.1
    rw [List.cons_append, List.cons_append, List.append_assoc, scanExp, if_pos he, scanSign_sign hsign hds,
      scanDigits_digits hds hdigit]
    simp

/-- A number is read to its end. -/
theorem scanNumber_number {b rest : List UInt8} (h : Number b) (hrest : Stops rest) :
    scanNumber (b ++ rest) = some (b, rest) := by
  obtain ⟨n, rfl⟩ := h
  have hstop : ∀ c ∈ rest.head?, isDigit c = false ∧ c ≠ ascii '.' := by
    intro c hc
    have := hrest c hc
    simp only [continuesNumber, Bool.or_eq_false_iff, decide_eq_false_iff_not] at this
    exact ⟨this.1.1.1, this.1.1.2⟩
  -- what stands behind the fraction, and behind the integer
  have hexp : ∀ c ∈ (n.exp ++ rest).head?, isDigit c = false ∧ c ≠ ascii '.' := by
    rcases n.exp_ok with h | ⟨e, sign, ds, h, he, -⟩
    · rw [h]
      exact hstop
    · rw [h]
      intro c hc
      rw [List.cons_append, List.cons_append, List.head?_cons, Option.mem_some_iff] at hc
      subst hc
      rcases he with rfl | rfl <;> decide
  have hfrac : ∀ c ∈ (n.frac ++ (n.exp ++ rest)).head?, isDigit c = false := by
    rcases n.frac_ok with h | ⟨ds, h, -⟩
    · rw [h]
      exact fun c hc => (hexp c hc).1
    · rw [h]
      intro c hc
      rw [List.cons_append, List.head?_cons, Option.mem_some_iff] at hc
      subst hc
      decide
  have hint : (n.int ++ (n.frac ++ (n.exp ++ rest))).head? ≠ some (ascii '-') := by
    rcases n.int_ok with h | ⟨h, -⟩
    · rw [h]
      show some (ascii '0') ≠ some (ascii '-')
      decide
    · cases hn : n.int with
      | nil => exact absurd hn h.1
      | cons c int =>
        rw [List.cons_append, List.head?_cons]
        intro he
        have hc := h.2 c (by rw [hn]; exact List.mem_cons_self)
        rw [Option.some.inj he] at hc
        exact absurd hc (by decide)
  have hassoc : n.text ++ rest = n.minus ++ (n.int ++ (n.frac ++ (n.exp ++ rest))) := by
    simp only [NumberParts.text, List.append_assoc]
  have hdot : (n.exp ++ rest).head? ≠ some (ascii '.') := fun he => (hexp _ he).2 rfl
  rw [scanNumber, hassoc, scanMinus_minus n.minus_ok hint]
  simp only [scanInt_int n.int_ok hfrac, scanFrac_frac n.frac_ok hdot fun c hc => (hexp c hc).1,
    scanExp_exp n.exp_ok hrest, Option.bind_eq_bind, Option.bind_some]
  rfl

/-! ### Structural characters -/

theorem dropWhile_ws_append {w b : List UInt8} (hw : Ws w) : (w ++ b).dropWhile isWs = b.dropWhile isWs :=
  List.dropWhile_append_of_pos hw

theorem expect_found {c : Char} (hc : isWs (ascii c) = false) {w : List UInt8} (hw : Ws w) (b : List UInt8) :
    expect c (w ++ ascii c :: b) = some b := by
  rw [expect, dropWhile_ws_append hw, List.dropWhile_cons_of_neg (by simp [hc])]
  simp only [↓reduceIte]

theorem expect_other {c : Char} {d : UInt8} (hd : isWs d = false) (hne : d ≠ ascii c) {w : List UInt8} (hw : Ws w)
    (b : List UInt8) : expect c (w ++ d :: b) = none := by
  rw [expect, dropWhile_ws_append hw, List.dropWhile_cons_of_neg (by simp [hd])]
  simp only [hne, ↓reduceIte]

theorem continuesNumber_ws {c : UInt8} (h : isWs c = true) : continuesNumber c = false := by
  simp only [isWs, Bool.or_eq_true, decide_eq_true_eq] at h
  rcases h with ((rfl | rfl) | rfl) | rfl <;> decide

/-- Whitespace and a character that no number goes on with. -/
theorem stops_ws {w rest : List UInt8} {c : UInt8} (hw : Ws w) (hc : continuesNumber c = false) :
    Stops (w ++ c :: rest) := by
  cases w with
  | nil => exact stops_cons hc
  | cons d w => exact stops_cons (continuesNumber_ws (hw d List.mem_cons_self))

theorem Number.head {b : List UInt8} (h : Number b) : ∃ c t, b = c :: t ∧ (c = ascii '-' ∨ isDigit c = true) := by
  obtain ⟨n, rfl⟩ := h
  rcases n.minus_ok with hm | hm
  · rcases n.int_ok with hi | ⟨hi, -⟩
    · exact ⟨ascii '0', n.frac ++ n.exp, by simp [NumberParts.text, hm, hi], Or.inr (by decide)⟩
    · cases hn : n.int with
      | nil => exact absurd hn hi.1
      | cons c int =>
        exact ⟨c, int ++ n.frac ++ n.exp, by simp [NumberParts.text, hm, hn],
          Or.inr (hi.2 c (by rw [hn]; exact List.mem_cons_self))⟩
  · exact ⟨ascii '-', n.int ++ n.frac ++ n.exp, by simp [NumberParts.text, hm], Or.inl rfl⟩

/-- A value does not start with whitespace, nor with a closing bracket. -/
theorem Spells.head {j : Json} {v : List UInt8} (h : Spells j v) :
    ∃ c t, v = c :: t ∧ isWs c = false ∧ c ≠ ascii '}' ∧ c ≠ ascii ']' := by
  cases h with
  | lit hb =>
    simp only [List.mem_cons, List.not_mem_nil, or_false] at hb
    rcases hb with rfl | rfl | rfl
    · exact ⟨ascii 't', utf8 "rue", by decide, by decide, by decide, by decide⟩
    · exact ⟨ascii 'f', utf8 "alse", by decide, by decide, by decide, by decide⟩
    · exact ⟨ascii 'n', utf8 "ull", by decide, by decide, by decide, by decide⟩
  | num hn =>
    obtain ⟨c, t, rfl, hc⟩ := hn.head
    refine ⟨c, t, rfl, ?_⟩
    rcases hc with rfl | hc
    · decide
    · refine ⟨?_, ?_, ?_⟩
      · rw [Bool.eq_false_iff]
        intro hws
        rw [isWs] at hws
        simp only [Bool.or_eq_true, decide_eq_true_eq] at hws
        rcases hws with ((rfl | rfl) | rfl) | rfl <;> exact absurd hc (by decide)
      · rintro rfl
        exact absurd hc (by decide)
      · rintro rfl
        exact absurd hc (by decide)
  | str => exact ⟨_, _, rfl, by decide, by decide, by decide⟩
  | emptyObj => exact ⟨_, _, rfl, by decide, by decide, by decide⟩
  | obj => exact ⟨_, _, rfl, by decide, by decide, by decide⟩
  | emptyArr => exact ⟨_, _, rfl, by decide, by decide, by decide⟩
  | arr => exact ⟨_, _, rfl, by decide, by decide, by decide⟩

theorem Spells.dropWhile {j : Json} {v : List UInt8} (h : Spells j v) {w : List UInt8} (hw : Ws w)
    (rest : List UInt8) : (w ++ (v ++ rest)).dropWhile isWs = v ++ rest := by
  obtain ⟨c, t, rfl, hc, -⟩ := h.head
  rw [dropWhile_ws_append hw, List.cons_append, List.dropWhile_cons_of_neg (by simp [hc])]

/-! ### Values -/

/-- The decoder on a literal, a number or a string. -/
theorem decodeValue_lit {b : List UInt8} (h : b ∈ [utf8 "true", utf8 "false", utf8 "null"]) (n : ℕ)
    (rest : List UInt8) : decodeValue (n + 1) (b ++ rest) = some (.lit b, rest) := by
  simp only [List.mem_cons, List.not_mem_nil, or_false] at h
  rcases h with rfl | rfl | rfl
  · rfl
  · rfl
  · rfl

theorem decodeValue_num {b : List UInt8} (h : Number b) (n : ℕ) {rest : List UInt8} (hrest : Stops rest) :
    decodeValue (n + 1) (b ++ rest) = some (.num b, rest) := by
  obtain ⟨c, t, rfl, hc⟩ := h.head
  have hne : ∀ a : Char, ascii a ≠ ascii '-' → isDigit (ascii a) = false → c ≠ ascii a := by
    rintro a hminus hdigit rfl
    rcases hc with hc | hc
    · exact hminus hc
    · rw [hdigit] at hc
      cases hc
  rw [List.cons_append, decodeValue, if_neg (hne '{' (by decide) (by decide)), if_neg (hne '[' (by decide) (by decide)),
    if_neg (hne '"' (by decide) (by decide)), if_pos hc, ← List.cons_append, scanNumber_number h hrest]
  rfl

mutual

/-- What spells a value is decoded to it, up to a text that does not go on
with it. -/
theorem decodeValue_spells : ∀ {j : Json} {v : List UInt8}, Spells j v → ∀ {n : ℕ} {rest : List UInt8},
    v.length ≤ n → Stops rest → decodeValue n (v ++ rest) = some (j, rest)
  | _, _, .lit hb, n, rest, hn, _ => by
    obtain ⟨n, rfl⟩ : ∃ m, n = m + 1 := Nat.exists_eq_add_of_le' (by
      simp only [List.mem_cons, List.not_mem_nil, or_false] at hb
      rcases hb with rfl | rfl | rfl
      · exact le_trans (by decide) hn
      · exact le_trans (by decide) hn
      · exact le_trans (by decide) hn)
    exact decodeValue_lit hb n rest
  | _, _, .num hb, n, rest, hn, hrest => by
    obtain ⟨c, t, rfl, -⟩ := hb.head
    obtain ⟨n, rfl⟩ : ∃ m, n = m + 1 := Nat.exists_eq_add_of_le' (le_trans (by simp) hn)
    exact decodeValue_num hb n hrest
  | _, _, @Spells.str raw _ hb, n, rest, hn, _ => by
    obtain ⟨n, rfl⟩ : ∃ m, n = m + 1 := Nat.exists_eq_add_of_le' (le_trans (by simp [quoted]) hn)
    have hassoc : quoted raw ++ rest = ascii '"' :: (raw ++ ascii '"' :: rest) := by simp [quoted]
    rw [hassoc, decodeValue, if_neg (by decide), if_neg (by decide), if_pos rfl, decodeString_decodes hb]
    rfl
  | _, _, @Spells.emptyObj w hw, n, rest, hn, _ => by
    obtain ⟨n, rfl⟩ : ∃ m, n = m + 1 := Nat.exists_eq_add_of_le' (le_trans (by simp) hn)
    have hassoc : ascii '{' :: w ++ [ascii '}'] ++ rest = ascii '{' :: (w ++ ascii '}' :: rest) := by simp
    rw [hassoc, decodeValue, if_pos rfl, expect_found (by decide) hw]
  | _, _, @Spells.obj _ b hms, n, rest, hn, _ => by
    obtain ⟨n, rfl⟩ : ∃ m, n = m + 1 := Nat.exists_eq_add_of_le' (le_trans (by simp) hn)
    have hassoc : ascii '{' :: b ++ [ascii '}'] ++ rest = ascii '{' :: (b ++ ascii '}' :: rest) := by simp
    have hlen : b.length + 1 ≤ n := by
      simp only [List.length_append, List.length_cons, List.length_nil] at hn
      omega
    rw [hassoc, decodeValue, if_pos rfl, (decodeMembers_spells hms hlen).1, (decodeMembers_spells hms hlen).2]
    rfl
  | _, _, @Spells.emptyArr w hw, n, rest, hn, _ => by
    obtain ⟨n, rfl⟩ : ∃ m, n = m + 1 := Nat.exists_eq_add_of_le' (le_trans (by simp) hn)
    have hassoc : ascii '[' :: w ++ [ascii ']'] ++ rest = ascii '[' :: (w ++ ascii ']' :: rest) := by simp
    rw [hassoc, decodeValue, if_neg (by decide), if_pos rfl, expect_found (by decide) hw]
  | _, _, @Spells.arr _ b hjs, n, rest, hn, _ => by
    obtain ⟨n, rfl⟩ : ∃ m, n = m + 1 := Nat.exists_eq_add_of_le' (le_trans (by simp) hn)
    have hassoc : ascii '[' :: b ++ [ascii ']'] ++ rest = ascii '[' :: (b ++ ascii ']' :: rest) := by simp
    have hlen : b.length + 1 ≤ n := by
      simp only [List.length_append, List.length_cons, List.length_nil] at hn
      omega
    rw [hassoc, decodeValue, if_neg (by decide), if_pos rfl, (decodeElements_spells hjs hlen).1,
      (decodeElements_spells hjs hlen).2]
    rfl

/-- The members of an object are no empty object, and they are decoded up to
the closing bracket. -/
theorem decodeMembers_spells : ∀ {ms : List (List UInt8 × Json)} {b : List UInt8}, SpellsMembers ms b →
    ∀ {n : ℕ} {rest : List UInt8}, b.length + 1 ≤ n → expect '}' (b ++ ascii '}' :: rest) = none ∧
      decodeMembers n (b ++ ascii '}' :: rest) = some (ms, rest)
  | _, _, @SpellsMembers.one w1 raw k w2 w3 v w4 j h1 hk h2 h3 hv h4, n, rest, hn => by
    obtain ⟨n, rfl⟩ : ∃ m, n = m + 1 := Nat.exists_eq_add_of_le' (le_trans (by simp) hn)
    have hassoc : w1 ++ quoted raw ++ w2 ++ [ascii ':'] ++ w3 ++ v ++ w4 ++ ascii '}' :: rest =
        w1 ++ ascii '"' :: (raw ++ ascii '"' :: (w2 ++ ascii ':' :: (w3 ++ (v ++ (w4 ++ ascii '}' :: rest))))) := by
      simp [quoted]
    have hlen : v.length ≤ n := by
      simp only [List.length_append] at hn
      omega
    have hstop : Stops (w4 ++ ascii '}' :: rest) := stops_ws h4 (by decide)
    refine ⟨by rw [hassoc]; exact expect_other (by decide) (by decide) h1 _, ?_⟩
    rw [hassoc, decodeMembers, expect_found (by decide) h1]
    simp only [Option.bind_eq_bind, Option.bind_some, decodeString_decodes hk, expect_found (c := ':') (by decide) h2,
      hv.dropWhile h3, decodeValue_spells hv hlen hstop,
      expect_other (c := ',') (d := ascii '}') (by decide) (by decide) h4, expect_found (c := '}') (by decide) h4,
      Option.map_some]
  | _, _, @SpellsMembers.more w1 raw k w2 w3 v w4 b j _ h1 hk h2 h3 hv h4 hms, n, rest, hn => by
    obtain ⟨n, rfl⟩ : ∃ m, n = m + 1 := Nat.exists_eq_add_of_le' (le_trans (by simp) hn)
    have hassoc : w1 ++ quoted raw ++ w2 ++ [ascii ':'] ++ w3 ++ v ++ w4 ++ ascii ',' :: b ++ ascii '}' :: rest =
        w1 ++ ascii '"' :: (raw ++ ascii '"' :: (w2 ++ ascii ':' :: (w3 ++ (v ++ (w4 ++ ascii ',' ::
          (b ++ ascii '}' :: rest)))))) := by
      simp [quoted]
    have hlen : v.length ≤ n ∧ b.length + 1 ≤ n := by
      simp only [quoted, List.length_append, List.length_cons, List.length_nil] at hn
      omega
    have hstop : Stops (w4 ++ ascii ',' :: (b ++ ascii '}' :: rest)) := stops_ws h4 (by decide)
    refine ⟨by rw [hassoc]; exact expect_other (by decide) (by decide) h1 _, ?_⟩
    rw [hassoc, decodeMembers, expect_found (by decide) h1]
    simp only [Option.bind_eq_bind, Option.bind_some, decodeString_decodes hk, expect_found (c := ':') (by decide) h2,
      hv.dropWhile h3, decodeValue_spells hv hlen.1 hstop, expect_found (c := ',') (by decide) h4,
      (decodeMembers_spells hms hlen.2).2, Option.map_some]
    rfl

/-- The elements of an array are no empty array, and they are decoded up to
the closing bracket. -/
theorem decodeElements_spells : ∀ {js : List Json} {b : List UInt8}, SpellsElements js b →
    ∀ {n : ℕ} {rest : List UInt8}, b.length + 1 ≤ n → expect ']' (b ++ ascii ']' :: rest) = none ∧
      decodeElements n (b ++ ascii ']' :: rest) = some (js, rest)
  | _, _, @SpellsElements.one w1 v w2 _ h1 hv h2, n, rest, hn => by
    obtain ⟨n, rfl⟩ : ∃ m, n = m + 1 := Nat.exists_eq_add_of_le' (le_trans (by simp) hn)
    have hassoc : w1 ++ v ++ w2 ++ ascii ']' :: rest = w1 ++ (v ++ (w2 ++ ascii ']' :: rest)) := by simp
    have hlen : v.length ≤ n := by
      simp only [List.length_append] at hn
      omega
    obtain ⟨c, t, rfl, hc, -, hclose⟩ := hv.head
    refine ⟨by rw [hassoc]; exact expect_other hc hclose h1 _, ?_⟩
    rw [hassoc, decodeElements, hv.dropWhile h1, decodeValue_spells hv hlen (stops_ws h2 (by decide))]
    simp only [Option.bind_eq_bind, Option.bind_some,
      expect_other (c := ',') (d := ascii ']') (by decide) (by decide) h2, expect_found (c := ']') (by decide) h2,
      Option.map_some]
  | _, _, @SpellsElements.more w1 v w2 b _ _ h1 hv h2 hjs, n, rest, hn => by
    obtain ⟨n, rfl⟩ : ∃ m, n = m + 1 := Nat.exists_eq_add_of_le' (le_trans (by simp) hn)
    have hassoc : w1 ++ v ++ w2 ++ ascii ',' :: b ++ ascii ']' :: rest =
        w1 ++ (v ++ (w2 ++ ascii ',' :: (b ++ ascii ']' :: rest))) := by simp
    have hlen : v.length ≤ n ∧ b.length + 1 ≤ n := by
      simp only [List.length_append, List.length_cons] at hn
      omega
    obtain ⟨c, t, rfl, hc, -, hclose⟩ := hv.head
    refine ⟨by rw [hassoc]; exact expect_other hc hclose h1 _, ?_⟩
    rw [hassoc, decodeElements, hv.dropWhile h1, decodeValue_spells hv hlen.1 (stops_ws h2 (by decide))]
    simp only [Option.bind_eq_bind, Option.bind_some, expect_found (c := ',') (by decide) h2,
      (decodeElements_spells hjs hlen.2).2, Option.map_some]
    rfl

end

/-- **The decoder is complete.** -/
theorem decode_spells {j : Json} {v w w' : List UInt8} (h : Spells j v) (hw : Ws w) (hw' : Ws w') :
    decode (w ++ v ++ w') = some j := by
  have hstop : Stops w' := by
    cases w' with
    | nil => exact fun c hc => by cases hc
    | cons c w' => exact stops_cons (continuesNumber_ws (hw' c List.mem_cons_self))
  have hlen : v.length ≤ (w ++ v ++ w').length := by
    simp only [List.length_append]
    omega
  have hend : w'.dropWhile isWs = [] := List.dropWhile_eq_nil_iff.mpr hw'
  rw [decode, List.append_assoc, h.dropWhile hw, ← List.append_assoc, decodeValue_spells h hlen hstop]
  simp only [hend, ↓reduceIte]

/-- A text spells one value. -/
theorem Spells.inj {j j' : Json} {v : List UInt8} (h : Spells j v) (h' : Spells j' v) : j = j' := by
  have hdecode := decode_spells h Ws.nil Ws.nil
  rw [decode_spells h' Ws.nil Ws.nil] at hdecode
  exact (Option.some.inj hdecode).symm

end Rfc8259
