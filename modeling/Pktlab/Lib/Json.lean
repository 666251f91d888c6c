/-
# JSON values and their spellings

`Json` is what a text of RFC 8259 stands for; strings are the bytes they
decode to and numbers keep their text. `Spells j b` says that `b` is a text
of the value `j`. A spelling derives from the grammar (`Spells.derives`), and
a text of the grammar holds no control character but whitespace
(`Derives.control`).

Key definitions: `Json`, `Spells`.
-/
import Pktlab.Lib.Rfc8259

namespace Rfc8259

open Utf8

inductive Json
  | lit (b : List UInt8)
  | num (b : List UInt8)
  | str (s : List UInt8)
  | arr (elements : List Json)
  | obj (members : List (List UInt8 × Json))

mutual

/-- `b` is a text of the value `j`. -/
inductive Spells : Json → List UInt8 → Prop
  | lit {b : List UInt8} : b ∈ [utf8 "true", utf8 "false", utf8 "null"] → Spells (.lit b) b
  | num {b : List UInt8} : Number b → Spells (.num b) b
  | str {raw s : List UInt8} : Decodes raw s → Spells (.str s) (quoted raw)
  | emptyObj {w : List UInt8} : Ws w → Spells (.obj []) (ascii '{' :: w ++ [ascii '}'])
  | obj {ms : List (List UInt8 × Json)} {b : List UInt8} : SpellsMembers ms b →
      Spells (.obj ms) (ascii '{' :: b ++ [ascii '}'])
  | emptyArr {w : List UInt8} : Ws w → Spells (.arr []) (ascii '[' :: w ++ [ascii ']'])
  | arr {js : List Json} {b : List UInt8} : SpellsElements js b →
      Spells (.arr js) (ascii '[' :: b ++ [ascii ']'])

/-- `b` is a text of the members of an object, one or more. -/
inductive SpellsMembers : List (List UInt8 × Json) → List UInt8 → Prop
  | one {w1 raw k w2 w3 v w4 : List UInt8} {j : Json} :
      Ws w1 → Decodes raw k → Ws w2 → Ws w3 → Spells j v → Ws w4 →
      SpellsMembers [(k, j)] (w1 ++ quoted raw ++ w2 ++ [ascii ':'] ++ w3 ++ v ++ w4)
  | more {w1 raw k w2 w3 v w4 b : List UInt8} {j : Json} {ms : List (List UInt8 × Json)} :
      Ws w1 → Decodes raw k → Ws w2 → Ws w3 → Spells j v → Ws w4 → SpellsMembers ms b →
      SpellsMembers ((k, j) :: ms)
        (w1 ++ quoted raw ++ w2 ++ [ascii ':'] ++ w3 ++ v ++ w4 ++ ascii ',' :: b)

/-- `b` is a text of the elements of an array, one or more. -/
inductive SpellsElements : List Json → List UInt8 → Prop
  | one {w1 v w2 : List UInt8} {j : Json} : Ws w1 → Spells j v → Ws w2 →
      SpellsElements [j] (w1 ++ v ++ w2)
  | more {w1 v w2 b : List UInt8} {j : Json} {js : List Json} : Ws w1 → Spells j v → Ws w2 →
      SpellsElements js b → SpellsElements (j :: js) (w1 ++ v ++ w2 ++ ascii ',' :: b)

end

/-! ### Spellings derive from the grammar -/

mutual

theorem Spells.derives : ∀ {j : Json} {b : List UInt8}, Spells j b → ∃ d u, Derives .value b d u
  | _, _, .lit h => ⟨0, false, .literal h⟩
  | _, _, .num h => ⟨0, false, .number h⟩
  | _, _, .str h => by
    obtain ⟨u, hu⟩ := h.chars
    exact ⟨0, u, .string hu⟩
  | _, _, .emptyObj h => ⟨1, false, .emptyObject h⟩
  | _, _, .obj h => by
    obtain ⟨d, u, hd⟩ := SpellsMembers.derives h
    exact ⟨d + 1, u, .object hd⟩
  | _, _, .emptyArr h => ⟨1, false, .emptyArray h⟩
  | _, _, .arr h => by
    obtain ⟨d, u, hd⟩ := SpellsElements.derives h
    exact ⟨d + 1, u, .array hd⟩

theorem SpellsMembers.derives : ∀ {ms : List (List UInt8 × Json)} {b : List UInt8},
    SpellsMembers ms b → ∃ d u, Derives .members b d u
  | _, _, .one h1 hk h2 h3 hv h4 => by
    obtain ⟨u, hu⟩ := hk.chars
    obtain ⟨d, u', hd⟩ := Spells.derives hv
    exact ⟨d, _, .member h1 hu h2 h3 hd h4⟩
  | _, _, .more h1 hk h2 h3 hv h4 hms => by
    obtain ⟨u, hu⟩ := hk.chars
    obtain ⟨d, u', hd⟩ := Spells.derives hv
    obtain ⟨d', u'', hd'⟩ := SpellsMembers.derives hms
    exact ⟨_, _, .members h1 hu h2 h3 hd h4 hd'⟩

theorem SpellsElements.derives : ∀ {js : List Json} {b : List UInt8},
    SpellsElements js b → ∃ d u, Derives .elements b d u
  | _, _, .one h1 hv h2 => by
    obtain ⟨d, u, hd⟩ := Spells.derives hv
    exact ⟨d, u, .element h1 hd h2⟩
  | _, _, .more h1 hv h2 hjs => by
    obtain ⟨d, u, hd⟩ := Spells.derives hv
    obtain ⟨d', u', hd'⟩ := SpellsElements.derives hjs
    exact ⟨_, _, .elements h1 hd h2 hd'⟩

end

/-- A spelling in valid UTF-8 is a JSON text. -/
theorem Spells.text {j : Json} {b : List UInt8} (h : Spells j b) (hb : IsUtf8 b) : Text b := by
  obtain ⟨d, u, hd⟩ := h.derives
  exact ⟨hb, [], b, [], d, u, Ws.nil, hd, Ws.nil, by simp⟩

/-! ### Compact spellings -/

theorem SpellsMembers.compact_one {raw k v : List UInt8} {j : Json} (hk : Decodes raw k) (hv : Spells j v) :
    SpellsMembers [(k, j)] (quoted raw ++ ascii ':' :: v) := by
  have h := SpellsMembers.one Ws.nil hk Ws.nil Ws.nil hv Ws.nil
  simpa using h

theorem SpellsMembers.compact_more {raw k v b : List UInt8} {j : Json} {ms : List (List UInt8 × Json)}
    (hk : Decodes raw k) (hv : Spells j v) (hms : SpellsMembers ms b) :
    SpellsMembers ((k, j) :: ms) (quoted raw ++ ascii ':' :: (v ++ ascii ',' :: b)) := by
  have h := SpellsMembers.more Ws.nil hk Ws.nil Ws.nil hv Ws.nil hms
  simpa using h

theorem SpellsElements.compact_one {v : List UInt8} {j : Json} (hv : Spells j v) :
    SpellsElements [j] v := by
  have h := SpellsElements.one Ws.nil hv Ws.nil
  simpa using h

theorem SpellsElements.compact_more {v b : List UInt8} {j : Json} {js : List Json} (hv : Spells j v)
    (hjs : SpellsElements js b) : SpellsElements (j :: js) (v ++ ascii ',' :: b) := by
  have h := SpellsElements.more Ws.nil hv Ws.nil hjs
  simpa using h

/-- Bytes that all stand for themselves. -/
theorem decodes_plain : ∀ {b : List UInt8}, (∀ c ∈ b, isPlain c = true) → Decodes b b
  | [], _ => .nil
  | c :: _, h => .plain (h c List.mem_cons_self) (decodes_plain fun d hd => h d (List.mem_cons_of_mem _ hd))

/-! ### Control characters -/

/-- A byte that may stand unescaped somewhere in a JSON text. -/
def Bare (c : UInt8) : Prop := 0x20 ≤ c ∨ isWs c = true

theorem Ws.bare {w : List UInt8} (h : Ws w) : ∀ c ∈ w, Bare c := fun c hc => Or.inr (h c hc)

theorem Chars.bare {b : List UInt8} {u : Bool} (h : Chars b u) : ∀ c ∈ b, Bare c := by
  have hesc : ∀ e x : UInt8, unescape e = some x → Bare e := by
    intro e x he
    unfold unescape at he
    split_ifs at he with h1 h2 h3 h4 h5 h6 h7 h8
    all_goals (subst_vars; left; decide)
  have hhex : ∀ e : UInt8, (hexValue e).isSome → Bare e := by
    intro e he
    left
    by_contra hlt
    have hlow : e.toNat < 0x20 := by
      rw [UInt8.le_iff_toNat_le] at hlt
      exact Nat.lt_of_not_le hlt
    have hge : ∀ c : Char, 0x20 ≤ (ascii c).toNat → ¬ ascii c ≤ e := fun c hc h => by
      rw [UInt8.le_iff_toNat_le] at h
      omega
    have hnone : hexValue e = none := by
      simp [hexValue, isDigit, hge '0' (by decide), hge 'a' (by decide), hge 'A' (by decide)]
    rw [hnone] at he
    cases he
  induction h with
  | nil => simp
  | plain hc _ ih =>
    simp only [isPlain, Bool.and_eq_true, decide_eq_true_eq] at hc
    exact List.forall_mem_cons.mpr ⟨Or.inl hc.1.1, ih⟩
  | esc he _ ih =>
    exact List.forall_mem_cons.mpr ⟨Or.inl (by decide), List.forall_mem_cons.mpr ⟨hesc _ _ he, ih⟩⟩
  | uni h1 h2 h3 h4 _ ih =>
    simp only [List.forall_mem_cons]
    exact ⟨Or.inl (by decide), Or.inl (by decide), hhex _ h1, hhex _ h2, hhex _ h3, hhex _ h4, ih⟩

theorem Digits.bare {b : List UInt8} (h : Digits b) : ∀ c ∈ b, Bare c := by
  intro c hc
  have hd := h.2 c hc
  simp only [isDigit, Bool.and_eq_true, decide_eq_true_eq] at hd
  exact Or.inl (UInt8.le_trans (b := ascii '0') (by decide) hd.1)

theorem Number.bare {b : List UInt8} (h : Number b) : ∀ c ∈ b, Bare c := by
  obtain ⟨n, rfl⟩ := h
  have hone : ∀ c : UInt8, 0x20 ≤ c → ∀ d ∈ [c], Bare d := fun c hc d hd => by
    rw [List.mem_singleton] at hd
    exact Or.inl (hd ▸ hc)
  have hminus : ∀ c ∈ n.minus, Bare c := by
    rcases n.minus_ok with h | h <;> rw [h]
    · simp
    · exact hone _ (by decide)
  have hint : ∀ c ∈ n.int, Bare c := by
    rcases n.int_ok with h | h
    · rw [h]
      exact hone _ (by decide)
    · exact h.1.bare
  have hfrac : ∀ c ∈ n.frac, Bare c := by
    rcases n.frac_ok with h | ⟨ds, h, hds⟩ <;> rw [h]
    · simp
    · exact List.forall_mem_cons.mpr ⟨Or.inl (by decide), hds.bare⟩
  have hexp : ∀ c ∈ n.exp, Bare c := by
    rcases n.exp_ok with h | ⟨e, sign, ds, h, he, hs, hds⟩ <;> rw [h]
    · simp
    · have hsign : ∀ c ∈ sign, Bare c := by
        rcases hs with rfl | rfl | rfl
        · simp
        · exact hone _ (by decide)
        · exact hone _ (by decide)
      have he' : Bare e := Or.inl (by rcases he with rfl | rfl <;> decide)
      rw [List.cons_append]
      exact List.forall_mem_cons.mpr ⟨he', List.forall_mem_append.mpr ⟨hsign, hds.bare⟩⟩
  simp only [NumberParts.text, List.forall_mem_append]
  exact ⟨⟨⟨hminus, hint⟩, hfrac⟩, hexp⟩

/-- A text of the grammar holds no control character but whitespace. -/
theorem Derives.bare {nt : Nt} {b : List UInt8} {d : ℕ} {u : Bool} (h : Derives nt b d u) :
    ∀ c ∈ b, Bare c := by
  have hq : ∀ {k : List UInt8} {u : Bool}, Chars k u → ∀ c ∈ quoted k, Bare c := by
    intro k u hk
    simp only [quoted, List.cons_append, List.forall_mem_cons, List.forall_mem_append]
    exact ⟨Or.inl (by decide), hk.bare, Or.inl (by decide), by simp⟩
  have hbr : ∀ {o e : UInt8} {b : List UInt8}, 0x20 ≤ o → 0x20 ≤ e → (∀ c ∈ b, Bare c) →
      ∀ c ∈ o :: b ++ [e], Bare c := by
    intro o e b ho he hb
    simp only [List.cons_append, List.forall_mem_cons, List.forall_mem_append]
    exact ⟨Or.inl ho, hb, Or.inl he, by simp⟩
  induction h with
  | literal hb =>
    simp only [List.mem_cons, List.not_mem_nil, or_false] at hb
    intro c hc
    left
    revert c
    rcases hb with rfl | rfl | rfl <;> decide
  | number hn => exact hn.bare
  | string hb => exact hq hb
  | emptyObject hw => exact hbr (by decide) (by decide) hw.bare
  | object _ ih => exact hbr (by decide) (by decide) ih
  | emptyArray hw => exact hbr (by decide) (by decide) hw.bare
  | array _ ih => exact hbr (by decide) (by decide) ih
  | member h1 hk h2 h3 _ h4 ih =>
    simp only [List.forall_mem_append, List.forall_mem_singleton]
    exact ⟨⟨⟨⟨⟨⟨h1.bare, hq hk⟩, h2.bare⟩, Or.inl (by decide)⟩, h3.bare⟩, ih⟩, h4.bare⟩
  | members h1 hk h2 h3 _ h4 _ ih ih' =>
    simp only [List.forall_mem_append, List.forall_mem_singleton, List.forall_mem_cons]
    exact ⟨⟨⟨⟨⟨⟨⟨h1.bare, hq hk⟩, h2.bare⟩, Or.inl (by decide)⟩, h3.bare⟩, ih⟩, h4.bare⟩,
      Or.inl (by decide), ih'⟩
  | element h1 _ h2 ih =>
    simp only [List.forall_mem_append]
    exact ⟨⟨h1.bare, ih⟩, h2.bare⟩
  | elements h1 _ h2 _ ih ih' =>
    simp only [List.forall_mem_append, List.forall_mem_cons]
    exact ⟨⟨⟨h1.bare, ih⟩, h2.bare⟩, Or.inl (by decide), ih'⟩

theorem Text.bare {b : List UInt8} (h : Text b) : ∀ c ∈ b, Bare c := by
  obtain ⟨-, w, v, w', d, u, hw, hv, hw', rfl⟩ := h
  simp only [List.forall_mem_append]
  exact ⟨⟨hw.bare, hv.bare⟩, hw'.bare⟩

/-! ### The first member of an object -/

/-- A string ends at its first unescaped quote, so its text is determined. -/
theorem Chars.quote_inj {a : List UInt8} {u : Bool} (ha : Chars a u) :
    ∀ {b x y : List UInt8} {u' : Bool}, Chars b u' → a ++ ascii '"' :: x = b ++ ascii '"' :: y →
      a = b ∧ x = y := by
  have hbs : ascii '\\' ≠ ascii '"' := by decide
  have hu : ∀ x : UInt8, unescape (ascii 'u') ≠ some x := fun x h => by
    rw [unescape_u] at h
    cases h
  induction ha with
  | nil =>
    intro b x y u' hb h
    cases hb with
    | nil => exact ⟨rfl, (List.cons.inj h).2⟩
    | plain hc => exact absurd (List.cons.inj h).1.symm (isPlain_not_quote hc)
    | esc => exact absurd (List.cons.inj h).1.symm hbs
    | uni => exact absurd (List.cons.inj h).1.symm hbs
  | plain hc _ ih =>
    intro b x y u' hb h
    cases hb with
    | nil => exact absurd (List.cons.inj h).1 (isPlain_not_quote hc)
    | plain hc' hb =>
      obtain ⟨rfl, ht⟩ := List.cons.inj h
      obtain ⟨rfl, rfl⟩ := ih hb ht
      exact ⟨rfl, rfl⟩
    | esc => exact absurd (List.cons.inj h).1 (isPlain_not_backslash hc)
    | uni => exact absurd (List.cons.inj h).1 (isPlain_not_backslash hc)
  | esc he _ ih =>
    intro b x y u' hb h
    cases hb with
    | nil => exact absurd (List.cons.inj h).1 hbs
    | plain hc => exact absurd (List.cons.inj h).1.symm (isPlain_not_backslash hc)
    | esc he' hb =>
      obtain ⟨rfl, ht⟩ := List.cons.inj (List.cons.inj h).2
      obtain ⟨rfl, rfl⟩ := ih hb ht
      exact ⟨rfl, rfl⟩
    | uni =>
      obtain ⟨rfl, -⟩ := List.cons.inj (List.cons.inj h).2
      exact absurd he (hu _)
  | uni _ _ _ _ _ ih =>
    intro b x y u' hb h
    cases hb with
    | nil => exact absurd (List.cons.inj h).1 hbs
    | plain hc => exact absurd (List.cons.inj h).1.symm (isPlain_not_backslash hc)
    | esc he' =>
      obtain ⟨he, -⟩ := List.cons.inj (List.cons.inj h).2
      rw [← he] at he'
      exact absurd he' (hu _)
    | uni _ _ _ _ hb =>
      simp only [List.cons_append, List.cons.injEq, true_and] at h
      obtain ⟨rfl, rfl, rfl, rfl, ht⟩ := h
      obtain ⟨rfl, rfl⟩ := ih hb ht
      exact ⟨rfl, rfl⟩

/-- Whitespace before a byte that is none is determined. -/
theorem Ws.eq_nil_of_head {w t b : List UInt8} {c : UInt8} (hw : Ws w)
    (h : c :: t = w ++ b) (hc : isWs c = false) : w = [] := by
  cases w with
  | nil => rfl
  | cons a w =>
    obtain ⟨rfl, -⟩ := List.cons.inj h
    rw [hw c List.mem_cons_self] at hc
    cases hc

/-- In a compact object whose first member is a string, that string is the
one the object spells. -/
theorem Spells.first_string {k s raw raw' t : List UInt8} {ms : List (List UInt8 × Json)} {u u' : Bool}
    (hk : Chars raw u) (hs : Chars raw' u')
    (h : Spells (.obj ((k, .str s) :: ms)) (ascii '{' :: (quoted raw ++ ascii ':' :: (quoted raw' ++ t)))) :
    Decodes raw' s := by
  -- both forms of the members start alike
  have key : ∀ {w1 r1 w2 w3 r3 b : List UInt8} (rest : List UInt8), Ws w1 → Decodes r1 k → Ws w2 → Ws w3 → Decodes r3 s →
      ascii '{' :: (quoted raw ++ ascii ':' :: (quoted raw' ++ t)) = ascii '{' :: b ++ [ascii '}'] →
      b = w1 ++ (quoted r1 ++ (w2 ++ ascii ':' :: (w3 ++ (quoted r3 ++ rest)))) → Decodes raw' s := by
    intro w1 r1 w2 w3 r3 b rest h1 hr1 h2 h3 hr3 he hb
    rw [List.cons_append, List.cons.injEq, hb] at he
    replace he := he.2
    simp only [quoted, List.cons_append, List.append_assoc, List.nil_append] at he
    obtain rfl := h1.eq_nil_of_head he (by decide)
    rw [List.nil_append] at he
    obtain ⟨-, he⟩ := List.cons.inj he
    obtain ⟨ur, hur⟩ := hr1.chars
    obtain ⟨-, he⟩ := hk.quote_inj hur he
    obtain rfl := h2.eq_nil_of_head he (by decide)
    rw [List.nil_append] at he
    obtain ⟨-, he⟩ := List.cons.inj he
    obtain rfl := h3.eq_nil_of_head he (by decide)
    rw [List.nil_append] at he
    obtain ⟨-, he⟩ := List.cons.inj he
    obtain ⟨u3, hu3⟩ := hr3.chars
    obtain ⟨rfl, -⟩ := hs.quote_inj hu3 he
    exact hr3
  generalize hg : ascii '{' :: (quoted raw ++ ascii ':' :: (quoted raw' ++ t)) = text at h
  cases h with
  | obj hms =>
    cases hms with
    | @one _ _ _ _ _ _ w4 _ h1 hr1 h2 h3 hv _ =>
      cases hv with
      | str hr3 => exact key w4 h1 hr1 h2 h3 hr3 hg (by simp)
    | @more _ _ _ _ _ _ w4 b _ _ h1 hr1 h2 h3 hv _ _ =>
      cases hv with
      | str hr3 => exact key (w4 ++ ascii ',' :: b) h1 hr1 h2 h3 hr3 hg (by simp)

end Rfc8259
