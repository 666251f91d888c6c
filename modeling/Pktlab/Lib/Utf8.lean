/-
# Texts as bytes

A text is a `String`, its bytes are `utf8 s`; a byte list is valid UTF-8
when it is the bytes of some text (`IsUtf8`). A scanner that compares bytes
with ASCII characters never looks inside a multi-byte character, because all
its bytes are `≥ 0x80` (`utf8EncodeChar_high`).
-/
import Mathlib.Data.List.Basic
import Mathlib.Algebra.Order.Ring.Nat

namespace Utf8

/-- A property of the bytes or the characters of a text is decided along the
text, not over all bytes or characters there are. -/
instance (priority := 1100) decidableForallMem {α : Type*} (p : α → Prop) [DecidablePred p] (l : List α) :
    Decidable (∀ x ∈ l, p x) := List.decidableBAll p l

/-- The bytes of a text. -/
def utf8 (s : String) : List UInt8 := s.toList.flatMap String.utf8EncodeChar

/-- An ASCII character as a byte. -/
def ascii (c : Char) : UInt8 := c.val.toUInt8

/-- The bytes of some list of characters. -/
def IsUtf8 (b : List UInt8) : Prop := ∃ cs : List Char, b = cs.flatMap String.utf8EncodeChar

theorem isUtf8_utf8 (s : String) : IsUtf8 (utf8 s) := ⟨s.toList, rfl⟩

theorem isUtf8_nil : IsUtf8 [] := ⟨[], rfl⟩

theorem isUtf8_encode (c : Char) : IsUtf8 (String.utf8EncodeChar c) := ⟨[c], by simp⟩

theorem IsUtf8.append {a b : List UInt8} (ha : IsUtf8 a) (hb : IsUtf8 b) : IsUtf8 (a ++ b) := by
  obtain ⟨cs, rfl⟩ := ha
  obtain ⟨ds, rfl⟩ := hb
  exact ⟨cs ++ ds, by rw [List.flatMap_append]⟩

theorem IsUtf8.flatMap {α : Type*} {f : α → List UInt8} : ∀ {l : List α}, (∀ x ∈ l, IsUtf8 (f x)) →
    IsUtf8 (l.flatMap f)
  | [], _ => isUtf8_nil
  | x :: l, h => by
    rw [List.flatMap_cons]
    exact (h x List.mem_cons_self).append (IsUtf8.flatMap fun y hy => h y (List.mem_cons_of_mem x hy))

theorem utf8_append (s t : String) : utf8 (s ++ t) = utf8 s ++ utf8 t := by
  simp [utf8, String.toList_append]

/-- A character below `0x80` is its own byte. -/
theorem utf8EncodeChar_low {c : Char} (h : c.val.toNat ≤ 0x7f) :
    String.utf8EncodeChar c = [UInt8.ofNat c.val.toNat] := by
  unfold String.utf8EncodeChar
  simp only [h, ↓reduceIte]

/-- A text of characters below `0x80` has a byte for each of them. -/
theorem utf8_length_low {s : String} (h : ∀ c ∈ s.toList, c.val.toNat ≤ 0x7f) : (utf8 s).length = s.length := by
  have hlist : ∀ cs : List Char, (∀ c ∈ cs, c.val.toNat ≤ 0x7f) →
      (cs.flatMap String.utf8EncodeChar).length = cs.length := by
    intro cs hcs
    induction cs with
    | nil => rfl
    | cons c cs ih =>
      rw [List.flatMap_cons, List.length_append, utf8EncodeChar_low (hcs c List.mem_cons_self),
        ih fun d hd => hcs d (List.mem_cons_of_mem c hd), List.length_singleton, List.length_cons, Nat.add_comm]
  rw [utf8, hlist _ h, String.length_toList]

/-- A byte below `0x80` is a text of its own. -/
theorem isUtf8_low {b : UInt8} (h : b.toNat ≤ 0x7f) : IsUtf8 [b] := by
  have hval : ∀ n ≤ 0x7f, (Char.ofNat n).val.toNat = n := by decide
  refine ⟨[Char.ofNat b.toNat], ?_⟩
  rw [List.flatMap_singleton, utf8EncodeChar_low (by rw [hval _ h]; exact h), hval _ h, UInt8.ofNat_toNat]

/-- The bytes of the other characters are all `≥ 0x80`. -/
theorem utf8EncodeChar_high {c : Char} (h : ¬ c.val.toNat ≤ 0x7f) :
    ∀ b ∈ String.utf8EncodeChar c, 0x80 ≤ b.toNat := by
  intro b hb
  unfold String.utf8EncodeChar at hb
  simp only [h, ↓reduceIte] at hb
  split at hb
  · simp only [List.mem_cons, List.not_mem_nil, or_false] at hb
    rcases hb with rfl | rfl <;> simp only [UInt8.toNat_ofNat'] <;> omega
  · split at hb
    · simp only [List.mem_cons, List.not_mem_nil, or_false] at hb
      rcases hb with rfl | rfl | rfl <;> simp only [UInt8.toNat_ofNat'] <;> omega
    · simp only [List.mem_cons, List.not_mem_nil, or_false] at hb
      rcases hb with rfl | rfl | rfl | rfl <;> simp only [UInt8.toNat_ofNat'] <;> omega

/-- Different texts have different bytes. -/
theorem utf8_inj {s t : String} (h : utf8 s = utf8 t) : s = t := by
  have hencode : s.toList.utf8Encode = t.toList.utf8Encode := congrArg List.toByteArray h
  rw [String.utf8Encode_toList, String.utf8Encode_toList] at hencode
  exact String.toByteArray_inj.mp hencode

theorem utf8_ne_nil {s : String} (h : s ≠ "") : utf8 s ≠ [] := fun hnil => h (utf8_inj hnil)

/-- The text that bytes are, if they are valid UTF-8. -/
def decodeUtf8 (b : List UInt8) : Option String := String.fromUTF8? b.toByteArray

@[simp] theorem decodeUtf8_utf8 (s : String) : decodeUtf8 (utf8 s) = some s := by
  have hbytes : (utf8 s).toByteArray = s.toByteArray := String.utf8Encode_toList
  rw [decodeUtf8, String.fromUTF8?, hbytes, dif_pos s.isValidUTF8]
  rfl

theorem decodeUtf8_isSome {b : List UInt8} (h : IsUtf8 b) : ∃ s, decodeUtf8 b = some s := by
  obtain ⟨cs, rfl⟩ := h
  exact ⟨String.ofList cs, by rw [← decodeUtf8_utf8, utf8, String.toList_ofList]⟩

/-- Only the character NUL is encoded with a zero byte. -/
theorem zero_notMem_utf8 {s : String} (h : '\x00' ∉ s.toList) : (0 : UInt8) ∉ utf8 s := by
  intro hmem
  obtain ⟨c, hc, h0⟩ := List.mem_flatMap.mp hmem
  by_cases hlow : c.val.toNat ≤ 0x7f
  · rw [utf8EncodeChar_low hlow, List.mem_singleton] at h0
    have hval : c.val.toNat = 0 := by
      have hbyte := congrArg UInt8.toNat h0
      rw [UInt8.toNat_ofNat', UInt8.toNat_zero] at hbyte
      omega
    have hzero : c = '\x00' := Char.ext (UInt32.toNat_inj.mp hval)
    exact h (hzero ▸ hc)
  · exact absurd (utf8EncodeChar_high hlow 0 h0) (by decide)

end Utf8
