/-
# Decimal numerals as bytes

`decimal n` is the numeral of `n` as C's `%u` and Python's `str` print it,
and `decimalValue` is what a run of digits stands for.
-/
import Pktlab.Lib.Rfc8259
import Mathlib.Data.Nat.Notation

namespace Decimal

open Utf8 Rfc8259

/-- The numeral of `n`. -/
def decimal (n : ℕ) : List UInt8 := (Nat.toDigits 10 n).flatMap String.utf8EncodeChar

/-- The byte of a digit. -/
def digitByte (d : ℕ) : UInt8 := UInt8.ofNat (0x30 + d)

/-- The number a run of digit bytes stands for. -/
def decimalValue (b : List UInt8) : ℕ := b.foldl (fun v c => 10 * v + (c.toNat - 0x30)) 0

theorem encode_digitChar : ∀ d < 10, String.utf8EncodeChar d.digitChar = [digitByte d] := by decide

theorem isDigit_digitByte : ∀ d < 10, isDigit (digitByte d) = true := by decide

theorem digitByte_toNat : ∀ d < 10, (digitByte d).toNat = 0x30 + d := by decide

theorem digitByte_ne_zero : ∀ d < 10, 0 < d → digitByte d ≠ ascii '0' := by decide

theorem decimal_eq (n : ℕ) :
    decimal n = if n < 10 then [digitByte n] else decimal (n / 10) ++ [digitByte (n % 10)] := by
  unfold decimal
  rw [Nat.toDigits_eq_if (by decide)]
  split
  · rename_i h
    rw [List.flatMap_singleton, encode_digitChar n h]
  · rw [List.flatMap_append, List.flatMap_singleton, encode_digitChar _ (Nat.mod_lt n (by decide))]

theorem digits_decimal (n : ℕ) : Digits (decimal n) := by
  induction n using Nat.strong_induction_on with
  | _ n ih =>
    rw [decimal_eq]
    split
    · rename_i h
      refine ⟨by simp, fun c hc => ?_⟩
      rw [List.mem_singleton] at hc
      rw [hc, isDigit_digitByte n h]
    · refine ⟨by simp, fun c hc => ?_⟩
      rcases List.mem_append.mp hc with hc | hc
      · exact (ih (n / 10) (by omega)).2 c hc
      · rw [List.mem_singleton] at hc
        rw [hc, isDigit_digitByte _ (Nat.mod_lt n (by decide))]

theorem decimalValue_decimal (n : ℕ) : decimalValue (decimal n) = n := by
  induction n using Nat.strong_induction_on with
  | _ n ih =>
    rw [decimal_eq]
    split
    · rename_i h
      simp [decimalValue, digitByte_toNat n h]
    · have hdigit : (digitByte (n % 10)).toNat = 0x30 + n % 10 := digitByte_toNat _ (Nat.mod_lt n (by decide))
      unfold decimalValue
      rw [List.foldl_append, List.foldl_cons, List.foldl_nil, hdigit]
      have := ih (n / 10) (by omega)
      unfold decimalValue at this
      rw [this]
      omega

/-- Only zero starts with a zero. -/
theorem decimal_head_ne_zero {n : ℕ} (h : 0 < n) : (decimal n).head? ≠ some (ascii '0') := by
  induction n using Nat.strong_induction_on with
  | _ n ih =>
    rw [decimal_eq]
    split
    · rename_i hn
      rw [List.head?_cons, ne_eq, Option.some.injEq]
      exact digitByte_ne_zero n hn h
    · rw [List.head?_append_of_ne_nil _ (digits_decimal _).1]
      exact ih (n / 10) (by omega) (by omega)

theorem number_decimal (n : ℕ) : Number (decimal n) := by
  have hint : decimal n = [ascii '0'] ∨ (Digits (decimal n) ∧ (decimal n).head? ≠ some (ascii '0')) := by
    rcases Nat.eq_zero_or_pos n with rfl | h
    · exact Or.inl (by decide)
    · exact Or.inr ⟨digits_decimal n, decimal_head_ne_zero h⟩
  exact ⟨⟨[], decimal n, [], [], Or.inl rfl, hint, Or.inl rfl, Or.inl rfl⟩, by simp [NumberParts.text]⟩

theorem number_minus_decimal {n : ℕ} (h : 0 < n) : Number (ascii '-' :: decimal n) :=
  ⟨⟨[ascii '-'], decimal n, [], [], Or.inr rfl, Or.inr ⟨digits_decimal n, decimal_head_ne_zero h⟩, Or.inl rfl,
    Or.inl rfl⟩, by simp [NumberParts.text]⟩

theorem length_decimal_le {n k : ℕ} (hk : 0 < k) (h : n < 10 ^ k) : (decimal n).length ≤ k := by
  have hlen : (decimal n).length = (Nat.toDigits 10 n).length := by
    unfold decimal
    rw [List.length_flatMap]
    have hone : ∀ c ∈ Nat.toDigits 10 n, (String.utf8EncodeChar c).length = 1 := by
      intro c hc
      have hd := Nat.isDigit_of_mem_toDigits (by decide) (by decide) hc
      rw [utf8EncodeChar_low]
      · rfl
      · simp only [Char.isDigit, Bool.and_eq_true, decide_eq_true_eq] at hd
        have h2 : c.val.toNat ≤ '9'.val.toNat := hd.2
        exact le_trans h2 (by decide)
    rw [List.map_congr_left hone]
    simp
  rw [hlen]
  exact (Nat.length_toDigits_le_iff (by decide) hk).mpr h

end Decimal
