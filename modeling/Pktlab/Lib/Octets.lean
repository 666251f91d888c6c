/-
# Fields at byte offsets

A header is a window of the bytes around it, and a field a window of its
header, read as a big-endian number. A field of a window is a field of the
bytes at the sum of the offsets (`field_window`), and a field that was
written behind a prefix is read back at the prefix's length
(`field_append`).

Key definitions: `window`, `field`, `be16`.
Key theorems: `window_window`, `window_append`, `field_window`,
`field_append`, `ofBe_be16`.
-/
import Pktlab.Lib.Wire
import Mathlib.Data.List.Induction

namespace Octets

open Wire

/-- `len` bytes from `start` on. -/
def window (b : List UInt8) (start len : ℕ) : List UInt8 := (b.drop start).take len

/-- The big-endian number in `len` bytes from `start` on. -/
def field (b : List UInt8) (start len : ℕ) : ℕ := ofBe (window b start len)

/-- The two bytes of a number, the most significant first. -/
def be16 (n : ℕ) : List UInt8 := [UInt8.ofNat (n / 2 ^ 8), UInt8.ofNat n]

@[simp] theorem be16_length (n : ℕ) : (be16 n).length = 2 := rfl

theorem ofBe_be16 {n : ℕ} (h : n < 2 ^ 16) : ofBe (be16 n) = n := by
  simp only [ofBe, be16, List.foldl_cons, List.foldl_nil, UInt8.toNat_ofNat']
  omega

theorem ofBe_singleton (c : UInt8) : ofBe [c] = c.toNat := by
  simp [ofBe]

/-- A window of a window. -/
theorem window_window {b : List UInt8} {start len start' len' : ℕ} (h : start' + len' ≤ len) :
    window (window b start len) start' len' = window b (start + start') len' := by
  have hmin : min len' (len - start') = len' := by omega
  rw [window, window, window, List.drop_take, List.take_take, hmin, List.drop_drop]

theorem window_append (pre mid rest : List UInt8) :
    window (pre ++ (mid ++ rest)) pre.length mid.length = mid := by
  rw [window, List.drop_left, List.take_left]

theorem field_window {b : List UInt8} {start len start' len' : ℕ} (h : start' + len' ≤ len) :
    field (window b start len) start' len' = field b (start + start') len' := by
  rw [field, field, window_window h]

/-- A field is read back at the length of what stands before it. -/
theorem field_append (pre mid rest : List UInt8) :
    field (pre ++ (mid ++ rest)) pre.length mid.length = ofBe mid := by
  rw [field, window_append]

/-- Each byte is worth a factor of 256. -/
theorem ofBe_lt (b : List UInt8) : ofBe b < 2 ^ (8 * b.length) := by
  induction b using List.reverseRecOn with
  | nil => exact Nat.one_pos
  | append_singleton b c ih =>
    have hc := c.toNat_lt
    have hsplit : 2 ^ (8 * (b.length + 1)) = 2 ^ (8 * b.length) * 2 ^ 8 := by
      rw [Nat.mul_add, Nat.pow_add]
    rw [ofBe, List.foldl_append, List.foldl_cons, List.foldl_nil, List.length_append,
      List.length_singleton, hsplit]
    show ofBe b * 2 ^ 8 + c.toNat < _
    omega

theorem field_lt (b : List UInt8) (start len : ℕ) : field b start len < 2 ^ (8 * len) := by
  refine (ofBe_lt _).trans_le (Nat.pow_le_pow_right (by omega) ?_)
  have := List.length_take_le len (b.drop start)
  show 8 * ((b.drop start).take len).length ≤ 8 * len
  omega

end Octets
