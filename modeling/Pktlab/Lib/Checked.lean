/-
# Checked memory

A C function reads texts by index, writes to arrays of a fixed size, moves a
position forwards and subtracts sizes. Here each of these operations checks
what C leaves to the programmer and ends in a `Fault` where it does not hold:
an index outside the text (`load`), outside the array (`Buffer.store`), a
position that moves back or leaves the text (`moveTo`), a difference below
zero (`minus`). A program over them that never ends in a fault does none of
this, whatever else it does.

`At text pos rest` says that `rest` is what is left of the text at `pos`, and
`Fills b0 out b` that `b` is `b0` with `out` written over its start. With them
a loop over indices is related to a recursion over lists.

Key definitions: `Fault`, `Buffer`, `load`, `moveTo`, `minus`, `At`, `Fills`.
Key theorems: `At.load`, `At.moveTo`, `Fills.store`, `Fills.storeAll`,
`Fills.storeOver`, `loadString_eq`, `compare_eq`.
-/
import Mathlib.Data.List.Basic
import Mathlib.Data.List.TakeWhile

namespace Checked

/-- What a checked program ends in: an index outside a text or an array, a
position that moves back or out of its text, a difference below zero, more
nested calls than its stack allows, a loop that does not end in time. -/
inductive Fault
  | read
  | write
  | cursor
  | minus
  | levels
  | fuel
  deriving DecidableEq, Repr

/-- An array of `cap` bytes. -/
structure Buffer (cap : ℕ) where
  bytes : List UInt8
  size : bytes.length = cap
  deriving DecidableEq

variable {cap : ℕ}

theorem Buffer.eq_of_bytes : ∀ {b b' : Buffer cap}, b.bytes = b'.bytes → b = b'
  | ⟨_, _⟩, ⟨_, _⟩, h => by
    cases h
    rfl

/-- An array of zeros. -/
def Buffer.zeroed (cap : ℕ) : Buffer cap := ⟨List.replicate cap 0, List.length_replicate⟩

/-- `text[i]`. -/
def load (text : List UInt8) (i : ℕ) : Except Fault UInt8 :=
  match text[i]? with
  | some b => .ok b
  | none => .error .read

theorem set_size (buffer : Buffer cap) (i : ℕ) (c : UInt8) : (buffer.bytes.set i c).length = cap := by
  rw [List.length_set, buffer.size]

/-- `buffer[i] = c`. -/
def Buffer.store (buffer : Buffer cap) (i : ℕ) (c : UInt8) : Except Fault (Buffer cap) :=
  if i < cap then .ok ⟨buffer.bytes.set i c, set_size buffer i c⟩ else .error .write

/-- `memcpy(buffer + i, cs, n)`, byte after byte. -/
def Buffer.storeAll (buffer : Buffer cap) (i : ℕ) : List UInt8 → Except Fault (Buffer cap)
  | [] => .ok buffer
  | c :: cs => do
    let buffer ← buffer.store i c
    buffer.storeAll (i + 1) cs

/-- `a - b` on sizes. -/
def minus (a b : ℕ) : Except Fault ℕ := if b ≤ a then .ok (a - b) else .error .minus

/-- `pos = q`, where positions only move forwards. -/
def moveTo (text : List UInt8) (pos q : ℕ) : Except Fault ℕ :=
  if pos ≤ q ∧ q ≤ text.length then .ok q else .error .cursor

/-- `pos < length && text[pos] == c`. -/
def isAt (text : List UInt8) (pos : ℕ) (c : UInt8) : Except Fault Bool :=
  if pos < text.length then do
    let b ← load text pos
    return b = c
  else return false

/-- Whether the bytes from `pos` on are `cs`, read up to the first
difference. -/
def compare (text : List UInt8) (pos : ℕ) : List UInt8 → Except Fault Bool
  | [] => .ok true
  | c :: cs => do
    let b ← load text pos
    if b = c then compare text (pos + 1) cs else return false

/-- What `%s` reads: the bytes up to the first NUL of the array. -/
def loadString (text : List UInt8) : Except Fault (List UInt8) :=
  if 0 ∈ text then .ok (text.takeWhile (· ≠ 0)) else .error .read

@[simp] theorem ok_bind {ε α β : Type} (a : α) (f : α → Except ε β) : (Except.ok a >>= f) = f a := rfl

/-! ### Positions -/

/-- `rest` is what is left of the text at `pos`. -/
structure At (text : List UInt8) (pos : ℕ) (rest : List UInt8) : Prop where
  le : pos ≤ text.length
  drop : text.drop pos = rest

variable {text rest : List UInt8} {pos q : ℕ} {b : UInt8}

theorem At.start (text : List UInt8) : At text 0 text := ⟨Nat.zero_le _, rfl⟩

theorem At.length_eq (h : At text pos rest) : pos + rest.length = text.length := by
  have hle := h.le
  rw [← h.drop, List.length_drop]
  omega

theorem At.lt (h : At text pos (b :: rest)) : pos < text.length := by
  have hlen := h.length_eq
  rw [List.length_cons] at hlen
  omega

theorem At.not_lt (h : At text pos []) : ¬ pos < text.length := by
  have hlen := h.length_eq
  rw [List.length_nil] at hlen
  omega

theorem At.load (h : At text pos (b :: rest)) : load text pos = .ok b := by
  have hget : text[pos]? = some b := by
    rw [← List.head?_drop, h.drop, List.head?_cons]
  rw [Checked.load, hget]

theorem At.next (h : At text pos (b :: rest)) : At text (pos + 1) rest := by
  refine ⟨h.lt, ?_⟩
  rw [← List.drop_drop, h.drop, List.drop_succ_cons, List.drop_zero]

theorem At.forward {cs : List UInt8} (h : At text pos (cs ++ rest)) : At text (pos + cs.length) rest := by
  have hlen := h.length_eq
  rw [List.length_append] at hlen
  refine ⟨by omega, ?_⟩
  rw [← List.drop_drop, h.drop, List.drop_left]

theorem At.moveTo (h : At text q rest) (hle : pos ≤ q) : moveTo text pos q = .ok q := if_pos ⟨hle, h.le⟩

/-- The text between two positions. -/
theorem At.append_drop {rest' : List UInt8} (h : At text pos rest) (h' : At text q rest') (hle : pos ≤ q) :
    rest = (text.drop pos).take (q - pos) ++ rest' := by
  have hsplit := List.take_append_drop (q - pos) (text.drop pos)
  rw [List.drop_drop, Nat.add_sub_cancel' hle, h'.drop] at hsplit
  rw [hsplit, h.drop]

theorem isAt_cons (h : At text pos (b :: rest)) (c : UInt8) : isAt text pos c = .ok (decide (b = c)) := by
  rw [isAt, if_pos h.lt, h.load]
  rfl

theorem isAt_nil (h : At text pos []) (c : UInt8) : isAt text pos c = .ok false := by
  rw [isAt, if_neg h.not_lt]
  rfl

/-- A comparison inside the text. -/
theorem compare_eq : ∀ {cs : List UInt8} {pos : ℕ} {rest : List UInt8}, At text pos rest →
    cs.length ≤ rest.length → compare text pos cs = .ok (decide (rest.take cs.length = cs))
  | [], pos, rest, _, _ => by simp [compare]
  | c :: cs, pos, [], _, hle => by simp at hle
  | c :: cs, pos, b :: rest, h, hle => by
    rw [compare, h.load, ok_bind]
    by_cases hb : b = c
    · have ih := compare_eq h.next (Nat.le_of_succ_le_succ hle)
      rw [if_pos hb, ih]
      simp [hb]
    · rw [if_neg hb]
      simp [hb, pure, Except.pure]

/-! ### Arrays -/

/-- `b` is `b0` with `out` written over its start. -/
def Fills (b0 : Buffer cap) (out : List UInt8) (b : Buffer cap) : Prop :=
  b.bytes = out ++ b0.bytes.drop out.length

variable {b0 buffer : Buffer cap} {out : List UInt8}

theorem Fills.nil (b0 : Buffer cap) : Fills b0 [] b0 := rfl

theorem Fills.store (h : Fills b0 out buffer) (hlt : out.length < cap) (c : UInt8) :
    ∃ buffer', buffer.store out.length c = .ok buffer' ∧ Fills b0 (out ++ [c]) buffer' := by
  refine ⟨_, if_pos hlt, ?_⟩
  have hpos : out.length < b0.bytes.length := by
    rw [b0.size]
    exact hlt
  show buffer.bytes.set out.length c = _
  rw [h, List.set_append_right _ _ le_rfl, Nat.sub_self, List.drop_eq_getElem_cons hpos, List.set_cons_zero,
    List.length_append, List.length_singleton, List.append_assoc, List.singleton_append]

/-- Before anything is written. -/
theorem Fills.eq_of_nil (h : Fills b0 [] buffer) : buffer = b0 := Buffer.eq_of_bytes h

/-- A terminator over a zero changes nothing. -/
theorem Fills.of_terminated (h : Fills (Buffer.zeroed cap) (out ++ [0]) buffer) (hlt : out.length < cap) :
    Fills (Buffer.zeroed cap) out buffer := by
  have hzero : (Buffer.zeroed cap).bytes.drop out.length =
      0 :: (Buffer.zeroed cap).bytes.drop (out.length + 1) := by
    simp only [Buffer.zeroed, List.drop_replicate]
    rw [← List.replicate_succ]
    congr 1
    omega
  unfold Fills at h ⊢
  rw [h, hzero, List.append_assoc, List.length_append, List.length_singleton, List.singleton_append]

theorem Fills.storeAll : ∀ {cs out : List UInt8} {buffer : Buffer cap}, Fills b0 out buffer →
    out.length + cs.length ≤ cap →
    ∃ buffer', buffer.storeAll out.length cs = .ok buffer' ∧ Fills b0 (out ++ cs) buffer'
  | [], out, buffer, h, _ => ⟨buffer, rfl, by rw [List.append_nil]; exact h⟩
  | c :: cs, out, buffer, h, hle => by
    rw [List.length_cons] at hle
    obtain ⟨buffer1, h1, hfills⟩ := h.store (by omega) c
    have hrest : (out ++ [c]).length + cs.length ≤ cap := by
      rw [List.length_append, List.length_singleton]
      omega
    obtain ⟨buffer2, h2, hfills2⟩ := Fills.storeAll hfills hrest
    refine ⟨buffer2, ?_, ?_⟩
    · rw [Buffer.storeAll, h1, ok_bind]
      rwa [List.length_append, List.length_singleton] at h2
    · rwa [List.append_assoc, List.singleton_append] at hfills2

/-- What is written over a start that is known already. -/
theorem Fills.trans {b b' : Buffer cap} {out' : List UInt8} (h : Fills b0 out b) (h' : Fills b out' b')
    (hle : out.length ≤ out'.length) : Fills b0 out' b' := by
  have hdrop : b.bytes.drop out'.length = b0.bytes.drop out'.length := by
    rw [h, List.drop_append, List.drop_eq_nil_of_le hle, List.nil_append, List.drop_drop, Nat.add_sub_cancel' hle]
  unfold Fills at h' ⊢
  rw [h', hdrop]

/-- Stores that go over the end of what is written, such as a terminator. -/
theorem Fills.storeOver {x cs : List UInt8} (h : Fills b0 (out ++ x) buffer) (hx : x.length ≤ cs.length)
    (hle : out.length + cs.length ≤ cap) :
    ∃ buffer', buffer.storeAll out.length cs = .ok buffer' ∧ Fills b0 (out ++ cs) buffer' := by
  have hself : Fills buffer out buffer := by
    unfold Fills at h ⊢
    rw [h, List.append_assoc, List.drop_left]
  obtain ⟨buffer', hstore, hfills⟩ := hself.storeAll hle
  refine ⟨buffer', hstore, h.trans hfills ?_⟩
  rw [List.length_append, List.length_append]
  omega

theorem Fills.take {x : List UInt8} (h : Fills b0 (out ++ x) buffer) : buffer.bytes.take out.length = out := by
  rw [h, List.append_assoc, List.take_left]

theorem minus_eq {a b : ℕ} (h : b ≤ a) : minus a b = .ok (a - b) := if_pos h

/-- A string with its terminator in front of anything. -/
theorem takeWhile_terminated {s : List UInt8} (hs : (0 : UInt8) ∉ s) (junk : List UInt8) :
    (s ++ 0 :: junk).takeWhile (· ≠ 0) = s := by
  have hall : ∀ c ∈ s, decide (c ≠ 0) = true := fun c hc => decide_eq_true fun h0 => hs (h0 ▸ hc)
  rw [List.takeWhile_append_of_pos hall, List.takeWhile_cons_of_neg (by simp), List.append_nil]

theorem loadString_eq (h : Fills b0 (out ++ [0]) buffer) (hout : (0 : UInt8) ∉ out) :
    loadString buffer.bytes = .ok out := by
  have htext : buffer.bytes = out ++ 0 :: b0.bytes.drop (out ++ [0]).length := by
    rw [h, List.append_assoc, List.singleton_append]
  rw [loadString, htext, if_pos (List.mem_append_right _ List.mem_cons_self), takeWhile_terminated hout]

/-- An array with a NUL in it holds a string, a terminator and a rest. -/
theorem terminated_eq {bytes : List UInt8} (h : (0 : UInt8) ∈ bytes) :
    ∃ junk, bytes = bytes.takeWhile (· ≠ 0) ++ 0 :: junk := by
  obtain ⟨text, junk, heq, htext⟩ := List.eq_append_cons_of_mem h
  refine ⟨junk, ?_⟩
  rw [heq, takeWhile_terminated htext]

/-- The comparison with a C string finds the string up to the first NUL. -/
theorem take_nul_iff : ∀ {name key : List UInt8} (rest : List UInt8), (0 : UInt8) ∉ name →
    ((key ++ 0 :: rest).take (name.length + 1) = name ++ [0] ↔ key.takeWhile (· ≠ 0) = name)
  | [], [], rest, _ => by simp
  | [], k :: key, rest, _ => by
    by_cases hk : k = 0
    · simp [hk]
    · simp [hk]
  | n :: name, [], rest, h => by
    have hn : (0 : UInt8) ≠ n := fun h0 => h (h0 ▸ List.mem_cons_self)
    simp [hn]
  | n :: name, k :: key, rest, h => by
    have hn : (0 : UInt8) ≠ n := fun h0 => h (h0 ▸ List.mem_cons_self)
    have ih := @take_nul_iff name key rest fun hmem => h (List.mem_cons_of_mem n hmem)
    rw [List.cons_append, List.length_cons, List.take_succ_cons, List.cons_append, List.cons.injEq, ih]
    by_cases hk : k = 0
    · rw [hk]
      simp [hn]
    · rw [List.takeWhile_cons_of_pos (by simpa using hk), List.cons.injEq]

end Checked
