/-
# An order of locks that excludes waiting in a circle

Threads hold locks and want at most one more. A thread waits for another one
that holds what it wants. When every lock that a waiting thread wants ranks
above all those it holds, the ranks rise along a chain of waiting threads, so
no chain is closed (`not_transGen_waits`), and in particular no two threads
wait for each other (`not_mutualWait`).

Key definitions: `Waits`, `MutualWait`.
-/
import Mathlib.Logic.Relation
import Mathlib.Data.Nat.Notation

namespace LockOrder

variable {τ κ : Type*} (holds : τ → κ → Prop) (wants : τ → Option κ)

/-- `t` wants a lock that `t'` holds. -/
def Waits (t t' : τ) : Prop := t ≠ t' ∧ ∃ l, wants t = some l ∧ holds t' l

/-- Two threads each hold a lock that the other wants. -/
def MutualWait : Prop := ∃ t t', Waits holds wants t t' ∧ Waits holds wants t' t

variable {holds wants}

/-- The wanted locks rise along a chain of waiting threads. -/
theorem rank_lt_of_transGen (rank : κ → ℕ)
    (h : ∀ t t' l l', Waits holds wants t t' → wants t = some l' → holds t l → rank l < rank l') {t t' : τ}
    (hchain : Relation.TransGen (Waits holds wants) t t') :
    ∀ l l' t'', Waits holds wants t' t'' → wants t = some l → wants t' = some l' → rank l < rank l' := by
  induction hchain with
  | single hw =>
    intro l l' t'' hnext hl hl'
    obtain ⟨-, m, hm, hheld⟩ := hw
    rw [hl, Option.some.injEq] at hm
    subst hm
    exact h _ t'' l l' hnext hl' hheld
  | tail hchain hw ih =>
    intro l l' t'' hnext hl hl'
    have hw' := hw
    obtain ⟨-, m, hm, hheld⟩ := hw'
    exact Nat.lt_trans (ih l m _ hw hl hm) (h _ t'' m l' hnext hl' hheld)

/-- **No circle of waiting threads.** -/
theorem not_transGen_waits (rank : κ → ℕ)
    (h : ∀ t t' l l', Waits holds wants t t' → wants t = some l' → holds t l → rank l < rank l') (t : τ) :
    ¬ Relation.TransGen (Waits holds wants) t t := by
  intro hcycle
  obtain ⟨t', hw, -⟩ := Relation.TransGen.head'_iff.mp hcycle
  have hwants := hw
  obtain ⟨-, l, hl, -⟩ := hwants
  exact Nat.lt_irrefl _ (rank_lt_of_transGen rank h hcycle l l t' hw hl hl)

theorem not_mutualWait (rank : κ → ℕ)
    (h : ∀ t t' l l', Waits holds wants t t' → wants t = some l' → holds t l → rank l < rank l') :
    ¬ MutualWait holds wants := by
  rintro ⟨t, t', hw, hw'⟩
  exact not_transGen_waits rank h t (Relation.TransGen.head hw (Relation.TransGen.single hw'))

end LockOrder
