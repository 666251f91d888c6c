/-
# A thread that waits for the report of another

The pattern `lock; while (!ready) cond_wait; unlock` of one thread, the
waiter, beside `lock; store the report; cond_signal; unlock` of another, the
notifier. A wait lets go of the mutex and sleeps; the signal wakes a sleeping
waiter, and a waiter may also wake up on its own (`spurious`). A thread that
is awake takes the mutex again before it goes on.

`Inv` is what every run keeps. That no wakeup is lost is `Inv.signal`: a
waiter sleeps on a report that is there only while the notifier still has to
signal. `rank` falls with every move but a spurious wakeup, so the waiter
comes out after a number of moves that only depends on those.

Key definitions: `Waiter`, `Notifier`, `State`, `step`, `Inv`, `rank`.
Key theorems: `step_inv`, `enabled`, `step_rank`.
-/
import Mathlib.Algebra.Order.Group.Nat

namespace Handshake

variable {α : Type}

/-- Where the waiter is: it awaits the mutex, reads the flag, sleeps, awaits
the mutex after it woke up, gives the mutex back, is through. -/
inductive Waiter
  | locking
  | checking
  | asleep
  | woken
  | unlocking
  | done
  deriving DecidableEq, Repr

/-- Where the notifier is with its report. -/
inductive Notifier (α : Type)
  | idle
  | locking (report : α)
  | storing (report : α)
  | signalling (report : α)
  | unlocking (report : α)
  | done (report : α)
  deriving DecidableEq, Repr

inductive Party
  | waiter
  | notifier
  deriving DecidableEq, Repr

/-- Both threads, who has the mutex, and what the mutex guards: the flag and
the report. -/
structure State (α : Type) where
  waiter : Waiter
  notifier : Notifier α
  owner : Option Party
  ready : Bool
  report : α
  deriving DecidableEq, Repr

/-- The waiter goes on, the notifier gets its report, the notifier goes on,
the waiter wakes up without a signal. -/
inductive Move (α : Type)
  | waiter
  | decide (report : α)
  | notifier
  | spurious
  deriving DecidableEq, Repr

/-- The next step of the waiter. It stops at a mutex that is taken, and
asleep. -/
def waiterStep (s : State α) : Option (State α) :=
  match s.waiter with
  | .locking => if s.owner = none then some { s with waiter := .checking, owner := some .waiter } else none
  | .checking =>
    if s.ready then some { s with waiter := .unlocking } else some { s with waiter := .asleep, owner := none }
  | .asleep => none
  | .woken => if s.owner = none then some { s with waiter := .checking, owner := some .waiter } else none
  | .unlocking => some { s with waiter := .done, owner := none }
  | .done => none

/-- `cond_signal`. -/
def wake : Waiter → Waiter
  | .asleep => .woken
  | w => w

/-- The next step of the notifier. -/
def notifierStep (s : State α) : Option (State α) :=
  match s.notifier with
  | .idle => none
  | .locking a => if s.owner = none then some { s with notifier := .storing a, owner := some .notifier } else none
  | .storing a => some { s with notifier := .signalling a, ready := true, report := a }
  | .signalling a => some { s with notifier := .unlocking a, waiter := wake s.waiter }
  | .unlocking a => some { s with notifier := .done a, owner := none }
  | .done _ => none

def step (s : State α) : Move α → Option (State α)
  | .waiter => waiterStep s
  | .decide a =>
    match s.notifier with
    | .idle => some { s with notifier := .locking a }
    | _ => none
  | .notifier => notifierStep s
  | .spurious => if s.waiter = .asleep then some { s with waiter := .woken } else none

/-- Before either thread has begun; `unset` is what the report holds. -/
def start (unset : α) : State α := ⟨.locking, .idle, none, false, unset⟩

/-- The waiter is inside the mutex. -/
def Waiter.inside (w : Waiter) : Prop := w = .checking ∨ w = .unlocking

/-- The notifier is inside the mutex. -/
def Notifier.inside : Notifier α → Prop
  | .storing _ | .signalling _ | .unlocking _ => True
  | _ => False

/-- What the notifier has stored. -/
def Notifier.stored : Notifier α → Option α
  | .signalling a | .unlocking a | .done a => some a
  | _ => none

/-- What every run keeps. -/
structure Inv (s : State α) : Prop where
  waiter : s.owner = some .waiter ↔ s.waiter.inside
  notifier : s.owner = some .notifier ↔ s.notifier.inside
  stored : s.ready = true ↔ s.notifier.stored = some s.report
  unset : s.ready = false → s.notifier.stored = none
  through : s.waiter = .unlocking ∨ s.waiter = .done → s.notifier = .done s.report
  signal : s.waiter = .asleep → s.ready = true → s.notifier = .signalling s.report

theorem start_inv (unset : α) : Inv (start unset) where
  waiter := by simp [start, Waiter.inside]
  notifier := by simp [start, Notifier.inside]
  stored := by simp [start, Notifier.stored]
  unset := fun _ => rfl
  through := by simp [start]
  signal := by simp [start]

variable {s s' : State α} {m : Move α}

/-- A thread that takes the mutex is the only one inside. -/
theorem Inv.outside (h : Inv s) (ho : s.owner = none) : ¬ s.waiter.inside ∧ ¬ s.notifier.inside := by
  refine ⟨fun hw => ?_, fun hn => ?_⟩
  · rw [h.waiter.mpr hw] at ho
    cases ho
  · rw [h.notifier.mpr hn] at ho
    cases ho

/-- They are never both inside. -/
theorem Inv.exclusive (h : Inv s) (hw : s.waiter.inside) : ¬ s.notifier.inside := by
  intro hn
  have ho := h.waiter.mpr hw
  rw [h.notifier.mpr hn] at ho
  cases ho

/-- With nobody inside, the mutex is free. -/
theorem Inv.free (h : Inv s) (hw : ¬ s.waiter.inside) (hn : ¬ s.notifier.inside) : s.owner = none := by
  cases howner : s.owner with
  | none => rfl
  | some p =>
    cases p with
    | waiter => exact absurd (h.waiter.mp howner) hw
    | notifier => exact absurd (h.notifier.mp howner) hn

/-- What a notifier outside the mutex has stored, it is done with. -/
theorem done_of_stored {n : Notifier α} {a : α} (hstored : n.stored = some a) (hn : ¬ n.inside) : n = .done a := by
  cases n <;> simp_all [Notifier.stored, Notifier.inside]

theorem waiterStep_inv (h : Inv s) (hs : waiterStep s = some s') : Inv s' := by
  unfold waiterStep at hs
  cases hw : s.waiter with
  | locking =>
    simp only [hw, Option.ite_none_right_eq_some, Option.some.injEq] at hs
    obtain ⟨ho, rfl⟩ := hs
    have hn := (h.outside ho).2
    exact ⟨by simp [Waiter.inside], by simp [hn], h.stored, h.unset, by simp, by simp⟩
  | checking =>
    have hin : s.waiter.inside := Or.inl hw
    have ho := h.waiter.mpr hin
    have hn := h.exclusive hin
    simp only [hw] at hs
    by_cases hr : s.ready = true
    · rw [if_pos hr, Option.some.injEq] at hs
      subst hs
      refine ⟨by simp [Waiter.inside, ho], by simp [ho, hn], h.stored, h.unset, fun _ => ?_, by simp⟩
      exact done_of_stored (h.stored.mp hr) hn
    · rw [if_neg hr, Option.some.injEq] at hs
      subst hs
      exact ⟨by simp [Waiter.inside], by simp [hn], h.stored, h.unset, by simp, fun _ hr' => absurd hr' hr⟩
  | asleep => simp [hw] at hs
  | woken =>
    simp only [hw, Option.ite_none_right_eq_some, Option.some.injEq] at hs
    obtain ⟨ho, rfl⟩ := hs
    have hn := (h.outside ho).2
    exact ⟨by simp [Waiter.inside], by simp [hn], h.stored, h.unset, by simp, by simp⟩
  | unlocking =>
    simp only [hw, Option.some.injEq] at hs
    subst hs
    have hn := h.exclusive (Or.inr hw)
    exact ⟨by simp [Waiter.inside], by simp [hn], h.stored, h.unset, fun _ => h.through (Or.inl hw), by simp⟩
  | done => simp [hw] at hs

/-- A signal puts nobody inside the mutex and takes nobody out of it. -/
theorem inside_wake (w : Waiter) : (wake w).inside ↔ w.inside := by
  cases w <;> simp [wake, Waiter.inside]

theorem wake_ne_asleep (w : Waiter) : wake w ≠ .asleep := by
  cases w <;> simp [wake]

/-- A waiter that is through was so before the signal. -/
theorem wake_through {w : Waiter} (h : wake w = .unlocking ∨ wake w = .done) : w = .unlocking ∨ w = .done := by
  cases w <;> simp_all [wake]

/-- A waiter is through only when the notifier is. -/
theorem Inv.early (h : Inv s) (hn : ∀ a, s.notifier ≠ .done a) : ¬ (s.waiter = .unlocking ∨ s.waiter = .done) :=
  fun hw => hn _ (h.through hw)

theorem notifierStep_inv (h : Inv s) (hs : notifierStep s = some s') : Inv s' := by
  unfold notifierStep at hs
  cases hn : s.notifier with
  | idle => simp [hn] at hs
  | locking a =>
    simp only [hn, Option.ite_none_right_eq_some, Option.some.injEq] at hs
    obtain ⟨ho, rfl⟩ := hs
    have hw := (h.outside ho).1
    have hready : s.ready = false := by
      have hstored := h.stored
      rw [hn] at hstored
      simpa [Notifier.stored] using hstored
    have hearly := h.early (by simp [hn])
    exact ⟨by simp [hw], by simp [Notifier.inside], by simp [hready, Notifier.stored], fun _ => rfl,
      fun ht => absurd ht hearly, by simp [hready]⟩
  | storing a =>
    simp only [hn, Option.some.injEq] at hs
    subst hs
    have hin : s.notifier.inside := by
      rw [hn]
      trivial
    have ho := h.notifier.mpr hin
    have hw : ¬ s.waiter.inside := fun hw => h.exclusive hw hin
    have hearly := h.early (by simp [hn])
    exact ⟨by simp [ho, hw], by simp [ho, Notifier.inside], by simp [Notifier.stored], by simp,
      fun ht => absurd ht hearly, fun _ _ => rfl⟩
  | signalling a =>
    simp only [hn, Option.some.injEq] at hs
    subst hs
    have hstored := h.stored
    have hunset := h.unset
    have hnotifier := h.notifier
    rw [hn] at hstored hunset hnotifier
    have hearly := h.early (by simp [hn])
    exact ⟨by rw [inside_wake]; exact h.waiter, hnotifier, hstored, hunset, fun ht => absurd (wake_through ht) hearly,
      fun ha => absurd ha (wake_ne_asleep _)⟩
  | unlocking a =>
    simp only [hn, Option.some.injEq] at hs
    subst hs
    have hin : s.notifier.inside := by
      rw [hn]
      trivial
    have hw : ¬ s.waiter.inside := fun hw => h.exclusive hw hin
    have hstored := h.stored
    have hunset := h.unset
    rw [hn] at hstored hunset
    have hearly := h.early (by simp [hn])
    refine ⟨by simp [hw], by simp [Notifier.inside], hstored, hunset, fun ht => absurd ht hearly, fun ha hr => ?_⟩
    have := h.signal ha hr
    rw [hn] at this
    cases this
  | done a => simp [hn] at hs

/-- Every move keeps the invariant. -/
theorem step_inv (h : Inv s) (hs : step s m = some s') : Inv s' := by
  cases m with
  | waiter => exact waiterStep_inv h hs
  | decide a =>
    unfold step at hs
    cases hn : s.notifier with
    | idle =>
      simp only [hn, Option.some.injEq] at hs
      subst hs
      have hstored := h.stored
      have hnotifier := h.notifier
      rw [hn] at hstored hnotifier
      have hearly := h.early (by simp [hn])
      refine ⟨h.waiter, hnotifier, hstored, fun _ => rfl, fun ht => absurd ht hearly, fun _ hr => ?_⟩
      cases hstored.mp hr
    | _ => simp [hn] at hs
  | notifier => exact notifierStep_inv h hs
  | spurious =>
    rw [step, Option.ite_none_right_eq_some, Option.some.injEq] at hs
    obtain ⟨ha, rfl⟩ := hs
    have hw := h.waiter
    rw [ha] at hw
    exact ⟨by simpa [Waiter.inside] using hw, h.notifier, h.stored, h.unset, by simp, by simp⟩

/-- The waiter leaves the notifier alone. -/
theorem waiterStep_notifier (hs : waiterStep s = some s') : s'.notifier = s.notifier := by
  unfold waiterStep at hs
  cases hw : s.waiter with
  | checking =>
    simp only [hw] at hs
    split at hs
    · exact Option.some.inj hs ▸ rfl
    · exact Option.some.inj hs ▸ rfl
  | asleep => simp [hw] at hs
  | unlocking =>
    simp only [hw] at hs
    exact Option.some.inj hs ▸ rfl
  | done => simp [hw] at hs
  | _ =>
    simp only [hw, Option.ite_none_right_eq_some, Option.some.injEq] at hs
    obtain ⟨-, rfl⟩ := hs
    rfl

/-! ### The waiter comes out -/

/-- Once the notifier has its report, one of the two threads can go on until
the waiter is through. -/
theorem enabled (h : Inv s) (hdone : s.waiter ≠ .done) (hreport : s.notifier ≠ .idle) :
    (waiterStep s).isSome ∨ (notifierStep s).isSome := by
  by_cases hin : s.notifier.inside
  · -- the notifier is inside the mutex and needs nobody
    right
    unfold notifierStep
    cases hn : s.notifier <;> simp_all [Notifier.inside]
  · cases hw : s.waiter with
    | checking =>
      left
      cases hr : s.ready <;> simp [waiterStep, hw, hr]
    | unlocking =>
      left
      simp [waiterStep, hw]
    | done => exact absurd hw hdone
    | locking =>
      left
      have ho : s.owner = none := h.free (by simp [hw, Waiter.inside]) hin
      simp [waiterStep, hw, ho]
    | woken =>
      left
      have ho : s.owner = none := h.free (by simp [hw, Waiter.inside]) hin
      simp [waiterStep, hw, ho]
    | asleep =>
      -- nothing is stored yet, so the notifier is in front of the mutex
      right
      have ho : s.owner = none := h.free (by simp [hw, Waiter.inside]) hin
      have hready : s.ready = false := by
        cases hr : s.ready with
        | false => rfl
        | true =>
          rw [h.signal hw hr] at hin
          exact absurd trivial hin
      have hunset := h.unset hready
      unfold notifierStep
      cases hn : s.notifier <;> simp_all [Notifier.stored, Notifier.inside]

/-- How many moves are left. -/
def Waiter.rank : Waiter → ℕ
  | .locking => 5
  | .woken => 5
  | .checking => 4
  | .asleep => 3
  | .unlocking => 1
  | .done => 0

def Notifier.rank : Notifier α → ℕ
  | .idle => 7
  | .locking _ => 6
  | .storing _ => 5
  | .signalling _ => 4
  | .unlocking _ => 1
  | .done _ => 0

def rank (s : State α) : ℕ := s.waiter.rank + s.notifier.rank

/-- What a move may add to the rank. -/
def Move.lift : Move α → ℕ
  | .spurious => 3
  | _ => 0

/-- A signal wakes the waiter, which is behind by two moves then. -/
theorem rank_wake (w : Waiter) : (wake w).rank ≤ w.rank + 2 := by
  cases w <;> simp [wake, Waiter.rank]

theorem step_rank (hs : step s m = some s') : rank s' + 1 ≤ rank s + m.lift := by
  cases m with
  | waiter =>
    simp only [step, waiterStep] at hs
    cases hw : s.waiter with
    | checking =>
      simp only [hw] at hs
      split at hs <;> (obtain rfl := Option.some.inj hs; simp only [rank, hw, Waiter.rank]; omega)
    | asleep => simp [hw] at hs
    | done => simp [hw] at hs
    | unlocking =>
      simp only [hw, Option.some.injEq] at hs
      subst hs
      simp only [rank, hw, Waiter.rank]
      omega
    | _ =>
      simp only [hw, Option.ite_none_right_eq_some, Option.some.injEq] at hs
      obtain ⟨-, rfl⟩ := hs
      simp only [rank, hw, Waiter.rank]
      omega
  | decide a =>
    unfold step at hs
    cases hn : s.notifier with
    | idle =>
      simp only [hn, Option.some.injEq] at hs
      subst hs
      simp [rank, hn, Notifier.rank]
    | _ => simp [hn] at hs
  | notifier =>
    simp only [step, notifierStep] at hs
    cases hn : s.notifier with
    | idle => simp [hn] at hs
    | done a => simp [hn] at hs
    | locking a =>
      simp only [hn, Option.ite_none_right_eq_some, Option.some.injEq] at hs
      obtain ⟨-, rfl⟩ := hs
      simp [rank, hn, Notifier.rank]
    | signalling a =>
      simp only [hn, Option.some.injEq] at hs
      subst hs
      have hwake := rank_wake s.waiter
      simp only [rank, hn, Notifier.rank]
      omega
    | _ =>
      simp only [hn, Option.some.injEq] at hs
      subst hs
      simp [rank, hn, Notifier.rank]
  | spurious =>
    rw [step, Option.ite_none_right_eq_some, Option.some.injEq] at hs
    obtain ⟨ha, rfl⟩ := hs
    simp only [rank, ha, Waiter.rank, Move.lift]
    omega

end Handshake
