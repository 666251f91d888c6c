/-
# Computations with a state that can fail midway

`Eff ε σ α` is a computation over a state `σ` that returns an `α` or raises an
`ε`; what it did to the state before it raised stays done. A `Triple P m Q E`
says that from a state with `P` the computation `m` either returns with `Q` or
raises with `E`: with `E` false it never raises, with `Q` false it never
returns.

`Yields Q m` says that what `m` returns has `Q`, and `Relates R m` that a run
of `m` that returns ends in a state which `R` relates to the first.
`Projects f t m` says that `t`, a computation over a richer state, does what
`m` does once the state is seen through `f`: what is added to the state is
watched and changes nothing.

Key definitions: `Eff`, `Eff.throw`, `Eff.tryCatch`, `Eff.each`, `Eff.Returns`,
`Triple`, `Preserves`, `Yields`, `Relates`, `Projects`.
Key theorems: `triple_bind`, `triple_tryCatch`, `triple_each`,
`triple_each_done`, `preserves_bind`, `yields_bind`, `relates_bind`,
`projects_bind`, `projects_tryCatch`.
-/
import Mathlib.Data.List.Basic

/-- A computation over `σ` that returns `α` or raises `ε`. -/
def Eff (ε σ α : Type) : Type := σ → Except ε α × σ

namespace Eff

variable {ε σ α β : Type}

protected def pure (a : α) : Eff ε σ α := fun s => (.ok a, s)

protected def bind (m : Eff ε σ α) (f : α → Eff ε σ β) : Eff ε σ β := fun s =>
  match m s with
  | (.ok a, s') => f a s'
  | (.error e, s') => (.error e, s')

instance : Monad (Eff ε σ) where
  pure := Eff.pure
  bind := Eff.bind

/-- Raise `e`. -/
def throw (e : ε) : Eff ε σ α := fun s => (.error e, s)

/-- Run `m`; when it raises, `handler` goes on from the state it left. -/
def tryCatch (m : Eff ε σ α) (handler : ε → Eff ε σ α) : Eff ε σ α := fun s =>
  match m s with
  | (.ok a, s') => (.ok a, s')
  | (.error e, s') => handler e s'

/-- The state. -/
def get : Eff ε σ σ := fun s => (.ok s, s)

/-- Change the state. -/
def modify (f : σ → σ) : Eff ε σ Unit := fun s => (.ok (), f s)

/-- `for x in xs: f x`. -/
def each (f : α → Eff ε σ Unit) : List α → Eff ε σ Unit
  | [] => pure ()
  | x :: xs => do
    f x
    each f xs

theorem pure_apply (a : α) (s : σ) : (pure a : Eff ε σ α) s = (.ok a, s) := rfl

theorem bind_apply (m : Eff ε σ α) (f : α → Eff ε σ β) (s : σ) : (m >>= f) s =
    match m s with
    | (.ok a, s') => f a s'
    | (.error e, s') => (.error e, s') := rfl

theorem tryCatch_apply (m : Eff ε σ α) (handler : ε → Eff ε σ α) (s : σ) : tryCatch m handler s =
    match m s with
    | (.ok a, s') => (.ok a, s')
    | (.error e, s') => handler e s' := rfl

/-- What it takes for a sequence to return. -/
theorem bind_eq_ok {m : Eff ε σ α} {f : α → Eff ε σ β} {s t : σ} {b : β} :
    (m >>= f) s = (.ok b, t) ↔ ∃ a s', m s = (.ok a, s') ∧ f a s' = (.ok b, t) := by
  rw [bind_apply]
  rcases hm : m s with ⟨e | a, s'⟩
  · simp
  · simp

/-- The computation returns from `s`. -/
def Returns (m : Eff ε σ α) (s : σ) : Prop := ∃ a s', m s = (.ok a, s')

theorem not_returns_throw (e : ε) (s : σ) : ¬ Returns (throw e : Eff ε σ α) s := by
  rintro ⟨a, s', h⟩
  cases h

theorem returns_bind {m : Eff ε σ α} {f : α → Eff ε σ β} {s : σ} :
    Returns (m >>= f) s ↔ ∃ a s', m s = (.ok a, s') ∧ Returns (f a) s' := by
  constructor
  · rintro ⟨b, t, h⟩
    obtain ⟨a, s', hm, hf⟩ := bind_eq_ok.mp h
    exact ⟨a, s', hm, b, t, hf⟩
  · rintro ⟨a, s', hm, b, t, hf⟩
    exact ⟨b, t, bind_eq_ok.mpr ⟨a, s', hm, hf⟩⟩

/-- A computation that is handled returns if it or its handler does. -/
theorem returns_tryCatch {m : Eff ε σ α} {handler : ε → Eff ε σ α} {s : σ} :
    Returns (tryCatch m handler) s ↔ Returns m s ∨ ∃ e s', m s = (.error e, s') ∧ Returns (handler e) s' := by
  unfold Returns
  rw [tryCatch_apply]
  rcases hm : m s with ⟨e | a, s'⟩
  · simp
  · simp

theorem each_map {f : β → Eff ε σ Unit} {g : α → β} : ∀ xs : List α, each f (xs.map g) = each (fun x => f (g x)) xs
  | [] => rfl
  | x :: xs => by
    simp only [List.map_cons, each, each_map xs]

theorem each_cons_eq_ok {f : α → Eff ε σ Unit} {x : α} {xs : List α} {s t : σ} :
    each f (x :: xs) s = (.ok (), t) ↔ ∃ s', f x s = (.ok (), s') ∧ each f xs s' = (.ok (), t) := by
  rw [each, bind_eq_ok]
  exact ⟨fun ⟨_, s', h⟩ => ⟨s', h⟩, fun ⟨s', h⟩ => ⟨(), s', h⟩⟩

end Eff

namespace Effect

variable {ε σ α β : Type} {P P' : σ → Prop} {E E' : ε → σ → Prop}

/-- From `P`, the computation returns with `Q` or raises with `E`. -/
def Triple (P : σ → Prop) (m : Eff ε σ α) (Q : α → σ → Prop) (E : ε → σ → Prop) : Prop :=
  ∀ s, P s →
    match m s with
    | (.ok a, s') => Q a s'
    | (.error e, s') => E e s'

theorem triple_pure {Q : α → σ → Prop} (a : α) (h : ∀ s, P s → Q a s) :
    Triple P (pure a : Eff ε σ α) Q E := h

theorem triple_throw {Q : α → σ → Prop} (e : ε) (h : ∀ s, P s → E e s) :
    Triple P (Eff.throw e : Eff ε σ α) Q E := h

theorem triple_get : Triple P (Eff.get : Eff ε σ σ) (fun a s => a = s ∧ P s) E := fun _ hs => ⟨rfl, hs⟩

theorem triple_modify {f : σ → σ} {Q : Unit → σ → Prop} (h : ∀ s, P s → Q () (f s)) :
    Triple P (Eff.modify f : Eff ε σ Unit) Q E := h

theorem triple_mono {m : Eff ε σ α} {Q Q' : α → σ → Prop} (h : Triple P m Q E) (hP : ∀ s, P' s → P s)
    (hQ : ∀ a s, Q a s → Q' a s) (hE : ∀ e s, E e s → E' e s) : Triple P' m Q' E' := by
  intro s hs
  have := h s (hP s hs)
  split at this
  · exact hQ _ _ this
  · exact hE _ _ this

/-- Nothing is said of the end. -/
theorem triple_trivial {m : Eff ε σ α} : Triple P m (fun _ _ => True) fun _ _ => True := by
  intro s _
  split <;> trivial

/-- What holds at the end either way. -/
theorem triple_snd {m : Eff ε σ α} {R : σ → Prop} (h : Triple P m (fun _ => R) fun _ => R) {s : σ} (hs : P s) :
    R (m s).2 := by
  have hpost := h s hs
  rcases hr : m s with ⟨e | a, s'⟩
  · rw [hr] at hpost
    exact hpost
  · rw [hr] at hpost
    exact hpost

theorem triple_and {m : Eff ε σ α} {Q Q' : α → σ → Prop} (h : Triple P m Q E) (h' : Triple P' m Q' E') :
    Triple (fun s => P s ∧ P' s) m (fun a s => Q a s ∧ Q' a s) fun e s => E e s ∧ E' e s := by
  intro s hs
  have hleft := h s hs.1
  have hright := h' s hs.2
  rcases hr : m s with ⟨e | a, s'⟩
  · rw [hr] at hleft hright
    exact ⟨hleft, hright⟩
  · rw [hr] at hleft hright
    exact ⟨hleft, hright⟩

/-- What does not depend on the state may be assumed. -/
theorem triple_of_pre {F : Prop} {m : Eff ε σ α} {Q : α → σ → Prop} (h : F → Triple P m Q E) :
    Triple (fun s => F ∧ P s) m Q E := fun s hs => h hs.1 s hs.2

/-- The first part establishes what the rest starts from. -/
theorem triple_bind {m : Eff ε σ α} {f : α → Eff ε σ β} {R : α → σ → Prop} {Q : β → σ → Prop}
    (hm : Triple P m R E) (hf : ∀ a, Triple (R a) (f a) Q E) : Triple P (m >>= f) Q E := by
  intro s hs
  have := hm s hs
  rw [Eff.bind_apply]
  rcases hr : m s with ⟨e | a, s'⟩
  · rw [hr] at this
    exact this
  · rw [hr] at this
    exact hf a s' this

/-- What goes on may use what holds of the state it got. -/
theorem triple_get_bind {f : σ → Eff ε σ α} {Q : α → σ → Prop} (h : ∀ s, P s → Triple P (f s) Q E) :
    Triple P (Eff.get >>= f) Q E := fun s hs => h s hs s hs

/-- A test of the state. -/
theorem triple_get_ite {p : σ → Prop} [DecidablePred p] {a b : Eff ε σ α} {Q : α → σ → Prop}
    (ha : Triple (fun s => P s ∧ p s) a Q E) (hb : Triple (fun s => P s ∧ ¬ p s) b Q E) :
    Triple P (Eff.get >>= fun s => if p s then a else b) Q E := by
  intro s hs
  by_cases hp : p s
  · have := ha s ⟨hs, hp⟩
    show match (if p s then a else b) s with | (.ok c, s') => Q c s' | (.error e, s') => E e s'
    rwa [if_pos hp]
  · have := hb s ⟨hs, hp⟩
    show match (if p s then a else b) s with | (.ok c, s') => Q c s' | (.error e, s') => E e s'
    rwa [if_neg hp]

/-- What was raised with `R` is handled from `R`. -/
theorem triple_tryCatch {m : Eff ε σ α} {handler : ε → Eff ε σ α} {R : ε → σ → Prop} {Q : α → σ → Prop}
    (hm : Triple P m Q R) (hh : ∀ e, Triple (R e) (handler e) Q E) :
    Triple P (Eff.tryCatch m handler) Q E := by
  intro s hs
  have := hm s hs
  unfold Eff.tryCatch
  rcases hr : m s with ⟨e | a, s'⟩
  · rw [hr] at this
    exact hh e s' this
  · rw [hr] at this
    exact this

/-- A loop keeps what each round keeps. -/
theorem triple_each {f : α → Eff ε σ Unit} : ∀ {xs : List α},
    (∀ x ∈ xs, Triple P (f x) (fun _ => P) E) → Triple P (Eff.each f xs) (fun _ => P) E
  | [], _ => fun _ hs => hs
  | x :: _, h => triple_bind (h x List.mem_cons_self) fun _ =>
      triple_each fun y hy => h y (List.mem_cons_of_mem x hy)

/-- A loop whose round for `x` establishes `D x`, which the other rounds keep. -/
theorem triple_each_done {f : α → Eff ε σ Unit} {D : α → σ → Prop} : ∀ {xs : List α},
    (∀ x ∈ xs, Triple P (f x) (fun _ s => P s ∧ D x s) E) →
    (∀ x ∈ xs, ∀ y, Triple (fun s => P s ∧ D y s) (f x) (fun _ s => P s ∧ D y s) E) →
    Triple P (Eff.each f xs) (fun _ s => P s ∧ ∀ x ∈ xs, D x s) E
  | [], _, _ => fun s hs => ⟨hs, by simp⟩
  | x :: xs, h, hkeep => by
    refine triple_bind (h x List.mem_cons_self) fun _ => ?_
    have hrest := triple_each_done (fun y hy => h y (List.mem_cons_of_mem x hy))
      (fun y hy => hkeep y (List.mem_cons_of_mem x hy))
    have hhead := triple_each fun y hy => hkeep y (List.mem_cons_of_mem x hy) x
    intro s hs
    have h1 := hrest s hs.1
    have h2 := hhead s hs
    rcases hr : Eff.each f xs s with ⟨e | a, s'⟩
    · rw [hr] at h1
      exact h1
    · rw [hr] at h1 h2
      exact ⟨h1.1, List.forall_mem_cons.mpr ⟨h2.2, h1.2⟩⟩

/-! ### What a computation preserves -/

/-- `P` stays, whether the computation returns or raises. -/
def Preserves (P : σ → Prop) (m : Eff ε σ α) : Prop := Triple P m (fun _ => P) fun _ => P

theorem preserves_pure (a : α) : Preserves P (pure a : Eff ε σ α) := triple_pure a fun _ h => h

theorem preserves_throw (e : ε) : Preserves P (Eff.throw e : Eff ε σ α) := triple_throw e fun _ h => h

theorem preserves_get : Preserves P (Eff.get : Eff ε σ σ) := fun _ hs => hs

theorem preserves_modify {f : σ → σ} (h : ∀ s, P s → P (f s)) : Preserves P (Eff.modify f : Eff ε σ Unit) := h

theorem preserves_bind {m : Eff ε σ α} {f : α → Eff ε σ β} (h : Preserves P m) (hf : ∀ a, Preserves P (f a)) :
    Preserves P (m >>= f) :=
  triple_bind h hf

theorem preserves_tryCatch {m : Eff ε σ α} {handler : ε → Eff ε σ α} (h : Preserves P m)
    (hh : ∀ e, Preserves P (handler e)) : Preserves P (Eff.tryCatch m handler) :=
  triple_tryCatch h hh

theorem preserves_each {f : α → Eff ε σ Unit} {xs : List α} (h : ∀ x ∈ xs, Preserves P (f x)) :
    Preserves P (Eff.each f xs) :=
  triple_each h

/-- What is preserved holds when the computation returns. -/
theorem Preserves.returns {m : Eff ε σ α} (h : Preserves P m) : Triple P m (fun _ => P) fun _ _ => True :=
  triple_mono h (fun _ hs => hs) (fun _ _ hs => hs) fun _ _ _ => trivial

theorem Preserves.ok {m : Eff ε σ α} (h : Preserves P m) {s s' : σ} {a : α} (hs : P s) (hrun : m s = (.ok a, s')) :
    P s' := by
  have hpost := h s hs
  rw [hrun] at hpost
  exact hpost

theorem Preserves.error {m : Eff ε σ α} (h : Preserves P m) {s s' : σ} {e : ε} (hs : P s)
    (hrun : m s = (.error e, s')) : P s' := by
  have hpost := h s hs
  rw [hrun] at hpost
  exact hpost

/-! ### What a computation returns -/

section Yields

variable {Q : α → Prop}

/-- All that the computation returns has `Q`. -/
def Yields (Q : α → Prop) (m : Eff ε σ α) : Prop := ∀ s a s', m s = (.ok a, s') → Q a

theorem yields_pure {a : α} (h : Q a) : Yields Q (pure a : Eff ε σ α) := by
  intro s b s' hrun
  obtain ⟨heq, -⟩ := Prod.mk.inj hrun
  cases heq
  exact h

theorem yields_throw (e : ε) : Yields Q (Eff.throw e : Eff ε σ α) := by
  intro s a s' h
  cases h

/-- The last part says what is returned. -/
theorem yields_bind {m : Eff ε σ β} {f : β → Eff ε σ α} (hf : ∀ b, Yields Q (f b)) : Yields Q (m >>= f) := by
  intro s a t h
  obtain ⟨b, s', -, hrest⟩ := Eff.bind_eq_ok.mp h
  exact hf b s' a t hrest

theorem yields_tryCatch {m : Eff ε σ α} {handler : ε → Eff ε σ α} (hm : Yields Q m) (hh : ∀ e, Yields Q (handler e)) :
    Yields Q (Eff.tryCatch m handler) := by
  intro s a t h
  rw [Eff.tryCatch_apply] at h
  rcases hrun : m s with ⟨e | b, s'⟩
  · rw [hrun] at h
    exact hh e s' a t h
  · rw [hrun] at h
    cases h
    exact hm s _ _ hrun

end Yields

/-! ### What a run that returns does to the state -/

section Relates

variable {R : σ → σ → Prop}

/-- A run that returns ends in a state related to the one it started in. -/
def Relates (R : σ → σ → Prop) (m : Eff ε σ α) : Prop := ∀ s a s', m s = (.ok a, s') → R s s'

theorem relates_pure (hrefl : ∀ s, R s s) (a : α) : Relates R (pure a : Eff ε σ α) := by
  intro s b s' h
  obtain ⟨-, rfl⟩ := Prod.mk.inj h
  exact hrefl s

theorem relates_bind (htrans : ∀ s t u, R s t → R t u → R s u) {m : Eff ε σ α} {f : α → Eff ε σ β}
    (hm : Relates R m) (hf : ∀ a, Relates R (f a)) : Relates R (m >>= f) := by
  intro s b u h
  obtain ⟨a, t, hrun, hrest⟩ := Eff.bind_eq_ok.mp h
  exact htrans s t u (hm s a t hrun) (hf a t b u hrest)

theorem relates_each (hrefl : ∀ s, R s s) (htrans : ∀ s t u, R s t → R t u → R s u) {f : α → Eff ε σ Unit} :
    ∀ {xs : List α}, (∀ x ∈ xs, Relates R (f x)) → Relates R (Eff.each f xs)
  | [], _ => relates_pure hrefl ()
  | x :: _, h => relates_bind htrans (h x List.mem_cons_self) fun _ =>
      relates_each hrefl htrans fun y hy => h y (List.mem_cons_of_mem x hy)

end Relates

/-! ### A computation seen through a projection of its state -/

section Projects

variable {τ : Type} {f : τ → σ}

/-- Through `f`, the computation `t` is `m`. -/
def Projects (f : τ → σ) (t : Eff ε τ α) (m : Eff ε σ α) : Prop :=
  ∀ s, m (f s) = ((t s).1, f (t s).2)

theorem projects_pure (a : α) : Projects f (pure a : Eff ε τ α) (pure a) := fun _ => rfl

theorem projects_throw (e : ε) : Projects f (Eff.throw e : Eff ε τ α) (Eff.throw e) := fun _ => rfl

theorem projects_bind {t : Eff ε τ α} {m : Eff ε σ α} {g : α → Eff ε τ β} {h : α → Eff ε σ β}
    (hm : Projects f t m) (hg : ∀ a, Projects f (g a) (h a)) : Projects f (t >>= g) (m >>= h) := by
  intro s
  rw [Eff.bind_apply, Eff.bind_apply, hm s]
  rcases t s with ⟨e | a, s'⟩
  · rfl
  · exact hg a s'

theorem projects_tryCatch {t : Eff ε τ α} {m : Eff ε σ α} {g : ε → Eff ε τ α} {h : ε → Eff ε σ α}
    (hm : Projects f t m) (hg : ∀ e, Projects f (g e) (h e)) :
    Projects f (Eff.tryCatch t g) (Eff.tryCatch m h) := by
  intro s
  unfold Eff.tryCatch
  rw [hm s]
  rcases t s with ⟨e | a, s'⟩
  · exact hg e s'
  · rfl

/-- A step that only touches what `f` hides. -/
theorem projects_hidden {t : Eff ε τ Unit} {g : Unit → Eff ε τ α} {m : Eff ε σ α}
    (ht : ∀ s, (t s).1 = .ok () ∧ f (t s).2 = f s) (hg : Projects f (g ()) m) : Projects f (t >>= g) m := by
  intro s
  have hs := ht s
  rw [Eff.bind_apply]
  rcases hrun : t s with ⟨e | a, s'⟩
  · rw [hrun] at hs
    cases hs.1
  · rw [hrun] at hs
    rw [← hs.2]
    exact hg s'

end Projects

end Effect
