/-
# Computations that ask questions

A `Dialogue` asks questions of another party, each with its own type of
answers, and goes on from the answer. What it does does not depend on who
answers: `Dialogue.run` lets a backend answer, which has a state of its own and
needs something from outside for every question (a turn: what happened
meanwhile, how the answer got through). When one backend simulates another, a
run against the first is a run against the second with the same result,
whatever the dialogue is (`run_simulates`).

A `Script` is a dialogue that keeps a state and can fail; what it did to the
state before it failed stays done. `Script.perform` runs it, `perform_bind` and
`perform_tryCatch` say how runs are put together. `Asks P n m` says that on every
path, whatever is answered, all questions have `P` apart from `n` at most, and a run
that writes its questions down (`logging`) shows them. `Keeps` says how a
script ends when all answers have `P`.

Key definitions: `Dialogue`, `Dialogue.run`, `Script`, `Script.perform`, `Asks`, `Keeps`.
Key theorems: `run_simulates`, `run_bind`, `perform_bind`, `perform_tryCatch_eq_some`,
`asks_bind`, `Asks.run_logging`, `keeps_bind`, `Keeps.run`.
-/
import Mathlib.Data.List.Basic
import Mathlib.Data.Option.Basic

/-- A computation that asks questions `q`, each with answers `A q`, and
returns an `α`. -/
inductive Dialogue {Q : Type} (A : Q → Type) (α : Type) where
  | done (a : α)
  | ask (q : Q) (k : A q → Dialogue A α)

namespace Dialogue

variable {Q : Type} {A : Q → Type} {α β : Type}

def bind : Dialogue A α → (α → Dialogue A β) → Dialogue A β
  | .done a, f => f a
  | .ask q k, f => .ask q fun a => (k a).bind f

section Run

variable {σ τ T : Type}

/-- Run a dialogue against a backend: every question takes a turn, and the run
fails if a question cannot be answered or if there are not as many turns as
questions. -/
def run (step : σ → T → (q : Q) → Option (σ × A q)) : Dialogue A α → σ → List T → Option (α × σ)
  | .done a, s, [] => some (a, s)
  | .done _, _, _ :: _ => none
  | .ask _ _, _, [] => none
  | .ask q k, s, t :: ts => (step s t q).bind fun x => (k x.2).run step x.1 ts

variable {step : σ → T → (q : Q) → Option (σ × A q)} {step' : τ → T → (q : Q) → Option (τ × A q)}

theorem run_done {a b : α} {s s' : σ} {ts : List T} :
    (done a : Dialogue A α).run step s ts = some (b, s') ↔ ts = [] ∧ a = b ∧ s = s' := by
  cases ts with
  | nil => simp [run]
  | cons t ts => simp [run]

theorem run_ask {q : Q} {k : A q → Dialogue A α} {b : α} {s s' : σ} {ts : List T} :
    (ask q k).run step s ts = some (b, s') ↔
      ∃ t ts' s1 a, ts = t :: ts' ∧ step s t q = some (s1, a) ∧ (k a).run step s1 ts' = some (b, s') := by
  cases ts with
  | nil => simp [run]
  | cons t ts =>
    constructor
    · intro h
      obtain ⟨⟨s1, a⟩, hstep, hrest⟩ := Option.bind_eq_some_iff.mp h
      exact ⟨t, ts, s1, a, rfl, hstep, hrest⟩
    · rintro ⟨_, _, s1, a, hts, hstep, hrest⟩
      cases hts
      exact Option.bind_eq_some_iff.mpr ⟨(s1, a), hstep, hrest⟩

/-- A sequence is run on the turns of its first part and those of the rest. -/
theorem run_bind {f : α → Dialogue A β} : ∀ {d : Dialogue A α} {s s1 : σ} {ts us : List T} {a : α},
    d.run step s ts = some (a, s1) → (d.bind f).run step s (ts ++ us) = (f a).run step s1 us
  | .done a, s, s1, ts, us, _, h => by
    obtain ⟨rfl, rfl, rfl⟩ := run_done.mp h
    rfl
  | .ask q k, s, s1, ts, us, _, h => by
    obtain ⟨t, ts', s2, a, rfl, hstep, hrest⟩ := run_ask.mp h
    show (step s t q).bind (fun x => ((k x.2).bind f).run step x.1 (ts' ++ us)) = _
    rw [hstep]
    exact run_bind hrest

/-- The turns of a sequence are those of its first part and those of the rest. -/
theorem run_bind_eq_some {f : α → Dialogue A β} {b : β} : ∀ {d : Dialogue A α} {s s' : σ} {ts : List T},
    (d.bind f).run step s ts = some (b, s') →
      ∃ ts1 ts2 a s1, ts = ts1 ++ ts2 ∧ d.run step s ts1 = some (a, s1) ∧ (f a).run step s1 ts2 = some (b, s')
  | .done a, s, _, ts, h => ⟨[], ts, a, s, rfl, rfl, h⟩
  | .ask q k, s, s', ts, h => by
    obtain ⟨t, ts', s1, x, rfl, hstep, hrest⟩ := run_ask.mp h
    obtain ⟨ts1, ts2, a, s2, rfl, hfirst, hthen⟩ := run_bind_eq_some hrest
    exact ⟨t :: ts1, ts2, a, s2, rfl, run_ask.mpr ⟨t, ts1, s1, x, rfl, hstep, hfirst⟩, hthen⟩

/-- **Whoever answers alike is answered alike.** If related backends give the
same answer on the same turn and stay related, a run against one is a run
against the other. -/
theorem run_simulates {R : σ → τ → Prop}
    (hstep : ∀ s c t q s' a, R s c → step s t q = some (s', a) → ∃ c', step' c t q = some (c', a) ∧ R s' c') :
    ∀ {d : Dialogue A α} {s s' : σ} {c : τ} {ts : List T} {a : α}, R s c → d.run step s ts = some (a, s') →
      ∃ c', d.run step' c ts = some (a, c') ∧ R s' c'
  | .done a, s, s', c, ts, _, hR, h => by
    obtain ⟨rfl, rfl, rfl⟩ := run_done.mp h
    exact ⟨c, rfl, hR⟩
  | .ask q k, s, s', c, ts, _, hR, h => by
    obtain ⟨t, ts', s1, a, rfl, hask, hrest⟩ := run_ask.mp h
    obtain ⟨c1, hask', hR1⟩ := hstep s c t q s1 a hR hask
    obtain ⟨c', hrun, hR'⟩ := run_simulates hstep hR1 hrest
    exact ⟨c', run_ask.mpr ⟨t, ts', c1, a, rfl, hask', hrun⟩, hR'⟩

end Run

/-- On every path, whatever is answered, all questions have `P` apart from
`n` at most. -/
inductive Asks (P : Q → Prop) : ℕ → Dialogue A α → Prop
  | done (n : ℕ) (a : α) : Asks P n (.done a)
  | free {n : ℕ} {q : Q} {k : A q → Dialogue A α} (hq : P q) (hk : ∀ a, Asks P n (k a)) : Asks P n (.ask q k)
  | spend {n : ℕ} {q : Q} {k : A q → Dialogue A α} (hk : ∀ a, Asks P n (k a)) : Asks P (n + 1) (.ask q k)

variable {P : Q → Prop}

theorem Asks.mono {m n : ℕ} {d : Dialogue A α} (h : Asks P m d) (hmn : m ≤ n) : Asks P n d := by
  induction h generalizing n with
  | done m a => exact .done n a
  | free hq _ ih => exact .free hq fun a => ih a hmn
  | spend _ ih =>
    obtain ⟨n, rfl⟩ : ∃ l, n = l + 1 := ⟨n - 1, by omega⟩
    exact .spend fun a => ih a (by omega)

theorem asks_bind {m n : ℕ} {d : Dialogue A α} {f : α → Dialogue A β} (hd : Asks P m d) (hf : ∀ a, Asks P n (f a)) :
    Asks P (m + n) (d.bind f) := by
  induction hd with
  | done m a => exact (hf a).mono (by omega)
  | free hq _ ih => exact .free hq ih
  | @spend m q k _ ih =>
    rw [Nat.add_right_comm]
    exact .spend ih

/-- A backend that answers as it is told and writes down what it is asked. -/
def logging (log : List Q) (answers : (q : Q) → A q) (q : Q) : Option (List Q × A q) := some (log ++ [q], answers q)

/-- What is written down of a run has `P`, apart from `n` questions at most. -/
theorem Asks.run_logging [DecidablePred P] {n : ℕ} {d : Dialogue A α} (h : Asks P n d) {log log' : List Q}
    {ts : List ((q : Q) → A q)} {a : α} (hrun : d.run logging log ts = some (a, log')) :
    ∃ asked, log' = log ++ asked ∧ (asked.filter fun q => ¬ P q).length ≤ n := by
  induction h generalizing log ts with
  | done n b =>
    obtain ⟨-, -, rfl⟩ := run_done.mp hrun
    exact ⟨[], (List.append_nil log).symm, Nat.zero_le n⟩
  | @free n q k hq _ ih =>
    obtain ⟨t, ts', log1, x, -, hstep, hrest⟩ := run_ask.mp hrun
    cases hstep
    obtain ⟨asked, rfl, hlen⟩ := ih _ hrest
    refine ⟨q :: asked, by rw [List.append_assoc, List.singleton_append], ?_⟩
    rw [List.filter_cons_of_neg (by simp [hq])]
    exact hlen
  | @spend n q k _ ih =>
    obtain ⟨t, ts', log1, x, -, hstep, hrest⟩ := run_ask.mp hrun
    cases hstep
    obtain ⟨asked, rfl, hlen⟩ := ih _ hrest
    refine ⟨q :: asked, by rw [List.append_assoc, List.singleton_append], ?_⟩
    calc ((q :: asked).filter fun q => ¬ P q).length
        ≤ (asked.filter fun q => ¬ P q).length + 1 := by
          rw [List.filter_cons]
          split_ifs
          · exact Nat.le_refl _
          · exact Nat.le_succ _
      _ ≤ n + 1 := Nat.add_le_add_right hlen 1

/-- When all answers have `P`, what a dialogue returns has `R`. -/
inductive Ends (P : (q : Q) → A q → Prop) (R : α → Prop) : Dialogue A α → Prop
  | done {a : α} (h : R a) : Ends P R (.done a)
  | ask {q : Q} {k : A q → Dialogue A α} (h : ∀ a, P q a → Ends P R (k a)) : Ends P R (.ask q k)

section Ends

variable {P : (q : Q) → A q → Prop} {R : α → Prop} {S : β → Prop} {d : Dialogue A α}

theorem Ends.bind {f : α → Dialogue A β} (hd : Ends P R d) (hf : ∀ a, R a → Ends P S (f a)) : Ends P S (d.bind f) := by
  induction hd with
  | done h => exact hf _ h
  | ask _ ih => exact .ask ih

/-- What a run returns against a backend whose answers have `P`. -/
theorem Ends.run {σ T : Type} {step : σ → T → (q : Q) → Option (σ × A q)}
    (hstep : ∀ s t q s' a, step s t q = some (s', a) → P q a) (h : Ends P R d) {s s' : σ} {ts : List T} {a : α}
    (hrun : d.run step s ts = some (a, s')) : R a := by
  induction h generalizing s ts with
  | done h =>
    obtain ⟨-, rfl, -⟩ := run_done.mp hrun
    exact h
  | ask _ ih =>
    obtain ⟨t, ts', s1, x, -, hanswer, hrest⟩ := run_ask.mp hrun
    exact ih x (hstep _ _ _ _ _ hanswer) hrest

end Ends

end Dialogue

/-- A dialogue that keeps a state and returns an `α` or fails with an `ε`. -/
def Script {Q : Type} (A : Q → Type) (ε σ α : Type) : Type := σ → Dialogue A (Except ε α × σ)

namespace Script

variable {Q : Type} {A : Q → Type} {ε σ α β : Type}

protected def pure (a : α) : Script A ε σ α := fun s => .done (.ok a, s)

/-- How a sequence goes on after its first part. -/
def next (f : α → Script A ε σ β) : Except ε α × σ → Dialogue A (Except ε β × σ)
  | (.ok a, s) => f a s
  | (.error e, s) => .done (.error e, s)

/-- How a computation goes on that is handled. -/
def handle (handler : ε → Script A ε σ α) : Except ε α × σ → Dialogue A (Except ε α × σ)
  | (.ok a, s) => .done (.ok a, s)
  | (.error e, s) => handler e s

protected def bind (m : Script A ε σ α) (f : α → Script A ε σ β) : Script A ε σ β := fun s => (m s).bind (next f)

instance : Monad (Script A ε σ) where
  pure := Script.pure
  bind := Script.bind

/-- Raise `e`. -/
def throw (e : ε) : Script A ε σ α := fun s => .done (.error e, s)

/-- Run `m`; when it raises, `handler` goes on from the state it left. -/
def tryCatch (m : Script A ε σ α) (handler : ε → Script A ε σ α) : Script A ε σ α := fun s =>
  (m s).bind (handle handler)

/-- The state. -/
def get : Script A ε σ σ := fun s => .done (.ok s, s)

/-- Change the state. -/
def modify (f : σ → σ) : Script A ε σ Unit := fun s => .done (.ok (), f s)

/-- Ask a question. -/
def ask (q : Q) : Script A ε σ (A q) := fun s => .ask q fun a => .done (.ok a, s)

section Exec

variable {δ T : Type} (step : δ → T → (q : Q) → Option (δ × A q))

/-- Run a script from a state against a backend. -/
def perform (m : Script A ε σ α) (s : σ) (b : δ) (ts : List T) : Option ((Except ε α × σ) × δ) := (m s).run step b ts

variable {step} {s s1 : σ} {b b1 : δ} {ts us : List T} {a : α} {e : ε}

/-- A sequence whose first part returns. -/
theorem perform_bind {m : Script A ε σ α} {f : α → Script A ε σ β} (h : perform step m s b ts = some ((.ok a, s1), b1)) :
    perform step (m >>= f) s b (ts ++ us) = perform step (f a) s1 b1 us :=
  Dialogue.run_bind h

/-- The turns of a sequence. -/
theorem perform_bind_eq_some {m : Script A ε σ α} {f : α → Script A ε σ β} {r : Except ε β} {s' : σ} {b' : δ}
    (h : perform step (m >>= f) s b ts = some ((r, s'), b')) :
    (∃ ts1 ts2 a s1 b1, ts = ts1 ++ ts2 ∧ perform step m s b ts1 = some ((.ok a, s1), b1) ∧
      perform step (f a) s1 b1 ts2 = some ((r, s'), b')) ∨
    ∃ e, perform step m s b ts = some ((.error e, s'), b') ∧ r = .error e := by
  obtain ⟨ts1, ts2, ⟨x, s1⟩, b1, rfl, hm, hf⟩ := Dialogue.run_bind_eq_some h
  rcases x with e | a
  · obtain ⟨rfl, heq, rfl⟩ := Dialogue.run_done.mp hf
    cases heq
    rw [List.append_nil]
    exact Or.inr ⟨e, hm, rfl⟩
  · exact Or.inl ⟨ts1, ts2, a, s1, b1, rfl, hm, hf⟩

/-- The turns of a handled computation. -/
theorem perform_tryCatch_eq_some {m : Script A ε σ α} {handler : ε → Script A ε σ α} {r : Except ε α} {s' : σ} {b' : δ}
    (h : perform step (tryCatch m handler) s b ts = some ((r, s'), b')) :
    (∃ a, perform step m s b ts = some ((.ok a, s'), b') ∧ r = .ok a) ∨
    ∃ ts1 ts2 e s1 b1, ts = ts1 ++ ts2 ∧ perform step m s b ts1 = some ((.error e, s1), b1) ∧
      perform step (handler e) s1 b1 ts2 = some ((r, s'), b') := by
  obtain ⟨ts1, ts2, ⟨x, s1⟩, b1, rfl, hm, hf⟩ := Dialogue.run_bind_eq_some h
  rcases x with e | a
  · exact Or.inr ⟨ts1, ts2, e, s1, b1, rfl, hm, hf⟩
  · obtain ⟨rfl, heq, rfl⟩ := Dialogue.run_done.mp hf
    cases heq
    rw [List.append_nil]
    exact Or.inl ⟨a, hm, rfl⟩

end Exec

section Asks

variable {P : Q → Prop} {m n : ℕ}

/-- From every state, all questions have `P` apart from `n` at most. -/
def Asks (P : Q → Prop) (n : ℕ) (m : Script A ε σ α) : Prop := ∀ s, Dialogue.Asks P n (m s)

theorem asks_pure (a : α) : Asks P n (pure a : Script A ε σ α) := fun _ => .done n _

theorem asks_throw (e : ε) : Asks P n (throw e : Script A ε σ α) := fun _ => .done n _

theorem asks_get : Asks P n (get : Script A ε σ σ) := fun _ => .done n _

theorem asks_modify (f : σ → σ) : Asks P n (modify f : Script A ε σ Unit) := fun _ => .done n _

theorem asks_ask {q : Q} (hq : P q) : Asks P n (ask q : Script A ε σ (A q)) := fun _ => .free hq fun _ => .done n _

theorem asks_ask_once (q : Q) : Asks P 1 (ask q : Script A ε σ (A q)) := fun _ => .spend fun _ => .done 0 _

theorem asks_bind {f : α → Script A ε σ β} {x : Script A ε σ α} (hx : Asks P m x) (hf : ∀ a, Asks P n (f a)) :
    Asks P (m + n) (x >>= f) := fun s =>
  Dialogue.asks_bind (hx s) fun y => by
    rcases y with ⟨e | a, s'⟩
    · exact .done n _
    · exact hf a s'

theorem asks_tryCatch {x : Script A ε σ α} {handler : ε → Script A ε σ α} (hx : Asks P m x)
    (hh : ∀ e, Asks P n (handler e)) : Asks P (m + n) (tryCatch x handler) := fun s =>
  Dialogue.asks_bind (hx s) fun y => by
    rcases y with ⟨e | a, s'⟩
    · exact hh e s'
    · exact .done n _

end Asks

section Keeps

/-- The end of a script keeps `I`, and what it returns has `R`, what it raises
`E`. -/
def Outcome (I : σ → Prop) (R : α → Prop) (E : ε → Prop) : Except ε α × σ → Prop
  | (.ok a, s) => I s ∧ R a
  | (.error e, s) => I s ∧ E e

/-- When all answers have `P`, a script that starts with `I` keeps it, and what
it returns has `R`, what it raises `E`. -/
def Keeps (P : (q : Q) → A q → Prop) (I : σ → Prop) (E : ε → Prop) (R : α → Prop) (m : Script A ε σ α) : Prop :=
  ∀ s, I s → Dialogue.Ends P (Outcome I R E) (m s)

variable {P : (q : Q) → A q → Prop} {I : σ → Prop} {E E' : ε → Prop} {R : α → Prop} {S : β → Prop}

/-- How a run ends. -/
theorem Keeps.run {δ T : Type} {step : δ → T → (q : Q) → Option (δ × A q)} {m : Script A ε σ α} (h : Keeps P I E R m)
    (hstep : ∀ b t q b' a, step b t q = some (b', a) → P q a) {s s' : σ} {b b' : δ} {ts : List T} {r : Except ε α}
    (hs : I s) (hrun : perform step m s b ts = some ((r, s'), b')) : Outcome I R E (r, s') :=
  (h s hs).run hstep hrun

end Keeps

end Script
