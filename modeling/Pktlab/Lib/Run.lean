/-
# Runs of a labelled step function

A system is a partial step function `step : σ → ι → Option σ`: the label
`l` says who moves and what the environment answers, and `step s l = none`
when that move is not enabled in `s`. A run is a list of labels
(`run step s ls`). The rules here are what the developments above use:
induction over a run (`run_induction`), the same for runs whose steps all
meet a condition (`run_induction_of`), the runs of a part of the system
(`run_projects`), and a ghost that a run carries along without influencing it
(`withGhost`).

Key definitions: `run`, `AllSteps`, `withGhost`.
Key theorems: `run_append`, `run_induction`, `run_induction_of`,
`AllSteps.mono_of`, `run_projects`.
-/
import Mathlib.Data.List.Basic

namespace Run

variable {σ ι γ : Type*}

/-- The state a list of moves leads to, if all of them are enabled. -/
def run (step : σ → ι → Option σ) : σ → List ι → Option σ
  | s, [] => some s
  | s, l :: ls => (step s l).bind fun s' => run step s' ls

/-- Every move of the run starts in a state that meets `C` for it. -/
def AllSteps (step : σ → ι → Option σ) (C : σ → ι → Prop) : σ → List ι → Prop
  | _, [] => True
  | s, l :: ls => C s l ∧ ∀ s', step s l = some s' → AllSteps step C s' ls

instance decidableAllSteps {step : σ → ι → Option σ} {C : σ → ι → Prop} [∀ s l, Decidable (C s l)] :
    ∀ (s : σ) (ls : List ι), Decidable (AllSteps step C s ls)
  | _, [] => isTrue trivial
  | s, l :: ls =>
    match h : step s l with
    | none => decidable_of_iff (C s l) (by simp [AllSteps, h])
    | some s' =>
      have : Decidable (AllSteps step C s' ls) := decidableAllSteps s' ls
      decidable_of_iff (C s l ∧ AllSteps step C s' ls) (by simp [AllSteps, h])

@[simp] theorem run_nil (step : σ → ι → Option σ) (s : σ) : run step s [] = some s := rfl

theorem run_cons_eq_some {step : σ → ι → Option σ} {s t : σ} {l : ι} {ls : List ι} :
    run step s (l :: ls) = some t ↔ ∃ s', step s l = some s' ∧ run step s' ls = some t := by
  simp [run, Option.bind_eq_some_iff]

theorem run_append (step : σ → ι → Option σ) : ∀ (s : σ) (ls ls' : List ι),
    run step s (ls ++ ls') = (run step s ls).bind fun t => run step t ls'
  | _, [], _ => rfl
  | s, l :: ls, ls' => by
    simp only [List.cons_append, run]
    cases step s l with
    | none => rfl
    | some s' => exact run_append step s' ls ls'

/-- What holds at the start and is kept by every step holds at the end. -/
theorem run_induction {step : σ → ι → Option σ} {P : σ → Prop}
    (hstep : ∀ s l s', P s → step s l = some s' → P s') :
    ∀ {s t : σ} {ls : List ι}, P s → run step s ls = some t → P t
  | _, _, [], h, hr => by cases hr; exact h
  | _, _, _ :: _, h, hr => by
    obtain ⟨s', h1, h2⟩ := run_cons_eq_some.mp hr
    exact run_induction hstep (hstep _ _ _ h h1) h2

/-- The same for the runs all of whose steps meet `C`. -/
theorem run_induction_of {step : σ → ι → Option σ} {C : σ → ι → Prop} {P : σ → Prop}
    (hstep : ∀ s l s', P s → C s l → step s l = some s' → P s') :
    ∀ {s t : σ} {ls : List ι}, P s → AllSteps step C s ls → run step s ls = some t → P t
  | _, _, [], h, _, hr => by cases hr; exact h
  | _, _, _ :: _, h, hc, hr => by
    obtain ⟨s', h1, h2⟩ := run_cons_eq_some.mp hr
    exact run_induction_of hstep (hstep _ _ _ h hc.1 h1) (hc.2 s' h1) h2

/-- A condition on the moves alone. -/
theorem allSteps_of_forall {step : σ → ι → Option σ} {C : ι → Prop} :
    ∀ {s : σ} {ls : List ι}, (∀ l ∈ ls, C l) → AllSteps step (fun _ l => C l) s ls
  | _, [], _ => trivial
  | _, l :: _, h => ⟨h l List.mem_cons_self, fun _ _ =>
      allSteps_of_forall fun l' hl' => h l' (List.mem_cons_of_mem l hl')⟩

theorem AllSteps.and {step : σ → ι → Option σ} {C D : σ → ι → Prop} :
    ∀ {s : σ} {ls : List ι}, AllSteps step C s ls → AllSteps step D s ls →
      AllSteps step (fun s l => C s l ∧ D s l) s ls
  | _, [], _, _ => trivial
  | _, _ :: _, hc, hd => ⟨⟨hc.1, hd.1⟩, fun s' h => (hc.2 s' h).and (hd.2 s' h)⟩

theorem AllSteps.of_append {step : σ → ι → Option σ} {C : σ → ι → Prop} :
    ∀ {s : σ} {ls ls' : List ι}, AllSteps step C s (ls ++ ls') →
      AllSteps step C s ls ∧ ∀ t, run step s ls = some t → AllSteps step C t ls'
  | _, [], _, h => ⟨trivial, fun t ht => by cases ht; exact h⟩
  | _, l :: ls, ls', h => by
    refine ⟨⟨h.1, fun s' hs' => (h.2 s' hs').of_append.1⟩, fun t ht => ?_⟩
    obtain ⟨s', hs', ht'⟩ := run_cons_eq_some.mp ht
    exact (h.2 s' hs').of_append.2 t ht'

/-- Along a run that keeps `P`, what `P` and an enabled move turn `C` into. -/
theorem AllSteps.mono_of {step : σ → ι → Option σ} {C D : σ → ι → Prop} {P : σ → Prop} {Q : ι → Prop}
    (hstep : ∀ s l s', P s → Q l → step s l = some s' → P s')
    (h : ∀ s l s', P s → Q l → step s l = some s' → C s l → D s l) :
    ∀ {s t : σ} {ls : List ι}, P s → (∀ l ∈ ls, Q l) → run step s ls = some t → AllSteps step C s ls →
      AllSteps step D s ls
  | _, _, [], _, _, _, _ => trivial
  | _, _, l :: ls, hP, hQ, hr, hC => by
    obtain ⟨s', h1, h2⟩ := run_cons_eq_some.mp hr
    have hl : Q l := hQ l List.mem_cons_self
    refine ⟨h _ l s' hP hl h1 hC.1, fun s'' hs'' => ?_⟩
    rw [h1] at hs''
    obtain rfl := Option.some.inj hs''
    exact AllSteps.mono_of hstep h (hstep _ l s' hP hl h1) (fun l' hl' => hQ l' (List.mem_cons_of_mem l hl')) h2
      (hC.2 s' h1)

/-- The last move of a run starts where the moves before it lead. -/
theorem run_concat_eq_some {step : σ → ι → Option σ} {s t : σ} {l : ι} {ls : List ι} :
    run step s (ls ++ [l]) = some t ↔ ∃ s', run step s ls = some s' ∧ step s' l = some t := by
  rw [run_append, Option.bind_eq_some_iff]
  simp [run]

/-- A system each step of which is, through `f`, a run of another one: so is
each of its runs. -/
theorem run_projects {τ κ : Type*} {step : σ → ι → Option σ} {step' : τ → κ → Option τ} {f : σ → τ}
    (hstep : ∀ s l s', step s l = some s' → ∃ ms, run step' (f s) ms = some (f s')) :
    ∀ {s t : σ} {ls : List ι}, run step s ls = some t → ∃ ms, run step' (f s) ms = some (f t)
  | _, _, [], h => by
    cases h
    exact ⟨[], rfl⟩
  | _, _, _ :: _, h => by
    obtain ⟨s', h1, h2⟩ := run_cons_eq_some.mp h
    obtain ⟨ms, hms⟩ := hstep _ _ _ h1
    obtain ⟨ms', hms'⟩ := run_projects hstep h2
    refine ⟨ms ++ ms', ?_⟩
    rw [run_append, hms]
    exact hms'

/-- The steps of `step` with a ghost beside the state: `upd g s l` is the
ghost after the move `l` from `s`. -/
def withGhost (step : σ → ι → Option σ) (upd : γ → σ → ι → γ) : σ × γ → ι → Option (σ × γ) :=
  fun x l => (step x.1 l).map fun s' => (s', upd x.2 x.1 l)

theorem withGhost_eq_some {step : σ → ι → Option σ} {upd : γ → σ → ι → γ} {x y : σ × γ} {l : ι} :
    withGhost step upd x l = some y ↔ step x.1 l = some y.1 ∧ y.2 = upd x.2 x.1 l := by
  obtain ⟨s', g'⟩ := y
  simp only [withGhost, Option.map_eq_some_iff, Prod.mk.injEq]
  constructor
  · rintro ⟨a, h, rfl, rfl⟩
    exact ⟨h, rfl⟩
  · rintro ⟨h, rfl⟩
    exact ⟨s', h, rfl, rfl⟩

end Run
