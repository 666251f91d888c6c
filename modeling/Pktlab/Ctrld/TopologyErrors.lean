/-
# What leaves a failed apply or destroy

`apply` turns whatever its steps raise into a `PktlabError` and tears the
topology down before it raises. The teardown itself, `_destroy_locked`, and
`_cleanup_failed_apply` catch `PktlabError` alone: a `TimeoutExpired` of
`stop_datapath` or an `OSError` of the command runner leaves the phase it was
raised in, skips the phases after it and escapes as it is. So the errors are
typed and the teardown is complete exactly when no phase of a teardown that is
entered raises anything but a `PktlabError` (`raised_proper_iff`).

The steps are parameters here, any computations over the lab that may raise
anything, and a log of the phases is kept beside the lab. With the steps of
`Manager` and the log forgotten this is `Manager.apply` and `Manager.destroy`
(`apply_projects`, `destroy_projects`).

Key definitions: `Phase`, `Steps`, `Steps.apply`, `Steps.destroy`, `Proper`,
`Steps.TeardownTyped`, `Steps.ApplyTyped`, `Steps.DestroyTyped`.
Key theorems: `Steps.destroyLocked_typed`, `Steps.destroyLocked_untyped`,
`raised_proper_iff`.
-/
import Pktlab.Ctrld.TopologyRuns

namespace Pktlab
namespace Ctrld

open Effect

/-! ### The manager over any steps -/

/-- The phases of a teardown. -/
inductive Phase
  | stopDatapath
  | destroyLinksAndBridges
  | destroyNamespaces
  deriving DecidableEq

/-- What `apply` and `destroy` are made of. -/
structure Steps where
  loadValidated : String → Except TopologyError ValidatedTopologyConfig
  ensureNamespaces : ValidatedTopologyConfig → Op Unit
  ensureLinks : ValidatedTopologyConfig → Op Unit
  ensureBridges : ValidatedTopologyConfig → Op Unit
  startDatapath : ValidatedTopologyConfig → Op Bool
  reconcileTaps : ValidatedTopologyConfig → Op Unit
  bringLinkEndpointsUp : ValidatedTopologyConfig → Op Unit
  ensureRoutes : ValidatedTopologyConfig → Op Unit
  stopDatapath : Op Unit
  destroyLinksAndBridges : ValidatedTopologyConfig → Op Unit
  destroyNamespaces : ValidatedTopologyConfig → Op Unit

/-- A computation beside which the phases of the last teardown are logged. -/
abbrev Traced := Eff TopologyError (Lab × List Phase)

namespace Traced

/-- A step that is no phase of a teardown. -/
def untraced {α : Type} (op : Op α) : Traced α := fun s => ((op s.1).1, (op s.1).2, s.2)

theorem untraced_apply {α : Type} (op : Op α) (lab : Lab) (log : List Phase) :
    untraced op (lab, log) = ((op lab).1, (op lab).2, log) := rfl

/-- A phase: it is logged as attempted, whatever it raises. -/
def phase (p : Phase) (op : Op Unit) : Traced Unit := fun s => ((op s.1).1, (op s.1).2, s.2 ++ [p])

theorem phase_apply (p : Phase) (op : Op Unit) (lab : Lab) (log : List Phase) :
    phase p op (lab, log) = ((op lab).1, (op lab).2, log ++ [p]) := rfl

/-- A teardown begins. -/
def fresh : Traced Unit := Eff.modify fun s => (s.1, [])

/-- `try: op except PktlabError as exc: errors.append(exc)`. -/
def collect (op : Traced Unit) (errors : List TopologyError) : Traced (List TopologyError) :=
  Eff.tryCatch (do op; pure errors) fun e =>
    match e with
    | .pktlab .. => pure (errors ++ [e])
    | .other _ => Eff.throw e

end Traced

namespace Steps

open Traced

variable (S : Steps)

/-- `_destroy_locked`. -/
def destroyLocked (v : ValidatedTopologyConfig) : Traced Unit := do
  fresh
  let errors ← collect (phase .stopDatapath S.stopDatapath) []
  let errors ← collect (phase .destroyLinksAndBridges (S.destroyLinksAndBridges v)) errors
  let errors ← collect (phase .destroyNamespaces (S.destroyNamespaces v)) errors
  if errors = [] then pure ()
  else Eff.throw (.pktlab .topologyDestroyError "failed to destroy topology cleanly" errors)

/-- The body of the `try` of `apply`. -/
def build (v : ValidatedTopologyConfig) : Op Bool := do
  S.ensureNamespaces v
  S.ensureLinks v
  S.ensureBridges v
  let running ← S.startDatapath v
  S.reconcileTaps v
  S.bringLinkEndpointsUp v
  S.ensureRoutes v
  pure running

/-- `_cleanup_failed_apply`. -/
def cleanupFailedApply (v : ValidatedTopologyConfig) : Traced (List TopologyError) :=
  collect (S.destroyLocked v) []

/-- The `except` of `apply`. -/
def failApply (v : ValidatedTopologyConfig) (e : TopologyError) : Traced Bool := do
  let cleanup ← S.cleanupFailedApply v
  match e with
  | .pktlab code message errors => Eff.throw (.pktlab code message (errors ++ cleanup))
  | .other detail =>
    Eff.throw (.pktlab .topologyApplyError "failed to apply topology" (.other detail :: cleanup))

/-- Tear down the topology that is applied, if there is one. -/
def clearCurrent : Traced Unit := do
  let s ← Eff.get
  match s.1.current with
  | none => pure ()
  | some current => do
    S.destroyLocked current.validated
    untraced (Manager.setCurrent none)

/-- `apply`. -/
def apply (configPath : String) : Traced Manager.OperationResult :=
  match S.loadValidated configPath with
  | .error e => Eff.throw e
  | .ok v => do
    S.clearCurrent
    let running ← Eff.tryCatch (untraced (S.build v)) (S.failApply v)
    untraced (Manager.setCurrent (some ⟨configPath, v⟩))
    pure (Manager.result "apply" v configPath true running "topology applied")

/-- `destroy`. -/
def destroy : Traced Manager.OperationResult := do
  let s ← Eff.get
  match s.1.current with
  | none =>
    pure
      { operation := "destroy"
        topologyName := none
        configPath := none
        applied := false
        datapathNamespace := none
        datapathRunning := false
        message := "no topology is currently applied"
        requestedDpdkConfig := none
        effectiveDpdkConfig := none }
  | some current => do
    S.clearCurrent
    pure (Manager.result "destroy" current.validated current.configPath false false "topology destroyed")

end Steps

/-! ### The manager of the controller is one of them -/

/-- The steps of a manager. -/
def Manager.steps (m : Manager) : Steps where
  loadValidated := m.loadValidated
  ensureNamespaces := Ctrld.ensureNamespaces m.kernel
  ensureLinks := Ctrld.ensureLinks m.kernel
  ensureBridges := Ctrld.ensureBridges m.kernel
  startDatapath := m.startDatapath
  reconcileTaps v := Ctrld.reconcileTaps m.kernel v m.polls
  bringLinkEndpointsUp := Ctrld.bringLinkEndpointsUp m.kernel
  ensureRoutes := Ctrld.ensureRoutes m.kernel
  stopDatapath := Ctrld.stopDatapath
  destroyLinksAndBridges := Ctrld.destroyLinksAndBridges m.kernel
  destroyNamespaces := Ctrld.destroyNamespaces m.kernel

theorem Manager.steps_loadValidated (m : Manager) (configPath : String) :
    m.steps.loadValidated configPath = m.loadValidated configPath := rfl

section Projection

open Traced

variable {m : Manager} {v : ValidatedTopologyConfig}

theorem untraced_projects {α : Type} (op : Op α) : Projects Prod.fst (untraced op) op := fun _ => rfl

theorem phase_projects (p : Phase) (op : Op Unit) : Projects Prod.fst (phase p op) op := fun _ => rfl

theorem collect_projects {t : Traced Unit} {op : Op Unit} (h : Projects Prod.fst t op)
    (errors : List TopologyError) : Projects Prod.fst (Traced.collect t errors) (Manager.collect op errors) := by
  refine projects_tryCatch (projects_bind h fun _ => projects_pure errors) fun e => ?_
  cases e with
  | pktlab code message inner => exact projects_pure _
  | other detail => exact projects_throw _

theorem destroyLocked_projects : Projects Prod.fst (m.steps.destroyLocked v) (m.destroyLocked v) := by
  refine projects_hidden (fun _ => ⟨rfl, rfl⟩) ?_
  refine projects_bind (collect_projects (phase_projects _ _) []) fun errors => ?_
  refine projects_bind (collect_projects (phase_projects _ _) errors) fun errors => ?_
  refine projects_bind (collect_projects (phase_projects _ _) errors) fun errors => ?_
  by_cases hnil : errors = []
  · rw [if_pos hnil, if_pos hnil]
    exact projects_pure ()
  · rw [if_neg hnil, if_neg hnil]
    exact projects_throw _

theorem clearCurrent_projects : Projects Prod.fst m.steps.clearCurrent m.clearCurrent := by
  have hrest : ∀ current : AppliedTopology, Projects Prod.fst
      (do m.steps.destroyLocked current.validated; untraced (Manager.setCurrent none))
      (do m.destroyLocked current.validated; Manager.setCurrent none) := fun current =>
    projects_bind destroyLocked_projects fun _ => untraced_projects _
  intro s
  simp only [Steps.clearCurrent, Manager.clearCurrent, Eff.bind_apply, Eff.get]
  cases hcurrent : s.1.current with
  | none => rfl
  | some current => exact hrest current s

theorem failApply_projects (e : TopologyError) : Projects Prod.fst (m.steps.failApply v e) (m.failApply v e) := by
  refine projects_bind (collect_projects destroyLocked_projects []) fun cleanup => ?_
  cases e with
  | pktlab code message errors => exact projects_throw _
  | other detail => exact projects_throw _

/-- **With the log forgotten, `apply` is the manager's.** -/
theorem apply_projects (configPath : String) :
    Projects Prod.fst (m.steps.apply configPath) (m.apply configPath) := by
  unfold Steps.apply Manager.apply
  show Projects Prod.fst (match m.loadValidated configPath with | .error e => _ | .ok v => _) _
  cases m.loadValidated configPath with
  | error e => exact projects_throw e
  | ok v =>
    refine projects_bind clearCurrent_projects fun _ => ?_
    refine projects_bind (projects_tryCatch (untraced_projects _) failApply_projects) fun running => ?_
    exact projects_bind (untraced_projects _) fun _ => projects_pure _

/-- **With the log forgotten, `destroy` is the manager's.** -/
theorem destroy_projects : Projects Prod.fst m.steps.destroy m.destroy := by
  have hrest : ∀ current : AppliedTopology, Projects Prod.fst
      (do m.steps.clearCurrent
          pure (Manager.result "destroy" current.validated current.configPath false false "topology destroyed"))
      (do m.clearCurrent
          pure (Manager.result "destroy" current.validated current.configPath false false "topology destroyed")) :=
    fun current => projects_bind clearCurrent_projects fun _ => projects_pure _
  intro s
  simp only [Steps.destroy, Manager.destroy]
  rw [Eff.bind_apply, Eff.bind_apply]
  simp only [Eff.get]
  cases hcurrent : s.1.current with
  | none => rfl
  | some current => exact hrest current s

end Projection

/-! ### Errors that no handler of the teardown takes -/

/-- An exception left that is no `PktlabError`. -/
def Untyped {α : Type} : Except TopologyError α → Prop
  | .error (.other _) => True
  | .error (.pktlab ..) => False
  | .ok _ => False

instance {α : Type} : ∀ r : Except TopologyError α, Decidable (Untyped r)
  | .error (.other _) => inferInstanceAs (Decidable True)
  | .error (.pktlab ..) => inferInstanceAs (Decidable False)
  | .ok _ => inferInstanceAs (Decidable False)

/-- What leaves, if anything does, is a `PktlabError`, and every phase of the
last teardown was attempted. -/
def Proper {α : Type} (r : Except TopologyError α × Lab × List Phase) : Prop :=
  ∀ e s, r = (.error e, s) → (∃ code message errors, e = .pktlab code message errors) ∧ ∀ p : Phase, p ∈ s.2

theorem proper_ok {α : Type} (a : α) (s : Lab × List Phase) : Proper (Except.ok a, s) := by
  intro e s' h
  cases h

theorem not_proper_other {α : Type} (detail : String) (s : Lab × List Phase) :
    ¬ Proper ((.error (.other detail), s) : Except TopologyError α × Lab × List Phase) := by
  intro h
  obtain ⟨⟨code, message, errors, he⟩, -⟩ := h _ _ rfl
  cases he

theorem proper_pktlab {α : Type} {lab : Lab} {log : List Phase} (code : ErrorCode) (message : String)
    (errors : List TopologyError) (hlog : ∀ p, p ∈ log) :
    Proper ((.error (.pktlab code message errors), (lab, log)) : Except TopologyError α × Lab × List Phase) := by
  intro e s h
  cases h
  exact ⟨⟨code, message, errors, rfl⟩, hlog⟩

/-- A teardown that was entered and whose phases were all attempted. -/
def allPhases : List Phase := [.stopDatapath, .destroyLinksAndBridges, .destroyNamespaces]

theorem mem_allPhases (p : Phase) : p ∈ allPhases := by
  cases p with
  | stopDatapath => decide
  | destroyLinksAndBridges => decide
  | destroyNamespaces => decide

namespace Steps

open Traced

variable (S : Steps)

/-- No phase of a teardown of `v` that starts at `lab` raises anything but a
`PktlabError`. -/
def TeardownTyped (v : ValidatedTopologyConfig) (lab : Lab) : Prop :=
  ¬ Untyped (S.stopDatapath lab).1 ∧
    ¬ Untyped (S.destroyLinksAndBridges v (S.stopDatapath lab).2).1 ∧
    ¬ Untyped (S.destroyNamespaces v (S.destroyLinksAndBridges v (S.stopDatapath lab).2).2).1

/-- The same of the teardown that `destroy` enters. -/
def DestroyTyped (lab : Lab) : Prop :=
  ∀ current ∈ lab.current, S.TeardownTyped current.validated lab

/-- The same of the cleanup, when the steps that build `v` raise. -/
def CleanupTyped (v : ValidatedTopologyConfig) (lab : Lab) : Prop :=
  (S.build v lab).1.isOk = false → S.TeardownTyped v (S.build v lab).2

/-- The three phases in turn, with no handler around them. -/
def phases (v : ValidatedTopologyConfig) : Op Unit := do
  S.stopDatapath
  S.destroyLinksAndBridges v
  S.destroyNamespaces v

/-- The lab that the steps of `apply` start from, when they are reached. -/
def cleared (lab : Lab) : Option Lab :=
  match lab.current with
  | none => some lab
  | some current =>
    match S.phases current.validated lab with
    | (.ok (), lab') => some { lab' with current := none }
    | (.error _, _) => none

/-- The same of both teardowns of an `apply`: the one of the topology applied
before, and once that has returned the cleanup. -/
def ApplyTyped (v : ValidatedTopologyConfig) (lab : Lab) : Prop :=
  S.DestroyTyped lab ∧ ∀ lab' ∈ S.cleared lab, S.CleanupTyped v lab'

variable {S} {v : ValidatedTopologyConfig} {lab : Lab} (log : List Phase)

/-- A phase that raises nothing else goes on to the next one. -/
theorem collect_typed {op : Op Unit} (h : ¬ Untyped (op lab).1) (p : Phase) (errors : List TopologyError) :
    ∃ errors', Traced.collect (phase p op) errors (lab, log) = (.ok errors', (op lab).2, log ++ [p]) := by
  unfold Traced.collect Eff.tryCatch
  rw [Eff.bind_apply, phase_apply]
  rcases hop : op lab with ⟨(⟨code, message, inner⟩ | detail) | u, lab'⟩
  · exact ⟨_, rfl⟩
  · rw [hop] at h
    exact absurd trivial h
  · exact ⟨_, rfl⟩

theorem phase_untyped {op : Op Unit} (h : Untyped (op lab).1) (p : Phase) : Untyped (phase p op (lab, log)).1 := h

/-- A phase that does is the last one. -/
theorem collect_untyped {t : Traced Unit} {s : Lab × List Phase} (h : Untyped (t s).1)
    (errors : List TopologyError) : ∃ detail s', Traced.collect t errors s = (.error (.other detail), s') := by
  unfold Traced.collect Eff.tryCatch
  rw [Eff.bind_apply]
  rcases hrun : t s with ⟨(⟨code, message, inner⟩ | detail) | u, s'⟩
  · rw [hrun] at h
    cases h
  · exact ⟨detail, s', rfl⟩
  · rw [hrun] at h
    cases h

/-- **A teardown without untyped errors attempts every phase.** -/
theorem destroyLocked_typed (h : S.TeardownTyped v lab) :
    ¬ Untyped (S.destroyLocked v (lab, log)).1 ∧ (S.destroyLocked v (lab, log)).2.2 = allPhases := by
  obtain ⟨hstop, hlinks, hspaces⟩ := h
  obtain ⟨errors₁, h₁⟩ := collect_typed [] hstop .stopDatapath []
  obtain ⟨errors₂, h₂⟩ := collect_typed [.stopDatapath] hlinks .destroyLinksAndBridges errors₁
  obtain ⟨errors₃, h₃⟩ := collect_typed [.stopDatapath, .destroyLinksAndBridges] hspaces
    .destroyNamespaces errors₂
  simp only [List.nil_append, List.cons_append] at h₁ h₂ h₃
  simp only [destroyLocked, Eff.bind_apply, fresh, Eff.modify, h₁, h₂, h₃]
  by_cases hnil : errors₃ = []
  · rw [if_pos hnil]
    exact ⟨id, rfl⟩
  · rw [if_neg hnil]
    exact ⟨id, rfl⟩

/-- **An untyped error of a phase leaves the teardown as it is.** -/
theorem destroyLocked_untyped (h : ¬ S.TeardownTyped v lab) : Untyped (S.destroyLocked v (lab, log)).1 := by
  simp only [destroyLocked, Eff.bind_apply, fresh, Eff.modify]
  by_cases hstop : Untyped (S.stopDatapath lab).1
  · obtain ⟨detail, s', hrun⟩ := collect_untyped (phase_untyped [] hstop .stopDatapath) []
    rw [hrun]
    trivial
  obtain ⟨errors₁, h₁⟩ := collect_typed [] hstop .stopDatapath []
  rw [h₁]
  dsimp only
  by_cases hlinks : Untyped (S.destroyLinksAndBridges v (S.stopDatapath lab).2).1
  · obtain ⟨detail, s', hrun⟩ := collect_untyped
      (phase_untyped ([] ++ [.stopDatapath]) hlinks .destroyLinksAndBridges) errors₁
    rw [hrun]
    trivial
  obtain ⟨errors₂, h₂⟩ := collect_typed ([] ++ [.stopDatapath]) hlinks .destroyLinksAndBridges errors₁
  rw [h₂]
  dsimp only
  have hspaces : Untyped (S.destroyNamespaces v (S.destroyLinksAndBridges v (S.stopDatapath lab).2).2).1 := by
    by_contra hspaces
    exact h ⟨hstop, hlinks, hspaces⟩
  obtain ⟨detail, s', hrun⟩ := collect_untyped
    (phase_untyped ([] ++ [.stopDatapath] ++ [.destroyLinksAndBridges]) hspaces .destroyNamespaces) errors₂
  rw [hrun]
  trivial

theorem collect_phase_eq_nil {op : Op Unit} {p : Phase} {errors : List TopologyError} {s : Lab × List Phase} :
    Traced.collect (phase p op) errors (lab, log) = (.ok [], s) ↔
      errors = [] ∧ op lab = (.ok (), s.1) ∧ s.2 = log ++ [p] := by
  unfold Traced.collect Eff.tryCatch
  rw [Eff.bind_apply, phase_apply]
  rcases op lab with ⟨(⟨code, message, inner⟩ | detail) | u, lab'⟩
  · refine iff_of_false (fun h => ?_) fun h => by cases h.2.1
    have hnil : errors ++ [TopologyError.pktlab code message inner] = [] :=
      Except.ok.inj (congrArg Prod.fst h : (Except.ok (ε := TopologyError) _) = .ok [])
    simp at hnil
  · refine iff_of_false (fun h => ?_) fun h => by cases h.2.1
    cases h
  · simp [Eff.pure_apply, Prod.ext_iff, eq_comm]

/-- A teardown returns exactly when its phases do. -/
theorem destroyLocked_eq_ok {lab' : Lab} {log' : List Phase} :
    S.destroyLocked v (lab, log) = (.ok (), lab', log') ↔
      S.phases v lab = (.ok (), lab') ∧ log' = allPhases := by
  unfold destroyLocked phases
  simp only [Eff.bind_eq_ok, fresh, Eff.modify]
  constructor
  · rintro ⟨_, s, hfresh, errors₁, ⟨lab₁, log₁⟩, h₁, errors₂, ⟨lab₂, log₂⟩, h₂, errors₃, ⟨lab₃, log₃⟩, h₃, hend⟩
    cases hfresh
    have hnil : errors₃ = [] ∧ (lab₃, log₃) = (lab', log') := by
      by_cases hnil : errors₃ = []
      · rw [if_pos hnil] at hend
        cases hend
        exact ⟨hnil, rfl⟩
      · rw [if_neg hnil] at hend
        cases hend
    obtain ⟨rfl, hlast⟩ := hnil
    cases hlast
    obtain ⟨rfl, hspaces, rfl⟩ := (collect_phase_eq_nil _).mp h₃
    obtain ⟨rfl, hlinks, hlog₂⟩ := (collect_phase_eq_nil _).mp h₂
    obtain ⟨-, hstop, hlog₁⟩ := (collect_phase_eq_nil _).mp h₁
    dsimp only at *
    refine ⟨⟨(), lab₁, hstop, (), lab₂, hlinks, hspaces⟩, ?_⟩
    rw [hlog₂, hlog₁]
    rfl
  · rintro ⟨⟨_, lab₁, hstop, _, lab₂, hlinks, hspaces⟩, rfl⟩
    exact ⟨(), _, rfl, [], (lab₁, _), (collect_phase_eq_nil _).mpr ⟨rfl, hstop, rfl⟩, [], (lab₂, _),
      (collect_phase_eq_nil _).mpr ⟨rfl, hlinks, rfl⟩, [], (lab', _),
      (collect_phase_eq_nil _).mpr ⟨rfl, hspaces, rfl⟩, rfl⟩

/-- The outcomes of a teardown whose errors are typed. -/
theorem destroyLocked_cases (h : S.TeardownTyped v lab) :
    (∃ lab', S.destroyLocked v (lab, log) = (.ok (), lab', allPhases)) ∨
      ∃ code message errors lab', S.destroyLocked v (lab, log) =
        (.error (.pktlab code message errors), lab', allPhases) := by
  obtain ⟨htyped, hlog⟩ := destroyLocked_typed log h
  rcases hrun : S.destroyLocked v (lab, log) with ⟨(⟨code, message, errors⟩ | detail) | u, lab', log'⟩
  · rw [hrun] at hlog
    cases hlog
    exact .inr ⟨code, message, errors, lab', rfl⟩
  · rw [hrun] at htyped
    exact absurd trivial htyped
  · rw [hrun] at hlog
    cases hlog
    exact .inl ⟨lab', rfl⟩

theorem destroyLocked_escapes (h : ¬ S.TeardownTyped v lab) :
    ∃ detail s, S.destroyLocked v (lab, log) = (.error (.other detail), s) := by
  have huntyped := destroyLocked_untyped log h
  rcases hrun : S.destroyLocked v (lab, log) with ⟨(⟨code, message, errors⟩ | detail) | u, s⟩
  · rw [hrun] at huntyped
    cases huntyped
  · exact ⟨detail, s, rfl⟩
  · rw [hrun] at huntyped
    cases huntyped

/-- `clearCurrent` in the terms of the teardown. -/
theorem clearCurrent_some {current : AppliedTopology} (h : lab.current = some current) :
    S.clearCurrent (lab, log) =
      (do S.destroyLocked current.validated; untraced (Manager.setCurrent none)) (lab, log) := by
  simp only [clearCurrent, Eff.bind_apply, Eff.get, h]

theorem clearCurrent_none (h : lab.current = none) : S.clearCurrent (lab, log) = (.ok (), lab, log) := by
  simp only [clearCurrent, Eff.bind_apply, Eff.get, h]
  rfl

/-- The outcomes of clearing what is applied: it returns on the lab that the
steps start from, or raises, properly when the teardown is typed. -/
theorem clearCurrent_cases (h : S.DestroyTyped lab) :
    (∃ lab' log', S.cleared lab = some lab' ∧ S.clearCurrent (lab, log) = (.ok (), lab', log')) ∨
      S.cleared lab = none ∧ ∃ code message errors lab', S.clearCurrent (lab, log) =
        (.error (.pktlab code message errors), lab', allPhases) := by
  cases hcurrent : lab.current with
  | none =>
    refine .inl ⟨lab, log, ?_, clearCurrent_none log hcurrent⟩
    simp only [cleared, hcurrent]
  | some current =>
    rw [clearCurrent_some log hcurrent, Eff.bind_apply]
    rcases destroyLocked_cases log (h current hcurrent) with ⟨lab', hrun⟩ | ⟨code, message, errors, lab', hrun⟩
    · refine .inl ⟨{ lab' with current := none }, allPhases, ?_, ?_⟩
      · simp only [cleared, hcurrent, ((destroyLocked_eq_ok log).mp hrun).1]
      · rw [hrun]
        rfl
    · refine .inr ⟨?_, code, message, errors, lab', by rw [hrun]⟩
      rcases hphases : S.phases current.validated lab with ⟨e | u, lab₁⟩
      · simp only [cleared, hcurrent, hphases]
      · have hok := (destroyLocked_eq_ok log).mpr ⟨hphases, rfl⟩
        rw [hrun] at hok
        cases hok

theorem clearCurrent_escapes (h : ¬ S.DestroyTyped lab) :
    ∃ detail s, S.clearCurrent (lab, log) = (.error (.other detail), s) := by
  obtain ⟨current, hcurrent, huntyped⟩ : ∃ current ∈ lab.current, ¬ S.TeardownTyped current.validated lab := by
    by_contra hnone
    exact h fun current hcurrent => not_not.mp fun hbad => hnone ⟨current, hcurrent, hbad⟩
  obtain ⟨detail, s, hrun⟩ := destroyLocked_escapes log huntyped
  refine ⟨detail, s, ?_⟩
  rw [clearCurrent_some log hcurrent, Eff.bind_apply, hrun]

/-- The cleanup of a failed build, when its errors are typed. -/
theorem failApply_typed (h : S.TeardownTyped v lab) (e : TopologyError) : ∃ code message errors lab',
    S.failApply v e (lab, log) = (.error (.pktlab code message errors), lab', allPhases) := by
  obtain ⟨cleanup, lab', hrun⟩ : ∃ cleanup lab', S.cleanupFailedApply v (lab, log) =
      (.ok cleanup, lab', allPhases) := by
    unfold cleanupFailedApply Traced.collect
    rw [Eff.tryCatch_apply, Eff.bind_apply]
    rcases destroyLocked_cases log h with ⟨lab', hrun⟩ | ⟨code, message, errors, lab', hrun⟩
    · rw [hrun]
      exact ⟨[], lab', rfl⟩
    · rw [hrun]
      exact ⟨_, lab', rfl⟩
  unfold failApply
  rw [Eff.bind_apply, hrun]
  cases e with
  | pktlab code message errors => exact ⟨code, message, _, lab', rfl⟩
  | other detail => exact ⟨_, _, _, lab', rfl⟩

theorem failApply_escapes (h : ¬ S.TeardownTyped v lab) (e : TopologyError) :
    ∃ detail s, S.failApply v e (lab, log) = (.error (.other detail), s) := by
  obtain ⟨detail, s, hrun⟩ := collect_untyped (destroyLocked_untyped log h) []
  refine ⟨detail, s, ?_⟩
  unfold failApply cleanupFailedApply
  rw [Eff.bind_apply, hrun]

theorem destroy_proper_iff : Proper (S.destroy (lab, log)) ↔ S.DestroyTyped lab := by
  unfold destroy
  rw [Eff.bind_apply]
  simp only [Eff.get]
  cases hcurrent : lab.current with
  | none =>
    refine iff_of_true (proper_ok _ _) fun current h => ?_
    rw [hcurrent] at h
    cases h
  | some current =>
    show Proper ((do S.clearCurrent; pure _ : Traced Manager.OperationResult) (lab, log)) ↔ _
    rw [Eff.bind_apply]
    by_cases h : S.DestroyTyped lab
    · refine iff_of_true ?_ h
      rcases clearCurrent_cases log h with ⟨lab', log', -, hrun⟩ | ⟨-, code, message, errors, lab', hrun⟩
      · rw [hrun]
        exact proper_ok _ _
      · rw [hrun]
        exact proper_pktlab code message errors mem_allPhases
    · refine iff_of_false ?_ h
      obtain ⟨detail, s, hrun⟩ := clearCurrent_escapes log h
      rw [hrun]
      exact not_proper_other detail s

/-- The steps of `apply` once nothing is applied. -/
theorem build_proper_iff {configPath : String} :
    Proper ((do
      let running ← Eff.tryCatch (untraced (S.build v)) (S.failApply v)
      untraced (Manager.setCurrent (some ⟨configPath, v⟩))
      pure (Manager.result "apply" v configPath true running "topology applied") :
        Traced Manager.OperationResult) (lab, log)) ↔ S.CleanupTyped v lab := by
  rw [Eff.bind_apply, Eff.tryCatch_apply, untraced_apply]
  unfold CleanupTyped
  rcases hbuild : S.build v lab with ⟨e | running, lab'⟩
  · dsimp only
    by_cases h : S.TeardownTyped v lab'
    · obtain ⟨code, message, errors, lab'', hrun⟩ := failApply_typed log h e
      rw [hrun]
      exact iff_of_true (proper_pktlab code message errors mem_allPhases) fun _ => h
    · obtain ⟨detail, s, hrun⟩ := failApply_escapes log h e
      rw [hrun]
      exact iff_of_false (not_proper_other detail s) fun htyped => h (htyped rfl)
  · exact iff_of_true (proper_ok _ _) fun hfailed => by cases hfailed

theorem apply_proper_iff {configPath : String} (hload : S.loadValidated configPath = .ok v) :
    Proper (S.apply configPath (lab, log)) ↔ S.ApplyTyped v lab := by
  unfold apply
  rw [hload]
  dsimp only
  rw [Eff.bind_apply]
  by_cases h : S.DestroyTyped lab
  · rcases clearCurrent_cases log h with ⟨lab', log', hcleared, hrun⟩ |
      ⟨hcleared, code, message, errors, lab', hrun⟩
    · rw [hrun]
      refine (build_proper_iff log').trans ⟨fun htyped => ⟨h, fun lab₁ h₁ => ?_⟩, fun htyped => htyped.2 lab' hcleared⟩
      rw [hcleared, Option.mem_some] at h₁
      exact h₁ ▸ htyped
    · rw [hrun]
      refine iff_of_true (proper_pktlab code message errors mem_allPhases) ⟨h, fun lab₁ h₁ => ?_⟩
      rw [hcleared] at h₁
      cases h₁
  · obtain ⟨detail, s, hrun⟩ := clearCurrent_escapes log h
    rw [hrun]
    exact iff_of_false (not_proper_other detail s) fun htyped => h htyped.1

end Steps

/-- **When the errors are typed and the teardown is complete.** After the
topology is validated, what leaves `apply` and `destroy` is a `PktlabError`
raised after all three phases were attempted exactly when no phase of a
teardown that is entered raises anything but a `PktlabError`. -/
theorem raised_proper_iff (S : Steps) (lab : Lab) (log : List Phase) :
    (∀ configPath v, S.loadValidated configPath = .ok v →
      (Proper (S.apply configPath (lab, log)) ↔ S.ApplyTyped v lab)) ∧
    (Proper (S.destroy (lab, log)) ↔ S.DestroyTyped lab) :=
  ⟨fun _ _ hload => Steps.apply_proper_iff log hload, Steps.destroy_proper_iff log⟩

/-! ### A datapath that does not stop in time -/

/-- A plain lab is applied, and stopping its datapath times out. -/
def hangingLab : Lab :=
  { Lab.initial bareHost with
    current := some ⟨"lab.yaml", plainValidated⟩
    stopRaises := some (.other "TimeoutExpired") }

/-- `TimeoutExpired` leaves `destroy`, and nothing was deleted. -/
theorem timeout_escapes_destroy :
    obligingManager.steps.destroy (hangingLab, []) = (.error (.other "TimeoutExpired"), hangingLab, [.stopDatapath]) ∧
      ¬ Proper (obligingManager.steps.destroy (hangingLab, [])) := by
  have hrun : obligingManager.steps.destroy (hangingLab, []) =
      (.error (.other "TimeoutExpired"), hangingLab, [.stopDatapath]) := rfl
  refine ⟨hrun, ?_⟩
  rw [hrun]
  exact not_proper_other _ _

theorem plainValidated_loaded : obligingManager.steps.loadValidated "lab.yaml" = .ok plainValidated := by
  rw [Manager.steps_loadValidated]
  unfold Manager.loadValidated
  simp only [obligingManager, plainLab_valid]

/-- The first call of `ip` is going to fail. -/
def failingLab : Lab := { Lab.initial bareHost with faults := [some ⟨2, by decide⟩] }

/-- The error of that call leaves `apply` after a whole teardown. -/
theorem failed_apply_proper :
    (obligingManager.steps.build plainValidated failingLab).1.isOk = false ∧
      Proper (obligingManager.steps.apply "lab.yaml" (failingLab, [])) := by
  have hfails : (obligingManager.steps.build plainValidated failingLab).1.isOk = false := by decide +kernel
  refine ⟨hfails, ((raised_proper_iff obligingManager.steps failingLab []).1 "lab.yaml" plainValidated
    plainValidated_loaded).mpr ⟨fun current h => ?_, fun lab' h => ?_⟩⟩
  · cases h
  · have hlab : lab' = failingLab := (Option.mem_some.mp h).symm
    subst hlab
    intro _
    have htyped : ¬ Untyped (stopDatapath (obligingManager.steps.build plainValidated failingLab).2).1 ∧
        ¬ Untyped (destroyLinksAndBridges obligingManager.kernel plainValidated
          (stopDatapath (obligingManager.steps.build plainValidated failingLab).2).2).1 ∧
        ¬ Untyped (destroyNamespaces obligingManager.kernel plainValidated
          (destroyLinksAndBridges obligingManager.kernel plainValidated
            (stopDatapath (obligingManager.steps.build plainValidated failingLab).2).2).2).1 := by
      decide +kernel
    exact htyped

end Ctrld
end Pktlab
