/-
# Snapshots of a controller that reconciles

`apply_topology` and `destroy_topology` set `reconciling` in an opening section
and leave it in a closing one; between the two they hold the runtime lock only
for their callbacks. A `health_snapshot` that gets in there recomputes the
state from the datapath it sees, so on a started controller with a supervisor
it reports `running` or `degraded` and writes that (`snapshot_overwrites`).
Reconciling is visible just as long as nobody looks (`visible_iff`).

Key definitions: `Pc.opened`, `Controller.snapshots`, `Controller.Looks`,
`Controller.Visible`.
Key theorems: `Advances.steady`, `snapshot_overwrites`, `visible_iff`.
-/
import Pktlab.Ctrld.Transitional

namespace Pktlab
namespace Ctrld

/-- Between the opening and the closing section of an `apply_topology` or a
`destroy_topology`. -/
def Task.opened : Task → Bool
  | .stopDatapath .shutdown => false
  | .stopDatapath _ | .startDatapath .. | .stopAgain => true
  | _ => false

def Pc.opened : Pc → Bool
  | .enter (.applied ..) | .enter (.applyFailed _) | .enter .destroyed | .enter .destroyFailed => true
  | .enter task | .waiting task _ _ | .inside task _ _ => task.opened
  | .idle | .manager .shutdown | .teardown .shutdown _ => false
  | _ => true

/-- A controller that is started and holds a supervisor stays so where `start`
and `stop` are not called. -/
theorem Advances.steady {sh : Shared} {p : Pc} {c : Choice} {x : Shared × Pc} (h : Advances sh p c x)
    (hp : p.topological = true) (hsh : sh.runtime.Steady) : x.1.runtime.Steady := by
  refine ⟨?_, h.supervisor_isSome hsh.supervised⟩
  obtain ⟨j, hj⟩ := Option.isSome_iff_exists.mp hsh.supervised
  cases h with
  | begins task =>
    rw [Runtime.started_of_standing (Shared.begin_standing hj task).1]
    exact hsh.started
  | returns task k i status =>
    rcases (sh.setSupervisor i ((sh.supervisors i).returned (task.call k))).resume_keeps task k i status with
      ⟨configPath, v, -, -, hreplace⟩ | ⟨-, -, rfl | rfl | hstarted⟩
    · rw [hreplace]
      unfold Shared.replaceSupervisor
      split
      · exact hsh.started
      · exact hsh.started
    · cases hp
    · cases hp
    · rw [hstarted]
      exact hsh.started
  | managerShutdownNone | teardownShutdown => cases hp
  | _ => exact hsh.started

/-- The move ends a `health_snapshot`; `datapath_status_snapshot` takes one
too. -/
def Shared.snapshots (sh : Shared) : Pc → Choice → Bool
  | .inside .health .., .returned _ | .inside .statusHealth .., .returned _ => true
  | .enter .health, .go | .enter .statusHealth, .go => sh.statusOf.isNone
  | _, _ => false

/-- **A snapshot overwrites the state.** -/
theorem Advances.snapshot_overwrites {sh : Shared} {p : Pc} {c : Choice} {x : Shared × Pc} (h : Advances sh p c x)
    (hsh : sh.runtime.Steady) (hsnapshot : sh.snapshots p c = true) :
    x.1.runtime.controllerState.transitional = false := by
  have hasked : sh.statusOf.isNone = false := by
    rw [← Option.not_isSome, statusOf_isSome_iff.mpr hsh]
    rfl
  cases h with
  | begins task =>
    cases task with
    | health | statusHealth =>
      simp only [Shared.snapshots] at hsnapshot
      rw [hasked] at hsnapshot
      cases hsnapshot
    | _ => cases hsnapshot
  | returns task k i status =>
    cases task with
    | health | statusHealth => exact recomputeControllerHealth_settles _ _
    | _ => cases hsnapshot
  | raises => simp [Shared.snapshots] at hsnapshot
  | _ => cases hsnapshot

namespace Controller

variable {n : ℕ} {s s' : Controller n}

def snapshots (s : Controller n) : Move n → Bool
  | .thread t choice => s.shared.snapshots (s.pc t) choice
  | .exits _ => false

/-- A snapshot is taken between the opening and the closing section of a
request. -/
def Looks (s : Controller n) (mv : Move n) : Prop := s.snapshots mv = true ∧ ∃ t, (s.pc t).opened = true

instance (s : Controller n) (mv : Move n) : Decidable (s.Looks mv) := inferInstanceAs (Decidable (_ ∧ _))

/-- Such a snapshot reports `reconciling` and leaves the state as it was. -/
def Visible (s : Controller n) (mv : Move n) : Prop :=
  s.Looks mv → ∀ s' ∈ s.step mv, s'.shared.runtime.controllerState = .reconciling ∧
    s'.shared.runtime.controllerState = s.shared.runtime.controllerState

instance (s : Controller n) (mv : Move n) : Decidable (s.Visible mv) := inferInstanceAs (Decidable (_ → _))

theorem step_steady {mv : Move n} (hs : s.shared.runtime.Steady) (htopological : ∀ t, (s.pc t).topological = true)
    (h : s.step mv = some s') : s'.shared.runtime.Steady := by
  cases mv with
  | exits i =>
    obtain ⟨-, hshared⟩ := step_exits h
    rw [hshared]
    exact ⟨hs.started, hs.supervised⟩
  | thread t c =>
    obtain ⟨-, hadvance, -⟩ := step_thread h
    exact hadvance.steady (htopological t) hs

/-- Nobody sees the controller reconcile. -/
theorem not_looks_of_visible {mv : Move n} (hs : s.shared.runtime.Steady) (h : s.step mv = some s')
    (hvisible : s.Visible mv) : ¬ s.Looks mv := by
  intro hlooks
  obtain ⟨hreconciling, -⟩ := hvisible hlooks s' h
  cases mv with
  | exits i => cases hlooks.1
  | thread t c =>
    obtain ⟨-, hadvance, -⟩ := step_thread h
    have hsettled := hadvance.snapshot_overwrites hs hlooks.1
    rw [hreconciling] at hsettled
    cases hsettled

/-- **Every snapshot during an `apply_topology` or a `destroy_topology`**
reports `reconciling` and leaves it if and only if none is taken. -/
theorem visible_iff {moves : List (Move n)} (h0 : s.allIdle) (hstarted : s.shared.runtime.started = true)
    (hsupervised : s.shared.runtime.supervisor.isSome = true)
    (htopological : ∀ mv ∈ moves, mv.topological = true) (hrun : Run.run step s moves = some s') :
    Run.AllSteps step (fun s mv => s.Visible mv) s moves ↔ Run.AllSteps step (fun s mv => ¬ s.Looks mv) s moves := by
  have hstart : s.shared.runtime.Steady ∧ ∀ t, (s.pc t).topological = true := by
    refine ⟨⟨hstarted, hsupervised⟩, fun t => ?_⟩
    rw [h0 t]
    rfl
  have hstep : ∀ (s : Controller n) (mv : Move n) (s' : Controller n),
      (s.shared.runtime.Steady ∧ ∀ t, (s.pc t).topological = true) → mv.topological = true → s.step mv = some s' →
      s'.shared.runtime.Steady ∧ ∀ t, (s'.pc t).topological = true :=
    fun _ _ _ hs hmv h => ⟨step_steady hs.1 hs.2 h, step_topological hs.2 hmv h⟩
  constructor
  · exact Run.AllSteps.mono_of hstep (fun _ _ _ hs _ h hvisible => not_looks_of_visible hs.1 h hvisible) hstart
      htopological hrun
  · exact Run.AllSteps.mono_of hstep (fun _ _ _ _ _ _ hlooks h => absurd h hlooks) hstart htopological hrun

/-- An `apply_topology` that nobody looks at. -/
theorem visible_unseen :
    (Run.run step started (applyMoves 0 ++ closeMoves 0)).isSome = true ∧
      Run.AllSteps step (fun s mv => s.Visible mv) started (applyMoves 0 ++ closeMoves 0) := by
  have hsome : (Run.run step started (applyMoves 0 ++ closeMoves 0)).isSome = true := by decide +kernel
  obtain ⟨s', hrun⟩ := Option.isSome_iff_exists.mp hsome
  refine ⟨hsome, ?_⟩
  exact (visible_iff started_allIdle (by decide +kernel) (by decide +kernel) (by decide +kernel) hrun).mpr
    (by decide +kernel)

/-- A snapshot after the opening section of an `apply_topology`. -/
theorem snapshot_hides_reconciling :
    ¬ ∀ (n : ℕ) (s s' : Controller n) (moves : List (Move n)), s.allIdle → s.shared.runtime.started = true →
      s.shared.runtime.supervisor.isSome = true → (∀ mv ∈ moves, mv.topological = true) →
      Run.run step s moves = some s' → Run.AllSteps step (fun s mv => s.Visible mv) s moves := by
  intro h
  let moves : List (Move 2) := [.thread 0 (.request (.applyTopology "lab.yaml")), .thread 0 .go,
    .thread 1 (.request .healthSnapshot), .thread 1 .go, .thread 1 .go, .thread 1 (.returned readyStatus)]
  have hsome : (Run.run step started moves).isSome = true := by decide +kernel
  obtain ⟨s', hrun⟩ := Option.isSome_iff_exists.mp hsome
  have hvisible := h 2 started s' moves started_allIdle (by decide +kernel) (by decide +kernel) (by decide +kernel) hrun
  have hseen : ¬ Run.AllSteps step (fun s mv => s.Visible mv) started moves := by decide +kernel
  exact hseen hvisible

end Controller

end Ctrld
end Pktlab
