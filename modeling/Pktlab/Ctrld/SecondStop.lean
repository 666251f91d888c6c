/-
# The second stop of `destroy_topology`

Once `TopologyManager.destroy` has returned and its lock is free,
`destroy_topology` stops the supervisor that the runtime holds then. By that
time a later `apply_topology` can have replaced it, and the stop hits the
datapath of the new topology (`second_stop_kills`).

A datapath is claimed while a topology is built with it or applied
(`Controller.Claimed`). In every run in which the second stop finds no process
of a claimed datapath (`Controller.spares`), the datapath of a topology is not
stopped until another operation enters the manager
(`applied_datapath_spared`).

Key definitions: `Controller.Claimed`, `Controller.spares`,
`Controller.Undisturbed`.
Key theorems: `thread_built`, `thread_second`, `step_undisturbed`,
`step_spared`, `applied_datapath_spared`.
-/
import Pktlab.Ctrld.Agreement

namespace Pktlab
namespace Ctrld

/-- The supervisor of the topology that a thread has built but for its last
host work. -/
def Pc.reconciles : Pc → Option ℕ
  | .reconcile _ _ i => some i
  | _ => none

theorem reconciles_eq_some {p : Pc} {i : ℕ} :
    p.reconciles = some i ↔ ∃ configPath v, p = .reconcile configPath v i := by
  constructor
  · intro h
    cases p with
    | reconcile configPath v j =>
      obtain rfl := Option.some.inj h
      exact ⟨configPath, v, rfl⟩
    | _ => cases h
  · rintro ⟨configPath, v, rfl⟩
    rfl

namespace Controller

variable {n : ℕ} {s s' : Controller n}

/-- The datapath of supervisor `j` belongs to a topology that is built or
applied. -/
def Claimed (s : Controller n) (j : ℕ) : Prop :=
  s.shared.runtime.supervisor = some j ∧ (s.shared.current.isSome = true ∨ ∃ t, (s.pc t).builds = some j)

instance (s : Controller n) (j : ℕ) : Decidable (s.Claimed j) := inferInstanceAs (Decidable (_ ∧ _))

/-- Where the second stop begins, no process runs in a claimed datapath. -/
def spares (s : Controller n) : Move n → Bool
  | .thread t _ =>
    match s.pc t, s.shared.runtime.supervisor with
    | .enter .stopAgain, some j => !(s.shared.supervisors j).alive || !s.Claimed j
    | _, _ => true
  | .exits _ => true

/-- The datapath of a topology that is built has not been stopped, and a
second stop will not stop a claimed one. -/
structure Undisturbed (s : Controller n) : Prop where
  exclusive : s.Exclusive
  topological : ∀ t, (s.pc t).topological = true
  built : ∀ t i, (s.pc t).builds = some i →
    s.shared.runtime.supervisor = some i ∧ (s.shared.supervisors i).stopped = false
  second : ∀ t j, (s.pc t).stopsAgain = some j → (s.shared.supervisors j).alive = true → ¬ s.Claimed j

/-! ### A process exits -/

theorem exits_stopped {i : ℕ} (h : s.step (.exits i) = some s') (j : ℕ) :
    (s'.shared.supervisors j).stopped = (s.shared.supervisors j).stopped := by
  obtain ⟨-, hshared⟩ := step_exits h
  rw [hshared]
  by_cases hji : j = i
  · subst hji
    simp [Shared.setSupervisor]
  · simp [Shared.setSupervisor, hji]

theorem exits_alive {i j : ℕ} (h : s.step (.exits i) = some s') (halive : (s'.shared.supervisors j).alive = true) :
    (s.shared.supervisors j).alive = true := by
  obtain ⟨-, hshared⟩ := step_exits h
  rw [hshared] at halive
  have hne : j ≠ i := by
    rintro rfl
    simp [Shared.setSupervisor] at halive
  simpa only [Shared.setSupervisor, Function.update_of_ne hne] using halive

theorem exits_claimed {i j : ℕ} (h : s.step (.exits i) = some s') (hclaimed : s'.Claimed j) : s.Claimed j := by
  obtain ⟨hpc, hshared⟩ := step_exits h
  unfold Claimed at hclaimed ⊢
  rw [hpc, hshared] at hclaimed
  exact hclaimed

/-! ### A thread moves -/

section Thread

variable {t a : Fin n} {c : Choice} {i j : ℕ}

/-- A topology that is built keeps its datapath. -/
theorem thread_built (hs : s.Undisturbed) (h : s.step (.thread t c) = some s') (ha : (s'.pc a).builds = some i) :
    s'.shared.runtime.supervisor = some i ∧ (s'.shared.supervisors i).stopped = false := by
  obtain ⟨-, hadvance, hother⟩ := step_thread h
  have ht := hs.topological t
  by_cases hat : a = t
  · rw [hat] at ha
    rcases hadvance.builds ht ha with ⟨hbuilds, hholds, hstopped⟩ | ⟨-, hholds, hstopped⟩
    · rw [hholds, hstopped]
      exact hs.built t i hbuilds
    · exact ⟨hholds, hstopped⟩
  · -- `a` has the lock of the manager, so only a second stop can stop its datapath
    rw [hother a hat] at ha
    have hmanager : Lock.manager ∉ (s.pc t).held := fun hheld =>
      hat (hs.exclusive a t .manager (builds_held ha) hheld)
    obtain ⟨hholds, hstopped⟩ := hs.built a i ha
    refine ⟨(hadvance.holds_eq ht hmanager).trans hholds, ?_⟩
    by_contra hstopped'
    rcases hadvance.stopped ht hmanager (by simpa using hstopped') with hbefore | ⟨hagain, halive⟩
    · rw [hstopped] at hbefore
      cases hbefore
    · exact hs.second t i hagain halive ⟨hholds, Or.inr ⟨a, ha⟩⟩

/-- A thread that goes to its second stop, or on with it, claims nothing. -/
theorem claimed_of_stopsAgain (h : s.step (.thread t c) = some s') (hsame : s'.shared = s.shared)
    (ht : (s'.pc t).stopsAgain = some j) (hclaimed : s'.Claimed j) : s.Claimed j := by
  obtain ⟨-, -, hother⟩ := step_thread h
  obtain ⟨hholds, howner⟩ := hclaimed
  rw [hsame] at hholds howner
  refine ⟨hholds, howner.imp id (Exists.imp fun u hu => ?_)⟩
  by_cases hut : u = t
  · rw [hut, builds_of_stopsAgain ht] at hu
    cases hu
  · rwa [hother u hut] at hu

/-- Its own second stop. -/
theorem thread_second (hs : s.Undisturbed) (hspares : s.spares (.thread t c) = true)
    (h : s.step (.thread t c) = some s') (ht : (s'.pc t).stopsAgain = some j)
    (halive : (s'.shared.supervisors j).alive = true) : ¬ s'.Claimed j := by
  obtain ⟨-, hadvance, -⟩ := step_thread h
  obtain ⟨hsame, hfrom⟩ := hadvance.stopsAgain ht
  have hsame' : s'.shared = s.shared := hsame
  rw [hsame'] at halive
  intro hclaimed
  have hclaimed' := claimed_of_stopsAgain h hsame' ht hclaimed
  rcases hfrom with ⟨henter, hholds⟩ | hagain
  · simp only [spares, henter, hholds, halive, Bool.not_true, Bool.false_or, Bool.not_eq_true',
      decide_eq_false_iff_not] at hspares
    exact hspares hclaimed'
  · exact hs.second t j hagain halive hclaimed'

/-- The second stop of another thread, which has the runtime lock, so that the
move calls no supervisor. -/
theorem thread_second_of_ne (hs : s.Undisturbed) (h : s.step (.thread t c) = some s') (hat : a ≠ t)
    (ha : (s.pc a).stopsAgain = some j) (halive : (s'.shared.supervisors j).alive = true) : ¬ s'.Claimed j := by
  obtain ⟨henabled, hadvance, hother⟩ := step_thread h
  have ht := hs.topological t
  have hruntime : ¬ (s.pc t).hasRuntime := fun hlock =>
    other_runtime hs.exclusive henabled hlock hat (stopsAgain_held ha)
  rw [hadvance.supervisors_eq ht hruntime] at halive
  have hsame : s'.shared.runtime = s.shared.runtime := hadvance.runtime_eq.resolve_right hruntime
  rintro ⟨hholds, howner⟩
  rw [hsame] at hholds
  refine hs.second a j ha halive ⟨hholds, ?_⟩
  rcases howner with hcurrent | ⟨u, hu⟩
  · rcases hadvance.current_isSome hcurrent with hbefore | ⟨i, hi⟩
    · exact Or.inl hbefore
    · refine Or.inr ⟨t, ?_⟩
      rw [hi, ← (hs.built t i hi).1, hholds]
  · refine Or.inr ⟨u, ?_⟩
    by_cases hut : u = t
    · rw [hut] at hu ⊢
      rcases hadvance.builds ht hu with ⟨hbuilds, -, -⟩ | ⟨hlock, -, -⟩
      · exact hbuilds
      · exact absurd hlock hruntime
    · rwa [hother u hut] at hu

end Thread

theorem step_undisturbed {mv : Move n} (hs : s.Undisturbed) (htopological : mv.topological = true)
    (hspares : s.spares mv = true) (h : s.step mv = some s') : s'.Undisturbed := by
  refine ⟨step_exclusive hs.exclusive h, step_topological hs.topological htopological h, ?_, ?_⟩
  · intro a j ha
    cases mv with
    | exits i =>
      obtain ⟨hpc, hshared⟩ := step_exits h
      rw [hpc] at ha
      obtain ⟨hholds, hstopped⟩ := hs.built a j ha
      refine ⟨?_, (exits_stopped h j).trans hstopped⟩
      rw [hshared]
      exact hholds
    | thread t c => exact thread_built hs h ha
  · intro a j ha halive
    cases mv with
    | exits i =>
      rw [(step_exits h).1] at ha
      exact fun hclaimed => hs.second a j ha (exits_alive h halive) (exits_claimed h hclaimed)
    | thread t c =>
      by_cases hat : a = t
      · rw [hat] at ha
        exact thread_second hs hspares h ha halive
      · rw [(step_thread h).2.2 a hat] at ha
        exact thread_second_of_ne hs h hat ha halive

/-- No operation enters the manager. -/
def staysOut (s : Controller n) : Move n → Bool
  | .thread t _ => (s.pc t).wants ≠ some .manager
  | .exits _ => true

/-- A topology is applied with the datapath of supervisor `i`, which has not
been stopped, and no operation is in the manager. -/
structure Spared (i : ℕ) (s : Controller n) : Prop where
  undisturbed : s.Undisturbed
  holds : s.shared.runtime.supervisor = some i
  applied : s.shared.current.isSome = true
  spared : (s.shared.supervisors i).stopped = false
  free : ∀ t, ¬ s.holds t .manager

theorem step_spared {i : ℕ} {mv : Move n} (hs : s.Spared i) (htopological : mv.topological = true)
    (hspares : s.spares mv = true) (hout : s.staysOut mv = true) (h : s.step mv = some s') : s'.Spared i := by
  have hundisturbed := step_undisturbed hs.undisturbed htopological hspares h
  cases mv with
  | exits j =>
    obtain ⟨hpc, hshared⟩ := step_exits h
    refine ⟨hundisturbed, ?_, ?_, ?_, fun t => ?_⟩
    · rw [hshared]
      exact hs.holds
    · rw [hshared]
      exact hs.applied
    · exact (exits_stopped h i).trans hs.spared
    · unfold Controller.holds
      rw [hpc]
      exact hs.free t
  | thread t c =>
    obtain ⟨-, hadvance, hother⟩ := step_thread h
    have ht := hs.undisturbed.topological t
    have hmanager : Lock.manager ∉ (s.pc t).held := hs.free t
    refine ⟨hundisturbed, (hadvance.holds_eq ht hmanager).trans hs.holds, ?_, ?_, fun a ha => ?_⟩
    · have hcurrent : s'.shared.current = s.shared.current := hadvance.current_eq.resolve_right hmanager
      rw [hcurrent]
      exact hs.applied
    · by_contra hstopped
      rcases hadvance.stopped ht hmanager (by simpa using hstopped) with hbefore | ⟨hagain, halive⟩
      · rw [hs.spared] at hbefore
        cases hbefore
      · exact hs.undisturbed.second t i hagain halive ⟨hs.holds, Or.inl hs.applied⟩
    · by_cases hat : a = t
      · rw [hat] at ha
        rcases hadvance.held _ ha with hheld | hwants
        · exact hmanager hheld
        · simp only [staysOut, hwants, ne_eq, not_true_eq_false, decide_false] at hout
          cases hout
      · unfold Controller.holds at ha
        rw [hother a hat] at ha
        exact hs.free a ha

theorem undisturbed_of_allIdle (h0 : s.allIdle) : s.Undisturbed := by
  refine ⟨exclusive_of_allIdle h0, fun t => ?_, fun t i ht => ?_, fun t j ht => ?_⟩
  · rw [h0 t]
    rfl
  · rw [h0 t] at ht
    cases ht
  · rw [h0 t] at ht
    cases ht

/-- The move with which `apply` has built a topology. -/
theorem spared_of_applies (hs : s.Undisturbed) {t : Fin n} {i : ℕ} (hreconciles : (s.pc t).reconciles = some i)
    (hspares : s.spares (.thread t .done) = true) (h : s.step (.thread t .done) = some s') : s'.Spared i := by
  have hundisturbed := step_undisturbed hs rfl hspares h
  obtain ⟨-, hadvance, hother⟩ := step_thread h
  obtain ⟨configPath, v, hbuilt⟩ := reconciles_eq_some.mp hreconciles
  obtain ⟨hholds, hstopped⟩ := hs.built t i (by rw [hbuilt]; rfl)
  have hmanager : s.holds t .manager := by
    unfold Controller.holds
    rw [hbuilt]
    exact List.mem_cons_self
  rw [hbuilt] at hadvance
  generalize hsh : s'.shared = sh' at hadvance
  generalize hpc : s'.pc t = p' at hadvance
  cases hadvance
  refine ⟨hundisturbed, by rw [hsh]; exact hholds, by rw [hsh]; rfl, by rw [hsh]; exact hstopped, fun a ha => ?_⟩
  unfold Controller.holds at ha
  by_cases hat : a = t
  · rw [hat, hpc] at ha
    cases ha
  · rw [hother a hat] at ha
    exact hat (hs.exclusive a t .manager ha hmanager)

/-- **The datapath of an applied topology is not stopped** by a request that
left the manager before, in any run of requests other than `start` and `stop`
in which every second stop spares claimed datapaths: from the move on with
which `apply` has built the topology, as long as no other operation enters the
manager. -/
theorem applied_datapath_spared {s₁ s₂ s₃ : Controller n} (h0 : s.allIdle) {before later : List (Move n)}
    {t : Fin n} {i : ℕ} (htopological : ∀ mv ∈ before ++ later, mv.topological = true)
    (hspares : Run.AllSteps step (fun s mv => s.spares mv = true) s (before ++ .thread t .done :: later))
    (hbefore : Run.run step s before = some s₁) (hbuilt : (s₁.pc t).reconciles = some i)
    (happlies : s₁.step (.thread t .done) = some s₂)
    (hout : Run.AllSteps step (fun s mv => s.staysOut mv = true) s₂ later)
    (hlater : Run.run step s₂ later = some s₃) : (s₃.shared.supervisors i).stopped = false := by
  obtain ⟨hspares₁, hspares₂⟩ := hspares.of_append
  obtain ⟨hdone, hspares₃⟩ := hspares₂ s₁ hbefore
  have hundisturbed : s₁.Undisturbed := by
    refine Run.run_induction_of (C := fun s mv => mv.topological = true ∧ s.spares mv = true)
      (fun _ _ _ hs hc h => step_undisturbed hs hc.1 hc.2 h) (undisturbed_of_allIdle h0) ?_ hbefore
    exact (Run.allSteps_of_forall fun mv hmv => htopological mv (List.mem_append_left later hmv)).and hspares₁
  have hspared : s₂.Spared i := spared_of_applies hundisturbed hbuilt hdone happlies
  have hend : s₃.Spared i := by
    refine Run.run_induction_of
      (C := fun s mv => mv.topological = true ∧ s.spares mv = true ∧ s.staysOut mv = true)
      (fun _ _ _ hs hc h => step_spared hs hc.1 hc.2.1 hc.2.2 h) hspared ?_ hlater
    refine (Run.allSteps_of_forall fun mv hmv => htopological mv (List.mem_append_right before hmv)).and ?_
    exact (hspares₃ s₂ happlies).and hout
  exact hend.spared

/-- A `destroy_topology` up to its second stop, when there is no topology. -/
def destroyNothing (t : Fin 2) : List (Move 2) := [.request .destroyTopology, .go, .go].map (.thread t)

/-- The second stop and the closing section. -/
def secondStop (t : Fin 2) : List (Move 2) :=
  [.go, .go, .returned {}, .go, .go, .returned {}].map (.thread t)

theorem applied_datapath_spared_in_turn :
    ∃ s, Run.run step started (destroyNothing 1 ++ secondStop 1 ++ applyMoves 0 ++ closeMoves 0) = some s ∧
      (s.shared.supervisors 1).stopped = false := by
  have hbuilds : (Run.run step started (destroyNothing 1 ++ secondStop 1 ++ buildMoves 0)).map (fun s =>
      decide ((s.pc 0).reconciles = some 1)) = some true := by decide +kernel
  have hout : (Run.run step started (destroyNothing 1 ++ secondStop 1 ++ buildMoves 0 ++ [.thread 0 .done])).map
      (fun s => decide (Run.AllSteps step (fun s mv => s.staysOut mv = true) s (closeMoves 0))) = some true := by
    decide +kernel
  have hend : (Run.run step started (destroyNothing 1 ++ secondStop 1 ++ applyMoves 0 ++ closeMoves 0)).isSome =
      true := by decide +kernel
  obtain ⟨s₂, happlied, hstays⟩ := Option.map_eq_some_iff.mp hout
  obtain ⟨s₁, hbefore, happlies⟩ := Run.run_concat_eq_some.mp happlied
  obtain ⟨s₃, hrun⟩ := Option.isSome_iff_exists.mp hend
  refine ⟨s₃, hrun, ?_⟩
  have hlater : Run.run step s₂ (closeMoves 0) = some s₃ := by
    rw [applyMoves, ← List.append_assoc, Run.run_append, happlied] at hrun
    exact hrun
  rw [hbefore, Option.map_some, Option.some.injEq] at hbuilds
  exact applied_datapath_spared started_allIdle (by decide +kernel) (by decide +kernel) hbefore
    (of_decide_eq_true hbuilds) happlies (of_decide_eq_true hstays) hlater

/-- The second stop of the first request comes after a whole
`apply_topology`. -/
theorem second_stop_kills :
    ¬ ∀ (n : ℕ) (s s₁ s₂ s₃ : Controller n) (before later : List (Move n)) (t : Fin n) (i : ℕ), s.allIdle →
      (∀ mv ∈ before ++ later, mv.topological = true) → Run.run step s before = some s₁ →
      (s₁.pc t).reconciles = some i → s₁.step (.thread t .done) = some s₂ →
      Run.AllSteps step (fun s mv => s.staysOut mv = true) s₂ later → Run.run step s₂ later = some s₃ →
      (∀ t, (s₃.pc t).inFlight = false) → (s₃.shared.supervisors i).stopped = false := by
  intro h
  have hbuilds : (Run.run step started (destroyNothing 1 ++ buildMoves 0)).map (fun s =>
      decide ((s.pc 0).reconciles = some 1)) = some true := by decide +kernel
  have hout : (Run.run step started (destroyNothing 1 ++ buildMoves 0 ++ [.thread 0 .done])).map
      (fun s => decide (Run.AllSteps step (fun s mv => s.staysOut mv = true) s (closeMoves 0 ++ secondStop 1))) =
      some true := by decide +kernel
  have hend : (Run.run step started (destroyNothing 1 ++ buildMoves 0 ++ [.thread 0 .done] ++
      (closeMoves 0 ++ secondStop 1))).map (fun s =>
      decide ((∀ t, (s.pc t).inFlight = false) ∧ (s.shared.supervisors 1).stopped = true)) = some true := by
    decide +kernel
  obtain ⟨s₂, happlied, hstays⟩ := Option.map_eq_some_iff.mp hout
  obtain ⟨s₁, hbefore, happlies⟩ := Run.run_concat_eq_some.mp happlied
  obtain ⟨s₃, hlater, hs₃⟩ := Option.map_eq_some_iff.mp hend
  obtain ⟨hquiet, hstopped⟩ := of_decide_eq_true hs₃
  rw [hbefore, Option.map_some, Option.some.injEq] at hbuilds
  rw [Run.run_append, happlied, Option.bind_some] at hlater
  have hspared := h 2 started s₁ s₂ s₃ _ _ 0 1 started_allIdle (by decide +kernel) hbefore
    (of_decide_eq_true hbuilds) happlies (of_decide_eq_true hstays) hlater hquiet
  rw [hstopped] at hspared
  cases hspared

end Controller
end Ctrld
end Pktlab
