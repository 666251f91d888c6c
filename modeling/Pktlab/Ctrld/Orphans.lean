/-
# Children that the supervisor has lost

`_stop_locked` drops the handle of the process first and ends the process then.
When the child does not end in time even after a SIGKILL, or may not be sent a
signal, the operation raises and nothing refers to the child any more
(`stop_loses_child`). As long as that does not happen, every child that runs is
the one in `_process`, after every history of operations and whatever else the
surroundings do (`run_held`).

Key definitions: `DpdkdSupervisor.Only`, `DpdkdSupervisor.Held`,
`DpdkdSupervisor.Event.Mortal`.
Key theorems: `endProcess_triple`, `held_stopLocked`, `run_held`.
-/
import Pktlab.Ctrld.DpdkdSupervisor

namespace Pktlab
namespace Ctrld
namespace DpdkdSupervisor

open Effect

/-- The supervisor refers to `p`, and at most the child `j` runs. -/
def Only (p j : Option ℕ) (s : DpdkdSupervisor) : Prop := s.process = p ∧ ∀ i, s.running i → j = some i

/-- Every child that runs is the one the supervisor refers to. -/
def Held (s : DpdkdSupervisor) : Prop := ∀ i, s.running i → s.process = some i

variable {p j : Option ℕ} {i : ℕ} {s s' : DpdkdSupervisor} {env : ℕ → Moment} {config : LaunchConfig}

theorem only_iff_held : Only s.process s.process s ↔ s.Held := ⟨fun h => h.2, fun h => ⟨rfl, h⟩⟩

theorem Only.held (h : Only p p s) : s.Held := by
  intro i hi
  rw [h.1]
  exact h.2 i hi

/-- Nothing runs. -/
theorem Only.held_none (h : Only p none s) : s.Held := by
  intro i hi
  cases h.2 i hi

/-- The child has ended. -/
theorem Only.ended (h : Only p (some i) s) (hended : (s.child i).exitCode ≠ none) : Only p none s := by
  refine ⟨h.1, fun k hk => ?_⟩
  cases h.2 k hk
  exact absurd hk.2 hended

/-- A child that is updated does not start to run again. -/
theorem only_updateChild {c : Child} (h : Only p j s) (hc : (s.child i).exitCode ≠ none → c.exitCode ≠ none) :
    Only p j (s.updateChild i c) := by
  refine ⟨h.1, fun k hk => h.2 k ⟨hk.1, ?_⟩⟩
  by_contra hne
  have hended : (Function.update s.child i c k).exitCode = none := hk.2
  by_cases hki : k = i
  · subst hki
    rw [Function.update_self] at hended
    exact hc hne hended
  · rw [Function.update_of_ne hki] at hended
    exact hne hended

theorem seen_ended {c : Child} {m : Moment} (h : c.exitCode ≠ none) : (c.seen m).exitCode ≠ none := by
  obtain ⟨exitCode, hexit⟩ := Option.ne_none_iff_exists'.mp h
  unfold Child.seen
  rw [hexit]
  exact Option.some_ne_none exitCode

/-! ### Looking at a child -/

section Interactions

variable {E : SupervisorError → DpdkdSupervisor → Prop}

theorem only_moment : Triple (Only p j) (moment env) (fun m s => Only p j s ∧ ∃ t, m = env t) E :=
  fun s h => ⟨h, s.clock, rfl⟩

theorem only_poll : Triple (Only p j) (poll env i)
    (fun exitCode s => Only p j s ∧ exitCode = (s.child i).exitCode) E := by
  refine triple_bind only_moment fun m => ?_
  refine triple_bind (triple_modify (Q := fun _ => Only p j) fun s h => only_updateChild h.1 seen_ended) fun _ => ?_
  refine triple_bind triple_get fun s => triple_pure _ ?_
  rintro s' ⟨rfl, h⟩
  exact ⟨h, rfl⟩

/-- A wait that returns has seen the child end. -/
theorem only_wait : Triple (Only p (some i)) (wait env i) (fun _ => Only p none)
    fun e s => e = .timeoutExpired ∧ Only p (some i) s := by
  refine triple_bind only_poll fun exitCode => ?_
  cases exitCode with
  | none => exact triple_throw _ fun s h => ⟨rfl, h.1⟩
  | some code =>
    refine triple_pure _ fun s h => h.1.ended ?_
    rw [← h.2]
    exact Option.some_ne_none code

end Interactions

/-! ### Stopping -/

/-- The child has ended, or it has got a SIGKILL. -/
def Doomed (s : DpdkdSupervisor) (i : ℕ) : Prop := (s.child i).exitCode ≠ none ∨ (s.child i).killed = true

/-- No child outlives a SIGKILL or refuses a signal. -/
def Obeys (env : ℕ → Moment) : Prop := ∀ t, (env t).stuck = false ∧ (env t).refuses = false

variable {E : SupervisorError → DpdkdSupervisor → Prop}

theorem only_sendSignal (henv : Obeys env) {sigkill : Bool} : Triple (Only p (some i)) (sendSignal env i sigkill)
    (fun _ s => Only p (some i) s ∧ (sigkill = true → s.Doomed i)) E := by
  refine triple_bind only_poll fun exitCode => ?_
  cases exitCode with
  | some code =>
    refine triple_pure _ fun s h => ⟨h.1, fun _ => .inl ?_⟩
    rw [← h.2]
    exact Option.some_ne_none code
  | none =>
    refine triple_bind (triple_mono only_moment (fun s h => h.1) (fun _ _ h => h) fun _ _ h => h) fun m => ?_
    intro s ⟨h, t, hm⟩
    rw [hm, (henv t).2, if_neg Bool.false_ne_true]
    refine ⟨only_updateChild h id, ?_⟩
    rintro rfl
    refine .inr ?_
    simp [updateChild]

theorem seen_doomed {c : Child} {m : Moment} (hc : c.exitCode ≠ none ∨ c.killed = true) (hm : m.stuck = false) :
    (c.seen m).exitCode ≠ none := by
  by_cases hended : c.exitCode = none
  · unfold Child.seen
    rw [hended, hm, hc.resolve_left (not_not_intro hended)]
    cases m.exited with
    | none => exact Option.some_ne_none _
    | some code => exact Option.some_ne_none _
  · exact seen_ended hended

theorem poll_doomed (henv : Obeys env) :
    Triple (fun s => s.Doomed i) (poll env i) (fun exitCode _ => exitCode ≠ none) E := by
  intro s h
  rw [poll_apply]
  exact seen_doomed h (henv s.clock).1

/-- The SIGTERM, after a poll. -/
theorem only_terminate (henv : Obeys env) {exitCode : Option ℤ} :
    Triple (fun s => Only p (some i) s ∧ exitCode = (s.child i).exitCode) (terminate env i)
      (fun _ => Only p (some i)) E :=
  triple_mono (only_sendSignal henv) (fun _ h => h.1) (fun _ _ h => h.1) fun _ _ h => h

/-- The wait after the SIGKILL. -/
theorem only_wait_doomed (henv : Obeys env) :
    Triple (fun s => Only p (some i) s ∧ s.Doomed i) (wait env i) (fun _ => Only p none) E := by
  have hpoll := triple_and (only_poll (E := E) (p := p) (j := some i)) (poll_doomed (E := E) henv (i := i))
  refine triple_bind (triple_mono hpoll (fun _ h => h) (fun _ _ h => h) fun _ _ h => h.1) fun exitCode => ?_
  intro s ⟨⟨h, hcode⟩, hne⟩
  obtain ⟨code, rfl⟩ := Option.ne_none_iff_exists'.mp hne
  exact h.ended (hcode ▸ hne)

theorem endProcess_triple (henv : Obeys env) : Triple (Only p (some i)) (endProcess env i) (fun _ => Only p none) E := by
  refine triple_bind only_poll fun exitCode => ?_
  cases exitCode with
  | some code =>
    refine triple_pure _ fun s h => h.1.ended ?_
    rw [← h.2]
    exact Option.some_ne_none code
  | none =>
    refine triple_bind (only_terminate henv) fun _ => ?_
    refine triple_tryCatch only_wait fun e => ?_
    intro s ⟨he, h⟩
    subst he
    refine triple_bind (only_sendSignal henv) (fun _ => ?_) s h
    exact triple_mono (only_wait_doomed henv) (fun s h => ⟨h.1, h.2 rfl⟩) (fun _ _ h => h) fun _ _ h => h

/-! ### Asking for the status -/

theorem only_consumeStderr : Preserves (Only p j) (consumeStderr env i) := by
  refine preserves_bind preserves_get fun s => ?_
  split
  · exact preserves_pure _
  · refine triple_bind (triple_mono only_moment (fun _ h => h) (fun _ _ h => h.1) fun _ _ h => h) fun m => ?_
    refine preserves_bind (preserves_modify fun s h => only_updateChild h id) fun _ => ?_
    split
    · exact preserves_pure _
    · exact preserves_throw _

theorem only_refreshIpcState : Preserves (Only p j) (refreshIpcState env i) := by
  have hmoment : Preserves (Only p j) (moment env) := fun _ h => h
  have hrequire : ∀ {α : Type} {what : String} (answer : Answer α), Preserves (Only p j) (require what answer) :=
    fun answer => preserves_require (fun s _ h => h) answer
  refine preserves_bind preserves_requireClient fun _ => ?_
  refine preserves_bind hmoment fun m₁ => preserves_bind (hrequire m₁.ping) fun _ => ?_
  refine preserves_bind hmoment fun m₂ => preserves_bind (hrequire m₂.health) fun health => ?_
  refine preserves_bind hmoment fun m₃ => preserves_bind (hrequire m₃.version) fun version => ?_
  exact preserves_bind (preserves_modify fun s h => h) fun _ => preserves_bind preserves_get fun s => preserves_pure _

theorem only_waitRounds : ∀ rounds : ℕ, Preserves (Only p j) (waitRounds env rounds)
  | 0 => preserves_throw _
  | rounds + 1 => by
    refine preserves_bind preserves_get fun s => ?_
    split
    · exact preserves_throw _
    · refine triple_bind (triple_mono only_poll (fun _ h => h) (fun _ _ h => h.1) fun _ _ h => h) fun exitCode => ?_
      cases exitCode with
      | some code =>
        refine preserves_bind only_consumeStderr fun stderr => ?_
        exact preserves_bind (preserves_modify fun s h => h) fun _ => preserves_throw _
      | none =>
        refine preserves_exceptTransport only_refreshIpcState fun message => ?_
        exact preserves_bind (preserves_modify fun s h => h) fun _ => only_waitRounds rounds

theorem only_waitForReady : Preserves (Only p j) (waitForReady env) :=
  preserves_bind (fun _ h => h) fun m => only_waitRounds m.rounds

/-! ### Every operation keeps hold of the child -/

/-- An operation that begins by reading its own state. -/
theorem triple_held {α : Type} {m : DpdkdSupervisor → Act α} {Q : α → DpdkdSupervisor → Prop}
    (h : ∀ s, Triple (Only s.process s.process) (m s) Q E) : Triple Held (Eff.get >>= m) Q E := by
  refine triple_bind triple_get fun s => triple_mono (h s) ?_ (fun _ _ h => h) fun _ _ h => h
  rintro s' ⟨rfl, hheld⟩
  exact only_iff_held.mpr hheld

theorem only_release (henv : Obeys env) : ∀ p : Option ℕ,
    Triple (Only none p) (release env p) (fun _ => Only none none) fun _ => Only none none
  | none => triple_pure _ fun _ h => h
  | some _ => triple_bind (endProcess_triple henv) fun _ =>
      preserves_bind only_consumeStderr fun _ => preserves_pure _

/-- A stop that returns or raises leaves nothing that runs. -/
theorem only_stopLocked (henv : Obeys env) (clear : Bool) :
    Triple Held (stopLocked env clear) (fun _ => Only none none) fun _ => Only none none := by
  refine triple_held fun s => ?_
  refine triple_bind (triple_modify (Q := fun _ => Only none s.process) fun s' h => ⟨rfl, h.2⟩) fun _ => ?_
  refine triple_bind (only_release henv s.process) fun _ => ?_
  split
  · exact preserves_modify fun s h => h
  · exact preserves_pure _

/-- The child that is spawned is the only one that runs. -/
theorem only_popen {command : List String} :
    Triple (Only p none) (popen env command) (fun i => Only p (some i)) fun _ => Only p none := by
  refine triple_bind (triple_mono only_moment (fun _ h => h) (fun _ _ h => h.1) fun _ _ h => h) fun m => ?_
  split
  · exact triple_throw _ fun _ h => h
  · rename_i pid hpid
    intro s h
    refine ⟨h.1, fun k ⟨hlt, hrunning⟩ => ?_⟩
    by_cases hk : k = s.spawned
    · rw [hk]
    · have hold : (Function.update s.child s.spawned { pid := pid, command := command } k).exitCode = none := hrunning
      rw [Function.update_of_ne hk] at hold
      cases h.2 k ⟨lt_of_le_of_ne (Nat.le_of_lt_succ hlt) hk, hold⟩

theorem only_connect : Preserves (Only p j) (connect env) := by
  refine preserves_bind (fun _ h => h) fun m => ?_
  split
  · exact preserves_modify fun s h => h
  · exact preserves_throw _

theorem held_launch (henv : Obeys env) : Triple (Only p none) (launch config env) (fun _ => Held) fun _ => Held := by
  refine triple_bind (triple_modify (Q := fun _ => Only p none) fun s h => h) fun _ => ?_
  refine triple_bind (triple_mono only_popen (fun _ h => h) (fun _ _ h => h) fun _ _ h => h.held_none) fun i => ?_
  refine triple_bind (triple_modify (Q := fun _ => Only (some i) (some i)) fun s h => ⟨rfl, h.2⟩) fun _ => ?_
  refine triple_bind (triple_mono only_connect (fun _ h => h) (fun _ _ h => h) fun _ _ h => h.held) fun _ => ?_
  refine triple_tryCatch (triple_mono only_waitForReady (fun _ h => h) (fun _ _ h => h.held) fun _ _ h => h) fun e => ?_
  refine triple_bind (R := fun _ => Only none none) ?_ fun _ => triple_throw e fun _ h => h.held_none
  exact triple_mono (only_stopLocked henv false) (fun _ h => h.held) (fun _ _ h => h) fun _ _ h => h.held_none

theorem held_start (henv : Obeys env) : Preserves Held (start config env) := by
  refine triple_held fun s => ?_
  cases s.process with
  | none => exact held_launch henv
  | some i =>
    refine triple_bind only_poll fun exitCode => ?_
    cases exitCode with
    | none => exact triple_mono only_waitForReady (fun _ h => h.1) (fun _ _ h => h.held) fun _ _ h => h.held
    | some code =>
      refine triple_mono (held_launch henv) (fun s h => h.1.ended ?_) (fun _ _ h => h) fun _ _ h => h
      rw [← h.2]
      exact Option.some_ne_none code

theorem held_statusLocked : Preserves Held (statusLocked env) := by
  refine triple_held fun s => ?_
  cases s.process with
  | none => exact triple_pure _ fun _ h => h.held
  | some i =>
    refine triple_bind only_poll fun exitCode => ?_
    cases exitCode with
    | none =>
      refine triple_mono (preserves_exceptTransport (P := Only (some i) (some i)) only_refreshIpcState fun message => ?_)
        (fun _ h => h.1) (fun _ _ h => h.held) fun _ _ h => h.held
      refine preserves_bind (preserves_modify fun s h => h) fun _ => ?_
      exact preserves_bind preserves_get fun s => preserves_pure _
    | some code =>
      -- the child has ended, so nothing is lost with its handle
      refine triple_mono (P := Only (some i) none) ?_ (fun s h => h.1.ended ?_) (fun _ _ h => h) fun _ _ h => h
      · refine triple_bind (triple_mono only_consumeStderr (fun _ h => h) (fun _ _ h => h) fun _ _ h => h.held_none)
          fun stderr => ?_
        refine triple_bind (triple_modify (Q := fun _ => Only none none) fun s h => ⟨rfl, h.2⟩) fun _ => ?_
        exact triple_bind triple_get fun s => triple_pure _ fun _ h => h.2.held
      · rw [← h.2]
        exact Option.some_ne_none code

theorem held_request {what : String} : Preserves Held (request env what) := by
  have honly : ∀ {α : Type} {m : Act α}, (∀ p, Preserves (Only p p) m) → Preserves Held m := by
    intro α m hm s h
    exact triple_mono (hm s.process) (fun _ h => h) (fun _ _ h => h.held) (fun _ _ h => h.held) s (only_iff_held.mpr h)
  refine preserves_bind held_statusLocked fun status => ?_
  split
  · exact preserves_throw _
  · refine honly fun p => preserves_bind preserves_requireClient fun _ => preserves_bind (fun _ h => h) fun m => ?_
    split
    · exact preserves_pure _
    · exact preserves_throw _

/-! ### Histories -/

/-- No child outlives a SIGKILL or refuses a signal. -/
def Event.Mortal : Event → Prop
  | .call _ env => Obeys env
  | .exits .. => True

theorem step_held {e : Event} (h : s.Held) (he : e.Mortal) (hstep : step config s e = some s') : s'.Held := by
  cases e with
  | call op env =>
    obtain rfl := Option.some.inj hstep
    cases op with
    | start => exact triple_snd (held_start he) h
    | stop => exact (triple_snd (only_stopLocked he true) h).held
    | status => exact triple_snd held_statusLocked h
    | request what => exact triple_snd held_request h
  | exits i code =>
    obtain rfl := Option.some.inj hstep
    exact (only_updateChild (only_iff_held.mpr h) seen_ended).held

/-- **No child is lost.** As long as no child outlives a SIGKILL or refuses a
signal, every child that runs is the one in `_process`, after every history of
operations that return or raise. So at most one runs, and a `stop` ends it. -/
theorem run_held {events : List Event} (hevents : ∀ e ∈ events, e.Mortal)
    (hrun : Run.run (step config) initial events = some s) :
    (∀ i, s.running i → s.process = some i) ∧ (∀ i j, s.running i → s.running j → i = j) ∧
      ∀ env, Obeys env → ∀ i, ¬ (s.after config env .stop).running i := by
  have hheld : s.Held := by
    refine Run.run_induction_of (P := Held) (C := fun _ e => e.Mortal) (fun _ _ _ h he hstep => step_held h he hstep) ?_
      (Run.allSteps_of_forall hevents) hrun
    exact fun i hi => absurd hi.1 (Nat.not_lt_zero i)
  refine ⟨hheld, fun i j hi hj => ?_, fun env henv i hi => ?_⟩
  · exact Option.some.inj ((hheld i hi).symm.trans (hheld j hj))
  · cases (triple_snd (only_stopLocked henv true) hheld).2 i hi

/-! ### Two histories -/

theorem start_holds_child : ∃ s, Run.run (step plainConfig) initial [.call .start fun _ => up] = some s ∧
    s.running 0 ∧ s.process = some 0 ∧ ∀ i j, s.running i → s.running j → i = j := by
  have hevents : ∀ e ∈ [Event.call .start fun _ => up], e.Mortal := by
    intro e he
    rw [List.mem_singleton.mp he]
    exact fun _ => ⟨rfl, rfl⟩
  have hrun : Run.run (step plainConfig) initial [.call .start fun _ => up] = some _ := rfl
  obtain ⟨hheld, hone, -⟩ := run_held hevents hrun
  have hrunning : (initial.after plainConfig (fun _ => up) .start).running 0 := by decide +kernel
  exact ⟨_, hrun, hrunning, hheld 0 hrunning, hone⟩

/-- The child ignores the SIGTERM and outlives the wait after the SIGKILL. -/
theorem stop_loses_child :
    ¬ ∀ (config : LaunchConfig) (events : List Event) (s : DpdkdSupervisor),
      Run.run (step config) initial events = some s → ∀ i, s.running i → s.process = some i := by
  intro h
  have hrunning : ((initial.after plainConfig (fun _ => up) .start).after plainConfig (fun _ => { stuck := true })
      .stop).running 0 := by decide +kernel
  have hheld := h plainConfig [.call .start fun _ => up, .call .stop fun _ => { stuck := true }] _ rfl 0 hrunning
  cases hheld

end DpdkdSupervisor
end Ctrld
end Pktlab
