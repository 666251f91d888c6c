/-
# When the runtime agrees with the manager

`apply_topology` and `destroy_topology` change the topology of the manager
under its lock, and publish it in the runtime later, in a closing section
under the runtime lock. Between the two, other requests can do the same, so
an older result can be published last (`stale_publication`).

From the moment on at which the manager has a result, the thread of the
request owes its publication (`Pc.publishes`). The invariant is that the
runtime agrees with the manager or some thread owes what the manager has
(`Coherent`). It is kept by every move that is `Prompt`: no closing section of
a request that succeeded begins after the manager's topology has changed
again, and nothing raises between the manager's return and the publication.

Key definitions: `Pc.publishes`, `Pc.inFlight`, `Controller.Agrees`,
`Controller.Prompt`, `Controller.Coherent`.
Key theorems: `Advances.publication`, `step_coherent`, `runtime_agrees`.
-/
import Pktlab.Ctrld.Writes
import Pktlab.Ctrld.TopologyRuns

namespace Pktlab
namespace Ctrld

/-! ### What a request publishes -/

/-- What the closing section of the request publishes if it succeeds, or if
the manager has no topology. -/
def Task.publishes : Task → Option View
  | .applied configPath v => some (viewOf (some ⟨configPath.1, v⟩))
  | .startDatapath .. | .stopDatapath (.cleanup _) => some (viewOf none)
  | .applyFailed _ | .stopAgain | .destroyed => some (viewOf none)
  | _ => none

/-- What a thread publishes in the runtime, once the manager has decided it.
While a topology is built there is none, and none is what a failure
publishes. -/
def Pc.publishes : Pc → Option View
  | .enter task | .waiting task _ _ | .inside task _ _ => task.publishes
  | .build .. | .reconcile .. | .teardown (.cleanup _) _ => some (viewOf none)
  | _ => none

/-- A thread stands in `apply_topology` or `destroy_topology`. -/
def Task.inFlight : Task → Bool
  | .openApply _ | .applied .. | .applyFailed _ | .openDestroy | .stopAgain | .destroyed | .destroyFailed => true
  | .stopDatapath .shutdown => false
  | .stopDatapath _ | .startDatapath .. => true
  | _ => false

def Pc.inFlight : Pc → Bool
  | .enter task | .waiting task _ _ | .inside task _ _ => task.inFlight
  | .idle | .manager .shutdown | .teardown .shutdown _ => false
  | _ => true

/-- The view whose desired state a closing section has written, while it waits
for the status. -/
def Task.publishing : Task → Option View
  | .applied configPath v => some (viewOf (some ⟨configPath.1, v⟩))
  | .destroyed => some (viewOf none)
  | _ => none

def Pc.publishing : Pc → Option View
  | .waiting task _ _ | .inside task _ _ => task.publishing
  | _ => none

/-- The desired state of the runtime is that of `view`. -/
def Shared.Wrote (sh : Shared) (view : View) : Prop :=
  { sh.runtime.view with topologyApplied := view.topologyApplied } = view

/-- A request that succeeded publishes in time: its closing section begins
while the manager has what the request left, and neither this section nor the
second stop of `destroy_topology` raises. -/
def Pc.prompt (sh : Shared) : Pc → Choice → Bool
  | .enter (.applied configPath v), _ =>
    viewOf sh.current = viewOf (some ⟨configPath.1, v⟩) ∧ (Runtime.desiredFor ⟨configPath.1, v⟩).Valid
  | .enter .destroyed, _ => sh.current.isNone
  | .inside (.applied ..) _ _, .raised _ => false
  | .inside .stopAgain _ _, .raised _ => false
  | .inside .destroyed _ _, .raised _ => false
  | .inside (.applyFailed _) _ _, .raised _ => sh.current.isSome
  | _, _ => true

/-! ### What a move publishes -/

/-- What a move does to the publications: the thread owes one afterwards, it
has made one, it had nothing to say and said nothing, or it finished one that
the manager has left behind. -/
inductive Publication (sh : Shared) (p : Pc) (x : Shared × Pc) : Prop
  | owes (h : x.2.publishes = some (viewOf x.1.current))
  | made (hcurrent : x.1.current = sh.current) (hview : x.1.runtime.view = viewOf sh.current)
    (hpublishing : x.2.publishing = none) (hlock : p.hasRuntime)
  | silent (hcurrent : x.1.current = sh.current) (hview : x.1.runtime.view = sh.runtime.view)
    (hpublishing : x.2.publishing = none) (hp : p.publishes ≠ some (viewOf sh.current))
  | late (hcurrent : x.1.current = sh.current) (hpublishing : p.publishing ≠ none)
    (hp : p.publishes ≠ some (viewOf sh.current))

/-- A move that publishes nothing and goes on owing what it owes. -/
theorem Publication.of_keeps {sh : Shared} {p : Pc} {x : Shared × Pc} (hcurrent : x.1.current = sh.current)
    (hview : x.1.runtime.view = sh.runtime.view) (hpublishing : x.2.publishing = none)
    (hkeeps : p.publishes = some (viewOf sh.current) → x.2.publishes = some (viewOf sh.current)) :
    Publication sh p x := by
  by_cases hp : p.publishes = some (viewOf sh.current)
  · exact .owes (hcurrent ▸ hkeeps hp)
  · exact .silent hcurrent hview hpublishing hp

theorem publishes_ne {p : Pc} (hp : p.publishes = none) {view : View} : p.publishes ≠ some view := by
  rw [hp]
  exact (Option.some_ne_none view).symm

theorem viewOf_none_ne {current : Option AppliedTopology} (h : current.isSome = true) :
    some (viewOf none) ≠ some (viewOf current) := by
  obtain ⟨applied, rfl⟩ := Option.isSome_iff_exists.mp h
  simp [viewOf]

/-- A move of a thread that owes nothing. -/
theorem Publication.of_none {sh : Shared} {p : Pc} {x : Shared × Pc} (hp : p.publishes = none)
    (hcurrent : x.1.current = sh.current) (hview : x.1.runtime.view = sh.runtime.view)
    (hpublishing : x.2.publishing = none) : Publication sh p x :=
  .silent hcurrent hview hpublishing (publishes_ne hp)

theorem Publication.of_setSupervisor {sh : Shared} {i : ℕ} {s : Supervisor} {p : Pc} {x : Shared × Pc}
    (h : Publication (sh.setSupervisor i s) p x) : Publication sh p x := by
  cases h with
  | owes h => exact .owes h
  | made hcurrent hview hpublishing hlock => exact .made hcurrent hview hpublishing hlock
  | silent hcurrent hview hpublishing hp => exact .silent hcurrent hview hpublishing hp
  | late hcurrent hpublishing hp => exact .late hcurrent hpublishing hp

/-- A section that owes nothing and writes nothing. -/
theorem Publication.of_withStatus {sh : Shared} {task : Task} {k : ℕ} {finish : DatapathProcessStatus → Runtime}
    {p : Pc} (hp : p.publishes ≠ some (viewOf sh.current)) (htask : task.publishing = none)
    (hview : ∀ status, (finish status).view = sh.runtime.view) :
    Publication sh p (sh.withStatus task k finish) := by
  refine .silent (sh.withStatus_current task k finish) ?_ ?_ hp
  · unfold Shared.withStatus
    split
    · rfl
    · exact hview _
  · rcases withStatus_pc sh task k finish with hpc | ⟨i, hpc⟩
    · rw [hpc]
      rfl
    · rw [hpc]
      exact htask

/-- The section that publishes a result, from the status on. -/
theorem Publication.of_finish {sh : Shared} (sh' : Shared) {task : Task} {p : Pc}
    {finish : DatapathProcessStatus → Runtime} {view : View} (hcurrent : sh'.current = sh.current)
    (hp : p.hasRuntime) (htask : task.publishes = some view)
    (hview : view = viewOf sh.current) (hfinish : ∀ status, (finish status).view = view) :
    Publication sh p (sh'.withStatus task 0 finish) := by
  rcases withStatus_pc sh' task 0 finish with hpc | ⟨i, hpc⟩
  · refine .made ((sh'.withStatus_current task 0 finish).trans hcurrent) ?_ ?_ hp
    · unfold Shared.withStatus at hpc ⊢
      split
      · rename_i i hi
        rw [hi] at hpc
        cases hpc
      · rw [← hview]
        exact hfinish _
    · rw [hpc]
      rfl
  · refine .owes ?_
    rw [hpc, sh'.withStatus_current, hcurrent, ← hview]
    exact htask

theorem replace_publication {sh : Shared} {configPath : ConfigPath} {v : ValidatedTopologyConfig} {p : Pc}
    (hp : p.publishes = some (viewOf none)) : Publication sh p (sh.replaceSupervisor configPath v) := by
  unfold Shared.replaceSupervisor
  split
  · exact .of_keeps rfl rfl rfl (hp ▸ id)
  · exact .of_keeps rfl rfl rfl (hp ▸ id)

theorem begin_publication {sh : Shared} {task : Task} (htask : task.topological = true)
    (hprompt : (Pc.enter task).prompt sh .go = true) : Publication sh (.enter task) (sh.begin task) := by
  have hlock : (Pc.enter task).hasRuntime := Or.inr rfl
  cases task with
  | start | stop => cases htask
  | health | statusHealth =>
    simp only [Shared.begin]
    exact .of_withStatus (publishes_ne rfl) rfl fun _ => rfl
  | destroyFailed =>
    simp only [Shared.begin]
    exact .of_withStatus (publishes_ne rfl) rfl fun _ => view_finishDestroyFailed _ _
  | applied configPath v =>
    simp only [Pc.prompt, decide_eq_true_eq] at hprompt
    obtain ⟨hcurrent, hvalid⟩ := hprompt
    have hbegin : sh.runtime.beginApplied ⟨configPath.1, v⟩ =
        some { sh.runtime.clearOverride with desired := Runtime.desiredFor ⟨configPath.1, v⟩ } := if_pos hvalid
    simp only [Shared.begin, hbegin]
    refine .of_finish (sh.setRuntime _) rfl hlock rfl hcurrent.symm fun status => ?_
    rw [view_finishApplied]
    rfl
  | destroyed =>
    have hnone : sh.current = none := by simpa [Pc.prompt] using hprompt
    simp only [Shared.begin]
    refine .of_finish (sh.setRuntime _) rfl hlock rfl (by rw [hnone]) fun status => ?_
    rw [view_finishDestroyed]
    rfl
  | applyFailed configPath =>
    simp only [Shared.begin]
    cases hcurrent : sh.current with
    | none =>
      refine .of_finish sh rfl hlock rfl (by rw [hcurrent]) fun status => ?_
      rw [view_finishApplyFailed]
      rfl
    | some applied =>
      have howes : (Pc.enter (.applyFailed configPath)).publishes ≠ some (viewOf sh.current) :=
        viewOf_none_ne (by rw [hcurrent]; rfl)
      refine .of_withStatus howes rfl fun status => ?_
      rw [view_finishApplyFailed]
      rfl
  | stopDatapath reason =>
    simp only [Shared.begin]
    split
    · exact .of_keeps rfl rfl rfl id
    · cases reason with
      | cleanup configPath => exact .of_keeps rfl rfl rfl id
      | _ => exact .of_none rfl rfl rfl rfl
  | startDatapath configPath v =>
    simp only [Shared.begin]
    split
    · exact .of_keeps rfl rfl rfl id
    · exact replace_publication rfl
  | stopAgain =>
    simp only [Shared.begin]
    split
    · exact .of_keeps rfl rfl rfl id
    · exact .of_keeps rfl rfl rfl id
  | openApply configPath => exact .of_none rfl rfl rfl rfl
  | openDestroy => exact .of_none rfl rfl rfl rfl
  | status | stats | reset | control =>
    simp only [Shared.begin]
    repeat' split
    all_goals exact .of_none rfl rfl rfl rfl

theorem resume_publication (sh : Shared) {task : Task} {k i : ℕ} {status : DatapathProcessStatus}
    (htask : task.topological = true) (hwrote : ∀ view, task.publishing = some view → sh.Wrote view) :
    Publication sh (.inside task k i) (sh.resume task k i status) := by
  have hlock : (Pc.inside task k i).hasRuntime := Or.inl (by simp [Pc.held])
  cases task with
  | start | stop => cases htask
  | health =>
    refine .of_none rfl rfl ?_ rfl
    exact view_finishObserved _ _
  | statusHealth =>
    refine .of_none rfl rfl ?_ ?_
    · exact view_finishObserved _ _
    · simp only [Shared.resume]
      split
      · rfl
      · rfl
  | status | openApply | openDestroy => exact .of_none rfl rfl rfl rfl
  | stats | reset =>
    unfold Shared.resume
    split
    all_goals first
      | contradiction
      | exact .of_none rfl rfl rfl rfl
  | control =>
    cases k with
    | zero => exact .of_withStatus (publishes_ne rfl) rfl fun _ => view_finishObserved _ _
    | succ k =>
      refine .of_none rfl rfl ?_ rfl
      exact view_finishObserved _ _
  | applied configPath v =>
    have hview : (sh.resume (.applied configPath v) k i status).1.runtime.view =
        viewOf (some ⟨configPath.1, v⟩) := by
      show (sh.runtime.finishApplied _ status).view = _
      rw [view_finishApplied]
      exact hwrote _ rfl
    by_cases hcurrent : viewOf (some ⟨configPath.1, v⟩) = viewOf sh.current
    · exact .made rfl (hview.trans hcurrent) rfl hlock
    · exact .late rfl (Option.some_ne_none _) fun h => hcurrent (Option.some.inj h)
  | applyFailed configPath =>
    have hview : (sh.resume (.applyFailed configPath) k i status).1.runtime.view =
        if sh.current.isSome then sh.runtime.view else viewOf none := view_finishApplyFailed _ _ _ _
    cases hcurrent : sh.current with
    | none =>
      rw [hcurrent] at hview
      exact .made rfl (by rw [hcurrent]; exact hview) rfl hlock
    | some applied =>
      rw [hcurrent] at hview
      exact .silent rfl hview rfl (viewOf_none_ne (by rw [hcurrent]; rfl))
  | stopAgain => exact .of_keeps rfl rfl rfl id
  | destroyed =>
    have hview : (sh.resume .destroyed k i status).1.runtime.view = viewOf none := by
      show (sh.runtime.finishDestroyed status).view = _
      rw [view_finishDestroyed]
      exact hwrote _ rfl
    by_cases hcurrent : viewOf none = viewOf sh.current
    · exact .made rfl (hview.trans hcurrent) rfl hlock
    · exact .late rfl (Option.some_ne_none _) fun h => hcurrent (Option.some.inj h)
  | destroyFailed =>
    refine .of_none rfl rfl ?_ rfl
    exact view_finishDestroyFailed _ _
  | stopDatapath reason =>
    cases reason with
    | cleanup configPath => exact .of_keeps rfl rfl rfl id
    | _ => exact .of_none rfl rfl rfl rfl
  | startDatapath configPath v =>
    cases k with
    | zero => exact replace_publication rfl
    | succ k => exact .of_keeps rfl rfl rfl id

theorem task_raised_publication {sh : Shared} {task : Task} {k i : ℕ} {pktlabError : Bool}
    (htask : task.topological = true) (hprompt : (Pc.inside task k i).prompt sh (.raised pktlabError) = true) :
    Publication sh (.inside task k i)
      (sh.setSupervisor i ((sh.supervisors i).raised (task.call k)), task.raised pktlabError) := by
  cases task with
  | start | stop => cases htask
  | applied | stopAgain | destroyed => cases hprompt
  | applyFailed configPath =>
    exact .silent rfl rfl rfl (viewOf_none_ne hprompt)
  | stopDatapath reason =>
    cases pktlabError with
    | true =>
      cases reason with
      | cleanup configPath => exact .of_keeps rfl rfl rfl id
      | _ => exact .of_none rfl rfl rfl rfl
    | false =>
      cases reason with
      | cleanup configPath => exact .of_keeps rfl rfl rfl id
      | _ => exact .of_none rfl rfl rfl rfl
  | startDatapath configPath v => exact .of_keeps rfl rfl rfl id
  | _ => exact .of_none rfl rfl rfl rfl

/-- **What a prompt move publishes.** -/
theorem Advances.publication {sh : Shared} {p : Pc} {c : Choice} {x : Shared × Pc} (h : Advances sh p c x)
    (hp : p.topological = true) (hprompt : p.prompt sh c = true)
    (hwrote : ∀ view, p.publishing = some view → sh.Wrote view) : Publication sh p x := by
  cases h with
  | request r =>
    refine .of_none rfl rfl rfl ?_
    cases r with
    | applyTopology configPath =>
      simp only [Request.pc]
      split
      · rfl
      · rfl
    | _ => rfl
  | begins task => exact begin_publication hp hprompt
  | takes task k i =>
    by_cases howes : task.publishes = some (viewOf sh.current)
    · exact .owes howes
    · by_cases hpublishing : task.publishing = none
      · exact .silent rfl rfl hpublishing howes
      · exact .late rfl hpublishing howes
  | returns task k i status =>
    exact (resume_publication (sh.setSupervisor i _) hp hwrote).of_setSupervisor
  | raises task k i pktlabError => exact task_raised_publication hp hprompt
  | managerApply | managerDestroy | loadRaises | loadReplaces => exact .of_none rfl rfl rfl rfl
  | managerDestroyNone h => exact .owes (by rw [h]; rfl)
  | managerShutdown | managerShutdownNone | teardownShutdown => cases hp
  | loadBuilds configPath v h => exact .owes (by rw [h]; rfl)
  | teardownReplace | teardownDestroy | applies => exact .owes rfl
  | teardownRaises reason clean pktlabError =>
    cases reason with
    | shutdown => cases hp
    | cleanup configPath => exact .of_keeps rfl rfl rfl id
    | _ => exact .of_none rfl rfl rfl rfl
  | teardownCleanup | buildStarts | buildUnsupervised | buildRaises | reconcileRaises =>
    exact .of_keeps rfl rfl rfl id

/-! ### What a closing section has written -/

theorem publishing_held {p : Pc} {view : View} (h : p.publishing = some view) : Lock.runtime ∈ p.held := by
  cases p with
  | waiting task k i => exact List.mem_cons_self
  | inside task k i => exact List.mem_cons_of_mem _ List.mem_cons_self
  | _ => cases h

theorem withStatus_wrote {sh : Shared} {task : Task} {k : ℕ} {finish : DatapathProcessStatus → Runtime}
    (hwrote : ∀ view, task.publishing = some view → sh.Wrote view) {view : View}
    (h : (sh.withStatus task k finish).2.publishing = some view) : (sh.withStatus task k finish).1.Wrote view := by
  unfold Shared.withStatus at h ⊢
  split at h
  · exact hwrote view h
  · cases h

theorem Begins.publishing {sh : Shared} {task : Task} {p : Pc} (h : Begins sh task p) {view : View}
    (hp : p.publishing = some view) : task.publishing = some view := by
  cases h with
  | calls => exact hp
  | _ => cases hp

theorem begin_wrote {sh : Shared} {task : Task} {view : View} (h : (sh.begin task).2.publishing = some view) :
    (sh.begin task).1.Wrote view := by
  have htask := (begins_begin sh task).publishing h
  cases task with
  | applied configPath v =>
    simp only [Shared.begin] at h ⊢
    cases hbegin : sh.runtime.beginApplied ⟨configPath.1, v⟩ with
    | none =>
      rw [hbegin] at h
      cases h
    | some r =>
      rw [hbegin] at h
      refine withStatus_wrote (fun view' h' => ?_) h
      obtain rfl := Option.some.inj h'
      show { r.view with topologyApplied := true } = _
      rw [view_beginApplied _ hbegin]
      rfl
  | destroyed =>
    refine withStatus_wrote (fun view' h' => ?_) h
    obtain rfl := Option.some.inj h'
    rfl
  | _ => cases htask

theorem Resumes.publishing {task : Task} {p : Pc} (h : Resumes task p) : p.publishing = none := by
  cases h with
  | _ => rfl

/-- A closing section that waits for the status has written what it is to
publish. -/
theorem Advances.wrote {sh : Shared} {p : Pc} {c : Choice} {x : Shared × Pc} (h : Advances sh p c x)
    (hwrote : ∀ view, p.publishing = some view → sh.Wrote view) {view : View} (hx : x.2.publishing = some view) :
    x.1.Wrote view := by
  cases h with
  | request r =>
    cases r with
    | applyTopology configPath =>
      simp only [Request.pc] at hx
      split at hx
      · cases hx
      · cases hx
    | _ => cases hx
  | begins task => exact begin_wrote hx
  | takes task k i => exact hwrote view hx
  | returns task k i status =>
    rw [(resumes_resume _ task k i status).publishing] at hx
    cases hx
  | raises task k i pktlabError =>
    cases task with
    | stopDatapath reason =>
      simp only [Task.raised] at hx
      split at hx
      · cases hx
      · cases reason with
        | _ => cases hx
    | _ => cases hx
  | teardownRaises reason clean pktlabError =>
    cases reason with
    | _ => cases hx
  | _ => cases hx

theorem inFlight_of_publishes {p : Pc} {view : View} (h : p.publishes = some view) : p.inFlight = true := by
  have htask : ∀ {task : Task}, task.publishes = some view → task.inFlight = true := by
    intro task ht
    cases task with
    | stopDatapath reason =>
      cases reason with
      | cleanup configPath => rfl
      | _ => cases ht
    | applied | applyFailed | stopAgain | destroyed | startDatapath => rfl
    | _ => cases ht
  cases p with
  | enter task => exact htask h
  | waiting task k i => exact htask h
  | inside task k i => exact htask h
  | build | reconcile => rfl
  | teardown reason clean =>
    cases reason with
    | cleanup configPath => rfl
    | _ => cases h
  | _ => cases h

namespace Controller

variable {n : ℕ} {s s' : Controller n}

/-- The runtime says what the manager has. -/
def Agrees (s : Controller n) : Prop := s.shared.runtime.view = viewOf s.shared.current

instance : Decidable s.Agrees := inferInstanceAs (Decidable (_ = _))

/-- The thread owes the publication of what the manager has. -/
def Owes (s : Controller n) (t : Fin n) : Prop := (s.pc t).publishes = some (viewOf s.shared.current)

/-- Every move of a request that succeeded is in time. -/
def prompt (s : Controller n) : Move n → Bool
  | .thread t c => (s.pc t).prompt s.shared c
  | .exits _ => true

/-- The runtime says what the manager has, or a thread owes it. -/
structure Coherent (s : Controller n) : Prop where
  exclusive : s.Exclusive
  topological : ∀ t, (s.pc t).topological = true
  wrote : ∀ t view, (s.pc t).publishing = some view → s.shared.Wrote view
  owed : (∃ t, s.Owes t) ∨ s.Agrees ∧ ∀ t, (s.pc t).publishing = none

/-- The publications after a move of the thread `t`. -/
theorem step_owed {t : Fin n} (hs : s.Coherent) (henabled : s.enabled t)
    (hother : ∀ a, a ≠ t → s'.pc a = s.pc a) (h : Publication s.shared (s.pc t) (s'.shared, s'.pc t)) :
    (∃ t, s'.Owes t) ∨ s'.Agrees ∧ ∀ t, (s'.pc t).publishing = none := by
  -- another thread owes what it owed, as long as the manager has the same
  have hkeeps : s'.shared.current = s.shared.current → (s.pc t).publishes ≠ some (viewOf s.shared.current) →
      (∃ a, s.Owes a) → ∃ a, s'.Owes a := by
    rintro hcurrent hnot ⟨a, ha⟩
    have hne : a ≠ t := fun heq => hnot (heq ▸ ha)
    refine ⟨a, ?_⟩
    unfold Owes at ha ⊢
    rw [hother a hne, hcurrent]
    exact ha
  cases h with
  | owes h => exact Or.inl ⟨t, h⟩
  | made hcurrent hview hpublishing hlock =>
    refine Or.inr ⟨hview.trans (congrArg viewOf hcurrent.symm), fun a => ?_⟩
    by_cases hat : a = t
    · rw [hat]
      exact hpublishing
    · rw [hother a hat]
      by_contra hne
      obtain ⟨view, ha⟩ := Option.ne_none_iff_exists'.mp hne
      exact other_runtime hs.exclusive henabled hlock hat (publishing_held ha)
  | silent hcurrent hview hpublishing hnot =>
    rcases hs.owed with howed | ⟨hagrees, hnone⟩
    · exact Or.inl (hkeeps hcurrent hnot howed)
    · refine Or.inr ⟨?_, fun a => ?_⟩
      · unfold Agrees at hagrees ⊢
        rw [hview, hagrees, hcurrent]
      · by_cases hat : a = t
        · rw [hat]
          exact hpublishing
        · rw [hother a hat]
          exact hnone a
  | late hcurrent hpublishing hnot =>
    rcases hs.owed with howed | ⟨-, hnone⟩
    · exact Or.inl (hkeeps hcurrent hnot howed)
    · exact absurd (hnone t) hpublishing

theorem step_coherent {mv : Move n} (hs : s.Coherent) (htopological : mv.topological = true)
    (hprompt : s.prompt mv = true) (h : s.step mv = some s') : s'.Coherent := by
  have hexclusive := step_exclusive hs.exclusive h
  have htopological' := step_topological hs.topological htopological h
  cases mv with
  | exits i =>
    obtain ⟨hpc, hshared⟩ := step_exits h
    refine ⟨hexclusive, htopological', ?_, ?_⟩
    · rw [hpc, hshared]
      exact hs.wrote
    · unfold Owes Agrees
      rw [hpc, hshared]
      exact hs.owed
  | thread t c =>
    obtain ⟨henabled, hadvance, hother⟩ := step_thread h
    refine ⟨hexclusive, htopological', fun a view ha => ?_, ?_⟩
    · by_cases hat : a = t
      · rw [hat] at ha
        exact hadvance.wrote (hs.wrote t) ha
      · -- `a` has the runtime lock, so the move leaves the runtime alone
        rw [hother a hat] at ha
        rcases hadvance.runtime_eq with hsame | hruntime
        · have hwrote := hs.wrote a view ha
          unfold Shared.Wrote at hwrote ⊢
          rw [hsame]
          exact hwrote
        · exact absurd (publishing_held ha) (other_runtime hs.exclusive henabled hruntime hat)
    · exact step_owed hs henabled hother
        (hadvance.publication (hs.topological t) hprompt (hs.wrote t))

/-- **The runtime agrees with the manager** when no `apply_topology` and no
`destroy_topology` is running, after every run of requests other than `start`
and `stop` in which every move is prompt. -/
theorem runtime_agrees {moves : List (Move n)} (h0 : s.allIdle) (hagrees : s.Agrees)
    (htopological : ∀ mv ∈ moves, mv.topological = true)
    (hprompt : Run.AllSteps step (fun s mv => s.prompt mv = true) s moves) (hrun : Run.run step s moves = some s')
    (hquiet : ∀ t, (s'.pc t).inFlight = false) : s'.Agrees := by
  have hstart : s.Coherent := by
    refine ⟨exclusive_of_allIdle h0, fun t => ?_, fun t view ht => ?_, Or.inr ⟨hagrees, fun t => ?_⟩⟩
    · rw [h0 t]
      rfl
    · rw [h0 t] at ht
      cases ht
    · rw [h0 t]
      rfl
  have hcoherent : s'.Coherent := by
    refine Run.run_induction_of (C := fun s mv => mv.topological = true ∧ s.prompt mv = true)
      (fun _ _ _ hs hc h => step_coherent hs hc.1 hc.2 h) hstart ?_ hrun
    exact (Run.allSteps_of_forall htopological).and hprompt
  rcases hcoherent.owed with ⟨t, howes⟩ | ⟨h, -⟩
  · have hflight := inFlight_of_publishes howes
    rw [hquiet t] at hflight
    cases hflight
  · exact h

/-! ### Runs of two threads -/

/-- A controller that has been started. -/
def started : Controller 2 :=
  (Run.run step (initial 2 true) ([.request .start, .go, .go, .returned {}].map (.thread ⟨0, Nat.two_pos⟩))).getD
    (initial 2 true)

theorem started_allIdle : started.allIdle := Fin.forall_fin_two.mpr ⟨rfl, rfl⟩

theorem started_agrees : started.Agrees := by decide +kernel

/-- An `apply_topology` up to where the topology is built. -/
def buildMoves (t : Fin 2) : List (Move 2) :=
  [.request (.applyTopology "lab.yaml"), .go, .go, .loaded plainValidated, .done, .go, .go, .returned {}, .go,
    .returned {}].map (.thread t)

/-- The same up to its closing section. -/
def applyMoves (t : Fin 2) : List (Move 2) := buildMoves t ++ [.thread t .done]

/-- A `destroy_topology` of a topology, with its closing section. -/
def destroyMoves (t : Fin 2) : List (Move 2) :=
  [.request .destroyTopology, .go, .go, .go, .go, .returned {}, .done, .go, .go, .returned {}, .go, .go,
    .returned {}].map (.thread t)

def closeMoves (t : Fin 2) : List (Move 2) := [.go, .go, .returned {}].map (.thread t)

theorem runtime_agrees_in_turn :
    ∃ s, Run.run step started (applyMoves 0 ++ closeMoves 0 ++ destroyMoves 1) = some s ∧ s.Agrees := by
  have hend : (Run.run step started (applyMoves 0 ++ closeMoves 0 ++ destroyMoves 1)).map (fun s =>
      decide (∀ t, (s.pc t).inFlight = false)) = some true := by decide +kernel
  obtain ⟨s, hrun, hquiet⟩ := Option.map_eq_some_iff.mp hend
  refine ⟨s, hrun, ?_⟩
  exact runtime_agrees started_allIdle started_agrees (by decide +kernel) (by decide +kernel) hrun
    (of_decide_eq_true hquiet)

/-- The second request destroys the topology of the first before that one
publishes it. -/
theorem stale_publication :
    ¬ ∀ (n : ℕ) (s s' : Controller n) (moves : List (Move n)), s.allIdle → s.Agrees →
      (∀ mv ∈ moves, mv.topological = true) → Run.run step s moves = some s' →
      (∀ t, (s'.pc t).inFlight = false) → s'.Agrees := by
  intro h
  have hend : (Run.run step started (applyMoves 0 ++ destroyMoves 1 ++ closeMoves 0)).map (fun s =>
      decide ((∀ t, (s.pc t).inFlight = false) ∧ ¬ s.Agrees)) = some true := by decide +kernel
  obtain ⟨s, hrun, hs⟩ := Option.map_eq_some_iff.mp hend
  obtain ⟨hquiet, hdisagrees⟩ := of_decide_eq_true hs
  exact hdisagrees (h 2 started s _ started_allIdle started_agrees (by decide +kernel) hrun hquiet)

end Controller

end Ctrld
end Pktlab
