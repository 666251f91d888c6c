/-
# Starting again after a stop

The supervisor that `ControllerRuntime.__init__` creates launches the daemon as
it is. `_start_topology_datapath` puts another one in its place, which launches
it inside the namespace of the topology, and neither `destroy_topology` nor
`stop` brings the first one back. Once a topology has been applied, a later
`start` therefore asks `ip netns exec` for a namespace that `stop` has deleted
(`start_into_deleted_namespace`). Where no topology has been applied, it
launches what the first `start` launched (`relaunches_iff`).

Key definitions: `Shared.succeeds`, `Shared.Plain`, `Pc.Plain`,
`Shared.Namespaced`, `Pc.applying`, `Controller.launches`.
Key theorems: `Advances.plain`, `Advances.namespaced`, `Advances.applying`,
`relaunches_iff`.
-/
import Pktlab.Ctrld.DpdkdSupervisor
import Pktlab.Ctrld.Rejected

namespace Pktlab
namespace Ctrld

open Python

/-! ### What the sections do to the supervisors -/

theorem returned_config (s : Supervisor) (call : SupervisorCall) : (s.returned call).config = s.config := by
  cases call with
  | _ => rfl

theorem returned_alive {s : Supervisor} {call : SupervisorCall} (h : (s.returned call).alive = true) :
    call = .start ∨ s.alive = true := by
  cases call with
  | start => exact .inl rfl
  | stop => cases h
  | status | command => exact .inr h

theorem raised_alive {s : Supervisor} {call : SupervisorCall} (h : (s.raised call).alive = true) :
    s.alive = true := by
  cases call with
  | start =>
    simp only [Supervisor.raised] at h
    split at h
    · exact h
    · exact h
  | stop => cases h
  | status | command => exact h

theorem raised_config (s : Supervisor) (call : SupervisorCall) : (s.raised call).config = s.config := by
  cases call with
  | start =>
    simp only [Supervisor.raised]
    split
    · rfl
    · rfl
  | _ => rfl

theorem buildSupervisorConfig_launchPrefix {v : ValidatedTopologyConfig} {config : SupervisorConfig}
    (h : buildSupervisorConfig v = some config) : config.launchPrefix ≠ [] := by
  unfold buildSupervisorConfig at h
  split at h
  · cases h
  · simp only [Option.ite_none_right_eq_some, Option.some.injEq] at h
    rw [← h.2]
    exact List.cons_ne_nil _ _

namespace Shared

variable {sh sh' : Shared}

/-- The supervisor launches the datapath inside a namespace. -/
def Namespaced (sh : Shared) : Prop :=
  ∃ i, sh.runtime.supervisor = some i ∧ (sh.supervisors i).config.launchPrefix ≠ []

theorem Namespaced.of_keeps (h : sh.Namespaced) (hholds : sh'.runtime.supervisor = sh.runtime.supervisor)
    (hconfig : ∀ i, (sh'.supervisors i).config = (sh.supervisors i).config) : sh'.Namespaced := by
  obtain ⟨i, hi, hprefix⟩ := h
  exact ⟨i, hholds.trans hi, (hconfig i).symm ▸ hprefix⟩

theorem setSupervisor_config {i : ℕ} {s : Supervisor} (hs : s.config = (sh.supervisors i).config) (j : ℕ) :
    ((sh.setSupervisor i s).supervisors j).config = (sh.supervisors j).config := by
  by_cases hji : j = i
  · rw [hji]
    simp [setSupervisor, hs]
  · simp [setSupervisor, hji]

/-- The supervisor of a topology whose arguments can be rendered. -/
theorem replaceSupervisor_namespaced {configPath : ConfigPath} {v : ValidatedTopologyConfig}
    (h : (buildSupervisorConfig v).isSome = true) : (sh.replaceSupervisor configPath v).1.Namespaced := by
  obtain ⟨config, hconfig⟩ := Option.isSome_iff_exists.mp h
  simp only [replaceSupervisor, hconfig]
  refine ⟨sh.created, rfl, ?_⟩
  simp only [setSupervisor, Function.update_self]
  exact buildSupervisorConfig_launchPrefix hconfig

theorem Namespaced.replaceSupervisor {configPath : ConfigPath} {v : ValidatedTopologyConfig} (h : sh.Namespaced) :
    (sh.replaceSupervisor configPath v).1.Namespaced := by
  by_cases hconfig : (buildSupervisorConfig v).isSome = true
  · exact replaceSupervisor_namespaced hconfig
  · have hnone : buildSupervisorConfig v = none := by simpa using hconfig
    simp only [Shared.replaceSupervisor, hnone]
    exact h

theorem Namespaced.resume {task : Task} {k i : ℕ} {status : DatapathProcessStatus} (h : sh.Namespaced) :
    (sh.resume task k i status).1.Namespaced := by
  rcases sh.resume_keeps task k i status with ⟨configPath, v, -, -, hreplace⟩ | ⟨hsupervisors, hholds, -⟩
  · rw [hreplace]
    exact h.replaceSupervisor
  · exact h.of_keeps hholds fun j => by rw [hsupervisors]

end Shared

/-- **A namespace stays.** No move brings back a supervisor that launches the
datapath as it is. -/
theorem Advances.namespaced {sh : Shared} {p : Pc} {c : Choice} {x : Shared × Pc} (h : Advances sh p c x)
    (hsh : sh.Namespaced) : x.1.Namespaced := by
  cases h with
  | begins task =>
    obtain ⟨i, hi, hprefix⟩ := hsh
    obtain ⟨hstanding, hsupervisors⟩ := Shared.begin_standing hi task
    exact ⟨i, (Runtime.supervisor_of_standing hstanding).trans hi, hsupervisors ▸ hprefix⟩
  | returns task k i status =>
    have hcalled : (sh.setSupervisor i ((sh.supervisors i).returned (task.call k))).Namespaced :=
      hsh.of_keeps rfl (Shared.setSupervisor_config (returned_config _ _))
    exact hcalled.resume
  | raises task k i pktlabError => exact hsh.of_keeps rfl (Shared.setSupervisor_config (raised_config _ _))
  | managerShutdownNone | teardownShutdown => exact hsh.of_keeps rfl fun _ => rfl
  | teardownReplace | teardownDestroy | applies => exact hsh.of_keeps rfl fun _ => rfl
  | _ => exact hsh

/-! ### Operations that succeed -/

/-- Nothing raises in a move. -/
def Shared.succeeds (sh : Shared) : Pc → Choice → Bool
  | _, .raised _ => false
  | _, .request (.applyTopology configPath) => ¬ blank configPath
  | .enter .stats, .go | .enter .reset, .go | .enter .control, .go => sh.runtime.supervisor.isSome
  | .enter (.applied configPath v), .go => (sh.runtime.beginApplied ⟨configPath.1, v⟩).isSome
  | .enter (.startDatapath _ v), .go => sh.runtime.supervisor.isSome || (buildSupervisorConfig v).isSome
  | .inside (.startDatapath _ v) 0 _, .returned _ => (buildSupervisorConfig v).isSome
  | .build .., .done => sh.runtime.superviseDatapath
  | _, _ => true

/-- Before its `k`-th call of the supervisor, a callback of the manager that
leads to the supervisor of a topology. -/
def Task.applying : Task → ℕ → Bool
  | .stopDatapath (.replace ..), _ | .startDatapath .., 0 => true
  | _, _ => false

/-- A thread has yet to create the supervisor of a topology. -/
def Pc.applying : Pc → Bool
  | .enter (.openApply _) | .manager (.apply _) | .load _ | .teardown (.replace ..) _ | .build .. => true
  | .enter task => task.applying 0
  | .waiting task k _ | .inside task k _ => task.applying k
  | _ => false

/-- **An `apply_topology` that does not raise** comes to create its supervisor. -/
theorem advance_applying {sh : Shared} {p : Pc} {c : Choice} {x : Shared × Pc} (h : advance sh p c = some x)
    (hp : p.applying = true) (hsucceeds : sh.succeeds p c = true) : x.2.applying = true ∨ x.1.Namespaced := by
  cases advances_of_advance h with
  | begins task =>
    cases task with
    | openApply configPath => exact .inl rfl
    | stopDatapath reason =>
      cases reason with
      | replace configPath v =>
        simp only [Shared.begin]
        split
        · exact .inl rfl
        · exact .inl rfl
      | _ => cases hp
    | startDatapath configPath v =>
      simp only [Shared.succeeds, Bool.or_eq_true] at hsucceeds
      unfold Shared.begin
      cases hholds : sh.runtime.supervisor with
      | some i => exact .inl rfl
      | none =>
        rw [hholds] at hsucceeds
        exact .inr (Shared.replaceSupervisor_namespaced (hsucceeds.resolve_left Bool.false_ne_true))
    | _ => cases hp
  | takes task k i => exact .inl hp
  | returns task k i status =>
    cases task with
    | stopDatapath reason =>
      cases reason with
      | replace configPath v => exact .inl rfl
      | _ => cases hp
    | startDatapath configPath v =>
      cases k with
      | zero => exact .inr (Shared.replaceSupervisor_namespaced hsucceeds)
      | succ k => cases hp
    | _ => cases hp
  | raises | loadRaises | teardownRaises | buildRaises => cases hsucceeds
  | buildUnsupervised configPath v =>
    -- `_start_topology_datapath` raises only without supervision
    have hsupervises : sh.runtime.superviseDatapath = true := hsucceeds
    simp [advance, hsupervises] at h
  | managerApply | loadReplaces | loadBuilds | teardownReplace | buildStarts => exact .inl rfl
  | _ => cases hp

theorem request_applying {sh : Shared} {p : Pc} {configPath : String} {x : Shared × Pc}
    (h : advance sh p (.request (.applyTopology configPath)) = some x)
    (hsucceeds : sh.succeeds p (.request (.applyTopology configPath)) = true) : x.2.applying = true := by
  cases advances_of_advance h with
  | request =>
    have hpath : ¬ blank configPath := of_decide_eq_true hsucceeds
    simp only [Request.pc, dif_neg hpath]
    rfl

/-! ### Without a topology -/

/-- The supervisor is the one `__init__` has created, and its datapath runs
only while the controller is started. -/
structure Shared.Plain (sh : Shared) : Prop where
  holds : sh.runtime.supervisor = some 0
  config : (sh.supervisors 0).config = ⟨[], []⟩
  current : sh.current = none
  alive : (sh.supervisors 0).alive = true → sh.runtime.started = true

/-- A section that is not of `apply_topology`. -/
def Task.plain : Task → Bool
  | .openApply _ | .applied .. | .applyFailed _ | .stopDatapath _ | .startDatapath .. => false
  | _ => true

/-- A thread is in no `apply_topology` and calls the first supervisor. -/
def Pc.Plain : Pc → Prop
  | .idle | .manager .destroy => True
  | .enter task => task.plain = true
  | .waiting task _ i | .inside task _ i => task.plain = true ∧ i = 0
  | _ => False

namespace Shared

variable {sh sh' : Shared}

theorem Plain.of_standing (h : sh.Plain) (hstanding : sh'.runtime.standing = sh.runtime.standing)
    (hsupervisors : sh'.supervisors = sh.supervisors) (hcurrent : sh'.current = sh.current) : sh'.Plain where
  holds := (Runtime.supervisor_of_standing hstanding).trans h.holds
  config := by
    rw [hsupervisors]
    exact h.config
  current := hcurrent.trans h.current
  alive halive := by
    rw [hsupervisors] at halive
    exact (Runtime.started_of_standing hstanding).trans (h.alive halive)

theorem Plain.begin (h : sh.Plain) (task : Task) : (sh.begin task).1.Plain := by
  obtain ⟨hstanding, hsupervisors⟩ := begin_standing h.holds task
  exact h.of_standing hstanding hsupervisors (begin_current sh task)

theorem Plain.statusOf (h : sh.Plain) : sh.statusOf = none ∨ sh.statusOf = some 0 := by
  unfold Shared.statusOf
  rw [h.holds]
  split
  · exact .inr rfl
  · exact .inl rfl

theorem withStatus_plain_pc (h : sh.statusOf = none ∨ sh.statusOf = some 0) {task : Task} {k : ℕ}
    {finish : DatapathProcessStatus → Runtime} (htask : task.plain = true) : (sh.withStatus task k finish).2.Plain := by
  unfold withStatus
  rcases h with hstatus | hstatus
  · rw [hstatus]
    trivial
  · rw [hstatus]
    exact ⟨htask, rfl⟩

theorem Plain.begin_pc (h : sh.Plain) {task : Task} (htask : task.plain = true) : (sh.begin task).2.Plain := by
  cases task with
  | start | stop =>
    simp only [Shared.begin, h.holds, h.current]
    split_ifs
    all_goals trivial
  | health | statusHealth | destroyFailed => exact withStatus_plain_pc h.statusOf htask
  | destroyed =>
    have hstatus : (sh.setRuntime sh.runtime.beginDestroyed).statusOf = none ∨
        (sh.setRuntime sh.runtime.beginDestroyed).statusOf = some 0 := h.statusOf
    exact withStatus_plain_pc hstatus htask
  | stats =>
    simp only [Shared.begin, h.holds]
    rcases h.statusOf with hstatus | hstatus
    · rw [hstatus]
      exact ⟨rfl, rfl⟩
    · rw [hstatus]
      exact ⟨rfl, rfl⟩
  | reset | control | stopAgain =>
    unfold Shared.begin
    rw [h.holds]
    exact ⟨rfl, rfl⟩
  | status => rfl
  | openDestroy => trivial
  | _ => cases htask

/-- Where a call of the first supervisor returned. -/
def called (sh : Shared) (task : Task) (k : ℕ) : Shared :=
  sh.setSupervisor 0 ((sh.supervisors 0).returned (task.call k))

theorem called_zero (sh : Shared) (task : Task) (k : ℕ) :
    (sh.called task k).supervisors 0 = (sh.supervisors 0).returned (task.call k) := by
  simp [called, Shared.setSupervisor]

theorem start_of_call {task : Task} {k : ℕ} (htask : task.plain = true) (hcall : task.call k = .start) :
    task = .start := by
  unfold Task.call at hcall
  split at hcall
  case h_1 => rfl
  case h_5 | h_6 => cases htask
  all_goals cases hcall

theorem Plain.resume (h : sh.Plain) {task : Task} (htask : task.plain = true) (k : ℕ)
    (status : DatapathProcessStatus) : ((sh.called task k).resume task k 0 status).1.Plain := by
  rcases (sh.called task k).resume_keeps task k 0 status with
    ⟨configPath, v, rfl, -, -⟩ | ⟨hsupervisors, hholds, hstarted⟩
  · cases htask
  constructor
  case holds => exact hholds.trans h.holds
  case config =>
    rw [hsupervisors, called_zero, returned_config]
    exact h.config
  case current => exact (resume_current _ task k 0 status).trans h.current
  case alive =>
    intro halive
    rw [hsupervisors, called_zero] at halive
    rcases hstarted with rfl | rfl | hstarted
    · exact congrArg (fun standing => standing.2.1) (Runtime.standing_finishStart _ _)
    · cases halive
    · rcases returned_alive halive with hcall | halive
      · obtain rfl := start_of_call htask hcall
        exact congrArg (fun standing => standing.2.1) (Runtime.standing_finishStart _ _)
      · exact hstarted.trans (h.alive halive)

theorem resume_plain_pc (h : sh.statusOf = none ∨ sh.statusOf = some 0) {task : Task} (htask : task.plain = true)
    (k : ℕ) (status : DatapathProcessStatus) : (sh.resume task k 0 status).2.Plain := by
  unfold Shared.resume
  split
  case h_4 =>
    split
    · exact ⟨rfl, rfl⟩
    · trivial
  case h_8 => exact withStatus_plain_pc h rfl
  case h_10 | h_11 | h_15 | h_16 | h_17 => cases htask
  all_goals trivial

theorem Plain.raises (h : sh.Plain) (call : SupervisorCall) :
    (sh.setSupervisor 0 ((sh.supervisors 0).raised call)).Plain where
  holds := h.holds
  config := by
    rw [setSupervisor_config (raised_config _ _)]
    exact h.config
  current := h.current
  alive halive := by
    simp only [setSupervisor, Function.update_self] at halive
    exact h.alive (raised_alive halive)

end Shared

/-- **Without an `apply_topology`** the supervisor stays the first one. -/
theorem Advances.plain {sh : Shared} {p : Pc} {c : Choice} {x : Shared × Pc} (h : Advances sh p c x)
    (hsh : sh.Plain) (hp : p.Plain) (hc : ∀ configPath, c ≠ .request (.applyTopology configPath)) :
    x.1.Plain ∧ x.2.Plain := by
  cases h with
  | request r =>
    refine ⟨hsh, ?_⟩
    cases r with
    | applyTopology configPath => exact absurd rfl (hc configPath)
    | _ => exact rfl
  | begins task => exact ⟨hsh.begin task, hsh.begin_pc hp⟩
  | takes task k i => exact ⟨hsh, hp⟩
  | returns task k i status =>
    obtain ⟨htask, rfl⟩ := hp
    have hstatus : (sh.called task k).statusOf = none ∨ (sh.called task k).statusOf = some 0 := hsh.statusOf
    exact ⟨hsh.resume htask k status, Shared.resume_plain_pc hstatus htask k status⟩
  | raises task k i pktlabError =>
    obtain ⟨htask, rfl⟩ := hp
    refine ⟨hsh.raises _, ?_⟩
    cases task with
    | stopDatapath | startDatapath => cases htask
    | _ => trivial
  | managerDestroy hcurrent =>
    rw [hsh.current] at hcurrent
    cases hcurrent
  | managerDestroyNone => exact ⟨hsh, rfl⟩
  | _ => exact hp.elim

/-! ### Runs -/

/-- The command line of the process that a thread in `start` is about to
spawn; a process that runs is not spawned again. -/
def Shared.spawns (sh : Shared) (dpdkdBinary socketPath : String) : Pc → Option (List String)
  | .inside .start _ i =>
    let s := sh.supervisors i
    if s.alive then none else some (LaunchConfig.command ⟨s.config, dpdkdBinary, socketPath⟩)
  | _ => none

/-- A call of `apply_topology`. -/
def Move.appliesTopology {n : ℕ} : Move n → Bool
  | .thread _ (.request (.applyTopology _)) => true
  | _ => false

theorem Move.eq_of_appliesTopology {n : ℕ} {mv : Move n} (h : mv.appliesTopology = true) :
    ∃ t configPath, mv = .thread t (.request (.applyTopology configPath)) := by
  unfold appliesTopology at h
  split at h
  · exact ⟨_, _, rfl⟩
  · cases h

namespace Controller

variable {n : ℕ} {s s' : Controller n} {t : Fin n}

/-- Nothing raises in a move. -/
def succeeds (s : Controller n) : Move n → Bool
  | .thread t choice => s.shared.succeeds (s.pc t) choice
  | .exits _ => true

/-- No thread is in an `apply_topology`, and no topology has been applied. -/
structure Plain (s : Controller n) : Prop where
  shared : s.shared.Plain
  pc : ∀ t, (s.pc t).Plain

/-- A topology's supervisor is there, or it is about to be. -/
def Applied (s : Controller n) : Prop := s.shared.Namespaced ∨ ∃ t, (s.pc t).applying = true

theorem initial_plain (n : ℕ) : (initial n true).Plain where
  shared := ⟨rfl, rfl, rfl, fun h => absurd h Bool.false_ne_true⟩
  pc _ := trivial

theorem step_plain {mv : Move n} (hs : s.Plain) (hmv : mv.appliesTopology = false) (h : s.step mv = some s') :
    s'.Plain := by
  cases mv with
  | exits i =>
    obtain ⟨hpc, hshared⟩ := step_exits h
    refine ⟨?_, fun t => hpc ▸ hs.pc t⟩
    rw [hshared]
    constructor
    case holds => exact hs.shared.holds
    case config =>
      refine Eq.trans (Shared.setSupervisor_config ?_ 0) hs.shared.config
      rfl
    case current => exact hs.shared.current
    case alive =>
      intro halive
      refine hs.shared.alive ?_
      by_cases hi : 0 = i
      · subst hi
        simp [Shared.setSupervisor] at halive
      · simpa [Shared.setSupervisor, hi] using halive
  | thread t c =>
    obtain ⟨-, hadvance, hother⟩ := step_thread h
    have hc : ∀ configPath, c ≠ .request (.applyTopology configPath) := by
      rintro configPath rfl
      cases hmv
    obtain ⟨hshared, hpc⟩ := hadvance.plain hs.shared (hs.pc t) hc
    refine ⟨hshared, fun a => ?_⟩
    by_cases hat : a = t
    · rw [hat]
      exact hpc
    · rw [hother a hat]
      exact hs.pc a

theorem step_applied {mv : Move n} (hs : s.Applied) (hsucceeds : s.succeeds mv = true) (h : s.step mv = some s') :
    s'.Applied := by
  cases mv with
  | exits i =>
    obtain ⟨hpc, hshared⟩ := step_exits h
    rcases hs with hs | ⟨a, ha⟩
    · refine .inl ?_
      rw [hshared]
      exact hs.of_keeps rfl (Shared.setSupervisor_config rfl)
    · exact .inr ⟨a, hpc ▸ ha⟩
  | thread t c =>
    obtain ⟨-, hadvance, hother⟩ := step_thread h
    rcases hs with hs | ⟨a, ha⟩
    · exact .inl (hadvance.namespaced hs)
    · by_cases hat : a = t
      · rw [hat] at ha
        rcases advance_applying (step_advance h) ha hsucceeds with happlying | hnamespaced
        · exact .inr ⟨t, happlying⟩
        · exact .inl hnamespaced
      · refine .inr ⟨a, ?_⟩
        rw [hother a hat]
        exact ha

/-- What a `start` of thread `t` launches. -/
def launches (s : Controller n) (t : Fin n) (dpdkdBinary socketPath : String) : Option (List String) :=
  (Run.run step s ([.request .start, .go, .go].map (.thread t))).bind fun s' =>
    s'.shared.spawns dpdkdBinary socketPath (s'.pc t)

theorem launches_eq (hidle : s.allIdle) (hstopped : s.shared.runtime.started = false) {i : ℕ}
    (hholds : s.shared.runtime.supervisor = some i) (dpdkdBinary socketPath : String) :
    s.launches t dpdkdBinary socketPath = if (s.shared.supervisors i).alive then none else
      some (LaunchConfig.command ⟨(s.shared.supervisors i).config, dpdkdBinary, socketPath⟩) := by
  have hbegin : s.shared.begin .start = (s.shared.setRuntime s.shared.runtime.beginStart, .waiting .start 0 i) := by
    simp [Shared.begin, hstopped, hholds]
  have henter : step ⟨s.shared, Function.update s.pc t (.enter .start)⟩ (.thread t .go) =
      some ⟨s.shared.setRuntime s.shared.runtime.beginStart, Function.update s.pc t (.waiting .start 0 i)⟩ :=
    step_alone hidle (congrArg some hbegin)
  have htake : step ⟨s.shared.setRuntime s.shared.runtime.beginStart, Function.update s.pc t (.waiting .start 0 i)⟩
      (.thread t .go) =
      some ⟨s.shared.setRuntime s.shared.runtime.beginStart, Function.update s.pc t (.inside .start 0 i)⟩ :=
    step_alone hidle rfl
  simp only [launches, List.map_cons, List.map_nil, Run.run, step_request hidle, Request.pc, henter, htake,
    Option.bind_some, Function.update_self]
  rfl

/-- A topology has been applied along a run that has called for it. -/
theorem applied_of_run {before after : List (Move n)} {a : Fin n} {configPath : String} {s₀ : Controller n}
    (hrun : Run.run step s₀ (before ++ .thread a (.request (.applyTopology configPath)) :: after) = some s)
    (hsucceeds : Run.AllSteps step (fun s mv => s.succeeds mv = true) s₀
      (before ++ .thread a (.request (.applyTopology configPath)) :: after)) : s.Applied := by
  rw [Run.run_append, Option.bind_eq_some_iff] at hrun
  obtain ⟨s₁, hbefore, hrun⟩ := hrun
  obtain ⟨s₂, hrequest, hafter⟩ := Run.run_cons_eq_some.mp hrun
  obtain ⟨happlies, hsucceeds⟩ := hsucceeds.of_append.2 s₁ hbefore
  have happlied : s₂.Applied := by
    exact .inr ⟨a, request_applying (step_advance hrequest) happlies⟩
  exact Run.run_induction_of (fun _ _ _ hs hc h => step_applied hs hc h) happlied (hsucceeds s₂ hrequest) hafter

/-- **After a stop** that follows operations of which none has raised, `start`
launches what the first `start` launched if and only if no topology has been
applied. -/
theorem relaunches_iff {moves : List (Move n)} (hrun : Run.run step (initial n true) moves = some s)
    (hsucceeds : Run.AllSteps step (fun s mv => s.succeeds mv = true) (initial n true) moves) (hidle : s.allIdle)
    (hstopped : s.shared.runtime.started = false) (t : Fin n) (dpdkdBinary socketPath : String) :
    s.launches t dpdkdBinary socketPath = (initial n true).launches t dpdkdBinary socketPath ↔
      ∀ mv ∈ moves, mv.appliesTopology = false := by
  have hfirst : (initial n true).launches t dpdkdBinary socketPath =
      some [dpdkdBinary, "--socket-path", socketPath] := launches_eq (fun _ => rfl) rfl rfl _ _
  rw [hfirst]
  constructor
  · intro hlaunches mv hmv
    by_contra happlies
    obtain ⟨a, configPath, rfl⟩ := Move.eq_of_appliesTopology ((Bool.not_eq_false _).mp happlies)
    obtain ⟨before, after, rfl⟩ := List.append_of_mem hmv
    rcases applied_of_run hrun hsucceeds with ⟨i, hholds, hprefix⟩ | ⟨b, hb⟩
    · rw [launches_eq hidle hstopped hholds] at hlaunches
      split at hlaunches
      · cases hlaunches
      · have hlength := congrArg List.length (Option.some.inj hlaunches)
        simp only [LaunchConfig.command, List.length_append, List.length_cons, List.length_nil] at hlength
        exact hprefix (List.eq_nil_of_length_eq_zero (by omega))
    · rw [hidle b] at hb
      cases hb
  · intro hmoves
    have hplain : s.Plain :=
      Run.run_induction_of (C := fun _ mv => mv.appliesTopology = false) (fun _ _ _ hs hmv h => step_plain hs hmv h)
        (initial_plain n) (Run.allSteps_of_forall hmoves) hrun
    rw [launches_eq hidle hstopped hplain.shared.holds, hplain.shared.config]
    have hdead : (s.shared.supervisors 0).alive = false := by
      by_contra halive
      rw [Bool.not_eq_false] at halive
      rw [hplain.shared.alive halive] at hstopped
      cases hstopped
    rw [hdead]
    rfl

/-- `start` and, without a topology, `stop`. -/
def startMoves (t : Fin 2) : List (Move 2) := [.request .start, .go, .go, .returned {}].map (.thread t)

def stopMoves (t : Fin 2) : List (Move 2) := [.request .stop, .go, .go, .returned {}].map (.thread t)

theorem relaunches_after_stop : ∃ s, Run.run step (initial 2 true) (startMoves 0 ++ stopMoves 0) = some s ∧
    s.launches 0 "pktlab-dpdkd" "/run/pktlab/dpdkd.sock" =
      (initial 2 true).launches 0 "pktlab-dpdkd" "/run/pktlab/dpdkd.sock" := by
  have hend : (Run.run step (initial 2 true) (startMoves 0 ++ stopMoves 0)).map (fun s =>
      decide ((∀ t, (s.pc t).isIdle = true) ∧ s.shared.runtime.started = false)) = some true := by decide +kernel
  obtain ⟨s, hrun, hs⟩ := Option.map_eq_some_iff.mp hend
  obtain ⟨hidle, hstopped⟩ := of_decide_eq_true hs
  refine ⟨s, hrun, ?_⟩
  exact (relaunches_iff hrun (by decide +kernel) (fun t => Pc.isIdle_iff.mp (hidle t)) hstopped 0 _ _).mpr
    (by decide)

/-- `stop` deletes the namespace of the topology, and the next `start` asks
for it. -/
theorem start_into_deleted_namespace :
    ¬ ∀ (n : ℕ) (s : Controller n) (moves : List (Move n)) (t : Fin n) (dpdkdBinary socketPath : String),
      Run.run step (initial n true) moves = some s →
      Run.AllSteps step (fun s mv => s.succeeds mv = true) (initial n true) moves → s.allIdle →
      s.shared.runtime.started = false →
      s.launches t dpdkdBinary socketPath = (initial n true).launches t dpdkdBinary socketPath := by
  intro h
  have hend : (Run.run step (initial 2 true) (startMoves 0 ++ applyMoves 0 ++ closeMoves 0 ++
      [.request .stop, .go, .go, .go, .go, .returned {}, .done].map (.thread 0))).map (fun s =>
      decide ((∀ t, (s.pc t).isIdle = true) ∧ s.shared.runtime.started = false ∧
        s.launches 0 "pktlab-dpdkd" "/run/pktlab/dpdkd.sock" ≠
          (initial 2 true).launches 0 "pktlab-dpdkd" "/run/pktlab/dpdkd.sock")) = some true := by decide +kernel
  obtain ⟨s, hrun, hs⟩ := Option.map_eq_some_iff.mp hend
  obtain ⟨hidle, hstopped, hne⟩ := of_decide_eq_true hs
  exact hne (h 2 s _ 0 _ _ hrun (by decide +kernel) (fun t => Pc.isIdle_iff.mp (hidle t)) hstopped)

end Controller

end Ctrld
end Pktlab
