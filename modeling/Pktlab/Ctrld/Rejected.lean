/-
# A config that is rejected

A path that does not load or does not validate makes `TopologyManager.apply`
raise before it has changed anything. The handler of `apply_topology` cannot
tell this from a failure halfway: where the manager has no topology it resets
the desired and the observed state. Right after the start of a supervising
controller the datapath is desired to run, and a rejected path ends that
(`rejected_after_start`).

Key definitions: `Controller.rejectedApply`, `Controller.Unchanged`,
`Controller.NothingToReset`.
Key theorems: `rejectedApply_shared`, `unchanged_finishApplyFailed_iff`,
`rejected_unchanged_iff`.
-/
import Pktlab.Ctrld.Agreement

namespace Pktlab
namespace Ctrld

def Pc.isIdle : Pc → Bool
  | .idle => true
  | _ => false

theorem Pc.isIdle_iff {p : Pc} : p.isIdle = true ↔ p = .idle := by
  cases p <;> simp [isIdle]

namespace Controller

variable {n : ℕ} {s s' : Controller n}

theorem step_advance {t : Fin n} {c : Choice} (h : s.step (.thread t c) = some s') :
    advance s.shared (s.pc t) c = some (s'.shared, s'.pc t) := by
  simp only [step] at h
  split at h
  · obtain ⟨⟨sh', p'⟩, hadvance, rfl⟩ := Option.map_eq_some_iff.mp h
    simpa using hadvance
  · cases h

/-- The moves of an `apply_topology` whose path the manager rejects. Where
there is a supervisor to ask, `answer` is what it answers to the handler. -/
def rejectedApply (s : Controller n) (t : Fin n) (configPath : ConfigPath) (pktlabError : Bool) (answer : Choice) :
    List (Move n) :=
  (([.request (.applyTopology configPath.1), .go, .go, .raised pktlabError, .go] : List Choice) ++
    if s.shared.statusOf.isSome then [.go, answer] else []).map (.thread t)

/-- What a rejected path is to leave alone, and the processes of the
supervisors with it. -/
structure Unchanged (s s' : Controller n) : Prop where
  desired : s'.shared.runtime.desired = s.shared.runtime.desired
  topologyApplied : s'.shared.runtime.observed.topologyApplied = s.shared.runtime.observed.topologyApplied
  effectiveDpdkConfig :
    s'.shared.runtime.observed.effectiveDpdkConfig = s.shared.runtime.observed.effectiveDpdkConfig
  current : s'.shared.current = s.shared.current
  supervisor : s'.shared.runtime.supervisor = s.shared.runtime.supervisor
  supervisors : s'.shared.supervisors = s.shared.supervisors

/-- The handler raises instead of its status. -/
def HandlerRaises (s : Controller n) (answer : Choice) : Prop :=
  s.shared.statusOf.isSome = true ∧ ∃ pktlabError, answer = .raised pktlabError

/-- **What a rejected path leaves.** -/
theorem rejectedApply_shared {t : Fin n} {configPath : ConfigPath} {pktlabError : Bool} {answer : Choice}
    (hidle : s.pc t = .idle)
    (hrun : Run.run step s (s.rejectedApply t configPath pktlabError answer) = some s') :
    s'.pc t = .idle ∧ s'.shared.current = s.shared.current ∧ s'.shared.supervisors = s.shared.supervisors ∧
      (s.HandlerRaises answer ∧ s'.shared.runtime = s.shared.runtime.openApply configPath.1 ∨
        ¬ s.HandlerRaises answer ∧ ∃ status, s'.shared.runtime =
          (s.shared.runtime.openApply configPath.1).finishApplyFailed configPath.1 s.shared.current.isSome status) := by
  unfold rejectedApply at hrun
  simp only [List.cons_append, List.nil_append, List.map_cons, Run.run_cons_eq_some] at hrun
  obtain ⟨s₁, h₁, s₂, h₂, s₃, h₃, s₄, h₄, s₅, h₅, hrun⟩ := hrun
  have hpath : (Request.applyTopology configPath.1).pc = .enter (.openApply configPath) := dif_neg configPath.2
  have ha₁ := step_advance h₁
  rw [hidle, advance, hpath] at ha₁
  obtain ⟨hshared₁, hpc₁⟩ := Prod.mk.inj (Option.some.inj ha₁)
  have ha₂ := step_advance h₂
  rw [← hpc₁, advance, Shared.begin] at ha₂
  obtain ⟨hshared₂, hpc₂⟩ := Prod.mk.inj (Option.some.inj ha₂)
  have ha₃ := step_advance h₃
  rw [← hpc₂, advance] at ha₃
  obtain ⟨hshared₃, hpc₃⟩ := Prod.mk.inj (Option.some.inj ha₃)
  have ha₄ := step_advance h₄
  rw [← hpc₃, advance] at ha₄
  obtain ⟨hshared₄, hpc₄⟩ := Prod.mk.inj (Option.some.inj ha₄)
  have ha₅ := step_advance h₅
  rw [← hpc₄, advance, Shared.begin] at ha₅
  have hshared : s₄.shared = (s.shared.setRuntime (s.shared.runtime.openApply configPath.1)) := by
    rw [← hshared₄, ← hshared₃, ← hshared₂, hshared₁]
  rw [hshared] at ha₅
  have hstatusOf : (s.shared.setRuntime (s.shared.runtime.openApply configPath.1)).statusOf = s.shared.statusOf := rfl
  cases hstatus : s.shared.statusOf with
  | none =>
    rw [hstatus] at hrun
    obtain rfl := Option.some.inj hrun
    rw [Shared.withStatus, hstatusOf, hstatus] at ha₅
    obtain ⟨hshared₅, hpc₅⟩ := Prod.mk.inj (Option.some.inj ha₅)
    rw [← hshared₅]
    refine ⟨hpc₅.symm, rfl, rfl, .inr ⟨?_, unmanagedDatapathStatus, rfl⟩⟩
    rintro ⟨hsome, -⟩
    rw [hstatus] at hsome
    cases hsome
  | some i =>
    rw [hstatus, Option.isSome_some, if_pos rfl] at hrun
    rw [Shared.withStatus, hstatusOf, hstatus] at ha₅
    obtain ⟨hshared₅, hpc₅⟩ := Prod.mk.inj (Option.some.inj ha₅)
    simp only [List.map_cons, Run.run_cons_eq_some] at hrun
    obtain ⟨s₆, h₆, s₇, h₇, hrun⟩ := hrun
    obtain rfl := Option.some.inj hrun
    have ha₆ := step_advance h₆
    rw [← hpc₅, advance] at ha₆
    obtain ⟨hshared₆, hpc₆⟩ := Prod.mk.inj (Option.some.inj ha₆)
    have ha₇ := step_advance h₇
    rw [← hpc₆] at ha₇
    cases answer with
    | returned status =>
      rw [advance] at ha₇
      obtain ⟨hshared₇, hpc₇⟩ := Prod.mk.inj (Option.some.inj ha₇)
      rw [← hshared₇, ← hshared₆, ← hshared₅]
      refine ⟨hpc₇.symm, rfl, ?_, .inr ⟨?_, status, rfl⟩⟩
      · exact Function.update_eq_self i s.shared.supervisors
      · rintro ⟨-, b, hb⟩
        cases hb
    | raised b =>
      rw [advance] at ha₇
      obtain ⟨hshared₇, hpc₇⟩ := Prod.mk.inj (Option.some.inj ha₇)
      rw [← hshared₇, ← hshared₆, ← hshared₅]
      refine ⟨hpc₇.symm, rfl, ?_, .inl ⟨⟨?_, b, rfl⟩, rfl⟩⟩
      · exact Function.update_eq_self i s.shared.supervisors
      · rw [hstatus]
        rfl
    | _ => cases ha₇

/-- The manager has no topology, and the handler resets to what is there. -/
structure NothingToReset (s : Controller n) : Prop where
  desired : s.shared.runtime.desired = s.shared.runtime.desiredStateWithoutTopology
  topologyApplied : s.shared.runtime.observed.topologyApplied = false
  effectiveDpdkConfig : s.shared.runtime.observed.effectiveDpdkConfig = none

/-- The handler keeps what it finds where the manager has a topology, and
resets it where it has none. -/
theorem unchanged_finishApplyFailed_iff {configPath : String} {status : DatapathProcessStatus}
    (hcurrent : s'.shared.current = s.shared.current) (hsupervisors : s'.shared.supervisors = s.shared.supervisors)
    (hruntime : s'.shared.runtime =
      (s.shared.runtime.openApply configPath).finishApplyFailed configPath s.shared.current.isSome status) :
    s.Unchanged s' ↔ s.shared.current.isSome = true ∨ s.NothingToReset := by
  unfold Runtime.finishApplyFailed at hruntime
  obtain ⟨state, message, hreport, -⟩ := Runtime.recomputeControllerHealth_reports _ status
  rw [hreport] at hruntime
  cases hsome : s.shared.current.isSome with
  | true =>
    rw [hsome, if_pos rfl] at hruntime
    refine iff_of_true ?_ (.inl rfl)
    constructor
    case current => exact hcurrent
    case supervisors => exact hsupervisors
    all_goals
      rw [hruntime]
      rfl
  | false =>
    rw [hsome, if_neg Bool.false_ne_true] at hruntime
    constructor
    · intro h
      refine .inr ⟨h.desired.symm.trans ?_, h.topologyApplied.symm.trans ?_, h.effectiveDpdkConfig.symm.trans ?_⟩
      all_goals
        rw [hruntime]
        rfl
    · rintro (h | h)
      · cases h
      · constructor
        case desired =>
          rw [h.desired, hruntime]
          rfl
        case topologyApplied =>
          rw [h.topologyApplied, hruntime]
          rfl
        case effectiveDpdkConfig =>
          rw [h.effectiveDpdkConfig, hruntime]
          rfl
        case current => exact hcurrent
        case supervisor =>
          rw [hruntime]
          rfl
        case supervisors => exact hsupervisors

/-- **A rejected path changes nothing** but the message, the host included, if
and only if the manager has a topology, the handler raises before it writes,
or there is nothing to reset. This holds of every state that any run can lead
to. -/
theorem rejected_unchanged_iff {m : Manager} {lab : Lab} {t : Fin n} {configPath : ConfigPath} {e : TopologyError}
    {pktlabError : Bool} {answer : Choice} (hidle : s.pc t = .idle)
    (hrejected : m.loadValidated configPath.1 = .error e)
    (hrun : Run.run step s (s.rejectedApply t configPath pktlabError answer) = some s') :
    s.Unchanged s' ∧ (m.apply configPath.1 lab).2 = lab ↔
      s.shared.current.isSome = true ∨ s.HandlerRaises answer ∨ s.NothingToReset := by
  have hhost : (m.apply configPath.1 lab).2 = lab := by
    unfold Manager.apply
    rw [hrejected]
    rfl
  rw [and_iff_left hhost]
  obtain ⟨-, hcurrent, hsupervisors, ⟨hraises, hruntime⟩ | ⟨hraises, status, hruntime⟩⟩ :=
    rejectedApply_shared hidle hrun
  · refine iff_of_true ?_ (.inr (.inl hraises))
    constructor
    case current => exact hcurrent
    case supervisors => exact hsupervisors
    all_goals
      rw [hruntime]
      rfl
  · rw [unchanged_finishApplyFailed_iff hcurrent hsupervisors hruntime]
    exact or_congr_right (or_iff_right hraises).symm

/-- The status of a datapath that is ready. -/
def readyStatus : DatapathProcessStatus :=
  { pid := some 71, running := true, reachable := true, health := some ⟨.running, "datapath running", 0⟩ }

theorem missing_not_blank : ¬ blank "missing.yaml" := by decide

def missingPath : ConfigPath := ⟨"missing.yaml", missing_not_blank⟩

/-- A path that does not load keeps what an earlier `apply` has made. -/
theorem rejected_over_topology :
    ∃ s s' : Controller 2, Run.run step started (applyMoves 0 ++ closeMoves 0) = some s ∧ s.Unchanged s' ∧
      ((obligingManager.reading (.error (.other "missing.yaml"))).apply missingPath.1 (Lab.initial bareHost)).2 =
        Lab.initial bareHost := by
  have hend : ((Run.run step started (applyMoves 0 ++ closeMoves 0)).bind fun s =>
      (Run.run step s (s.rejectedApply 0 missingPath true (.returned readyStatus))).map fun _ =>
        decide ((s.pc 0).isIdle = true ∧ s.shared.current.isSome = true)) = some true := by decide +kernel
  obtain ⟨s, hrun, hend⟩ := Option.bind_eq_some_iff.mp hend
  obtain ⟨s', hrejected, hs⟩ := Option.map_eq_some_iff.mp hend
  obtain ⟨hidle, hcurrent⟩ := of_decide_eq_true hs
  obtain ⟨hunchanged, hlab⟩ :=
    (rejected_unchanged_iff (Pc.isIdle_iff.mp hidle)
      (m := obligingManager.reading (.error (.other "missing.yaml"))) rfl hrejected).mpr (.inl hcurrent)
  exact ⟨s, s', hrun, hunchanged, hlab⟩

/-- **Right after the start** a rejected path ends that the datapath is
desired to run. -/
theorem rejected_after_start :
    ¬ ∀ (n : ℕ) (s s' : Controller n) (moves : List (Move n)) (t : Fin n) (configPath : ConfigPath)
      (pktlabError : Bool) (answer : Choice), Run.run step (initial n true) moves = some s → s.pc t = .idle →
      Run.run step s (s.rejectedApply t configPath pktlabError answer) = some s' → s.Unchanged s' := by
  intro h
  have hend : ((Run.run step (initial 1 true) ([.request .start, .go, .go, .returned readyStatus].map (.thread 0))).bind
      fun s => (Run.run step s (s.rejectedApply 0 missingPath true (.returned readyStatus))).map fun s' =>
        decide ((s.pc 0).isIdle = true ∧ s.shared.runtime.desired.desiredDatapathRunning = true ∧
          s'.shared.runtime.desired.desiredDatapathRunning = false)) = some true := by decide +kernel
  obtain ⟨s, hrun, hend⟩ := Option.bind_eq_some_iff.mp hend
  obtain ⟨s', hrejected, hs⟩ := Option.map_eq_some_iff.mp hend
  obtain ⟨hidle, hbefore, hafter⟩ := of_decide_eq_true hs
  have hunchanged := h 1 s s' _ 0 _ true _ hrun (Pc.isIdle_iff.mp hidle) hrejected
  rw [hunchanged.desired, hbefore] at hafter
  cases hafter

end Controller
end Ctrld
end Pktlab
