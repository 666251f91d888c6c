/-
# When the status is reported

`_status_locked` asks a process that runs for `ping`, `health` and `version`
and turns a `DatapathTransportError` into a status that is not reachable. What
else these calls raise, and an error reply of the daemon, goes through to the
caller, and so does a stderr that cannot be decoded: `status` returns if and
only if `DpdkdSupervisor.Answers` holds of its state and of what the
surroundings answer (`status_returns_iff`).

The exception handlers of `apply_topology` and `destroy_topology` ask for the
status before they raise again. Where `status` raises, its exception takes the
place of the first one (`reraise_fst`).

Key definitions: `DpdkdSupervisor.readiness`, `DpdkdSupervisor.Answers`,
`DpdkdSupervisor.Reached`, `currentDatapathStatusLocked`, `healthSnapshot`,
`exceptApply`, `exceptDestroy`.
Key theorems: `refreshIpcState_fst`, `status_returns_iff`, `status_eq_ok`,
`reraise_fst`, `status_total_iff`.
-/
import Pktlab.Ctrld.DpdkdSupervisor

namespace Pktlab
namespace Ctrld

open Eff Effect

/-- The process runs and answers. -/
def DatapathProcessStatus.live (status : DatapathProcessStatus) : Bool := status.running && status.reachable

/-! ### The readiness calls -/

/-- The call gets its payload. -/
def Answer.succeeds {α : Type} : Answer α → Bool
  | .ok (.ok _) => true
  | _ => false

/-- The call fails in transport. -/
def Answer.unreachable {α : Type} : Answer α → Bool
  | .error (.transport _) => true
  | _ => false

/-- What `require` makes of an answer. -/
def Answer.result {α : Type} (what : String) : Answer α → Except SupervisorError α
  | .ok (.ok payload) => .ok payload
  | .ok (.error error) =>
    let code := error.code.value
    let message := error.message
    .error (.processExecution s!"datapath {what} failed: {code}: {message}")
  | .error e => .error e

/-- A call succeeds, fails in transport or ends in another error. -/
theorem Answer.result_cases {α : Type} (what : String) (answer : Answer α) :
    (∃ payload, answer.result what = .ok payload ∧ answer.succeeds = true ∧ answer.unreachable = false) ∨
    (∃ message, answer.result what = .error (.transport message) ∧ answer.succeeds = false ∧
      answer.unreachable = true) ∨
    ∃ e, answer.result what = .error e ∧ (∀ message, e ≠ .transport message) ∧ answer.succeeds = false ∧
      answer.unreachable = false := by
  rcases answer with e | (error | payload)
  · cases e with
    | transport message => exact .inr (.inl ⟨message, rfl, rfl, rfl⟩)
    | _ => exact .inr (.inr ⟨_, rfl, by simp, rfl, rfl⟩)
  · exact .inr (.inr ⟨_, rfl, by simp, rfl, rfl⟩)
  · exact .inl ⟨payload, rfl, rfl, rfl⟩

theorem Answer.returns_result {α : Type} (what : String) (answer : Answer α) :
    Ctrld.Returns (answer.result what) ↔ answer.succeeds = true := by
  rcases answer.result_cases what with ⟨payload, hok, hsucceeds, -⟩ | ⟨_, herror, hfails, -⟩ | ⟨_, herror, -, hfails, -⟩
  · exact iff_of_true ⟨payload, hok⟩ hsucceeds
  · rw [herror, hfails]
    exact iff_of_false (not_returns_error _) Bool.false_ne_true
  · rw [herror, hfails]
    exact iff_of_false (not_returns_error _) Bool.false_ne_true

namespace DpdkdSupervisor

variable {env : ℕ → Moment} {i : ℕ} {s : DpdkdSupervisor}

/-- What the three readiness calls come to, from moment `t` on. -/
def readiness (env : ℕ → Moment) (t : ℕ) : Except SupervisorError (HealthStateModel × VersionPayload) := do
  let _ ← (env t).ping.result "readiness ping"
  let health ← (env (t + 1)).health.result "health check"
  let version ← (env (t + 2)).version.result "version check"
  pure (health, version)

/-- All three of them succeed. -/
def Succeeds (env : ℕ → Moment) (t : ℕ) : Prop :=
  (env t).ping.succeeds = true ∧ (env (t + 1)).health.succeeds = true ∧ (env (t + 2)).version.succeeds = true

/-- The first of them that does not succeed, if any, fails in transport. -/
def Handled (env : ℕ → Moment) (t : ℕ) : Prop :=
  (env t).ping.unreachable = true ∨ (env t).ping.succeeds = true ∧
    ((env (t + 1)).health.unreachable = true ∨ (env (t + 1)).health.succeeds = true ∧
      ((env (t + 2)).version.unreachable = true ∨ (env (t + 2)).version.succeeds = true))

instance (env : ℕ → Moment) (t : ℕ) : Decidable (Handled env t) := inferInstanceAs (Decidable (_ ∨ _))

theorem require_ok {α : Type} {what : String} {answer : Answer α} {payload : α} (h : answer.result what = .ok payload)
    (s : DpdkdSupervisor) : require what answer s = (.ok payload, s) := by
  rcases answer with e | (error | payload)
  · cases h
  · cases h
  · cases h
    rfl

theorem require_error {α : Type} {what : String} {answer : Answer α} {e : SupervisorError}
    (h : answer.result what = .error e) (s : DpdkdSupervisor) : (require what answer s).1 = .error e := by
  rcases answer with e | (error | payload)
  · cases h
    rfl
  · cases h
    rfl
  · cases h

/-- A part that raises ends the whole. -/
theorem bind_error {α β : Type} {m : Act α} {f : α → Act β} {s : DpdkdSupervisor} {e : SupervisorError}
    (h : (m s).1 = .error e) : ((m >>= f) s).1 = .error e := by
  rw [bind_apply]
  rcases hm : m s with ⟨e' | a, s'⟩
  · rw [hm] at h
    obtain rfl := Except.error.inj h
    rfl
  · rw [hm] at h
    cases h

theorem refreshIpcState_fst (hclient : s.client = true) :
    (refreshIpcState env i s).1 = (readiness env s.clock).map fun payloads =>
      { pid := some (s.child i).pid
        running := true
        reachable := true
        version := some payloads.2
        health := some payloads.1 } := by
  have hrequired : requireClient s = (.ok (), s) := by
    simp only [requireClient, bind_apply, Eff.get, hclient, if_true]
    rfl
  have hmoment : ∀ s : DpdkdSupervisor, moment env s = (.ok (env s.clock), { s with clock := s.clock + 1 }) :=
    fun _ => rfl
  unfold refreshIpcState readiness
  rw [bind_apply, hrequired]
  show ((moment env >>= _) s).1 = _
  rw [bind_apply, hmoment]
  show ((require "readiness ping" (env s.clock).ping >>= _) _).1 = _
  cases hping : (env s.clock).ping.result "readiness ping" with
  | error e => exact bind_error (require_error hping _)
  | ok pong =>
    rw [bind_apply, require_ok hping]
    show ((moment env >>= _) _).1 = _
    rw [bind_apply, hmoment]
    show ((require "health check" (env (s.clock + 1)).health >>= _) _).1 = _
    cases hhealth : (env (s.clock + 1)).health.result "health check" with
    | error e => exact bind_error (require_error hhealth _)
    | ok health =>
      rw [bind_apply, require_ok hhealth]
      show ((moment env >>= _) _).1 = _
      rw [bind_apply, hmoment]
      show ((require "version check" (env (s.clock + 2)).version >>= _) _).1 = _
      cases hversion : (env (s.clock + 2)).version.result "version check" with
      | error e => exact bind_error (require_error hversion _)
      | ok version =>
        rw [bind_apply, require_ok hversion]
        rfl

/-- The readiness calls come to their payloads if and only if all succeed. -/
theorem readiness_returns_iff {t : ℕ} : Ctrld.Returns (readiness env t) ↔ Succeeds env t := by
  have hversion : ∀ health, Ctrld.Returns (do
      let version ← (env (t + 2)).version.result "version check"
      pure ((health, version) : HealthStateModel × VersionPayload)) ↔ (env (t + 2)).version.succeeds = true := by
    intro health
    refine (returns_bind_const fun version => iff_true_intro (returns_ok (health, version))).trans ?_
    rw [and_true, Answer.returns_result]
  have hhealth : Ctrld.Returns (do
      let health ← (env (t + 1)).health.result "health check"
      let version ← (env (t + 2)).version.result "version check"
      pure ((health, version) : HealthStateModel × VersionPayload)) ↔
      (env (t + 1)).health.succeeds = true ∧ (env (t + 2)).version.succeeds = true := by
    rw [returns_bind_const hversion, Answer.returns_result]
  unfold readiness
  rw [returns_bind_const fun _ => hhealth, Answer.returns_result]
  rfl

theorem handled_iff {t : ℕ} : Handled env t ↔
    (∃ payloads, readiness env t = .ok payloads) ∨ ∃ message, readiness env t = .error (.transport message) := by
  unfold Handled readiness
  rcases (env t).ping.result_cases "readiness ping" with
    ⟨pong, hping, hs₁, hu₁⟩ | ⟨message, hping, hs₁, hu₁⟩ | ⟨e, hping, he, hs₁, hu₁⟩
  · rcases (env (t + 1)).health.result_cases "health check" with
      ⟨health, hhealth, hs₂, hu₂⟩ | ⟨message, hhealth, hs₂, hu₂⟩ | ⟨e, hhealth, he, hs₂, hu₂⟩
    · rcases (env (t + 2)).version.result_cases "version check" with
        ⟨version, hversion, hs₃, hu₃⟩ | ⟨message, hversion, hs₃, hu₃⟩ | ⟨e, hversion, he, hs₃, hu₃⟩
      · simp [hping, hhealth, hversion, hs₁, hs₂, hs₃, bind, Except.bind, pure, Except.pure]
      · simp [hping, hhealth, hversion, hs₁, hs₂, hu₃, bind, Except.bind]
      · simp [hping, hhealth, hversion, hs₃, hu₁, hu₂, hu₃, he, bind, Except.bind]
    · simp [hping, hhealth, hs₁, hu₂, bind, Except.bind]
    · simp [hping, hhealth, hs₂, hu₁, hu₂, he, bind, Except.bind]
  · simp [hping, hu₁, bind, Except.bind]
  · simp [hping, hs₁, hu₁, he, bind, Except.bind]

/-- `status` returns: there is no process; or it has ended and its stderr is
closed already or can be decoded; or it runs, there is a client, and the
readiness calls end as they should. -/
def Answers (s : DpdkdSupervisor) (env : ℕ → Moment) : Prop :=
  ∀ i ∈ s.process,
    if ((s.child i).seen (env s.clock)).exitCode.isSome then
      (s.child i).stderrClosed = true ∨ (env (s.clock + 1)).stderr.isSome = true
    else s.client = true ∧ Handled env (s.clock + 1)

instance (s : DpdkdSupervisor) (env : ℕ → Moment) : Decidable (s.Answers env) :=
  inferInstanceAs (Decidable (∀ i ∈ s.process, _))

theorem consumeStderr_returns_iff :
    Eff.Returns (consumeStderr env i) s ↔ (s.child i).stderrClosed = true ∨ (env s.clock).stderr.isSome = true := by
  unfold Eff.Returns consumeStderr
  simp only [bind_apply, Eff.get]
  by_cases hclosed : (s.child i).stderrClosed = true
  · rw [if_pos hclosed]
    exact iff_of_true ⟨"", s, rfl⟩ (.inl hclosed)
  · rw [if_neg hclosed]
    simp only [bind_apply, moment, Eff.modify]
    cases hstderr : (env s.clock).stderr with
    | some content => exact iff_of_true ⟨_, _, rfl⟩ (.inr rfl)
    | none =>
      refine iff_of_false ?_ ?_
      · rintro ⟨a, s', h⟩
        cases h
      · rintro (h | h)
        · exact hclosed h
        · cases h

/-- With a handler that returns, only a failure in transport is turned into a
result. -/
theorem exceptTransport_returns_iff {α : Type} {op : Act α} {handler : String → Act α}
    (hhandler : ∀ message s, Eff.Returns (handler message) s) :
    Eff.Returns (exceptTransport op handler) s ↔
      (∃ a, (op s).1 = .ok a) ∨ ∃ message, (op s).1 = .error (.transport message) := by
  unfold exceptTransport
  rw [returns_tryCatch]
  unfold Eff.Returns
  rcases hop : op s with ⟨e | a, s'⟩
  · constructor
    · rintro (⟨a, t, h⟩ | ⟨e', t, h, hreturns⟩)
      · cases h
      · cases h
        cases e with
        | transport message => exact .inr ⟨message, rfl⟩
        | _ => exact absurd hreturns (not_returns_throw _ _)
    · rintro (⟨a, h⟩ | ⟨message, h⟩)
      · cases h
      · obtain rfl := Except.error.inj h
        exact .inr ⟨_, s', rfl, hhandler message s'⟩
  · exact iff_of_true (.inl ⟨a, s', rfl⟩) (.inl ⟨a, rfl⟩)

/-- The status that is reported of a process that cannot be reached. -/
def unreachableStatus (i : ℕ) (message : String) : Act SupervisorStatus := do
  Eff.modify fun s => { s with lastError := some message }
  let s ← Eff.get
  pure
    { pid := some (s.child i).pid
      running := true
      lastError := s.lastError
      version := s.lastVersion
      health := s.lastHealth }

/-- The status that is reported of a process that has ended. -/
def reportEnded (exitCode : ℤ) (stderr : String) : Act SupervisorStatus := do
  Eff.modify fun s =>
    { s with
      lastExitCode := some exitCode
      lastError := some (orDefault (some stderr) (orDefault s.lastError "datapath process exited unexpectedly"))
      process := none
      client := false }
  let s ← Eff.get
  pure s.endedStatus

/-- The supervisor once it has looked at child `i`. -/
def polled (s : DpdkdSupervisor) (env : ℕ → Moment) (i : ℕ) : DpdkdSupervisor :=
  { s.updateChild i ((s.child i).seen (env s.clock)) with clock := s.clock + 1 }

/-- `status` without a process. -/
theorem status_none (hprocess : s.process = none) : status env s = (.ok s.endedStatus, s) := by
  simp only [status, statusLocked, bind_apply, Eff.get, hprocess]
  rfl

/-- `status` of a process that has ended. -/
theorem status_ended {exitCode : ℤ} (hprocess : s.process = some i)
    (hended : ((s.child i).seen (env s.clock)).exitCode = some exitCode) :
    status env s = (consumeStderr env i >>= reportEnded exitCode) (s.polled env i) := by
  unfold status statusLocked
  simp only [bind_apply, Eff.get, hprocess, poll_apply, hended]
  rfl

/-- `status` of a process that runs. -/
theorem status_running (hprocess : s.process = some i)
    (hrunning : ((s.child i).seen (env s.clock)).exitCode = none) :
    status env s = exceptTransport (refreshIpcState env i) (unreachableStatus i) (s.polled env i) := by
  unfold status statusLocked
  simp only [bind_apply, Eff.get, hprocess, poll_apply, hrunning]
  rfl

/-- A client is needed to ask at all. -/
theorem refreshIpcState_without_client (hclient : s.client = false) :
    (refreshIpcState env i s).1 = .error (.processExecution "datapath client is not initialized") := by
  refine bind_error ?_
  simp [requireClient, bind_apply, Eff.get, hclient, Eff.throw]

theorem answers_none (hprocess : s.process = none) : s.Answers env := by
  intro i hi
  rw [hprocess] at hi
  cases hi

theorem answers_ended {exitCode : ℤ} (hprocess : s.process = some i)
    (hended : ((s.child i).seen (env s.clock)).exitCode = some exitCode) :
    s.Answers env ↔ (s.child i).stderrClosed = true ∨ (env (s.clock + 1)).stderr.isSome = true := by
  simp [Answers, hprocess, hended]

theorem answers_running (hprocess : s.process = some i)
    (hrunning : ((s.child i).seen (env s.clock)).exitCode = none) :
    s.Answers env ↔ s.client = true ∧ Handled env (s.clock + 1) := by
  simp [Answers, hprocess, hrunning]

theorem status_returns_iff : Eff.Returns (status env) s ↔ s.Answers env := by
  cases hprocess : s.process with
  | none => exact iff_of_true ⟨_, _, status_none hprocess⟩ (answers_none hprocess)
  | some i =>
    have hreturns : ∀ {m : Act SupervisorStatus} {s' : DpdkdSupervisor}, status env s = m s' →
        (Eff.Returns (status env) s ↔ Eff.Returns m s') := by
      intro m s' h
      unfold Eff.Returns
      rw [h]
    cases hexit : ((s.child i).seen (env s.clock)).exitCode with
    | some code =>
      have hclosed : ((s.polled env i).child i).stderrClosed = (s.child i).stderrClosed := by
        simp [polled, updateChild, Child.seen]
      rw [hreturns (status_ended hprocess hexit), Eff.returns_bind, answers_ended hprocess hexit]
      show _ ↔ (s.child i).stderrClosed = true ∨ (env (s.polled env i).clock).stderr.isSome = true
      rw [← hclosed, ← consumeStderr_returns_iff]
      constructor
      · rintro ⟨stderr, s', hconsume, -⟩
        exact ⟨stderr, s', hconsume⟩
      · rintro ⟨stderr, s', hconsume⟩
        exact ⟨stderr, s', hconsume, _, _, rfl⟩
    | none =>
      have hhandler : ∀ message s', Eff.Returns (unreachableStatus i message) s' := fun _ _ => ⟨_, _, rfl⟩
      rw [hreturns (status_running hprocess hexit), exceptTransport_returns_iff hhandler,
        answers_running hprocess hexit]
      by_cases hclient : (s.polled env i).client = true
      · rw [refreshIpcState_fst hclient]
        show _ ↔ (s.polled env i).client = true ∧ Handled env (s.polled env i).clock
        rw [and_iff_right hclient, handled_iff]
        cases readiness env (s.polled env i).clock with
        | error e => simp [Except.map]
        | ok payloads => simp [Except.map]
      · rw [refreshIpcState_without_client (by simpa using hclient)]
        refine iff_of_false ?_ fun h => hclient h.1
        rintro (⟨st, h⟩ | ⟨message, h⟩)
        · cases h
        · cases h

theorem exceptTransport_eq_ok {α : Type} {op : Act α} {handler : String → Act α} {a : α} {s' : DpdkdSupervisor}
    (h : exceptTransport op handler s = (.ok a, s')) :
    op s = (.ok a, s') ∨ ∃ message t, op s = (.error (.transport message), t) ∧ handler message t = (.ok a, s') := by
  unfold exceptTransport at h
  rw [tryCatch_apply] at h
  rcases hop : op s with ⟨e | b, t⟩
  · rw [hop] at h
    cases e with
    | transport message => exact .inr ⟨message, t, rfl, h⟩
    | _ => cases h
  · rw [hop] at h
    exact .inl h

/-- The process runs and all three readiness calls succeed. -/
def Reached (s : DpdkdSupervisor) (env : ℕ → Moment) : Prop :=
  ∃ i ∈ s.process, ((s.child i).seen (env s.clock)).exitCode = none ∧ s.client = true ∧ Succeeds env (s.clock + 1)

theorem reached_iff (hprocess : s.process = some i) : s.Reached env ↔
    ((s.child i).seen (env s.clock)).exitCode = none ∧ s.client = true ∧ Succeeds env (s.clock + 1) := by
  simp [Reached, hprocess]

/-- Until all readiness calls have succeeded, the health that is remembered
stays. -/
theorem refreshIpcState_triple (health : Option HealthStateModel) :
    Triple (fun s => s.lastHealth = health) (refreshIpcState env i)
      (fun st _ => st.toDatapathProcessStatus.live = true) fun _ s => s.lastHealth = health := by
  have hmoment : Preserves (fun s => s.lastHealth = health) (moment env) := fun _ h => h
  have hrequire : ∀ {α : Type} {what : String} (answer : Answer α),
      Preserves (fun s => s.lastHealth = health) (require what answer) :=
    fun answer => preserves_require (fun s _ h => h) answer
  refine triple_bind preserves_requireClient fun _ => ?_
  refine triple_bind hmoment fun m₁ => triple_bind (hrequire m₁.ping) fun _ => ?_
  refine triple_bind hmoment fun m₂ => triple_bind (hrequire m₂.health) fun health => ?_
  refine triple_bind hmoment fun m₃ => triple_bind (hrequire m₃.version) fun version => ?_
  refine triple_bind (triple_modify (Q := fun _ _ => True) fun _ _ => trivial) fun _ => ?_
  exact triple_bind triple_get fun s => triple_pure _ fun _ _ => rfl

theorem refreshIpcState_live :
    Yields (fun st => st.toDatapathProcessStatus.live = true) (refreshIpcState env i) := by
  intro s st s' h
  have hrefresh := @refreshIpcState_triple env i s.lastHealth s rfl
  rw [h] at hrefresh
  exact hrefresh

theorem consumeStderr_lastHealth (health : Option HealthStateModel) :
    Preserves (fun s => s.lastHealth = health) (consumeStderr env i) := by
  refine preserves_bind preserves_get fun s => ?_
  split
  · exact preserves_pure _
  · refine preserves_bind (fun _ h => h) fun m => preserves_bind (preserves_modify fun s h => h) fun _ => ?_
    split
    · exact preserves_pure _
    · exact preserves_throw _

/-- **A status that is returned** is live, of a process that has been reached, or
has the health that was remembered. -/
theorem status_eq_ok {st : SupervisorStatus} {s' : DpdkdSupervisor} (h : status env s = (.ok st, s')) :
    s.Reached env ∧ st.toDatapathProcessStatus.live = true ∨
      ¬ s.Reached env ∧ st.reachable = false ∧ st.health = s.lastHealth := by
  cases hprocess : s.process with
  | none =>
    rw [status_none hprocess] at h
    cases h
    refine .inr ⟨?_, rfl, rfl⟩
    rintro ⟨i, hi, -⟩
    rw [hprocess] at hi
    cases hi
  | some i =>
    have hpolled : (s.polled env i).lastHealth = s.lastHealth := rfl
    cases hexit : ((s.child i).seen (env s.clock)).exitCode with
    | some code =>
      rw [status_ended hprocess hexit] at h
      obtain ⟨stderr, t, hconsume, hreport⟩ := Eff.bind_eq_ok.mp h
      cases hreport
      refine .inr ⟨?_, rfl, (consumeStderr_lastHealth s.lastHealth).ok hpolled hconsume⟩
      rw [reached_iff hprocess, hexit]
      rintro ⟨hnone, -⟩
      cases hnone
    | none =>
      have hanswers := (answers_running hprocess hexit).mp (status_returns_iff.mp ⟨st, s', h⟩)
      have hclient : (s.polled env i).client = true := hanswers.1
      have hfst : (refreshIpcState env i (s.polled env i)).1 = (readiness env (s.clock + 1)).map _ :=
        refreshIpcState_fst hclient
      rw [reached_iff hprocess, and_iff_right hexit, and_iff_right hanswers.1, ← readiness_returns_iff]
      rw [status_running hprocess hexit] at h
      rcases exceptTransport_eq_ok h with hok | ⟨message, t, herror, hunreachable⟩
      · refine .inl ⟨?_, refreshIpcState_live (s.polled env i) st s' hok⟩
        rw [hok] at hfst
        cases hreadiness : readiness env (s.clock + 1) with
        | error e =>
          rw [hreadiness] at hfst
          cases hfst
        | ok payloads => exact returns_ok payloads
      · have hrefresh := @refreshIpcState_triple env i s.lastHealth (s.polled env i) hpolled
        rw [herror] at hrefresh hfst
        cases hunreachable
        refine .inr ⟨?_, rfl, hrefresh⟩
        rintro ⟨payloads, hreadiness⟩
        rw [hreadiness] at hfst
        cases hfst

/-- A status that is reachable has seen all three calls succeed. -/
theorem status_reachable {st : SupervisorStatus} {s' : DpdkdSupervisor} (h : status env s = (.ok st, s'))
    (hreachable : st.reachable = true) : Succeeds env (s.clock + 1) := by
  rcases status_eq_ok h with ⟨⟨i, -, -, -, hsucceeds⟩, -⟩ | ⟨-, hunreachable, -⟩
  · exact hsucceeds
  · rw [hreachable] at hunreachable
    cases hunreachable

end DpdkdSupervisor

/-! ### What depends on the status -/

/-- What a method of the controller raises. -/
inductive ControllerError
  | supervisor (e : SupervisorError)
  | manager (e : TopologyError)

/-- `ControllerHealthSnapshot`, with what is not constant in it. -/
structure ControllerHealthSnapshot where
  controllerState : ControllerState
  controllerMessage : String
  desiredState : DesiredState
  observedState : ObservedState
  datapathStatus : DatapathProcessStatus

/-- A section of the controller, with the supervisor it holds. -/
abbrev Section (α : Type) := Eff ControllerError (Runtime × DpdkdSupervisor) α

section Sections

variable (env : ℕ → Moment)

/-- `_current_datapath_status_locked`. -/
def currentDatapathStatusLocked : Section DatapathProcessStatus := fun x =>
  if x.1.started ∧ x.1.supervisor.isSome then
    match DpdkdSupervisor.status env x.2 with
    | (.ok status, s') => (.ok status.toDatapathProcessStatus, (x.1, s'))
    | (.error e, s') => (.error (.supervisor e), (x.1, s'))
  else (.ok unmanagedDatapathStatus, x)

/-- Write the runtime. -/
def modifyRuntime (f : Runtime → Runtime) : Section Unit := Eff.modify fun x => (f x.1, x.2)

/-- `health_snapshot`. -/
def healthSnapshot : Section ControllerHealthSnapshot := do
  let status ← currentDatapathStatusLocked env
  modifyRuntime fun r => if r.started ∧ r.supervisor.isSome then r.finishObserved status else r
  let x ← Eff.get
  pure
    { controllerState := x.1.controllerState
      controllerMessage := x.1.controllerMessage
      desiredState := x.1.desired
      observedState := x.1.observed
      datapathStatus := status }

/-- `except Exception: …; raise` for `e`: ask for the status, write the
runtime, raise again. -/
def reraise (write : DatapathProcessStatus → Runtime → Runtime) (e : ControllerError) : Section Unit := do
  let status ← currentDatapathStatusLocked env
  modifyRuntime (write status)
  Eff.throw e

/-- The handler of `apply_topology`; `hasAppliedTopology` is read from the
manager. -/
def exceptApply (configPath : String) (hasAppliedTopology : Bool) : ControllerError → Section Unit :=
  reraise env fun status r => r.finishApplyFailed configPath hasAppliedTopology status

/-- The handler of `destroy_topology`. -/
def exceptDestroy : ControllerError → Section Unit := reraise env fun status r => r.finishDestroyFailed status

end Sections

section Consequences

variable {env : ℕ → Moment} {r : Runtime} {s : DpdkdSupervisor}

/-- The status is there for a section if the supervisor answers or is not
asked. -/
theorem currentDatapathStatusLocked_returns_iff : Eff.Returns (currentDatapathStatusLocked env) (r, s) ↔
    (r.started = true ∧ r.supervisor.isSome = true → s.Answers env) := by
  unfold Eff.Returns currentDatapathStatusLocked
  by_cases hasked : r.started = true ∧ r.supervisor.isSome = true
  · simp only [forall_const, hasked, and_self]
    rw [← DpdkdSupervisor.status_returns_iff]
    unfold Eff.Returns
    rcases DpdkdSupervisor.status env s with ⟨e | status, s'⟩
    · simp
    · simp
  · rw [if_neg hasked]
    exact iff_of_true ⟨_, _, rfl⟩ fun h => absurd h hasked

theorem healthSnapshot_returns_iff :
    Eff.Returns (healthSnapshot env) (r, s) ↔ Eff.Returns (currentDatapathStatusLocked env) (r, s) := by
  unfold healthSnapshot
  rw [Eff.returns_bind]
  constructor
  · rintro ⟨status, x, hstatus, -⟩
    exact ⟨status, x, hstatus⟩
  · rintro ⟨status, x, hstatus⟩
    exact ⟨status, x, hstatus, _, _, rfl⟩

/-- **A handler raises what it handles** if it gets a status, and what the
status raises otherwise. -/
theorem reraise_fst (write : DatapathProcessStatus → Runtime → Runtime) (e : ControllerError)
    (x : Runtime × DpdkdSupervisor) : (reraise env write e x).1 =
      match (currentDatapathStatusLocked env x).1 with
      | .ok _ => .error e
      | .error e' => .error e' := by
  unfold reraise
  rw [Eff.bind_apply]
  rcases currentDatapathStatusLocked env x with ⟨e' | status, x'⟩
  · rfl
  · rfl

theorem reraise_of_returns {write : DatapathProcessStatus → Runtime → Runtime} {e : ControllerError}
    (h : Eff.Returns (currentDatapathStatusLocked env) (r, s)) : (reraise env write e (r, s)).1 = .error e := by
  obtain ⟨status, x, hstatus⟩ := h
  rw [reraise_fst, hstatus]

/-- **Status reporting is total** for a supervisor and its surroundings if and
only if the supervisor answers: `status` returns, reachable only after three
calls that succeeded, `health_snapshot` returns, and the handlers raise what
they handle. -/
theorem status_total_iff (env : ℕ → Moment) (s : DpdkdSupervisor) :
    Eff.Returns (DpdkdSupervisor.status env) s ∧
      (∀ status s', DpdkdSupervisor.status env s = (.ok status, s') → status.reachable = true →
        DpdkdSupervisor.Succeeds env (s.clock + 1)) ∧
      (∀ r, Eff.Returns (healthSnapshot env) (r, s)) ∧
      (∀ r configPath hasAppliedTopology e, (exceptApply env configPath hasAppliedTopology e (r, s)).1 = .error e) ∧
      (∀ r e, (exceptDestroy env e (r, s)).1 = .error e) ↔
    s.Answers env := by
  constructor
  · rintro ⟨hreturns, -⟩
    exact DpdkdSupervisor.status_returns_iff.mp hreturns
  · intro hanswers
    have hcurrent : ∀ r, Eff.Returns (currentDatapathStatusLocked env) (r, s) := fun _ =>
      currentDatapathStatusLocked_returns_iff.mpr fun _ => hanswers
    refine ⟨DpdkdSupervisor.status_returns_iff.mpr hanswers, ?_, ?_, ?_, ?_⟩
    · exact fun status s' h => DpdkdSupervisor.status_reachable h
    · exact fun r => healthSnapshot_returns_iff.mpr (hcurrent r)
    · exact fun r configPath hasAppliedTopology e => reraise_of_returns (hcurrent r)
    · exact fun r e => reraise_of_returns (hcurrent r)

end Consequences

namespace DpdkdSupervisor

/-- A daemon that dies while it writes its answer to `health`. -/
def dying : Moment := { up with health := .error (.protocol "unexpected EOF while reading an IPC frame") }

/-- The status of a daemon that ran and dies raises. -/
theorem status_raises_midframe :
    ¬ ∀ (env : ℕ → Moment) (s : DpdkdSupervisor), Eff.Returns (status env) s ∧
      (∀ st s', status env s = (.ok st, s') → st.reachable = true → Succeeds env (s.clock + 1)) ∧
      (∀ r, Eff.Returns (healthSnapshot env) (r, s)) ∧
      (∀ r configPath hasAppliedTopology e, (exceptApply env configPath hasAppliedTopology e (r, s)).1 = .error e) ∧
      ∀ r e, (exceptDestroy env e (r, s)).1 = .error e := by
  intro h
  have hreturns := (h (fun _ => dying) (initial.after plainConfig (fun _ => up) .start)).1
  have hsilent : ¬ (initial.after plainConfig (fun _ => up) .start).Answers fun _ => dying := by decide +kernel
  exact hsilent (status_returns_iff.mp hreturns)

end DpdkdSupervisor

end Ctrld
end Pktlab
