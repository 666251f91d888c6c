/-
# The methods on a live daemon

A method of the controller talks to a daemon while other clients call it and
bursts are merged: between any two questions of the method the daemon takes
some events (`Turn`). `askDaemon` carries a call over the socket as in
`DpdkExchange`, `askService` asks the service instead. The second simulates
the first, so every method, whatever it asks, ends on a live daemon as it ends
on the service (`method_serves`).

On the service the methods can be computed. `statusLocked_run` and
`request_run` are what the two parts that all of them are made of come to; the
rest of the module puts them together, one theorem for each method.

Key definitions: `Turn`, `askDaemon`, `askService`, `settle`, `healthAt`,
`Attached`, `reachedStatus`.
Key theorems: `method_serves`, `statusLocked_run`, `request_run`,
`datapathStatusSnapshot_run`, `datapathStatsSnapshot_run`,
`resetDatapathStats_run`, `runDatapathControlCommand_run`.
-/
import Pktlab.Ctrld.DatapathMethods
import Pktlab.Ctrld.LiveStatus

namespace Pktlab
namespace Ctrld
namespace Methods

open Dpdkd DatapathService Script

/-- What happens to the daemon before a question is asked, and how a call that
is asked for is carried. -/
structure Turn where
  between : List ExchangeEvent
  id : RequestId
  short : id.1.length ≤ 64
  delivery : Delivery

section Backends

variable (modelDumpJson : RequestEnvelope → List UInt8) (loads : List UInt8 → Except LoadsError Rfc8259.Json)
  (lax : Coercions)

/-- A process that runs, and its daemon. -/
def askDaemon (d : Daemon) (t : Turn) : (q : Question) → Option (Daemon × q.Reply)
  | .poll => (Run.run (exchangeStep modelDumpJson) d t.between).map fun d' => (d', none)
  | .stderr => none
  | .call c => do
    let d1 ← Run.run (exchangeStep modelDumpJson) d t.between
    let d2 ← exchangeStep modelDumpJson d1 (.call (c.request t.id) t.delivery)
    pure (d2, typedCall modelDumpJson loads lax (c.request t.id) t.delivery.session)

/-- A process that runs, and its service. -/
def askService (s : DatapathService) (t : Turn) : (q : Question) → Option (DatapathService × q.Reply)
  | .poll => some (t.between.foldl serviceAfter s, none)
  | .stderr => none
  | .call c =>
    some (((t.between.foldl serviceAfter s).serve c).1, .ok ((t.between.foldl serviceAfter s).serve c).2)

variable {modelDumpJson loads} {ingress egress : NonEmptyStr} {n0 n1 : CStr} {d d' : Daemon} {s : DatapathService}

/-- A daemon that shows a service is asked as the service is. -/
theorem askDaemon_simulates (hdump : CompactDump modelDumpJson) (hloads : LoadsJson loads)
    (hn : Named ingress egress n0 n1) (hd : Serving n0 n1 d ∧ Shows ingress egress d s) {t : Turn} {q : Question}
    {a : q.Reply} (hask : askDaemon modelDumpJson loads lax d t q = some (d', a)) :
    ∃ s', askService s t q = some (s', a) ∧ Serving n0 n1 d' ∧ Shows ingress egress d' s' := by
  cases q with
  | poll =>
    obtain ⟨d1, hrun, heq⟩ := Option.map_eq_some_iff.mp hask
    cases heq
    exact ⟨_, rfl, run_shows hdump hn s hd.1 hd.2 hrun⟩
  | stderr => cases hask
  | call c =>
    obtain ⟨d1, hrun, hrest⟩ := Option.bind_eq_some_iff.mp hask
    obtain ⟨d2, hstep, heq⟩ := Option.bind_eq_some_iff.mp hrest
    cases heq
    obtain ⟨hd1, h1⟩ := run_shows hdump hn s hd.1 hd.2 hrun
    rw [exchangeStep, Option.ite_none_right_eq_some] at hstep
    obtain ⟨hcarried, hstate⟩ := hstep
    obtain ⟨hcall, hserving, hshows⟩ := typedCall_serves lax hdump hloads hn hd1 h1 (c.request t.id) hcarried
    have hstate := Option.some.inj hstate
    rw [callService_short _ t.short] at hcall hshows
    rw [hstate] at hserving hshows
    rw [hcall]
    exact ⟨_, rfl, hserving, hshows⟩

end Backends

section Service

variable {modelDumpJson : RequestEnvelope → List UInt8} {loads : List UInt8 → Except LoadsError Rfc8259.Json}
  {lax : Coercions} {ingress egress : NonEmptyStr} {config : DatapathConfig} {init : DatapathInit}

/-- **A method is served.** After any history of a daemon that started, every
method of the controller, run against the daemon over the socket while other
events go on, returns or raises what it does when the service answers, after
the same events, and the daemon that is left shows the service that is left. -/
theorem method_serves (hdump : CompactDump modelDumpJson) (hloads : LoadsJson loads)
    (hs : Started ingress egress config init) (start : StartEnv) {before : List ExchangeEvent} {d d' : Daemon}
    (hbefore : Run.run (exchangeStep modelDumpJson) (Dpdkd.start start init) before = some d) {α : Type} {m : Method α}
    {l l' : LiveController} {ts : List Turn} {r : Except MethodError α}
    (hrun : perform (askDaemon modelDumpJson loads lax) m l d ts = some ((r, l'), d')) :
    ∃ s', perform askService m l (before.foldl serviceAfter (launched start ingress egress)) ts = some ((r, l'), s') ∧
      Shows ingress egress d' s' := by
  have hshown := hs.run hdump start hbefore
  have hsim : ∀ (d : Daemon) (s : DatapathService) (t : Turn) (q : Question) (d' : Daemon) (a : q.Reply),
      Serving config.ingressPortName config.egressPortName d ∧ Shows ingress egress d s →
      askDaemon modelDumpJson loads lax d t q = some (d', a) →
      ∃ s', askService s t q = some (s', a) ∧ Serving config.ingressPortName config.egressPortName d' ∧
        Shows ingress egress d' s' :=
    fun d s t q d' a hR hask => askDaemon_simulates lax hdump hloads hs.named hR hask
  obtain ⟨s', hserved, -, hshows⟩ := Dialogue.run_simulates hsim hshown hrun
  exact ⟨s', hserved, hshows⟩

/-! ### The methods on the service -/

variable {s : DatapathService} {l : LiveController} {p : Process} {t : Turn} {ts : List Turn}

/-- The service before a question is answered. -/
def Turn.settle (t : Turn) (s : DatapathService) : DatapathService := t.between.foldl serviceAfter s

/-- The service after questions that change nothing. -/
def settle (s : DatapathService) (ts : List Turn) : DatapathService := ts.foldl (fun s t => t.settle s) s

/-- The controller holds a supervisor that has a process and a client. -/
structure Attached (l : LiveController) (p : Process) : Prop where
  started : l.runtime.started = true
  supervisor : l.runtime.supervisor.isSome = true
  process : l.supervisor.process = some p
  client : l.supervisor.client = true

/-- What a refresh that succeeds writes. -/
def LiveSupervisor.refreshed (s : LiveSupervisor) (health : HealthPayload) : LiveSupervisor :=
  { s with lastHealth := some health, lastVersion := some ⟨"0.1.0", "25.11.0"⟩, lastError := none, lastExitCode := none }

def LiveController.refreshed (l : LiveController) (health : HealthPayload) : LiveController :=
  { l with supervisor := l.supervisor.refreshed health }

/-- The status of a process whose daemon has this health. -/
def reachedStatus (l : LiveController) (p : Process) (health : HealthPayload) : ProcessStatus where
  managed := true
  socketPath := l.socketPath
  pid := some p.pid
  running := true
  reachable := true
  version := some ⟨"0.1.0", "25.11.0"⟩
  health := some health

theorem settle_append (s : DatapathService) (ts us : List Turn) : settle s (ts ++ us) = settle (settle s ts) us :=
  List.foldl_append ..

/-- The health that a status shows: that of the service when the third
question, for the health, is answered. -/
def healthAt (s : DatapathService) (ts : List Turn) : HealthPayload := (settle s (ts.take 3)).health

theorem healthAt_append {us : List Turn} (hlen : 3 ≤ ts.length) : healthAt s (ts ++ us) = healthAt s ts := by
  rw [healthAt, List.take_append_of_le_length hlen, healthAt]

variable {l' : LiveController} {s' : DatapathService}

/-- A status that is asked for is that of a process that is reached. -/
theorem statusLocked_run {r : Except MethodError ProcessStatus} (hl : Attached l p)
    (hrun : perform askService statusLocked l s ts = some ((r, l'), s')) :
    ts.length = 4 ∧ r = .ok (reachedStatus l p (healthAt s ts)) ∧ l' = l.refreshed (healthAt s ts) ∧ s' = settle s ts := by
  obtain ⟨path, runtime, process, client, version, health, error, code⟩ := l
  obtain ⟨-, -, hprocess, hclient⟩ := hl
  cases hprocess
  cases hclient
  rcases ts with _ | ⟨t0, _ | ⟨t1, _ | ⟨t2, _ | ⟨t3, _ | ⟨t4, ts⟩⟩⟩⟩⟩
  · cases hrun
  · cases hrun
  · cases hrun
  · cases hrun
  · cases hrun
    exact ⟨rfl, rfl, rfl, rfl⟩
  · cases hrun

/-- A request over IPC ends as the service ends it. -/
theorem request_run {what : String} {c : DatapathCommand} {r : Except MethodError (CommandResult (Payload c))}
    (hl : Attached l p) (hrun : perform askService (request what c) l s ts = some ((r, l'), s')) :
    ts.length = 5 ∧ r = .ok ((settle s ts).serve c).2 ∧ l' = l.refreshed (healthAt s ts) ∧
      s' = ((settle s ts).serve c).1 := by
  rcases perform_bind_eq_some hrun with ⟨ts1, ts2, status, l1, s1, rfl, hstatus, hrest⟩ | ⟨e, hstatus, -⟩
  · obtain ⟨hlen, hr, rfl, rfl⟩ := statusLocked_run hl hstatus
    obtain rfl := Except.ok.inj hr
    rw [healthAt_append (by omega), settle_append]
    have hclient := hl.client
    obtain ⟨path, runtime, process, client, version, health, error, code⟩ := l
    cases hclient
    rcases ts2 with _ | ⟨t, _ | ⟨u, ts2⟩⟩
    · cases hrest
    · cases hrest
      exact ⟨by rw [List.length_append, hlen, List.length_singleton], rfl, rfl, rfl⟩
    · cases hrest
  · obtain ⟨-, hr, -⟩ := statusLocked_run hl hstatus
    cases hr

theorem Attached.refreshed (hl : Attached l p) (health : HealthPayload) : Attached (l.refreshed health) p :=
  ⟨hl.started, hl.supervisor, hl.process, hl.client⟩

/-- The controller after it has seen a status. -/
def LiveController.observing (l : LiveController) (status : ProcessStatus) : LiveController :=
  { l with runtime := l.runtime.finishObserved status.seen }

theorem Attached.observing (hl : Attached l p) (status : ProcessStatus) : Attached (l.observing status) p := by
  have hstanding := l.runtime.standing_finishObserved status.seen
  refine ⟨?_, ?_, hl.process, hl.client⟩
  · exact (Runtime.started_of_standing hstanding).trans hl.started
  · show (l.runtime.finishObserved status.seen).supervisor.isSome = true
    rw [Runtime.supervisor_of_standing hstanding]
    exact hl.supervisor

theorem get_run {α : Type} {f : LiveController → Method α} :
    perform askService (get >>= f) l s ts = perform askService (f l) l s ts := rfl

theorem unwrap_run {α β : Type} {payload : α} {f : α → Method β} :
    perform askService (unwrap (.ok payload) >>= f) l s ts = perform askService (f payload) l s ts := rfl

theorem pure_run {α : Type} {a : α} {r : Except MethodError α}
    (hrun : perform askService (pure a : Method α) l s ts = some ((r, l'), s')) :
    ts = [] ∧ r = .ok a ∧ l' = l ∧ s' = s := by
  obtain ⟨hts, heq, hs⟩ := Dialogue.run_done.mp hrun
  cases heq
  exact ⟨hts, rfl, rfl, hs.symm⟩

/-- A controller that started asks its supervisor. -/
theorem currentDatapathStatusLocked_run (hl : Attached l p) :
    perform askService currentDatapathStatusLocked l s ts = perform askService statusLocked l s ts := by
  have hcond : (l.runtime.started && l.runtime.supervisor.isSome) = true := by
    rw [hl.started, hl.supervisor]
    rfl
  rw [currentDatapathStatusLocked, get_run, if_pos hcond]

theorem requireSupervisor_run (hl : Attached l p) {α : Type} {f : Unit → Method α} :
    perform askService (requireSupervisor >>= f) l s ts = perform askService (f ()) l s ts := by
  have hrun : perform askService requireSupervisor l s [] = some ((.ok (), l), s) := by
    rw [requireSupervisor, get_run, if_pos hl.supervisor]
    rfl
  exact perform_bind hrun

/-- A health snapshot shows the health at its third question, and the
controller once it has seen it. -/
theorem healthSnapshot_run {r : Except MethodError ControllerHealthSnapshot} (hl : Attached l p)
    (hrun : perform askService healthSnapshot l s ts = some ((r, l'), s')) :
    ts.length = 4 ∧
      r = .ok ⟨(l.observing (reachedStatus l p (healthAt s ts))).runtime, reachedStatus l p (healthAt s ts)⟩ ∧
      l' = (l.refreshed (healthAt s ts)).observing (reachedStatus l p (healthAt s ts)) ∧ s' = settle s ts := by
  obtain ⟨path, runtime, process, client, version, health, error, code⟩ := l
  obtain ⟨supervise, desired, observed, state, message, override, started, supervisor⟩ := runtime
  obtain ⟨hstarted, hsupervisor, hprocess, hclient⟩ := hl
  obtain ⟨i, hi⟩ := Option.isSome_iff_exists.mp hsupervisor
  cases hprocess
  cases hclient
  cases hstarted
  cases hi
  rcases ts with _ | ⟨t0, _ | ⟨t1, _ | ⟨t2, _ | ⟨t3, _ | ⟨t4, ts⟩⟩⟩⟩⟩
  · cases hrun
  · cases hrun
  · cases hrun
  · cases hrun
  · cases hrun
    exact ⟨rfl, rfl, rfl, rfl⟩
  · cases hrun

/-- A status snapshot has the ports of the service too. -/
theorem datapathStatusSnapshot_run {r : Except MethodError DatapathRuntimeStatusSnapshot} (hl : Attached l p)
    (hrun : perform askService datapathStatusSnapshot l s ts = some ((r, l'), s')) :
    r = .ok ⟨⟨(l.observing (reachedStatus l p (healthAt s ts))).runtime, reachedStatus l p (healthAt s ts)⟩,
      (settle s ts).ports⟩ ∧ s' = settle s ts := by
  rcases perform_bind_eq_some hrun with ⟨ts1, us, snapshot, l1, s1, rfl, hsnapshot, hrest⟩ | ⟨e, hsnapshot, -⟩
  · obtain ⟨hlen, hr, rfl, rfl⟩ := healthSnapshot_run hl hsnapshot
    obtain rfl := Except.ok.inj hr
    rw [healthAt_append (by omega)]
    generalize healthAt s ts1 = health at hrest ⊢
    have hl1 := (hl.refreshed health).observing (reachedStatus l p health)
    have hcond : (((l.refreshed health).observing (reachedStatus l p health)).runtime.supervisor.isSome &&
        (reachedStatus l p health).reachable) = true := by
      rw [hl1.supervisor]
      rfl
    rw [get_run, if_pos hcond] at hrest
    rcases perform_bind_eq_some hrest with ⟨ts2, ts3, result, l2, s2, rfl, hports, hlast⟩ | ⟨e, hports, -⟩
    · obtain ⟨-, hr2, rfl, rfl⟩ := request_run hl1 hports
      obtain rfl := Except.ok.inj hr2
      obtain ⟨rfl, rfl, -, rfl⟩ := pure_run hlast
      rw [List.append_nil, settle_append]
      exact ⟨rfl, rfl⟩
    · obtain ⟨-, hr2, -⟩ := request_run hl1 hports
      cases hr2
  · obtain ⟨-, hr, -⟩ := healthSnapshot_run hl hsnapshot
    cases hr

/-- A stats snapshot has the counters of the service. -/
theorem datapathStatsSnapshot_run {r : Except MethodError DatapathRuntimeStatsSnapshot} (hl : Attached l p)
    (hrun : perform askService datapathStatsSnapshot l s ts = some ((r, l'), s')) :
    r = .ok ⟨reachedStatus l p (healthAt s ts), (settle s ts).stats⟩ ∧ s' = settle s ts := by
  rcases perform_bind_eq_some hrun with ⟨ts1, us, status, l1, s1, rfl, hstatus, hrest⟩ | ⟨e, hstatus, -⟩
  · rw [currentDatapathStatusLocked_run hl] at hstatus
    obtain ⟨hlen, hr, rfl, rfl⟩ := statusLocked_run hl hstatus
    obtain rfl := Except.ok.inj hr
    rw [healthAt_append (by omega)]
    have hl1 := hl.refreshed (healthAt s ts1)
    rw [requireSupervisor_run hl1] at hrest
    rcases perform_bind_eq_some hrest with ⟨ts2, ts3, result, l2, s2, rfl, hstats, hlast⟩ | ⟨e, hstats, -⟩
    · obtain ⟨-, hr2, rfl, rfl⟩ := request_run hl1 hstats
      obtain rfl := Except.ok.inj hr2
      obtain ⟨rfl, rfl, -, rfl⟩ := pure_run hlast
      rw [List.append_nil, settle_append]
      exact ⟨rfl, rfl⟩
    · obtain ⟨-, hr2, -⟩ := request_run hl1 hstats
      cases hr2
  · rw [currentDatapathStatusLocked_run hl] at hstatus
    obtain ⟨-, hr, -⟩ := statusLocked_run hl hstatus
    cases hr

theorem resetText_ne : "datapath counters reset" ≠ "" := by decide

/-- The reply to a reset. -/
def resetReply : AckPayload := ⟨"datapath counters reset", resetText_ne⟩

/-- What a method does after its command: the status and then the counters. -/
theorem statusThenStats_run {α : Type} {f : ProcessStatus → DatapathStatsModel → α} {r : Except MethodError α}
    (hl : Attached l p)
    (hrun : perform askService (currentDatapathStatusLocked >>= fun status => getStats >>= fun result =>
      unwrap result >>= fun stats => pure (f status stats)) l s ts = some ((r, l'), s')) :
    r = .ok (f (reachedStatus l p (healthAt s ts)) (settle s ts).stats) ∧ s' = settle s ts := by
  rcases perform_bind_eq_some hrun with ⟨ts1, us, status, l1, s1, rfl, hstatus, hrest⟩ | ⟨e, hstatus, -⟩
  · rw [currentDatapathStatusLocked_run hl] at hstatus
    obtain ⟨hlen, hr, rfl, rfl⟩ := statusLocked_run hl hstatus
    obtain rfl := Except.ok.inj hr
    rw [healthAt_append (by omega)]
    have hl1 := hl.refreshed (healthAt s ts1)
    rcases perform_bind_eq_some hrest with ⟨ts2, ts3, result, l2, s2, rfl, hstats, hlast⟩ | ⟨e, hstats, -⟩
    · obtain ⟨-, hr2, rfl, rfl⟩ := request_run hl1 hstats
      obtain rfl := Except.ok.inj hr2
      obtain ⟨rfl, rfl, -, rfl⟩ := pure_run hlast
      rw [List.append_nil, settle_append]
      exact ⟨rfl, rfl⟩
    · obtain ⟨-, hr2, -⟩ := request_run hl1 hstats
      cases hr2
  · rw [currentDatapathStatusLocked_run hl] at hstatus
    obtain ⟨-, hr, -⟩ := statusLocked_run hl hstatus
    cases hr

/-- A reset leaves no counters; what it reports is the service after it. -/
theorem resetDatapathStats_run {r : Except MethodError DatapathStatsResetResult} (hl : Attached l p)
    (hrun : perform askService resetDatapathStats l s ts = some ((r, l'), s')) :
    ∃ ts1 ts2 after, ts = ts1 ++ ts2 ∧ after = { settle s ts1 with counters := {} } ∧
      r = .ok ⟨reachedStatus l p (healthAt after ts2), (settle after ts2).stats, resetReply.message⟩ ∧
      s' = settle after ts2 := by
  rw [resetDatapathStats, requireSupervisor_run hl] at hrun
  rcases perform_bind_eq_some hrun with ⟨ts1, ts2, result, l1, s1, rfl, hreset, hrest⟩ | ⟨e, hreset, -⟩
  · obtain ⟨-, hr, rfl, rfl⟩ := request_run hl hreset
    obtain rfl := Except.ok.inj hr
    obtain ⟨rfl, rfl⟩ := statusThenStats_run
      (f := fun status stats => (⟨status, stats, resetReply.message⟩ : DatapathStatsResetResult))
      (hl.refreshed (healthAt s ts1)) hrest
    exact ⟨ts1, ts2, _, rfl, rfl, rfl, rfl⟩
  · obtain ⟨-, hr, -⟩ := request_run hl hreset
    cases hr

theorem unwrap_error_run {α β : Type} {e : DatapathErrorModel} {f : α → Method β} {r : Except MethodError β}
    (hrun : perform askService (unwrap (.error e) >>= f) l s ts = some ((r, l'), s')) :
    ts = [] ∧ r = .error (.pktlab { code := mapDatapathErrorCode e.code, message := e.message }) ∧ s' = s := by
  obtain ⟨hts, heq, hs⟩ := Dialogue.run_done.mp hrun
  cases heq
  exact ⟨hts, rfl, hs.symm⟩

/-- A control command and the status after it. -/
theorem runDatapathControlCommand_run {command : Method (CommandResult AckPayload)}
    (result : DatapathService → DatapathService × CommandResult AckPayload) {r : Except MethodError DatapathControlResult}
    (hl : Attached l p)
    (hcommand : ∀ {ts : List Turn} {r : Except MethodError (CommandResult AckPayload)} {l' : LiveController}
      {s' : DatapathService}, perform askService command l s ts = some ((r, l'), s') →
        r = .ok (result (settle s ts)).2 ∧ l' = l.refreshed (healthAt s ts) ∧ s' = (result (settle s ts)).1)
    (hrun : perform askService (runDatapathControlCommand command) l s ts = some ((r, l'), s')) :
    ∃ ts1 ts2, ts = ts1 ++ ts2 ∧
      ((∃ ack, (result (settle s ts1)).2 = .ok ack ∧
          r = .ok ⟨reachedStatus l p (healthAt (result (settle s ts1)).1 ts2), ack.message⟩ ∧
          s' = settle (result (settle s ts1)).1 ts2) ∨
        ∃ e, (result (settle s ts1)).2 = .error e ∧ ts2 = [] ∧
          r = .error (.pktlab { code := mapDatapathErrorCode e.code, message := e.message }) ∧
          s' = (result (settle s ts1)).1) := by
  rw [runDatapathControlCommand, requireSupervisor_run hl] at hrun
  rcases perform_bind_eq_some hrun with ⟨ts1, ts2, reply, l1, s1, rfl, hreply, hrest⟩ | ⟨e, hreply, -⟩
  · obtain ⟨hr, rfl, rfl⟩ := hcommand hreply
    refine ⟨ts1, ts2, rfl, ?_⟩
    obtain rfl := Except.ok.inj hr
    rcases hresult : (result (settle s ts1)).2 with e | ack
    · rw [hresult] at hrest
      obtain ⟨hts, hr', hs'⟩ := unwrap_error_run hrest
      exact Or.inr ⟨e, rfl, hts, hr', hs'⟩
    · rw [hresult, unwrap_run] at hrest
      have hl1 := hl.refreshed (healthAt s ts1)
      rcases perform_bind_eq_some hrest with ⟨ts3, ts4, status, l2, s2, rfl, hstatus, hlast⟩ | ⟨e, hstatus, -⟩
      · rw [currentDatapathStatusLocked_run hl1] at hstatus
        obtain ⟨hlen, hr2, rfl, rfl⟩ := statusLocked_run hl1 hstatus
        obtain rfl := Except.ok.inj hr2
        obtain ⟨rfl, rfl, -, rfl⟩ := pure_run hlast
        rw [List.append_nil]
        exact Or.inl ⟨ack, rfl, rfl, rfl⟩
      · rw [currentDatapathStatusLocked_run hl1] at hstatus
        obtain ⟨-, hr2, -⟩ := statusLocked_run hl1 hstatus
        cases hr2
  · obtain ⟨hr, -⟩ := hcommand hreply
    cases hr

/-- The method for `paused`. -/
def control (paused : Bool) : Method DatapathControlResult := if paused then pauseForwarding else resumeForwarding

/-- What the service makes of its command. -/
def controlled (s : DatapathService) (paused : Bool) : DatapathService × CommandResult AckPayload :=
  if paused then s.serve .pauseDatapath else s.serve .resumeDatapath

/-- The texts of the daemon for a pause and a resumption. -/
def controlText (paused wasPaused : Bool) : String :=
  if paused then
    if wasPaused then "datapath forwarding loop is already paused" else "datapath forwarding loop paused"
  else
    if wasPaused then "datapath forwarding loop resumed" else "datapath forwarding loop is already running"

theorem controlText_ne (paused wasPaused : Bool) : controlText paused wasPaused ≠ "" := by
  cases paused <;> cases wasPaused <;> decide

/-- What it replies. -/
def controlReply (s : DatapathService) (paused : Bool) : NonEmptyStr :=
  ⟨controlText paused s.paused, controlText_ne paused s.paused⟩

theorem controlled_eq (s : DatapathService) (paused : Bool) : controlled s paused =
    if s.forwarding then ({ s with paused := paused }, .ok ⟨controlReply s paused⟩)
    else (s, .error ⟨.stateConflict, "datapath forwarding loop is not active"⟩) := by
  obtain ⟨ports, forwarding, message, wasPaused, counters⟩ := s
  cases paused <;> cases forwarding <;> cases wasPaused <;> rfl

/-- The error of a service that does not forward. -/
def conflict : PktlabError where
  code := .stateConflict
  message := "datapath forwarding loop is not active"

/-- A pause or a resumption, and the status after it. A service that does not
forward refuses it. -/
theorem control_run {paused : Bool} {r : Except MethodError DatapathControlResult} (hl : Attached l p)
    (hrun : perform askService (control paused) l s ts = some ((r, l'), s')) :
    ∃ ts1 ts2, ts = ts1 ++ ts2 ∧
      (((settle s ts1).forwarding = true ∧ ∃ after, after = { settle s ts1 with paused := paused } ∧
          r = .ok ⟨reachedStatus l p (healthAt after ts2), controlReply (settle s ts1) paused⟩ ∧
          s' = settle after ts2) ∨
        ((settle s ts1).forwarding = false ∧ ts2 = [] ∧ r = .error (.pktlab conflict) ∧ s' = settle s ts1)) := by
  have hspec : ∃ ts1 ts2, ts = ts1 ++ ts2 ∧
      ((∃ ack, (controlled (settle s ts1) paused).2 = .ok ack ∧
          r = .ok ⟨reachedStatus l p (healthAt (controlled (settle s ts1) paused).1 ts2), ack.message⟩ ∧
          s' = settle (controlled (settle s ts1) paused).1 ts2) ∨
        ∃ e, (controlled (settle s ts1) paused).2 = .error e ∧ ts2 = [] ∧
          r = .error (.pktlab { code := mapDatapathErrorCode e.code, message := e.message }) ∧
          s' = (controlled (settle s ts1) paused).1) := by
    cases paused with
    | true => exact runDatapathControlCommand_run (fun s => controlled s true) hl (fun h => (request_run hl h).2) hrun
    | false => exact runDatapathControlCommand_run (fun s => controlled s false) hl (fun h => (request_run hl h).2) hrun
  obtain ⟨ts1, ts2, hts, hcases⟩ := hspec
  refine ⟨ts1, ts2, hts, ?_⟩
  rw [controlled_eq] at hcases
  by_cases hforwarding : (settle s ts1).forwarding = true
  · rw [if_pos hforwarding] at hcases
    rcases hcases with ⟨ack, hack, hr, hs'⟩ | ⟨e, he, -⟩
    · obtain rfl := Except.ok.inj hack
      exact Or.inl ⟨hforwarding, _, rfl, hr, hs'⟩
    · cases he
  · rw [if_neg hforwarding] at hcases
    rcases hcases with ⟨ack, hack, -⟩ | ⟨e, he, hts2, hr, hs'⟩
    · cases hack
    · obtain rfl := Except.error.inj he
      exact Or.inr ⟨Bool.eq_false_iff.mpr hforwarding, hts2, hr, hs'⟩

end Service

end Methods
end Ctrld
end Pktlab
