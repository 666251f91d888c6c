/-
# The threads of the controller

Any number of threads call the methods of one `ControllerRuntime`
(`pktlab_ctrld/app.py`). A thread stands at a `Pc`, which says what it does
next, which locks it holds (`Pc.held`) and which it is about to take
(`Pc.wants`); taking a lock that another thread holds is not enabled. The
locks are the runtime lock, the lock of the topology manager
(`topology/manager.py`) and one for every `DpdkdSupervisor`
(`process/supervisor.py`); all of them are re-entrant.

A `Task` is a section under the runtime lock with its calls of the supervisor,
among them the two callbacks that the manager makes with its own lock held.
The host work of the manager is one move that succeeds or raises: what it does
to the host is in `Pktlab.Ctrld.Topology`.

Key definitions: `Lock`, `Task`, `Pc`, `Shared`, `advance`, `Advances`,
`Begins`, `Resumes`, `Controller`, `Controller.step`.
Key theorems: `advances_of_advance`, `begins_begin`, `resumes_resume`.
-/
import Pktlab.Ctrld.Runtime

namespace Pktlab
namespace Ctrld

open Python

inductive Lock
  | manager
  | runtime
  | supervisor (i : ℕ)
  deriving DecidableEq, Repr

/-! ### Where a thread can stand -/

/-- A path that `apply_topology` lets through. -/
abbrev ConfigPath := { path : String // ¬ blank path }

/-- Why the manager stops the datapath. -/
inductive StopReason
  /-- `apply`: the topology that is applied goes -/
  | replace (configPath : ConfigPath) (v : ValidatedTopologyConfig)
  /-- `apply`: what has been built goes -/
  | cleanup (configPath : ConfigPath)
  /-- `destroy`, called by `destroy_topology` -/
  | destroy
  /-- `destroy`, called by `stop` -/
  | shutdown

/-- A call of the manager. -/
inductive ManagerCall
  | apply (configPath : ConfigPath)
  | destroy
  | shutdown

/-- The sections under the runtime lock. -/
inductive Task
  | start
  | stop
  | health
  /-- `datapath_status_snapshot`, which calls `health_snapshot` under its lock -/
  | status
  | statusHealth
  | stats
  | reset
  /-- `pause_datapath` and `resume_datapath` -/
  | control
  | openApply (configPath : ConfigPath)
  | applied (configPath : ConfigPath) (v : ValidatedTopologyConfig)
  | applyFailed (configPath : ConfigPath)
  | openDestroy
  /-- `_stop_topology_datapath` in `destroy_topology` -/
  | stopAgain
  | destroyed
  | destroyFailed
  /-- `_stop_topology_datapath` as the callback of the manager -/
  | stopDatapath (reason : StopReason)
  /-- `_start_topology_datapath` -/
  | startDatapath (configPath : ConfigPath) (v : ValidatedTopologyConfig)

/-- The next thing a thread does. -/
inductive Pc
  | idle
  /-- take the runtime lock for a section -/
  | enter (task : Task)
  /-- take the lock of supervisor `i` for the `k`-th call of a section -/
  | waiting (task : Task) (k i : ℕ)
  /-- carry out that call -/
  | inside (task : Task) (k i : ℕ)
  /-- take the lock of the manager -/
  | manager (call : ManagerCall)
  /-- load and validate a topology -/
  | load (configPath : ConfigPath)
  /-- delete links, bridges and namespaces; `clean` unless the callback raised -/
  | teardown (reason : StopReason) (clean : Bool)
  /-- create namespaces, links and bridges -/
  | build (configPath : ConfigPath) (v : ValidatedTopologyConfig)
  /-- reconcile the TAP interfaces of supervisor `i` and all that follows -/
  | reconcile (configPath : ConfigPath) (v : ValidatedTopologyConfig) (i : ℕ)

def StopReason.locks : StopReason → List Lock
  | .replace .. | .cleanup _ | .destroy => [.manager]
  | .shutdown => [.manager, .runtime]

def ManagerCall.locks : ManagerCall → List Lock
  | .apply _ | .destroy => []
  | .shutdown => [.runtime]

/-- The locks a thread holds when it takes the runtime lock for a section. -/
def Task.locks : Task → List Lock
  | .statusHealth => [.runtime]
  | .stopDatapath reason => reason.locks
  | .startDatapath .. => [.manager]
  | _ => []

def Pc.held : Pc → List Lock
  | .idle => []
  | .enter task => task.locks
  | .waiting task _ _ => .runtime :: task.locks
  | .inside task _ i => .supervisor i :: .runtime :: task.locks
  | .manager call => call.locks
  | .load _ => [.manager]
  | .teardown reason _ => reason.locks
  | .build .. => [.manager]
  | .reconcile .. => [.manager]

def Pc.wants : Pc → Option Lock
  | .enter _ => some .runtime
  | .waiting _ _ i => some (.supervisor i)
  | .manager _ => some .manager
  | _ => none

/-! ### What the threads share -/

/-- `SupervisorConfig`, as far as topologies differ in it. -/
structure SupervisorConfig where
  launchPrefix : List String
  extraArgs : List String

/-- `_build_supervisor_config` for a topology; `none` when it raises. -/
def buildSupervisorConfig (v : ValidatedTopologyConfig) : Option SupervisorConfig :=
  let launchPrefix := ["ip", "netns", "exec", v.requestedDpdkConfig.netns.1]
  match buildDpdkRuntimeArgs v with
  | .error _ => none
  | .ok extraArgs =>
    if ∀ token ∈ launchPrefix ++ extraArgs, ¬ blank token then some ⟨launchPrefix, extraArgs⟩ else none

/-- A `DpdkdSupervisor`. -/
structure Supervisor where
  config : SupervisorConfig
  /-- its process runs -/
  alive : Bool
  /-- the controller has stopped a process of it -/
  stopped : Bool

/-- The operations under the lock of a supervisor. -/
inductive SupervisorCall
  | start
  | stop
  | status
  /-- a request over IPC -/
  | command

/-- The supervisor after a call that returned. -/
def Supervisor.returned (s : Supervisor) : SupervisorCall → Supervisor
  | .start => { s with alive := true }
  | .stop => { s with alive := false, stopped := s.stopped || s.alive }
  | .status | .command => s

/-- The supervisor after a call that raised: a process that does not get ready
is stopped again. -/
def Supervisor.raised (s : Supervisor) : SupervisorCall → Supervisor
  | .start => if s.alive then s else { s with stopped := true }
  | .stop => { s with alive := false, stopped := s.stopped || s.alive }
  | .status | .command => s

/-- The runtime, the manager and the supervisors created so far. -/
structure Shared where
  runtime : Runtime
  /-- `TopologyManager._current` -/
  current : Option AppliedTopology
  supervisors : ℕ → Supervisor
  created : ℕ

namespace Shared

variable (sh : Shared)

/-- The supervisor whose status a section asks for, if it does. -/
def statusOf : Option ℕ := if sh.runtime.started then sh.runtime.supervisor else none

def setRuntime (runtime : Runtime) : Shared := { sh with runtime := runtime }

def setSupervisor (i : ℕ) (s : Supervisor) : Shared :=
  { sh with supervisors := Function.update sh.supervisors i s }

/-- A section whose status comes from a supervisor or is the unmanaged one. -/
def withStatus (task : Task) (k : ℕ) (finish : DatapathProcessStatus → Runtime) : Shared × Pc :=
  match sh.statusOf with
  | some i => (sh, .waiting task k i)
  | none => (sh.setRuntime (finish unmanagedDatapathStatus), .idle)

/-- `_start_topology_datapath`, once the old supervisor is stopped. -/
def replaceSupervisor (configPath : ConfigPath) (v : ValidatedTopologyConfig) : Shared × Pc :=
  match buildSupervisorConfig v with
  | none => (sh, .enter (.stopDatapath (.cleanup configPath)))
  | some config =>
    ({ sh.setSupervisor sh.created ⟨config, false, false⟩ with
        created := sh.created + 1
        runtime := { sh.runtime with supervisor := some sh.created } },
      .waiting (.startDatapath configPath v) 1 sh.created)

/-- A section once it has the runtime lock, up to its first call of the
supervisor or its end. -/
def begin : Task → Shared × Pc
  | .start =>
    if sh.runtime.started then (sh, .idle)
    else
      match sh.runtime.supervisor with
      | some i => (sh.setRuntime sh.runtime.beginStart, .waiting .start 0 i)
      | none => (sh.setRuntime (sh.runtime.beginStart.finishStart unmanagedDatapathStatus), .idle)
  | .stop =>
    if ¬ sh.runtime.started then (sh, .idle)
    else if sh.current.isSome then (sh.setRuntime sh.runtime.beginStop, .manager .shutdown)
    else
      match sh.runtime.supervisor with
      | some i => (sh.setRuntime sh.runtime.beginStop, .waiting .stop 0 i)
      | none => (sh.setRuntime sh.runtime.beginStop.finishStop, .idle)
  | .health => sh.withStatus .health 0 fun _ => sh.runtime
  | .status => (sh, .enter .statusHealth)
  | .statusHealth => sh.withStatus .statusHealth 0 fun _ => sh.runtime
  | .stats =>
    match sh.statusOf, sh.runtime.supervisor with
    | some i, _ => (sh, .waiting .stats 0 i)
    | none, some i => (sh, .waiting .stats 1 i)
    | none, none => (sh, .idle)
  | .reset =>
    match sh.runtime.supervisor with
    | some i => (sh, .waiting .reset 0 i)
    | none => (sh, .idle)
  | .control =>
    match sh.runtime.supervisor with
    | some i => (sh, .waiting .control 0 i)
    | none => (sh, .idle)
  | .openApply configPath => (sh.setRuntime (sh.runtime.openApply configPath.1), .manager (.apply configPath))
  | .applied configPath v =>
    match sh.runtime.beginApplied ⟨configPath.1, v⟩ with
    | none => (sh.setRuntime sh.runtime.clearOverride, .idle)
    | some r => (sh.setRuntime r).withStatus (.applied configPath v) 0 (r.finishApplied ⟨configPath.1, v⟩)
  | .applyFailed configPath =>
    sh.withStatus (.applyFailed configPath) 0 (sh.runtime.finishApplyFailed configPath.1 sh.current.isSome)
  | .openDestroy => (sh.setRuntime sh.runtime.openDestroy, .manager .destroy)
  | .stopAgain =>
    match sh.runtime.supervisor with
    | some i => (sh, .waiting .stopAgain 0 i)
    | none => (sh, .enter .destroyed)
  | .destroyed =>
    (sh.setRuntime sh.runtime.beginDestroyed).withStatus .destroyed 0 sh.runtime.beginDestroyed.finishDestroyed
  | .destroyFailed => sh.withStatus .destroyFailed 0 sh.runtime.finishDestroyFailed
  | .stopDatapath reason =>
    match sh.runtime.supervisor with
    | some i => (sh, .waiting (.stopDatapath reason) 0 i)
    | none => (sh, .teardown reason true)
  | .startDatapath configPath v =>
    match sh.runtime.supervisor with
    | some i => (sh, .waiting (.startDatapath configPath v) 0 i)
    | none => sh.replaceSupervisor configPath v

end Shared

/-- The `k`-th call that a section makes of its supervisor. -/
def Task.call : Task → ℕ → SupervisorCall
  | .start, _ => .start
  | .stop, _ | .stopAgain, _ | .stopDatapath _, _ => .stop
  | .startDatapath .., 0 => .stop
  | .startDatapath .., _ => .start
  | .status, _ | .stats, 1 | .reset, 0 | .reset, 2 | .control, 0 => .command
  | _, _ => .status

namespace Shared

variable (sh : Shared)

/-- A section after its `k`-th call, of supervisor `i`, returned. -/
def resume (task : Task) (k i : ℕ) (status : DatapathProcessStatus) : Shared × Pc :=
  match task, k with
  | .start, _ => (sh.setRuntime (sh.runtime.finishStart status), .idle)
  | .stop, _ => (sh.setRuntime sh.runtime.finishStop, .idle)
  | .health, _ => (sh.setRuntime (sh.runtime.finishObserved status), .idle)
  | .statusHealth, _ =>
    (sh.setRuntime (sh.runtime.finishObserved status), if status.reachable then .waiting .status 1 i else .idle)
  | .stats, 0 => (sh, .waiting .stats 1 i)
  | .reset, 0 => (sh, .waiting .reset (if sh.runtime.started then 1 else 2) i)
  | .reset, 1 => (sh, .waiting .reset 2 i)
  | .control, 0 => sh.withStatus .control 1 sh.runtime.finishObserved
  | .control, _ => (sh.setRuntime (sh.runtime.finishObserved status), .idle)
  | .applied configPath v, _ => (sh.setRuntime (sh.runtime.finishApplied ⟨configPath.1, v⟩ status), .idle)
  | .applyFailed configPath, _ =>
    (sh.setRuntime (sh.runtime.finishApplyFailed configPath.1 sh.current.isSome status), .idle)
  | .stopAgain, _ => (sh, .enter .destroyed)
  | .destroyed, _ => (sh.setRuntime (sh.runtime.finishDestroyed status), .idle)
  | .destroyFailed, _ => (sh.setRuntime (sh.runtime.finishDestroyFailed status), .idle)
  | .stopDatapath reason, _ => (sh, .teardown reason true)
  | .startDatapath configPath v, 0 => sh.replaceSupervisor configPath v
  | .startDatapath configPath v, _ => (sh, .reconcile configPath v i)
  | .status, _ | .stats, _ | .reset, _ | .openApply _, _ | .openDestroy, _ => (sh, .idle)

end Shared

/-- Where a thread goes on when `_destroy_locked` has raised. -/
def StopReason.raised : StopReason → Pc
  | .replace configPath _ | .cleanup configPath => .enter (.applyFailed configPath)
  | .destroy => .enter .destroyFailed
  | .shutdown => .idle

/-- Where a thread goes on when a call of its section has raised: an error of
the package is collected by `_destroy_locked`, any other exception ends it. -/
def Task.raised (pktlabError : Bool) : Task → Pc
  | .stopDatapath reason => if pktlabError then .teardown reason false else reason.raised
  | .startDatapath configPath _ => .enter (.stopDatapath (.cleanup configPath))
  | _ => .idle

/-! ### Moves -/

/-- The methods of the controller. -/
inductive Request
  | start
  | stop
  | applyTopology (configPath : String)
  | destroyTopology
  | healthSnapshot
  | datapathStatusSnapshot
  | datapathStatsSnapshot
  | resetDatapathStats
  | pauseDatapath
  | resumeDatapath

def Request.pc : Request → Pc
  | .start => .enter .start
  | .stop => .enter .stop
  | .applyTopology configPath => if h : blank configPath then .idle else .enter (.openApply ⟨configPath, h⟩)
  | .destroyTopology => .enter .openDestroy
  | .healthSnapshot => .enter .health
  | .datapathStatusSnapshot => .enter .status
  | .datapathStatsSnapshot => .enter .stats
  | .resetDatapathStats => .enter .reset
  | .pauseDatapath | .resumeDatapath => .enter .control

/-- What a move of a thread is, and what its surroundings answer. -/
inductive Choice
  /-- an idle thread calls a method -/
  | request (r : Request)
  /-- take the lock that is wanted and go on -/
  | go
  /-- the path is loaded and validated -/
  | loaded (v : ValidatedTopologyConfig)
  /-- a call of the supervisor returns; `status` is what `status` or `start` returns -/
  | returned (status : DatapathProcessStatus)
  /-- the host work succeeds -/
  | done
  /-- what is carried out raises, a `PktlabError` or another exception -/
  | raised (pktlabError : Bool)

/-- A move of a thread, as far as the locks allow it. -/
def advance (sh : Shared) : Pc → Choice → Option (Shared × Pc)
  | .idle, .request r => some (sh, r.pc)
  | .enter task, .go => some (sh.begin task)
  | .waiting task k i, .go => some (sh, .inside task k i)
  | .inside task k i, .returned status =>
    some ((sh.setSupervisor i ((sh.supervisors i).returned (task.call k))).resume task k i status)
  | .inside task k i, .raised pktlabError =>
    some (sh.setSupervisor i ((sh.supervisors i).raised (task.call k)), task.raised pktlabError)
  | .manager (.apply configPath), .go => some (sh, .load configPath)
  | .manager .destroy, .go =>
    some (sh, if sh.current.isSome then .enter (.stopDatapath .destroy) else .enter .stopAgain)
  | .manager .shutdown, .go =>
    if sh.current.isSome then some (sh, .enter (.stopDatapath .shutdown))
    else some (sh.setRuntime sh.runtime.finishStop, .idle)
  | .load configPath, .raised _ => some (sh, .enter (.applyFailed configPath))
  | .load configPath, .loaded v =>
    some (sh, if sh.current.isSome then .enter (.stopDatapath (.replace configPath v)) else .build configPath v)
  | .teardown (.replace configPath v) true, .done => some ({ sh with current := none }, .build configPath v)
  | .teardown (.cleanup configPath) true, .done => some (sh, .enter (.applyFailed configPath))
  | .teardown .destroy true, .done => some ({ sh with current := none }, .enter .stopAgain)
  | .teardown .shutdown true, .done =>
    some ({ sh with current := none, runtime := sh.runtime.finishStop }, .idle)
  | .teardown reason _, .raised _ => some (sh, reason.raised)
  | .build configPath v, .done =>
    some (sh, if sh.runtime.superviseDatapath then .enter (.startDatapath configPath v)
      else .enter (.stopDatapath (.cleanup configPath)))
  | .build configPath _, .raised _ => some (sh, .enter (.stopDatapath (.cleanup configPath)))
  | .reconcile configPath v _, .done =>
    some ({ sh with current := some ⟨configPath.1, v⟩ }, .enter (.applied configPath v))
  | .reconcile configPath _ _, .raised _ => some (sh, .enter (.stopDatapath (.cleanup configPath)))
  | _, _ => none

/-- What a move of a thread can be, by where it stands. -/
inductive Advances (sh : Shared) : Pc → Choice → Shared × Pc → Prop
  | request (r : Request) : Advances sh .idle (.request r) (sh, r.pc)
  | begins (task : Task) : Advances sh (.enter task) .go (sh.begin task)
  | takes (task : Task) (k i : ℕ) : Advances sh (.waiting task k i) .go (sh, .inside task k i)
  | returns (task : Task) (k i : ℕ) (status : DatapathProcessStatus) :
    Advances sh (.inside task k i) (.returned status)
      ((sh.setSupervisor i ((sh.supervisors i).returned (task.call k))).resume task k i status)
  | raises (task : Task) (k i : ℕ) (pktlabError : Bool) :
    Advances sh (.inside task k i) (.raised pktlabError)
      (sh.setSupervisor i ((sh.supervisors i).raised (task.call k)), task.raised pktlabError)
  | managerApply (configPath : ConfigPath) :
    Advances sh (.manager (.apply configPath)) .go (sh, .load configPath)
  | managerDestroy (h : sh.current.isSome = true) :
    Advances sh (.manager .destroy) .go (sh, .enter (.stopDatapath .destroy))
  | managerDestroyNone (h : sh.current = none) : Advances sh (.manager .destroy) .go (sh, .enter .stopAgain)
  | managerShutdown (h : sh.current.isSome = true) :
    Advances sh (.manager .shutdown) .go (sh, .enter (.stopDatapath .shutdown))
  | managerShutdownNone (h : sh.current = none) :
    Advances sh (.manager .shutdown) .go (sh.setRuntime sh.runtime.finishStop, .idle)
  | loadRaises (configPath : ConfigPath) (pktlabError : Bool) :
    Advances sh (.load configPath) (.raised pktlabError) (sh, .enter (.applyFailed configPath))
  | loadReplaces (configPath : ConfigPath) (v : ValidatedTopologyConfig) (h : sh.current.isSome = true) :
    Advances sh (.load configPath) (.loaded v) (sh, .enter (.stopDatapath (.replace configPath v)))
  | loadBuilds (configPath : ConfigPath) (v : ValidatedTopologyConfig) (h : sh.current = none) :
    Advances sh (.load configPath) (.loaded v) (sh, .build configPath v)
  | teardownReplace (configPath : ConfigPath) (v : ValidatedTopologyConfig) :
    Advances sh (.teardown (.replace configPath v) true) .done ({ sh with current := none }, .build configPath v)
  | teardownCleanup (configPath : ConfigPath) :
    Advances sh (.teardown (.cleanup configPath) true) .done (sh, .enter (.applyFailed configPath))
  | teardownDestroy : Advances sh (.teardown .destroy true) .done ({ sh with current := none }, .enter .stopAgain)
  | teardownShutdown :
    Advances sh (.teardown .shutdown true) .done
      ({ sh with current := none, runtime := sh.runtime.finishStop }, .idle)
  | teardownRaises (reason : StopReason) (clean pktlabError : Bool) :
    Advances sh (.teardown reason clean) (.raised pktlabError) (sh, reason.raised)
  | buildStarts (configPath : ConfigPath) (v : ValidatedTopologyConfig) :
    Advances sh (.build configPath v) .done (sh, .enter (.startDatapath configPath v))
  | buildUnsupervised (configPath : ConfigPath) (v : ValidatedTopologyConfig) :
    Advances sh (.build configPath v) .done (sh, .enter (.stopDatapath (.cleanup configPath)))
  | buildRaises (configPath : ConfigPath) (v : ValidatedTopologyConfig) (pktlabError : Bool) :
    Advances sh (.build configPath v) (.raised pktlabError) (sh, .enter (.stopDatapath (.cleanup configPath)))
  | applies (configPath : ConfigPath) (v : ValidatedTopologyConfig) (i : ℕ) :
    Advances sh (.reconcile configPath v i) .done
      ({ sh with current := some ⟨configPath.1, v⟩ }, .enter (.applied configPath v))
  | reconcileRaises (configPath : ConfigPath) (v : ValidatedTopologyConfig) (i : ℕ) (pktlabError : Bool) :
    Advances sh (.reconcile configPath v i) (.raised pktlabError)
      (sh, .enter (.stopDatapath (.cleanup configPath)))

theorem advances_of_advance {sh : Shared} {p : Pc} {c : Choice} {x : Shared × Pc}
    (h : advance sh p c = some x) : Advances sh p c x := by
  unfold advance at h
  split at h
  case h_7 | h_10 =>
    obtain rfl := Option.some.inj h
    split
    · constructor
      assumption
    · constructor
      simpa using ‹¬ sh.current.isSome = true›
  case h_8 =>
    split at h
    · obtain rfl := Option.some.inj h
      exact .managerShutdown ‹_›
    · obtain rfl := Option.some.inj h
      exact .managerShutdownNone (by simpa using ‹¬ sh.current.isSome = true›)
  case h_16 =>
    obtain rfl := Option.some.inj h
    split
    · exact .buildStarts _ _
    · exact .buildUnsupervised _ _
  case h_20 => cases h
  all_goals
    obtain rfl := Option.some.inj h
    constructor

/-! ### Where a section leads -/

theorem withStatus_pc (sh : Shared) (task : Task) (k : ℕ) (finish : DatapathProcessStatus → Runtime) :
    (sh.withStatus task k finish).2 = .idle ∨ ∃ i, (sh.withStatus task k finish).2 = .waiting task k i := by
  unfold Shared.withStatus
  split
  · exact Or.inr ⟨_, rfl⟩
  · exact Or.inl rfl

theorem replaceSupervisor_pc (sh : Shared) (configPath : ConfigPath) (v : ValidatedTopologyConfig) :
    (sh.replaceSupervisor configPath v).2 = .enter (.stopDatapath (.cleanup configPath)) ∨
      (sh.replaceSupervisor configPath v).2 = .waiting (.startDatapath configPath v) 1 sh.created := by
  unfold Shared.replaceSupervisor
  split
  · exact Or.inl rfl
  · exact Or.inr rfl

/-- Where a thread can be once a section has begun. -/
inductive Begins (sh : Shared) : Task → Pc → Prop
  | ends (task : Task) : Begins sh task .idle
  | calls (task : Task) (k i : ℕ) : Begins sh task (.waiting task k i)
  | shutdown (h : sh.current.isSome = true) : Begins sh .stop (.manager .shutdown)
  | status : Begins sh .status (.enter .statusHealth)
  | openApply (configPath : ConfigPath) : Begins sh (.openApply configPath) (.manager (.apply configPath))
  | openDestroy : Begins sh .openDestroy (.manager .destroy)
  | stopAgain : Begins sh .stopAgain (.enter .destroyed)
  | stopDatapath (reason : StopReason) : Begins sh (.stopDatapath reason) (.teardown reason true)
  | startRaises (configPath : ConfigPath) (v : ValidatedTopologyConfig) :
    Begins sh (.startDatapath configPath v) (.enter (.stopDatapath (.cleanup configPath)))

/-- Where a thread can be once a call of its section has returned. -/
inductive Resumes : Task → Pc → Prop
  | ends (task : Task) : Resumes task .idle
  | statusHealth (i : ℕ) : Resumes .statusHealth (.waiting .status 1 i)
  | stats (i : ℕ) : Resumes .stats (.waiting .stats 1 i)
  | reset (k i : ℕ) : Resumes .reset (.waiting .reset k i)
  | control (i : ℕ) : Resumes .control (.waiting .control 1 i)
  | stopAgain : Resumes .stopAgain (.enter .destroyed)
  | stopDatapath (reason : StopReason) : Resumes (.stopDatapath reason) (.teardown reason true)
  | starts (configPath : ConfigPath) (v : ValidatedTopologyConfig) (i : ℕ) :
    Resumes (.startDatapath configPath v) (.waiting (.startDatapath configPath v) 1 i)
  | startRaises (configPath : ConfigPath) (v : ValidatedTopologyConfig) :
    Resumes (.startDatapath configPath v) (.enter (.stopDatapath (.cleanup configPath)))
  | reconcile (configPath : ConfigPath) (v : ValidatedTopologyConfig) (i : ℕ) :
    Resumes (.startDatapath configPath v) (.reconcile configPath v i)

theorem withStatus_begins {sh sh' : Shared} {task : Task} {k : ℕ} {finish : DatapathProcessStatus → Runtime} :
    Begins sh task (sh'.withStatus task k finish).2 := by
  rcases withStatus_pc sh' task k finish with hpc | ⟨i, hpc⟩
  · rw [hpc]
    exact .ends task
  · rw [hpc]
    exact .calls task k i

theorem begins_begin (sh : Shared) (task : Task) : Begins sh task (sh.begin task).2 := by
  cases task with
  | stop =>
    simp only [Shared.begin]
    split
    · exact .ends .stop
    · split
      · exact .shutdown ‹_›
      · split
        · exact .calls .stop 0 _
        · exact .ends .stop
  | health | statusHealth | applyFailed | destroyed | destroyFailed => exact withStatus_begins
  | applied configPath v =>
    simp only [Shared.begin]
    split
    · exact .ends _
    · exact withStatus_begins
  | startDatapath configPath v =>
    simp only [Shared.begin]
    split
    · exact .calls _ 0 _
    · rcases replaceSupervisor_pc sh configPath v with hpc | hpc
      · rw [hpc]
        exact .startRaises configPath v
      · rw [hpc]
        exact .calls _ 1 _
  | _ =>
    simp only [Shared.begin]
    repeat' split
    all_goals constructor

theorem resumes_resume (sh : Shared) (task : Task) (k i : ℕ) (status : DatapathProcessStatus) :
    Resumes task (sh.resume task k i status).2 := by
  unfold Shared.resume
  split
  case h_4 =>
    split
    · exact .statusHealth i
    · exact .ends .statusHealth
  case h_8 =>
    rcases withStatus_pc sh .control 1 sh.runtime.finishObserved with hpc | ⟨i, hpc⟩
    · rw [hpc]
      exact .ends .control
    · rw [hpc]
      exact .control i
  case h_16 configPath v =>
    rcases replaceSupervisor_pc sh configPath v with hpc | hpc
    · rw [hpc]
      exact .startRaises configPath v
    · rw [hpc]
      exact .starts configPath v _
  all_goals constructor

/-- The controller with `n` threads. -/
structure Controller (n : ℕ) where
  shared : Shared
  pc : Fin n → Pc

/-- A thread moves, or the process of a supervisor exits. -/
inductive Move (n : ℕ)
  | thread (t : Fin n) (choice : Choice)
  | exits (i : ℕ)

namespace Controller

variable {n : ℕ} (s : Controller n)

def holds (t : Fin n) (l : Lock) : Prop := l ∈ (s.pc t).held

instance (t : Fin n) (l : Lock) : Decidable (s.holds t l) := inferInstanceAs (Decidable (_ ∈ _))

/-- The lock that `t` is about to take is not held by another thread. -/
def enabled (t : Fin n) : Prop := ∀ l ∈ (s.pc t).wants, ∀ t', t' ≠ t → ¬ s.holds t' l

instance (t : Fin n) : Decidable (s.enabled t) :=
  inferInstanceAs (Decidable (∀ l ∈ (s.pc t).wants, _))

/-- One move. -/
def step : Move n → Option (Controller n)
  | .thread t choice =>
    if s.enabled t then
      (advance s.shared (s.pc t) choice).map fun x => ⟨x.1, Function.update s.pc t x.2⟩
    else none
  | .exits i =>
    some { s with shared := s.shared.setSupervisor i { s.shared.supervisors i with alive := false } }

/-- `ControllerRuntime.__init__`: no method runs yet. -/
def initial (n : ℕ) (superviseDatapath : Bool) : Controller n where
  shared :=
    { runtime := Runtime.init superviseDatapath
      current := none
      supervisors := fun _ => ⟨⟨[], []⟩, false, false⟩
      created := if superviseDatapath then 1 else 0 }
  pc _ := .idle

variable {s}

/-- A move of a thread changes the shared state and where it stands itself. -/
theorem step_thread {s' : Controller n} {t : Fin n} {c : Choice} (h : s.step (.thread t c) = some s') :
    s.enabled t ∧ Advances s.shared (s.pc t) c (s'.shared, s'.pc t) ∧ ∀ t', t' ≠ t → s'.pc t' = s.pc t' := by
  simp only [step] at h
  split at h
  · obtain ⟨⟨sh', p'⟩, hadvance, rfl⟩ := Option.map_eq_some_iff.mp h
    refine ⟨‹_›, ?_, fun t' hne => Function.update_of_ne hne _ _⟩
    simp only [Function.update_self]
    exact advances_of_advance hadvance
  · cases h

theorem step_exits {s' : Controller n} {i : ℕ} (h : s.step (.exits i) = some s') :
    s'.pc = s.pc ∧
      s'.shared = s.shared.setSupervisor i { s.shared.supervisors i with alive := false } := by
  cases h
  exact ⟨rfl, rfl⟩

end Controller

end Ctrld
end Pktlab
