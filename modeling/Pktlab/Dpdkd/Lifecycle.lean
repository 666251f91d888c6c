/-
# The life of the daemon process

`pktlab_daemon_run` and `pktlab_daemon_cleanup` (`dpdkd/src/daemon.c`) from the
call of `pktlab_datapath_start` on, beside the thread of
`pktlab_datapath_worker_main` (`dpdkd/src/datapath.c`): the devices are started,
the worker is created, the main thread waits until the worker has reported
(`Handshake`), requests are served while the worker forwards, and in the end the
worker is stopped and joined and everything is given back. A start may fail at
every call.

A move is what one of the threads does between two points at which the other
can act. Up to `pthread_create` and after `pthread_join` there is no other
thread, so what the main thread does there is one move. A call that DPDK or
pthread does not allow where it is made leaves its name in `misuse`.

Key definitions: `System`, `Move`, `step`, `Inv`.
Key theorems: `step_inv`, `lifecycle_safe`.
-/
import Pktlab.Lib.Handshake
import Pktlab.Dpdkd.Device
import Pktlab.Dpdkd.Worker

namespace Pktlab
namespace Dpdkd
namespace Lifecycle

open Utf8 Effect

/-- `worker_start_ok`, and `worker_error_code` with `worker_error_message` when
it is false. -/
abbrev Report := Except DpdkdError Unit

/-- Where the main thread is: before `pktlab_datapath_start`, in the wait of
`pktlab_datapath_start_worker`, before the join of a worker that did not start,
in the request loop, after `pktlab_daemon_run` returned, before the join of
`pktlab_datapath_stop_worker`, after `pktlab_datapath_cleanup`. The last three
know whether the run succeeded. -/
inductive MainPc
  | starting
  | awaiting
  | refusing (error : DpdkdError)
  | serving (ipc : Worker.Ipc)
  | stopping (ok : Bool)
  | joining (ok : Bool)
  | exited (ok : Bool)
  deriving DecidableEq

/-- Where the worker is: before `rte_thread_register`, in
`pktlab_datapath_signal_worker_start`, in its loop, before
`rte_thread_unregister`, after its return. -/
inductive WorkerPc
  | registering
  | reporting
  | loop (pc : Worker.Pc)
  | unregistering
  | returned
  deriving DecidableEq, Repr

/-- `struct pktlab_daemon` without its server, the two threads, and what the
system has for them. `sync` is the mutex and the condition variable with what
they guard; `worker` is the thread, from its creation to its join. -/
structure System where
  machine : Machine
  health : HealthSnapshot
  configured : Bool
  syncInitialized : Bool
  sync : Option (Handshake.State Report)
  threadStarted : Bool
  worker : Option WorkerPc
  registered : Bool
  stopRequested : Bool
  main : MainPc
  misuse : Option Call

/-- What the system answers to `pthread_mutex_init`, `pthread_cond_init` and
`pthread_create`; `created` is the text of the error. -/
structure ThreadAnswers where
  mutexInit : Bool
  condInit : Bool
  created : Option String
  deriving DecidableEq, Repr

/-- How `pktlab_datapath_start` runs: without DPDK in the build, without the
privileges for it, or with both. -/
inductive LaunchEnv
  | noDpdk
  | noRoot
  | root (answers : Answers) (threads : ThreadAnswers)

variable {Mbuf : Type} {burstSize : UInt16}

/-- The moves of the main thread and of the worker. `stops` is what
`rte_eth_dev_stop` answers when ports are closed; `ok` of `stop` is whether
`pktlab_ipc_server_run` returned 0. -/
inductive Move (Mbuf : Type) (burstSize : UInt16)
  | start (env : LaunchEnv) (stops : PortRole → Bool)
  | await
  | spurious
  | conclude
  | refuse (stops : PortRole → Bool)
  | request (c : Command)
  | reply
  | stop (ok : Bool)
  | cleanup (stops : PortRole → Bool)
  | join (stops : PortRole → Bool)
  | register (ok : Bool)
  | notify
  | forward (array : ℕ → Mbuf) (burst : Burst Mbuf burstSize)
  | unregister

/-! ### The pieces -/

def System.daemon (s : System) : Daemon := ⟨s.machine.datapath, s.health⟩

def System.setDatapath (s : System) (datapath : Datapath) : System :=
  { s with machine := { s.machine with datapath := datapath } }

def System.setDaemon (s : System) (daemon : Daemon) : System :=
  { s.setDatapath daemon.datapath with health := daemon.health }

/-- A call is allowed when `p` holds; the first that is not stays in
`misuse`. -/
def System.guard (s : System) (call : Call) (p : Prop) [Decidable p] : System :=
  if p then s else { s with misuse := s.misuse <|> some call }

/-- A program on the devices: how it ends, and what it leaves. -/
def System.perform (s : System) (program : Eff DeviceFault Machine Unit) : Except DeviceFault Unit × System :=
  match program s.machine with
  | (.error (.misuse call), m) =>
    (.error (.misuse call), { s with machine := m, misuse := s.misuse <|> some call })
  | (r, m) => (r, { s with machine := m })

/-- `pktlab_daemon_run` when `pktlab_datapath_start` returns `-1`. -/
def startFails (s : System) (e : DpdkdError) : System :=
  { s with health := healthSetState s.health .failed (utf8 e.message), main := .stopping false }

/-- The end of a start without a forwarding loop. -/
def degraded (s : System) (after : String) : System :=
  let ports := s.machine.datapath.ports
  let s := s.setDatapath
    { s.machine.datapath with runningMessage := portsMessage "TAP ports " after ports, started := true }
  { s.setDaemon (refreshStartedHealth s.daemon) with main := .serving .idle }

/-- `pktlab_ports_cleanup` and `pktlab_eal_cleanup`, which no registered thread
may outlive. -/
def releaseDevices (s : System) (stops : PortRole → Bool) : System :=
  ((s.guard .ealCleanup (s.registered = false)).perform (release stops)).2

/-- A mutex and a condition variable that work, for a report that is not
made. -/
def createSync (s : System) : System :=
  { s.guard .syncInit (s.sync = none) with
    sync := some (Handshake.start (.error ⟨.none, ""⟩)), syncInitialized := true }

/-- `pktlab_datapath_init_worker_sync`. -/
def initWorkerSync (s : System) (threads : ThreadAnswers) : Except DpdkdError System :=
  if s.syncInitialized then .ok s
  else if threads.mutexInit = false then .error ⟨.internal, "failed to initialize datapath worker mutex"⟩
  else if threads.condInit = false then
    .error ⟨.internal, "failed to initialize datapath worker condition variable"⟩
  else .ok (createSync s)

/-- What `pktlab_datapath_start_worker` stores before `pthread_create`. -/
def prepareWorker (s : System) : System :=
  let datapath := s.machine.datapath
  { s.setDatapath { datapath with paused := false, stats := statsReset datapath.stats } with stopRequested := false }

/-- `pktlab_datapath_start_worker` up to the wait, and what
`pktlab_datapath_start` does when it fails. -/
def createWorker (s : System) (threads : ThreadAnswers) (stops : PortRole → Bool) : System :=
  match initWorkerSync s threads with
  | .error e => startFails (releaseDevices s stops) e
  | .ok s =>
    let s := prepareWorker s
    match threads.created with
    | some text =>
      startFails (releaseDevices s stops) ⟨.internal, "failed to start the datapath forwarding thread: " ++ text⟩
    | none => { s with threadStarted := true, worker := some .registering, main := .awaiting }

/-- `pktlab_datapath_start` up to the wait. Nothing is known of a process that
has misused a call. -/
def startDatapath (s : System) (env : LaunchEnv) (stops : PortRole → Bool) : System :=
  if s.configured = false then
    startFails s ⟨.stateConflict, "datapath runtime configuration is not initialized"⟩
  else
    let s := s.setDatapath { s.machine.datapath with portsReady := false, paused := false }
    match env with
    | .noDpdk => degraded s " configured; libdpdk not available at build time"
    | .noRoot => degraded s " need root/CAP_NET_ADMIN"
    | .root answers threads =>
      match s.perform (devicesStart answers stops) with
      | (.error (.misuse _), s) => { s with main := .exited false }
      | (.error (.failed e), s) => startFails s e
      | (.ok (), s) => createWorker s threads stops

/-- The end of `pktlab_datapath_start` once the worker forwards. -/
def started (s : System) : System :=
  let datapath := s.machine.datapath
  let s := s.setDatapath
    { datapath with
      portsReady := s.machine.ready
      runningMessage := portsMessage "DPDK TAP ports " " ready; forwarding loop active" datapath.ports
      started := true }
  { s.setDaemon (refreshStartedHealth s.daemon) with main := .serving .idle }

/-- The check of `worker_start_ok`. -/
def conclude (s : System) : Report → System
  | .ok () => started s
  | .error e => { s with stopRequested := true, main := .refusing e }

/-- The thread is joined. -/
def joined (s : System) : System := { s with worker := none, threadStarted := false }

/-- `pktlab_datapath_destroy_worker_sync`, of a mutex that nobody has. -/
def destroyWorkerSync (s : System) : System :=
  if s.syncInitialized then
    { s.guard .syncDestroy (∃ h ∈ s.sync, h.owner = none ∧ h.waiter ≠ .asleep) with
      sync := none, syncInitialized := false }
  else s

/-- `pktlab_datapath_cleanup` once the worker is gone, and the return of
`main`. -/
def finish (s : System) (stops : PortRole → Bool) (ok : Bool) : System :=
  let s := destroyWorkerSync (releaseDevices s stops)
  let datapath := s.machine.datapath
  { s.setDatapath { datapath with
      stats := { datapath.stats with initialized := false }, portsReady := false, started := false } with
    configured := false, main := .exited ok }

/-- What the worker needs of a port to receive from it or to transmit on it. -/
def Usable (m : Machine) (role : PortRole) : Prop :=
  m.dpdk.isUp = true ∧ m.dpdk.pool = true ∧ m.portPhase role = some .started

instance (m : Machine) (role : PortRole) : Decidable (Usable m role) :=
  inferInstanceAs (Decidable (m.dpdk.isUp = true ∧ m.dpdk.pool = true ∧ m.portPhase role = some .started))

/-- The calls of a forwarding call from one port to the other. -/
def forwardCalls (s : System) (rx tx : PortRole) : System :=
  (s.guard .rxBurst (Usable s.machine rx)).guard .txBurst (Usable s.machine tx)

/-- What the loop of the worker calls on its way. -/
def loopCalls (s : System) : Worker.Pc → System
  | .stopCheck => s
  | .pauseCheck => s
  | .forward01 => forwardCalls s .ingress .egress
  | .forward10 => forwardCalls s .egress .ingress

/-- Where in its loop the worker is, if it has got there only now. -/
def loopPc : WorkerPc → Option Worker.Pc
  | .registering => some .stopCheck
  | .reporting => some .stopCheck
  | .loop pc => some pc
  | .unregistering => none
  | .returned => none

/-- The daemon as `Worker` has it. -/
def System.seen (s : System) (ipc : Worker.Ipc) : Worker.System where
  daemon := s.daemon
  ipc := ipc
  worker := s.worker.bind loopPc
  stopRequested := s.stopRequested

/-- A step of the loop. -/
def loopStep (s : System) (array : ℕ → Mbuf) (burst : Burst Mbuf burstSize) (pc : Worker.Pc) : System :=
  let w := Worker.work (s.seen .idle) array burst pc
  { (loopCalls s pc).setDaemon w.daemon with
    worker := some (match w.worker with
      | some pc => .loop pc
      | none => .unregistering) }

/-- A move of the request loop. -/
def serve (s : System) (ipc : Worker.Ipc) (m : Worker.Move Mbuf burstSize) : Option System :=
  (Worker.step (s.seen ipc) m).map fun w => { s.setDaemon w.daemon with main := .serving w.ipc }

/-- What the worker does after its report: it forwards, or returns. -/
def afterReport : Report → WorkerPc
  | .ok () => .loop .stopCheck
  | .error _ => .returned

/-- The worker after a step of its report. -/
def workerAt (h : Handshake.State Report) : WorkerPc :=
  match h.notifier with
  | .done report => afterReport report
  | _ => .reporting

/-- What the worker reports. -/
def registration (ok : Bool) : Report :=
  if ok then .ok ()
  else .error ⟨.portInit, "failed to register the datapath forwarding thread with DPDK"⟩

/-- A move of one of the two threads on the mutex and what it guards. -/
def onSync (s : System) (m : Handshake.Move Report) : Option System :=
  match s.sync with
  | none => some (s.guard .mutex False)
  | some h => (Handshake.step h m).map fun h => { s with sync := some h }

/-- `pthread_join`, which waits until the worker has returned. -/
def joinThen (s : System) (next : System → System) : Option System :=
  match s.worker with
  | none => some (next (s.guard .threadJoin False))
  | some .returned => some (next (joined s))
  | _ => none

/-- `main` once `pktlab_daemon_run` has returned. -/
def cleanup (s : System) (stops : PortRole → Bool) (ok : Bool) : System :=
  if s.configured = false then { s with main := .exited ok }
  else if s.threadStarted then { s with stopRequested := true, main := .joining ok }
  else finish s stops ok

/-- `pktlab_daemon_run` when `pktlab_ipc_server_run` returns. -/
def serverReturned (s : System) (ok : Bool) : System :=
  { s with
    health :=
      if ok then healthSetState s.health .stopping (utf8 "shutting down datapath daemon")
      else healthSetState s.health .failed (utf8 "ipc server exited with an error")
    main := .stopping ok }

/-- The moves of the main thread. -/
def mainStep (s : System) : Move Mbuf burstSize → Option System
  | .start env stops => if s.main = .starting then some (startDatapath s env stops) else none
  | .await => if s.main = .awaiting then onSync s .waiter else none
  | .spurious => if s.main = .awaiting then onSync s .spurious else none
  | .conclude =>
    match s.main, s.sync with
    | .awaiting, some h => if h.waiter = .done then some (conclude s h.report) else none
    | _, _ => none
  | .refuse stops =>
    match s.main with
    | .refusing e => joinThen s fun s => startFails (releaseDevices s stops) e
    | _ => none
  | .request c =>
    match s.main with
    | .serving ipc => serve s ipc (.request c : Worker.Move Mbuf burstSize)
    | _ => none
  | .reply =>
    match s.main with
    | .serving ipc => serve s ipc (.reply : Worker.Move Mbuf burstSize)
    | _ => none
  | .stop ok => if s.main = .serving .idle then some (serverReturned s ok) else none
  | .cleanup stops =>
    match s.main with
    | .stopping ok => some (cleanup s stops ok)
    | _ => none
  | .join stops =>
    match s.main with
    | .joining ok => joinThen s fun s =>
        finish (s.setDatapath { s.machine.datapath with paused := false }) stops ok
    | _ => none
  | _ => none

/-- The moves of the worker. -/
def workerStep (s : System) : Move Mbuf burstSize → Option System
  | .register ok =>
    if s.worker = some .registering then
      (onSync (s.guard .threadRegister (s.machine.dpdk.isUp = true)) (.decide (registration ok))).map fun s =>
        { s with registered := ok, worker := some .reporting }
    else none
  | .notify =>
    if s.worker = some .reporting then
      (onSync s .notifier).map fun s => { s with worker := some ((s.sync.map workerAt).getD .reporting) }
    else none
  | .forward array burst =>
    match s.worker with
    | some (.loop pc) => some (loopStep s array burst pc)
    | _ => none
  | .unregister =>
    if s.worker = some .unregistering then
      some { s.guard .threadUnregister (s.registered = true) with registered := false, worker := some .returned }
    else none
  | _ => none

def step (s : System) (m : Move Mbuf burstSize) : Option System :=
  match m with
  | .register _ | .notify | .forward _ _ | .unregister => workerStep s m
  | _ => mainStep s m

/-- The call of `pktlab_datapath_start`: DPDK is untouched and knows the two
devices under `portId`. -/
def boot (portId : PortRole → UInt16) (portId_ne : portId .ingress ≠ portId .egress) (init : DatapathInit) :
    System where
  machine :=
    { dpdk := ⟨.fresh, false, portId, portId_ne, fun _ => .probed⟩
      eal := init.eal
      ealInitialized := false
      attached := fun _ => false
      mempool := false
      ready := false
      datapath := ⟨init.ports, init.stats, false, false, false, []⟩ }
  health := healthInit
  configured := true
  syncInitialized := false
  sync := none
  threadStarted := false
  worker := none
  registered := false
  stopRequested := false
  main := .starting
  misuse := none

/-! ### What the pieces do -/

section Pieces

variable {s : System}

theorem guard_of {call : Call} {p : Prop} [Decidable p] (h : p) : s.guard call p = s := if_pos h

/-- A check writes nothing but `misuse`. -/
theorem guard_eq (s : System) (call : Call) (p : Prop) [Decidable p] :
    ∃ x, s.guard call p = { s with misuse := x } := by
  unfold System.guard
  split
  · exact ⟨_, rfl⟩
  · exact ⟨_, rfl⟩

/-- A program changes nothing but the machine and `misuse`. -/
theorem perform_eq (s : System) (program : Eff DeviceFault Machine Unit) :
    ∃ m x, (s.perform program).2 = { s with machine := m, misuse := x } := by
  unfold System.perform
  split <;> exact ⟨_, _, rfl⟩

/-- How a program ends. -/
theorem perform_cases {P Q : Machine → Prop} {E : DeviceFault → Machine → Prop} {program : Eff DeviceFault Machine Unit}
    (h : Triple P program (fun _ => Q) E) (hP : P s.machine) :
    (∃ m, s.perform program = (.ok (), { s with machine := m }) ∧ Q m) ∨
      (∃ m e, s.perform program = (.error (.failed e), { s with machine := m }) ∧ E (.failed e) m) ∨
      ∃ m call, s.perform program =
        (.error (.misuse call), { s with machine := m, misuse := s.misuse <|> some call }) ∧ E (.misuse call) m := by
  have hpost := h s.machine hP
  unfold System.perform
  rcases hrun : program s.machine with ⟨f | u, m⟩
  · rw [hrun] at hpost
    cases f with
    | misuse call => exact Or.inr (Or.inr ⟨m, call, rfl, hpost⟩)
    | failed e => exact Or.inr (Or.inl ⟨m, e, rfl, hpost⟩)
  · rw [hrun] at hpost
    exact Or.inl ⟨m, rfl, hpost⟩

/-- Giving the devices back. -/
theorem releaseDevices_eq (s : System) (stops : PortRole → Bool) :
    ∃ m x, releaseDevices s stops = { s with machine := m, misuse := x } := by
  obtain ⟨x, hg⟩ := guard_eq s .ealCleanup (s.registered = false)
  obtain ⟨m, y, hp⟩ := perform_eq { s with misuse := x } (release stops)
  exact ⟨m, y, by rw [releaseDevices, hg, hp]⟩

/-- Giving them back when every port stops. -/
theorem releaseDevices_sound (hsound : Sound s.machine) (hreg : s.registered = false) {stops : PortRole → Bool}
    (hstops : ∀ r, stops r = true) : ∃ m, releaseDevices s stops = { s with machine := m } ∧ Released m := by
  rw [releaseDevices, guard_of hreg]
  rcases perform_cases (release_spec hstops) hsound with ⟨m, hm, hr⟩ | ⟨m, e, -, hf⟩ | ⟨m, call, -, hf⟩
  · exact ⟨m, by rw [hm], hr⟩
  · exact hf.elim
  · exact hf.elim

end Pieces

/-! ### The invariant -/

/-- The answers of `rte_eth_dev_stop` in a move. -/
def Move.Stops : Move Mbuf burstSize → Prop
  | .start _ stops => ∀ r, stops r = true
  | .refuse stops => ∀ r, stops r = true
  | .cleanup stops => ∀ r, stops r = true
  | .join stops => ∀ r, stops r = true
  | _ => True

/-- There is no worker. `C` is that every port has stopped so far. -/
structure Quiet (C : Prop) (s : System) : Prop where
  worker : s.worker = none
  threadStarted : s.threadStarted = false
  registered : s.registered = false
  syncInitialized : s.syncInitialized = s.sync.isSome
  free : ∀ h, s.sync = some h → h.owner = none ∧ h.waiter ≠ .asleep
  sound : C → Sound s.machine

/-- How far the worker is, with its report and with DPDK. -/
def Fits (w : WorkerPc) (n : Handshake.Notifier Report) (registered stopRequested : Bool) : Prop :=
  match w with
  | .registering => n = .idle ∧ registered = false
  | .reporting => ∃ ok, registered = ok ∧ (n = .locking (registration ok) ∨ n = .storing (registration ok) ∨
      n = .signalling (registration ok) ∨ n = .unlocking (registration ok))
  | .loop _ => n = .done (.ok ()) ∧ registered = true
  | .unregistering => n = .done (.ok ()) ∧ registered = true ∧ stopRequested = true
  | .returned => registered = false ∧ ((n = .done (.ok ()) ∧ stopRequested = true) ∨ ∃ e, n = .done (.error e))

/-- There is a worker, and the ports are up. -/
structure Alive (s : System) (h : Handshake.State Report) (w : WorkerPc) : Prop where
  worker : s.worker = some w
  threadStarted : s.threadStarted = true
  syncInitialized : s.syncInitialized = true
  sync : s.sync = some h
  inv : Handshake.Inv h
  fits : Fits w h.notifier s.registered s.stopRequested
  sound : Sound s.machine
  ready : s.machine.ready = true

/-- A worker that has reported a success, and a main thread that knows. -/
def Forwarding (s : System) : Prop :=
  ∃ h w, Alive s h w ∧ h.waiter = .done ∧ h.notifier = .done (.ok ())

/-- Nothing is left. -/
structure AllReleased (s : System) : Prop where
  machine : Released s.machine
  sync : s.sync = none
  stats : s.machine.datapath.stats.initialized = false

/-- What holds where the main thread is. -/
def AtPc (C : Prop) (s : System) : MainPc → Prop
  | .starting => Quiet C s ∧ s.sync = none ∧ s.stopRequested = false ∧ s.configured = true ∧
      Untouched s.machine.datapath s.machine.dpdk.portId s.machine ∧ s.machine.ealInitialized = false ∧
      s.machine.dpdk.eal = .fresh
  | .awaiting => (∃ h w, Alive s h w) ∧ s.stopRequested = false ∧ s.configured = true
  | .refusing e => (∃ h w, Alive s h w ∧ h.waiter = .done ∧ h.notifier = .done (.error e)) ∧ s.configured = true
  | .serving _ => (Quiet C s ∨ Forwarding s) ∧ s.stopRequested = false ∧ s.configured = true
  | .stopping _ => (Quiet C s ∨ Forwarding s) ∧ s.configured = true
  | .joining _ => Forwarding s ∧ s.stopRequested = true ∧ s.configured = true
  | .exited _ => s.worker = none ∧ (C → Quiet C s ∧ AllReleased s)

/-- What every run keeps. -/
structure Inv (C : Prop) (s : System) : Prop where
  misuse : C → s.misuse = none
  atPc : AtPc C s s.main

section Moves

variable {C : Prop} {s s' : System} {h : Handshake.State Report} {w : WorkerPc} {m : Move Mbuf burstSize}

/-- Of the datapath only the ports matter to the devices. -/
theorem setDatapath_sound {m : Machine} (hm : Sound m) {d : Datapath} (hports : d.ports = m.datapath.ports) :
    Sound { m with datapath := d } :=
  ⟨hm.eal, hm.pool, hm.mempool_up, hm.attached_up, fun r hr => by rw [← hm.id r hr, ← hports], hm.unclosed, hm.idle,
    hm.ready⟩

/-- What the main thread writes of the daemon leaves the worker alone. -/
theorem Alive.frame (ha : Alive s h w) {d : Datapath} (hports : d.ports = s.machine.datapath.ports)
    (health : HealthSnapshot) (main : MainPc) {stop : Bool} (hstop : s.stopRequested = true → stop = true) :
    Alive { s with
      machine := { s.machine with datapath := d }, health := health, main := main, stopRequested := stop } h w := by
  refine ⟨ha.worker, ha.threadStarted, ha.syncInitialized, ha.sync, ha.inv, ?_, setDatapath_sound ha.sound hports,
    ha.ready⟩
  have hfits := ha.fits
  cases w with
  | registering => exact hfits
  | reporting => exact hfits
  | loop pc => exact hfits
  | unregistering => exact ⟨hfits.1, hfits.2.1, hstop hfits.2.2⟩
  | returned => exact ⟨hfits.1, hfits.2.imp_left fun h => ⟨h.1, hstop h.2⟩⟩

theorem Quiet.frame (hq : Quiet C s) {d : Datapath} (hports : d.ports = s.machine.datapath.ports)
    (health : HealthSnapshot) (main : MainPc) :
    Quiet C { s with machine := { s.machine with datapath := d }, health := health, main := main } :=
  ⟨hq.worker, hq.threadStarted, hq.registered, hq.syncInitialized, hq.free, fun hC =>
    setDatapath_sound (hq.sound hC) hports⟩

/-- Both ports can be used while the worker is there. -/
theorem Alive.usable (ha : Alive s h w) (role : PortRole) : Usable s.machine role := by
  obtain ⟨hpool, hports⟩ := ha.sound.ready ha.ready
  obtain ⟨hattached, hstarted⟩ := hports role
  refine ⟨?_, ?_, ?_⟩
  · rw [← ha.sound.eal, ha.sound.attached_up role hattached]
  · rw [← ha.sound.pool, hpool]
  · rw [portPhase_eq (ha.sound.id role hattached), hstarted]

/-! ### The worker -/

/-- What a move of the worker leaves of everything else. -/
structure WorkerMoves (s s' : System) (h h' : Handshake.State Report) : Prop where
  main : s'.main = s.main
  misuse : s'.misuse = s.misuse
  stopRequested : s'.stopRequested = s.stopRequested
  configured : s'.configured = s.configured
  reported : ∀ report, h.notifier = .done report → h' = h

/-- A step of the loop merges counters. -/
theorem loopStep_eq (ha : Alive s h w) (array : ℕ → Mbuf) (burst : Burst Mbuf burstSize) (pc : Worker.Pc) :
    ∃ stats w', loopStep s array burst pc =
        { s with
          machine := { s.machine with datapath := { s.machine.datapath with stats := stats } }, worker := some w' } ∧
      ((∃ pc', w' = .loop pc') ∨ (w' = .unregistering ∧ s.stopRequested = true)) := by
  have hcalls : ∀ rx tx, forwardCalls s rx tx = s := fun rx tx => by
    rw [forwardCalls, guard_of (ha.usable rx), guard_of (ha.usable tx)]
  obtain ⟨stats, hf⟩ := Worker.forward_eq s.daemon array burst
  cases pc with
  | stopCheck =>
    refine ⟨s.machine.datapath.stats, _, rfl, ?_⟩
    cases hstop : s.stopRequested with
    | true => exact Or.inr ⟨by simp [Worker.work, System.seen, hstop], rfl⟩
    | false => exact Or.inl ⟨.pauseCheck, by simp [Worker.work, System.seen, hstop]⟩
  | pauseCheck =>
    refine ⟨s.machine.datapath.stats, _, rfl, Or.inl ?_⟩
    cases hp : s.machine.datapath.paused with
    | true => exact ⟨.stopCheck, by simp [Worker.work, System.seen, System.daemon, hp]⟩
    | false => exact ⟨.forward01, by simp [Worker.work, System.seen, System.daemon, hp]⟩
  | forward01 =>
    refine ⟨stats, .loop .forward10, ?_, Or.inl ⟨_, rfl⟩⟩
    have hf' : Worker.forward (s.seen .idle).daemon array burst = _ := hf
    rw [loopStep, loopCalls, hcalls, Worker.work, hf']
    rfl
  | forward10 =>
    refine ⟨stats, .loop .stopCheck, ?_, Or.inl ⟨_, rfl⟩⟩
    have hf' : Worker.forward (s.seen .idle).daemon array burst = _ := hf
    rw [loopStep, loopCalls, hcalls, Worker.work, hf']
    rfl

/-- `Fits` of a worker in its report. -/
theorem Alive.reporting (ha : Alive s h .reporting) : ∃ ok, s.registered = ok ∧
    (h.notifier = .locking (registration ok) ∨ h.notifier = .storing (registration ok) ∨
      h.notifier = .signalling (registration ok) ∨ h.notifier = .unlocking (registration ok)) :=
  ha.fits

/-- What a report is followed by. -/
theorem fits_afterReport (ok : Bool) (stopRequested : Bool) :
    Fits (afterReport (registration ok)) (.done (registration ok)) ok stopRequested := by
  cases ok with
  | true => exact ⟨rfl, rfl⟩
  | false => exact ⟨rfl, Or.inr ⟨_, rfl⟩⟩

/-- A step of the report. -/
theorem notifierStep_fits (ha : Alive s h .reporting) {h' : Handshake.State Report}
    (hs : Handshake.notifierStep h = some h') : Fits (workerAt h') h'.notifier s.registered s.stopRequested := by
  obtain ⟨ok, hreg, hn⟩ := ha.reporting
  unfold Handshake.notifierStep at hs
  rw [hreg]
  rcases hn with hn | hn | hn | hn
  · simp only [hn, Option.ite_none_right_eq_some, Option.some.injEq] at hs
    obtain ⟨-, rfl⟩ := hs
    exact ⟨ok, rfl, Or.inr (Or.inl rfl)⟩
  · simp only [hn, Option.some.injEq] at hs
    subst hs
    exact ⟨ok, rfl, Or.inr (Or.inr (Or.inl rfl))⟩
  · simp only [hn, Option.some.injEq] at hs
    subst hs
    exact ⟨ok, rfl, Or.inr (Or.inr (Or.inr rfl))⟩
  · simp only [hn, Option.some.injEq] at hs
    subst hs
    exact fits_afterReport ok s.stopRequested

/-- A worker that moves stays with its handshake. -/
theorem workerStep_alive (ha : Alive s h w) (hs : workerStep s m = some s') :
    ∃ h' w', Alive s' h' w' ∧ WorkerMoves s s' h h' := by
  cases m with
  | register ok =>
    rw [workerStep, Option.ite_none_right_eq_some, ha.worker] at hs
    obtain ⟨hw, hs⟩ := hs
    obtain rfl := Option.some.inj hw
    obtain ⟨hn, -⟩ : h.notifier = .idle ∧ s.registered = false := ha.fits
    rw [guard_of (ha.usable .ingress).1, onSync, ha.sync] at hs
    have hstep : Handshake.step h (.decide (registration ok)) = some { h with notifier := .locking (registration ok) } := by
      rw [Handshake.step, hn]
    simp only [hstep, Option.map_some, Option.some.injEq] at hs
    subst hs
    refine ⟨_, .reporting, ⟨rfl, ha.threadStarted, ha.syncInitialized, rfl, Handshake.step_inv ha.inv hstep,
      ⟨ok, rfl, Or.inl rfl⟩, ha.sound, ha.ready⟩, rfl, rfl, rfl, rfl, fun report hr => ?_⟩
    rw [hn] at hr
    cases hr
  | notify =>
    rw [workerStep, Option.ite_none_right_eq_some, ha.worker] at hs
    obtain ⟨hw, hs⟩ := hs
    obtain rfl := Option.some.inj hw
    rw [onSync, ha.sync] at hs
    cases hstep : Handshake.step h .notifier with
    | none => simp [hstep] at hs
    | some h' =>
      simp only [hstep, Option.map_some, Option.some.injEq] at hs
      subst hs
      refine ⟨h', workerAt h', ⟨rfl, ha.threadStarted, ha.syncInitialized, rfl, Handshake.step_inv ha.inv hstep,
        notifierStep_fits ha hstep, ha.sound, ha.ready⟩, rfl, rfl, rfl, rfl, fun report hr => ?_⟩
      obtain ⟨ok, -, hn⟩ := ha.reporting
      simp [hr] at hn
  | forward array burst =>
    rw [workerStep, ha.worker] at hs
    cases w with
    | loop pc =>
      obtain ⟨stats, w', heq, hw'⟩ := loopStep_eq ha array burst pc
      obtain rfl := (Option.some.inj hs).symm.trans heq
      obtain ⟨hn, hreg⟩ : h.notifier = .done (.ok ()) ∧ s.registered = true := ha.fits
      refine ⟨h, w', ⟨rfl, ha.threadStarted, ha.syncInitialized, ha.sync, ha.inv, ?_, setDatapath_sound ha.sound rfl,
        ha.ready⟩, rfl, rfl, rfl, rfl, fun _ _ => rfl⟩
      rcases hw' with ⟨pc', rfl⟩ | ⟨rfl, hstop⟩
      · exact ⟨hn, hreg⟩
      · exact ⟨hn, hreg, hstop⟩
    | _ => cases hs
  | unregister =>
    rw [workerStep, Option.ite_none_right_eq_some, ha.worker] at hs
    obtain ⟨hw, hs⟩ := hs
    obtain rfl := Option.some.inj hw
    obtain ⟨hn, hreg, hstop⟩ : h.notifier = .done (.ok ()) ∧ s.registered = true ∧ s.stopRequested = true := ha.fits
    rw [guard_of hreg, Option.some.injEq] at hs
    subst hs
    exact ⟨h, .returned, ⟨rfl, ha.threadStarted, ha.syncInitialized, ha.sync, ha.inv, ⟨rfl, Or.inl ⟨hn, hstop⟩⟩,
      ha.sound, ha.ready⟩, rfl, rfl, rfl, rfl, fun _ _ => rfl⟩
  | _ => cases hs

/-- Without a worker it does not move. -/
theorem workerStep_quiet (hw : s.worker = none) : workerStep s m = none := by
  cases m <;> simp [workerStep, hw]

/-- A worker whose report is known goes on forwarding. -/
theorem workerStep_forwarding (hf : Forwarding s) (hs : workerStep s m = some s') :
    Forwarding s' ∧ ∃ h h', WorkerMoves s s' h h' := by
  obtain ⟨h, w, ha, hwaiter, hn⟩ := hf
  obtain ⟨h', w', ha', hmoves⟩ := workerStep_alive ha hs
  obtain rfl := hmoves.reported _ hn
  exact ⟨⟨h', w', ha', hwaiter, hn⟩, h', h', hmoves⟩

/-- A move of the worker keeps the invariant. -/
theorem workerStep_inv (hinv : Inv C s) (hs : workerStep s m = some s') : Inv C s' := by
  obtain ⟨hmisuse, hpc⟩ := hinv
  have hquiet : ∀ hq : Quiet C s, False := fun hq => by
    rw [workerStep_quiet hq.worker] at hs
    cases hs
  have hforwarding : (Quiet C s ∨ Forwarding s) → Forwarding s := fun hqf => hqf.resolve_left hquiet
  cases hmain : s.main with
  | starting =>
    rw [hmain] at hpc
    exact (hquiet hpc.1).elim
  | awaiting =>
    rw [hmain] at hpc
    obtain ⟨⟨h, w, ha⟩, hstop, hconf⟩ := hpc
    obtain ⟨h', w', ha', hmoves⟩ := workerStep_alive ha hs
    refine ⟨fun hC => hmoves.misuse.trans (hmisuse hC), ?_⟩
    rw [hmoves.main, hmain]
    exact ⟨⟨h', w', ha'⟩, hmoves.stopRequested.trans hstop, hmoves.configured.trans hconf⟩
  | refusing e =>
    rw [hmain] at hpc
    obtain ⟨⟨h, w, ha, hwaiter, hn⟩, hconf⟩ := hpc
    obtain ⟨h', w', ha', hmoves⟩ := workerStep_alive ha hs
    obtain rfl := hmoves.reported _ hn
    refine ⟨fun hC => hmoves.misuse.trans (hmisuse hC), ?_⟩
    rw [hmoves.main, hmain]
    exact ⟨⟨h', w', ha', hwaiter, hn⟩, hmoves.configured.trans hconf⟩
  | serving ipc =>
    rw [hmain] at hpc
    obtain ⟨hf', h, h', hmoves⟩ := workerStep_forwarding (hforwarding hpc.1) hs
    refine ⟨fun hC => hmoves.misuse.trans (hmisuse hC), ?_⟩
    rw [hmoves.main, hmain]
    exact ⟨Or.inr hf', hmoves.stopRequested.trans hpc.2.1, hmoves.configured.trans hpc.2.2⟩
  | stopping ok =>
    rw [hmain] at hpc
    obtain ⟨hf', h, h', hmoves⟩ := workerStep_forwarding (hforwarding hpc.1) hs
    refine ⟨fun hC => hmoves.misuse.trans (hmisuse hC), ?_⟩
    rw [hmoves.main, hmain]
    exact ⟨Or.inr hf', hmoves.configured.trans hpc.2⟩
  | joining ok =>
    rw [hmain] at hpc
    obtain ⟨hf', h, h', hmoves⟩ := workerStep_forwarding hpc.1 hs
    refine ⟨fun hC => hmoves.misuse.trans (hmisuse hC), ?_⟩
    rw [hmoves.main, hmain]
    exact ⟨hf', hmoves.stopRequested.trans hpc.2.1, hmoves.configured.trans hpc.2.2⟩
  | exited ok =>
    rw [hmain] at hpc
    rw [workerStep_quiet hpc.1] at hs
    cases hs

/-! ### The main thread -/

/-- The mutex of a handshake that is over is free. -/
theorem Alive.free (ha : Alive s h w) (hwaiter : h.waiter = .done) {report : Report}
    (hn : h.notifier = .done report) : h.owner = none ∧ h.waiter ≠ .asleep := by
  refine ⟨ha.inv.free ?_ ?_, by simp [hwaiter]⟩
  · simp [hwaiter, Handshake.Waiter.inside]
  · simp [hn, Handshake.Notifier.inside]

/-- A worker that has returned leaves no thread behind. -/
theorem Alive.joined (ha : Alive s h .returned) (hwaiter : h.waiter = .done) {report : Report}
    (hn : h.notifier = .done report) : Quiet C (joined s) where
  worker := rfl
  threadStarted := rfl
  registered := ha.fits.1
  syncInitialized := by
    show s.syncInitialized = s.sync.isSome
    rw [ha.syncInitialized, ha.sync]
    rfl
  free := fun h' hs => by
    obtain rfl := Option.some.inj (ha.sync.symm.trans hs)
    exact ha.free hwaiter hn
  sound := fun _ => ha.sound

/-- Once the devices are given back. -/
theorem Quiet.release (hq : Quiet C s) (hmisuse : C → s.misuse = none) {stops : PortRole → Bool}
    (hstops : C → ∀ r, stops r = true) :
    ∃ m x, releaseDevices s stops = { s with machine := m, misuse := x } ∧ (C → x = none ∧ Released m) := by
  obtain ⟨m, x, heq⟩ := releaseDevices_eq s stops
  refine ⟨m, x, heq, fun hC => ?_⟩
  obtain ⟨m', heq', hm'⟩ := releaseDevices_sound (hq.sound hC) hq.registered (hstops hC)
  rw [heq] at heq'
  obtain ⟨rfl, rfl⟩ : m = m' ∧ x = s.misuse := by
    simpa using heq'
  exact ⟨hmisuse hC, hm'⟩

/-- A failed start. -/
theorem startFails_inv (hq : Quiet C s) (hconf : s.configured = true) (hmisuse : C → s.misuse = none) (e : DpdkdError) :
    Inv C (startFails s e) :=
  ⟨hmisuse, Or.inl (hq.frame rfl _ _), hconf⟩

/-- A failed start that gives the devices back. -/
theorem release_startFails_inv (hq : Quiet C s) (hconf : s.configured = true) (hmisuse : C → s.misuse = none)
    {stops : PortRole → Bool} (hstops : C → ∀ r, stops r = true) (e : DpdkdError) :
    Inv C (startFails (releaseDevices s stops) e) := by
  obtain ⟨m, x, heq, hm⟩ := hq.release hmisuse hstops
  rw [heq]
  exact startFails_inv (s := { s with machine := m, misuse := x })
    ⟨hq.worker, hq.threadStarted, hq.registered, hq.syncInitialized, hq.free, fun hC => (hm hC).2.sound⟩ hconf
    (fun hC => (hm hC).1) e

/-- The mutex and the condition variable, which nobody uses any more. -/
theorem Quiet.destroyWorkerSync (hq : Quiet C s) :
    destroyWorkerSync s = { s with sync := none, syncInitialized := false } := by
  have hi := hq.syncInitialized
  unfold Lifecycle.destroyWorkerSync
  cases hsync : s.sync with
  | none =>
    rw [hsync] at hi
    rw [if_neg (by simp [hi])]
    cases s
    simp_all
  | some h =>
    have hi : s.syncInitialized = true := by
      rw [hi, hsync]
      rfl
    rw [if_pos hi, guard_of ⟨h, rfl, hq.free h hsync⟩]

/-- The end of the process. -/
theorem finish_inv (hq : Quiet C s) (hmisuse : C → s.misuse = none) {stops : PortRole → Bool}
    (hstops : C → ∀ r, stops r = true) (ok : Bool) : Inv C (finish s stops ok) := by
  obtain ⟨m, x, heq, hm⟩ := hq.release hmisuse hstops
  have hq' : Quiet C { s with machine := m, misuse := x } :=
    ⟨hq.worker, hq.threadStarted, hq.registered, hq.syncInitialized, hq.free, fun hC => (hm hC).2.sound⟩
  unfold finish
  rw [heq, hq'.destroyWorkerSync]
  refine ⟨fun hC => (hm hC).1, hq.worker, fun hC => ⟨⟨hq.worker, hq.threadStarted, hq.registered, rfl, fun h hs => ?_,
    fun hC => setDatapath_sound (hm hC).2.sound rfl⟩, ?_, rfl, rfl⟩⟩
  · cases hs
  obtain ⟨-, hr⟩ := hm hC
  exact ⟨setDatapath_sound hr.sound rfl, hr.ealInitialized, hr.attached, hr.mempool, hr.ready⟩

/-- Joining a worker that has returned. -/
theorem joinThen_eq (ha : Alive s h w) {next : System → System} (hs : joinThen s next = some s') :
    w = .returned ∧ s' = next (joined s) := by
  rw [joinThen, ha.worker] at hs
  cases w with
  | returned => exact ⟨rfl, (Option.some.inj hs).symm⟩
  | _ => cases hs

/-- The wait of the main thread. -/
theorem onSync_inv (ha : Alive s h w) {move : Handshake.Move Report}
    (hmove : ∀ h', Handshake.step h move = some h' → h'.notifier = h.notifier) (hs : onSync s move = some s') :
    ∃ h', s' = { s with sync := some h' } ∧ Handshake.step h move = some h' ∧ Alive s' h' w := by
  rw [onSync, ha.sync] at hs
  obtain ⟨h', hstep, rfl⟩ := Option.map_eq_some_iff.mp hs
  refine ⟨h', rfl, hstep, ha.worker, ha.threadStarted, ha.syncInitialized, rfl, Handshake.step_inv ha.inv hstep, ?_,
    ha.sound, ha.ready⟩
  rw [hmove h' hstep]
  exact ha.fits

theorem waiter_notifier {h' : Handshake.State Report} (hs : Handshake.step h .waiter = some h') :
    h'.notifier = h.notifier :=
  Handshake.waiterStep_notifier hs

theorem spurious_notifier {h' : Handshake.State Report} (hs : Handshake.step h .spurious = some h') :
    h'.notifier = h.notifier := by
  rw [Handshake.step, Option.ite_none_right_eq_some, Option.some.injEq] at hs
  exact hs.2 ▸ rfl

/-- A request and its reply change flags, counters and the health. -/
theorem serve_eq {ipc : Worker.Ipc} {wm : Worker.Move Mbuf burstSize} (hwm : wm = .reply ∨ ∃ c, wm = .request c)
    (hs : serve s ipc wm = some s') :
    ∃ (d : Datapath) (health : HealthSnapshot) (ipc' : Worker.Ipc),
      s' = { s with machine := { s.machine with datapath := d }, health := health, main := .serving ipc' } ∧
      d.ports = s.machine.datapath.ports := by
  obtain ⟨ws, hstep, rfl⟩ := Option.map_eq_some_iff.mp hs
  refine ⟨ws.daemon.datapath, ws.daemon.health, ws.ipc, rfl, ?_⟩
  rcases hwm with rfl | ⟨c, rfl⟩
  · rw [Worker.step] at hstep
    cases hipc : (s.seen ipc).ipc with
    | idle => simp [hipc] at hstep
    | exchanged paused =>
      cases paused <;>
      · simp only [hipc, Option.some.injEq] at hstep
        exact hstep ▸ rfl
  · rw [Worker.step, Option.ite_none_right_eq_some, Option.some.injEq] at hstep
    rw [← hstep.2]
    by_cases hc : needsForwarding c = true
    · cases c with
      | pauseDatapath =>
        rcases Worker.exchange_cases (s.seen ipc) true with ⟨-, he⟩ | ⟨-, he⟩ <;>
        · rw [Worker.request, he]
          rfl
      | resumeDatapath =>
        rcases Worker.exchange_cases (s.seen ipc) false with ⟨-, he⟩ | ⟨-, he⟩ <;>
        · rw [Worker.request, he]
          rfl
      | _ => exact absurd hc (by decide)
    · obtain ⟨stats, hr⟩ := Worker.request_other (s := s.seen ipc) (by simpa using hc)
      rw [hr]
      rfl

theorem inv_at {pc : MainPc} (hmain : s.main = pc) (hmisuse : C → s.misuse = none) (hpc : AtPc C s pc) : Inv C s :=
  ⟨hmisuse, hmain ▸ hpc⟩

/-- What the main thread writes while it serves. -/
theorem serving_frame (hqf : Quiet C s ∨ Forwarding s) {d : Datapath} (hports : d.ports = s.machine.datapath.ports)
    (health : HealthSnapshot) (main : MainPc) :
    let t : System := { s with machine := { s.machine with datapath := d }, health := health, main := main }
    Quiet C t ∨ Forwarding t := by
  rcases hqf with hq | ⟨h, w, ha, hwaiter, hn⟩
  · exact Or.inl (hq.frame hports health main)
  · exact Or.inr ⟨h, w, ha.frame hports health main id, hwaiter, hn⟩

/-- The wait for the report. -/
theorem await_inv (hinv : Inv C s) (hmain : s.main = .awaiting) {move : Handshake.Move Report}
    (hmove : ∀ {h h' : Handshake.State Report}, Handshake.step h move = some h' → h'.notifier = h.notifier)
    (hs : onSync s move = some s') : Inv C s' := by
  obtain ⟨hmisuse, hpc⟩ := hinv
  rw [hmain] at hpc
  obtain ⟨⟨h, w, ha⟩, hstop, hconf⟩ := hpc
  obtain ⟨h', rfl, -, ha'⟩ := onSync_inv ha (fun _ => hmove) hs
  exact inv_at hmain hmisuse ⟨⟨h', w, ha'⟩, hstop, hconf⟩

/-- What the main thread finds when it is through. -/
theorem conclude_inv (ha : Alive s h w) (hwaiter : h.waiter = .done) (hmisuse : C → s.misuse = none)
    (hstop : s.stopRequested = false) (hconf : s.configured = true) : Inv C (conclude s h.report) := by
  have hn := ha.inv.through (Or.inr hwaiter)
  rcases hr : h.report with e | u
  · rw [hr] at hn
    exact ⟨hmisuse, ⟨h, w, ha.frame rfl _ _ fun _ => rfl, hwaiter, hn⟩, hconf⟩
  · rw [hr] at hn
    exact ⟨hmisuse, Or.inr ⟨h, w, ha.frame (d := (started s).machine.datapath) rfl _ _ id, hwaiter, hn⟩, hstop, hconf⟩

/-- A start without a forwarding loop. -/
theorem degraded_inv (hq : Quiet C s) (hmisuse : C → s.misuse = none) (hstop : s.stopRequested = false)
    (hconf : s.configured = true) (after : String) : Inv C (degraded s after) :=
  ⟨hmisuse, Or.inl (hq.frame (d := (degraded s after).machine.datapath) rfl _ _), hstop, hconf⟩

/-- The worker is created, or the start fails. -/
theorem createWorker_inv (hq : Quiet C s) (hsync : s.sync = none) (hmisuse : C → s.misuse = none)
    (hconf : s.configured = true) (hsound : Sound s.machine) (hready : s.machine.ready = true)
    {stops : PortRole → Bool} (hstops : C → ∀ r, stops r = true) (threads : ThreadAnswers) :
    Inv C (createWorker s threads stops) := by
  have hi : s.syncInitialized = false := by
    rw [hq.syncInitialized, hsync]
    rfl
  unfold createWorker initWorkerSync
  rw [if_neg (by simp [hi])]
  by_cases hmutex : threads.mutexInit = false
  · rw [if_pos hmutex]
    exact release_startFails_inv hq hconf hmisuse hstops _
  rw [if_neg hmutex]
  by_cases hcond : threads.condInit = false
  · rw [if_pos hcond]
    exact release_startFails_inv hq hconf hmisuse hstops _
  rw [if_neg hcond, createSync, guard_of hsync]
  cases threads.created with
  | some text =>
    have hq' : Quiet C (prepareWorker { s with
        sync := some (Handshake.start (.error ⟨.none, ""⟩)), syncInitialized := true }) := by
      refine ⟨hq.worker, hq.threadStarted, hq.registered, rfl, fun h hs => ?_, fun hC =>
        setDatapath_sound (hq.sound hC) rfl⟩
      obtain rfl := Option.some.inj hs
      exact ⟨rfl, by simp [Handshake.start]⟩
    exact release_startFails_inv hq' hconf hmisuse hstops _
  | none =>
    exact ⟨hmisuse, ⟨_, .registering, ⟨rfl, rfl, rfl, rfl, Handshake.start_inv _, ⟨rfl, hq.registered⟩,
      setDatapath_sound hsound rfl, hready⟩⟩, rfl, hconf⟩

/-- The start of the devices. -/
theorem startDatapath_inv (hinv : Inv C s) (hmain : s.main = .starting) (env : LaunchEnv) {stops : PortRole → Bool}
    (hstops : C → ∀ r, stops r = true) : Inv C (startDatapath s env stops) := by
  obtain ⟨hmisuse, hpc⟩ := hinv
  rw [hmain] at hpc
  obtain ⟨hq, hsync, hstop, hconf, huntouched, hinit, hfresh⟩ := hpc
  unfold startDatapath
  rw [if_neg (by simp [hconf])]
  have hq' := hq.frame (d := { s.machine.datapath with portsReady := false, paused := false }) rfl s.health s.main
  cases env with
  | noDpdk => exact degraded_inv hq' hmisuse hstop hconf _
  | noRoot => exact degraded_inv hq' hmisuse hstop hconf _
  | root answers threads =>
    have hquiet : ∀ m, (C → Sound m) → Quiet C { s with machine := m } := fun m hm =>
      ⟨hq.worker, hq.threadStarted, hq.registered, hq.syncInitialized, hq.free, hm⟩
    have hpre := huntouched.setDatapath { s.machine.datapath with portsReady := false, paused := false }
    rcases perform_cases (s := s.setDatapath { s.machine.datapath with portsReady := false, paused := false })
      (devicesStart_spec answers stops) ⟨hpre, hinit, hfresh⟩ with
      ⟨m, heq, hsound, hready, -, -⟩ | ⟨m, e, heq, hE⟩ | ⟨m, call, heq, hE⟩
    · simp only [heq]
      exact createWorker_inv (hquiet m fun _ => hsound) hsync hmisuse hconf hsound hready hstops threads
    · simp only [heq]
      exact startFails_inv (hquiet m fun hC => (hE (hstops hC)).2.1) hconf hmisuse e
    · simp only [heq]
      have hC : ¬ C := fun hC => by
        obtain ⟨⟨e, he⟩, -⟩ := hE (hstops hC)
        cases he
      exact ⟨fun h => absurd h hC, hq.worker, fun h => absurd h hC⟩

/-- The end of the wait. -/
theorem joinThen_inv {next : System → System} {report : Report}
    (ha : Alive s h w) (hwaiter : h.waiter = .done) (hn : h.notifier = .done report)
    (hnext : Quiet C (joined s) → Inv C (next (joined s))) (hs : joinThen s next = some s') : Inv C s' := by
  obtain ⟨rfl, rfl⟩ := joinThen_eq ha hs
  exact hnext (ha.joined hwaiter hn)

/-- A move of the main thread keeps the invariant. -/
theorem mainStep_inv (hinv : Inv C s) (hstops : C → m.Stops) (hs : mainStep s m = some s') : Inv C s' := by
  cases m with
  | start env stops =>
    rw [mainStep, Option.ite_none_right_eq_some, Option.some.injEq] at hs
    obtain ⟨hmain, rfl⟩ := hs
    exact startDatapath_inv hinv hmain env hstops
  | await =>
    rw [mainStep, Option.ite_none_right_eq_some] at hs
    exact await_inv hinv hs.1 waiter_notifier hs.2
  | spurious =>
    rw [mainStep, Option.ite_none_right_eq_some] at hs
    exact await_inv hinv hs.1 spurious_notifier hs.2
  | conclude =>
    rw [mainStep] at hs
    split at hs
    · next h hmain hsync =>
      rw [Option.ite_none_right_eq_some, Option.some.injEq] at hs
      obtain ⟨hwaiter, rfl⟩ := hs
      obtain ⟨hmisuse, hpc⟩ := hinv
      rw [hmain] at hpc
      obtain ⟨⟨h', w, ha⟩, hstop, hconf⟩ := hpc
      obtain rfl := Option.some.inj (ha.sync.symm.trans hsync)
      exact conclude_inv ha hwaiter hmisuse hstop hconf
    · cases hs
  | refuse stops =>
    rw [mainStep] at hs
    split at hs
    · next e hmain =>
      obtain ⟨hmisuse, hpc⟩ := hinv
      rw [hmain] at hpc
      obtain ⟨⟨h, w, ha, hwaiter, hn⟩, hconf⟩ := hpc
      exact joinThen_inv ha hwaiter hn (fun hq => release_startFails_inv hq hconf hmisuse hstops e) hs
    · cases hs
  | request c =>
    rw [mainStep] at hs
    split at hs
    · next ipc hmain =>
      obtain ⟨hmisuse, hpc⟩ := hinv
      rw [hmain] at hpc
      obtain ⟨hqf, hstop, hconf⟩ := hpc
      obtain ⟨d, health, ipc', rfl, hports⟩ := serve_eq (Or.inr ⟨c, rfl⟩) hs
      exact ⟨hmisuse, serving_frame hqf hports health (.serving ipc'), hstop, hconf⟩
    · cases hs
  | reply =>
    rw [mainStep] at hs
    split at hs
    · next ipc hmain =>
      obtain ⟨hmisuse, hpc⟩ := hinv
      rw [hmain] at hpc
      obtain ⟨hqf, hstop, hconf⟩ := hpc
      obtain ⟨d, health, ipc', rfl, hports⟩ := serve_eq (Or.inl rfl) hs
      exact ⟨hmisuse, serving_frame hqf hports health (.serving ipc'), hstop, hconf⟩
    · cases hs
  | stop ok =>
    rw [mainStep, Option.ite_none_right_eq_some, Option.some.injEq] at hs
    obtain ⟨hmain, rfl⟩ := hs
    obtain ⟨hmisuse, hpc⟩ := hinv
    rw [hmain] at hpc
    exact ⟨hmisuse, serving_frame hpc.1 rfl _ _, hpc.2.2⟩
  | cleanup stops =>
    rw [mainStep] at hs
    split at hs
    · next ok hmain =>
      obtain rfl := Option.some.inj hs
      obtain ⟨hmisuse, hpc⟩ := hinv
      rw [hmain] at hpc
      obtain ⟨hqf, hconf⟩ := hpc
      rw [cleanup, if_neg (by simp [hconf])]
      rcases hqf with hq | ⟨h, w, ha, hwaiter, hn⟩
      · rw [if_neg (by simp [hq.threadStarted])]
        exact finish_inv hq hmisuse hstops ok
      · rw [if_pos ha.threadStarted]
        exact ⟨hmisuse, ⟨h, w, ha.frame rfl s.health (.joining ok) fun _ => rfl, hwaiter, hn⟩, rfl, hconf⟩
    · cases hs
  | join stops =>
    rw [mainStep] at hs
    split at hs
    · next ok hmain =>
      obtain ⟨hmisuse, hpc⟩ := hinv
      rw [hmain] at hpc
      obtain ⟨⟨h, w, ha, hwaiter, hn⟩, -, -⟩ := hpc
      refine joinThen_inv ha hwaiter hn (fun hq => ?_) hs
      exact finish_inv (hq.frame (d := { s.machine.datapath with paused := false }) rfl s.health s.main) hmisuse
        hstops ok
    · cases hs
  | _ => cases hs

theorem step_cases (hs : step s m = some s') : workerStep s m = some s' ∨ mainStep s m = some s' := by
  cases m with
  | register ok => exact Or.inl hs
  | notify => exact Or.inl hs
  | forward array burst => exact Or.inl hs
  | unregister => exact Or.inl hs
  | _ => exact Or.inr hs

/-- Every move keeps the invariant. -/
theorem step_inv (hinv : Inv C s) (hstops : C → m.Stops) (hs : step s m = some s') : Inv C s' :=
  (step_cases hs).elim (workerStep_inv hinv) (mainStep_inv hinv hstops)

end Moves

theorem boot_inv (portId : PortRole → UInt16) (portId_ne : portId .ingress ≠ portId .egress) (init : DatapathInit)
    (C : Prop) : Inv C (boot portId portId_ne init) := by
  have huntouched : Untouched (boot portId portId_ne init).machine.datapath portId (boot portId portId_ne init).machine :=
    ⟨rfl, rfl, rfl, rfl, rfl, fun _ => rfl, fun _ => rfl⟩
  refine ⟨fun _ => rfl, ⟨rfl, rfl, rfl, rfl, fun h hs => ?_, fun _ => huntouched.sound rfl⟩, rfl, rfl, rfl, huntouched,
    rfl, rfl⟩
  cases hs

/-- What holds in every state of a run. With `C` false nothing is assumed of
how ports stop. -/
theorem run_inv {portId : PortRole → UInt16} {portId_ne : portId .ingress ≠ portId .egress} {init : DatapathInit}
    {C : Prop} {moves : List (Move Mbuf burstSize)} {s : System} (hstops : C → ∀ m ∈ moves, m.Stops)
    (hrun : Run.run step (boot portId portId_ne init) moves = some s) : Inv C s :=
  Run.run_induction_of (C := fun _ m => C → m.Stops) (fun _ _ _ h hc hs => step_inv h hc hs)
    (boot_inv portId portId_ne init C) (Run.allSteps_of_forall fun m hm hC => hstops hC m hm) hrun

/-- **The daemon uses DPDK as it is to be used, and gives everything back.** In
every run in which the ports stop when they are told to, however the system
answers otherwise and however the two threads interleave, no call is made where
it is not allowed: none on a port in the wrong phase or under an identifier that
is not its own, no receive from or transmit on a port that is not started, no
pool freed twice or under a queue, no use of a mutex that is not initialised.
When the process ends, the worker is joined and unregistered, no port has a
queue, the pool is freed, the EAL is down, and the mutexes are destroyed. -/
theorem lifecycle_safe {portId : PortRole → UInt16} {portId_ne : portId .ingress ≠ portId .egress}
    {init : DatapathInit} {moves : List (Move Mbuf burstSize)} {s : System} (hstops : ∀ m ∈ moves, m.Stops)
    (hrun : Run.run step (boot portId portId_ne init) moves = some s) :
    s.misuse = none ∧ ∀ ok, s.main = .exited ok →
      s.worker = none ∧ s.registered = false ∧ s.machine.dpdk.isUp = false ∧ s.machine.dpdk.pool = false ∧
      s.machine.dpdk.idle = true ∧ s.sync = none ∧ s.machine.datapath.stats.initialized = false := by
  have hinv := run_inv (C := True) (fun _ => hstops) hrun
  refine ⟨hinv.misuse trivial, fun ok hmain => ?_⟩
  have hpc := hinv.atPc
  rw [hmain] at hpc
  obtain ⟨hq, hr⟩ := hpc.2 trivial
  obtain ⟨hup, hpool, hidle⟩ := hr.machine.dpdk
  exact ⟨hq.worker, hq.registered, hup, hpool, hidle, hr.sync, hr.stats⟩

/-- The identifiers of the first two devices that are probed. -/
def firstTwo : PortRole → UInt16
  | .ingress => 0
  | .egress => 1

/-- DPDK and the system do what they are asked. -/
def willing : LaunchEnv := .root ⟨4711, true, true, fun _ => true, fun _ _ => true⟩ ⟨true, true, none⟩

/-- A burst that receives nothing. -/
def idleBurst (Mbuf : Type) (burstSize : UInt16) : Burst Mbuf burstSize where
  received := []
  received_le := Nat.zero_le _
  parses := fun _ => true
  transmit := fun _ => 0
  transmit_le := fun _ => Nat.zero_le _

/-- A start in which the main thread sleeps until it is signalled, a pause, and
a stop while the worker is in the middle of an iteration. -/
def wholeLife : List (Move Unit defaultInit.ports.burstSize) :=
  let stops : PortRole → Bool := fun _ => true
  let work := Move.forward (fun _ => ()) (idleBurst Unit defaultInit.ports.burstSize)
  [.start willing stops, .await, .await, .register true, .notify, .notify, .notify, .notify, .await, .await, work,
    .await, .conclude, work, .request .pauseDatapath, .reply, work, .stop true, .cleanup stops, work, work, .unregister,
    .join stops]

theorem lifecycle_safe_wholeLife :
    ∃ s, Run.run step (boot firstTwo (by decide) defaultInit) wholeLife = some s ∧
      s.misuse = none ∧ s.worker = none ∧ s.machine.dpdk.isUp = false ∧ s.machine.dpdk.pool = false := by
  obtain ⟨s, hrun, hmain⟩ : ∃ s, Run.run step (boot firstTwo (by decide) defaultInit)
      wholeLife = some s ∧ s.main = .exited true := ⟨_, rfl, rfl⟩
  have hstops : ∀ m ∈ wholeLife, m.Stops := by
    simp [wholeLife, Move.Stops]
  obtain ⟨hmisuse, hexit⟩ := lifecycle_safe hstops hrun
  obtain ⟨hworker, -, hup, hpool, -⟩ := hexit true hmain
  exact ⟨s, hrun, hmisuse, hworker, hup, hpool⟩

end Lifecycle
end Dpdkd
end Pktlab
