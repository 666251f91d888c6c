/-
# A start that hands over to the request loop, and threads that end

Two results about the runs of `Lifecycle`, whatever the system answers.

* `startup_refines`: the run of a daemon that serves, without the moves of its
  start, is a run of the pause protocol (`Worker`) from a daemon that was
  launched as a whole. The worker may forward before the main thread has come
  out of its wait: seen from outside, the start was over by then. So a state in
  which the main thread still waits is seen as the one that it is about to make
  (`started`).
* `threads_end`: nothing but requests, bursts and spurious wakeups can go on for
  ever. `rank` falls with every other move, and with every move of the loop once
  the stop flag is set; and as long as the process has not ended, a thread can
  make such a move or send the reply that it owes.

Key definitions: `shadow`, `Refines`, `Counts`, `rank`.
Key theorems: `step_refines`, `startup_refines`, `step_rank`, `can_go_on`,
`threads_end`.
-/
import Pktlab.Dpdkd.Lifecycle

namespace Pktlab
namespace Dpdkd
namespace Lifecycle

open Utf8

variable {Mbuf : Type} {burstSize : UInt16} {portId : PortRole → UInt16} {portId_ne : portId .ingress ≠ portId .egress}
  {init : DatapathInit} {s s' : System} {h : Handshake.State Report} {w : WorkerPc} {m : Move Mbuf burstSize}
  {moves : List (Move Mbuf burstSize)}

/-! ### The start is a launch -/

/-- What a move is to the pause protocol. -/
def shadow : Move Mbuf burstSize → Option (Worker.Move Mbuf burstSize)
  | .request c => some (.request c)
  | .reply => some .reply
  | .forward array burst => some (.work array burst)
  | _ => none

/-- How a start succeeded. -/
def StartOf (portId : PortRole → UInt16) (env : StartEnv) : Prop :=
  env = .noDpdk ∨ env = .noRoot ∨ env = .dpdk (portId .ingress) (portId .egress)

/-- The moves so far as a run of the pause protocol. -/
def Refines (portId : PortRole → UInt16) (portId_ne : portId .ingress ≠ portId .egress) (init : DatapathInit)
    (moves : List (Move Mbuf burstSize)) (s : System) : Prop :=
  match s.main with
  | .starting => moves = [] ∧ s = boot portId portId_ne init
  | .awaiting => s.worker ≠ some .returned →
      Run.run Worker.step (Worker.launch (.dpdk (portId .ingress) (portId .egress)) init) (moves.filterMap shadow) =
        some ((started s).seen .idle)
  | .serving ipc => ∃ env, StartOf portId env ∧
      Run.run Worker.step (Worker.launch env init) (moves.filterMap shadow) = some (s.seen ipc)
  | _ => True

/-- A move that the pause protocol does not see. -/
theorem filterMap_hidden (hm : shadow m = none) : (moves ++ [m]).filterMap shadow = moves.filterMap shadow := by
  rw [List.filterMap_append, List.filterMap_cons_none hm, List.filterMap_nil, List.append_nil]

/-- A move that it sees. -/
theorem run_shown {wm : Worker.Move Mbuf burstSize} {x y z : Worker.System} (hm : shadow m = some wm)
    (hrun : Run.run Worker.step x (moves.filterMap shadow) = some y) (hstep : Worker.step y wm = some z) :
    Run.run Worker.step x ((moves ++ [m]).filterMap shadow) = some z := by
  rw [List.filterMap_append, List.filterMap_cons_some hm, List.filterMap_nil]
  exact Run.run_concat_eq_some.mpr ⟨y, hrun, hstep⟩

/-- A step of the loop is one of the pause protocol, and so it is to a main
thread that still waits. -/
theorem loopStep_seen (ha : Alive s h w) {pc : Worker.Pc} (hw : w = .loop pc) (array : ℕ → Mbuf)
    (burst : Burst Mbuf burstSize) (ipc : Worker.Ipc) :
    Worker.step (s.seen ipc) (.work array burst) = some ((loopStep s array burst pc).seen ipc) := by
  subst hw
  have hcalls : ∀ rx tx, forwardCalls s rx tx = s := fun rx tx => by
    rw [forwardCalls, guard_of (ha.usable rx), guard_of (ha.usable tx)]
  have hseen : (s.seen ipc).worker = some pc := by
    rw [System.seen, ha.worker]
    rfl
  rw [Worker.step, hseen, Option.map_some]
  cases pc with
  | stopCheck =>
    cases hstop : s.stopRequested <;> simp [loopStep, loopCalls, Worker.work, System.seen, System.setDaemon,
      System.setDatapath, System.daemon, loopPc, hstop]
  | pauseCheck =>
    cases hp : s.machine.datapath.paused <;> simp [loopStep, loopCalls, Worker.work, System.seen, System.setDaemon,
      System.setDatapath, System.daemon, loopPc, hp]
  | forward01 =>
    rw [loopStep, loopCalls, hcalls]
    rfl
  | forward10 =>
    rw [loopStep, loopCalls, hcalls]
    rfl

theorem Alive.started (ha : Alive s h w) : Alive (started s) h w :=
  ha.frame (d := (Lifecycle.started s).machine.datapath) rfl _ _ id

/-- What the loop merges does not depend on whether the main thread has come
out of its wait. -/
theorem started_loopStep (ha : Alive s h w) (array : ℕ → Mbuf) (burst : Burst Mbuf burstSize) (pc : Worker.Pc) :
    (started (loopStep s array burst pc)).seen .idle = (loopStep (started s) array burst pc).seen .idle := by
  have hcalls : ∀ rx tx, forwardCalls s rx tx = s := fun rx tx => by
    rw [forwardCalls, guard_of (ha.usable rx), guard_of (ha.usable tx)]
  have hcalls' : ∀ rx tx, forwardCalls (started s) rx tx = started s := fun rx tx => by
    rw [forwardCalls, guard_of (ha.started.usable rx), guard_of (ha.started.usable tx)]
  cases pc with
  | stopCheck => rfl
  | pauseCheck => rfl
  | forward01 =>
    rw [loopStep, loopStep, loopCalls, loopCalls, hcalls, hcalls']
    simp only [Worker.work, Worker.forward]
    cases (forwardDirection array burst).burstStats <;> rfl
  | forward10 =>
    rw [loopStep, loopStep, loopCalls, loopCalls, hcalls, hcalls']
    simp only [Worker.work, Worker.forward]
    cases (forwardDirection array burst).burstStats <;> rfl

/-- What the pause protocol does not see of a waiting main thread. -/
theorem started_seen (hmachine : s'.machine = s.machine) (hhealth : s'.health = s.health)
    (hworker : s'.worker.bind loopPc = s.worker.bind loopPc) (hstop : s'.stopRequested = s.stopRequested) :
    (started s').seen .idle = (started s).seen .idle := by
  simp only [System.seen, started, System.setDaemon, System.setDatapath, System.daemon, hmachine, hhealth, hworker,
    hstop]

/-- A worker that registers or reports is still before its loop. -/
theorem workerStep_hidden (ha : Alive s h w) (hm : shadow m = none) (hs : workerStep s m = some s')
    (hstop : s.stopRequested = false) (hw : s'.worker ≠ some .returned) :
    s.worker ≠ some .returned ∧ (started s').seen .idle = (started s).seen .idle := by
  cases m with
  | register ok =>
    rw [workerStep, Option.ite_none_right_eq_some] at hs
    obtain ⟨hreg, hs⟩ := hs
    rw [guard_of (ha.usable .ingress).1] at hs
    obtain ⟨t, hsync, rfl⟩ := Option.map_eq_some_iff.mp hs
    rw [onSync, ha.sync] at hsync
    obtain ⟨h', -, rfl⟩ := Option.map_eq_some_iff.mp hsync
    exact ⟨by simp [hreg], started_seen rfl rfl (by simp [hreg, loopPc]) rfl⟩
  | notify =>
    rw [workerStep, Option.ite_none_right_eq_some] at hs
    obtain ⟨hrep, hs⟩ := hs
    obtain ⟨t, hsync, rfl⟩ := Option.map_eq_some_iff.mp hs
    rw [onSync, ha.sync] at hsync
    obtain ⟨h', -, rfl⟩ := Option.map_eq_some_iff.mp hsync
    refine ⟨by simp [hrep], started_seen rfl rfl ?_ rfl⟩
    have hat : workerAt h' = .reporting ∨ workerAt h' = .loop .stopCheck := by
      unfold workerAt at hw ⊢
      split
      · next report hn =>
        cases report with
        | ok u => exact Or.inr rfl
        | error e => simp [hn, afterReport] at hw
      · exact Or.inl rfl
    rcases hat with hat | hat <;> simp [hat, hrep, loopPc]
  | unregister =>
    rw [workerStep, Option.ite_none_right_eq_some, ha.worker] at hs
    obtain rfl := Option.some.inj hs.1
    obtain ⟨-, -, hstop'⟩ : h.notifier = .done (.ok ()) ∧ s.registered = true ∧ s.stopRequested = true := ha.fits
    simp [hstop] at hstop'
  | forward array burst => cases hm
  | _ => cases hs

/-- Where a run has no more to refine. -/
theorem refines_of_main (hstarting : s.main ≠ .starting) (hawaiting : s.main ≠ .awaiting)
    (hserving : ∀ ipc, s.main ≠ .serving ipc) : Refines portId portId_ne init moves s := by
  unfold Refines
  cases hmain : s.main with
  | starting => exact absurd hmain hstarting
  | awaiting => exact absurd hmain hawaiting
  | serving ipc => exact absurd hmain (hserving ipc)
  | _ => trivial

theorem Refines.awaiting (hr : Refines portId portId_ne init moves s) (hmain : s.main = .awaiting)
    (hw : s.worker ≠ some .returned) :
    Run.run Worker.step (Worker.launch (.dpdk (portId .ingress) (portId .egress)) init) (moves.filterMap shadow) =
      some ((started s).seen .idle) := by
  unfold Refines at hr
  rw [hmain] at hr
  exact hr hw

theorem Refines.serving (hr : Refines portId portId_ne init moves s) {ipc : Worker.Ipc} (hmain : s.main = .serving ipc) :
    ∃ env, StartOf portId env ∧
      Run.run Worker.step (Worker.launch env init) (moves.filterMap shadow) = some (s.seen ipc) := by
  unfold Refines at hr
  rwa [hmain] at hr

theorem refines_awaiting (hmain : s.main = .awaiting) (h : s.worker ≠ some .returned →
    Run.run Worker.step (Worker.launch (.dpdk (portId .ingress) (portId .egress)) init) (moves.filterMap shadow) =
      some ((started s).seen .idle)) : Refines portId portId_ne init moves s := by
  unfold Refines
  rwa [hmain]

theorem refines_serving {ipc : Worker.Ipc} (hmain : s.main = .serving ipc) (h : ∃ env, StartOf portId env ∧
    Run.run Worker.step (Worker.launch env init) (moves.filterMap shadow) = some (s.seen ipc)) :
    Refines portId portId_ne init moves s := by
  unfold Refines
  rwa [hmain]

/-- A worker that moves is there. -/
theorem alive_of_workerStep (hinv : Inv False s) (hs : workerStep s m = some s') : ∃ h w, Alive s h w := by
  have hpc := hinv.atPc
  have hquiet : ∀ hq : s.worker = none, False := fun hq => by
    rw [workerStep_quiet hq] at hs
    cases hs
  have hforwarding : Quiet False s ∨ Forwarding s → ∃ h w, Alive s h w := fun hqf => by
    obtain ⟨h, w, ha, -⟩ := hqf.resolve_left fun hq => hquiet hq.worker
    exact ⟨h, w, ha⟩
  cases hmain : s.main with
  | starting =>
    rw [hmain] at hpc
    exact (hquiet hpc.1.worker).elim
  | awaiting =>
    rw [hmain] at hpc
    exact hpc.1
  | refusing e =>
    rw [hmain] at hpc
    obtain ⟨⟨h, w, ha, -⟩, -⟩ := hpc
    exact ⟨h, w, ha⟩
  | serving ipc =>
    rw [hmain] at hpc
    exact hforwarding hpc.1
  | stopping ok =>
    rw [hmain] at hpc
    exact hforwarding hpc.1
  | joining ok =>
    rw [hmain] at hpc
    exact hforwarding (Or.inr hpc.1)
  | exited ok =>
    rw [hmain] at hpc
    exact (hquiet hpc.1).elim

/-- The worker does not move the main thread. -/
theorem workerStep_main (hinv : Inv False s) (hs : workerStep s m = some s') : s'.main = s.main := by
  obtain ⟨h, w, ha⟩ := alive_of_workerStep hinv hs
  obtain ⟨h', w', -, hmoves⟩ := workerStep_alive ha hs
  exact hmoves.main

/-- A move of the worker. -/
theorem workerStep_refines (hinv : Inv False s) (hr : Refines portId portId_ne init moves s)
    (hs : workerStep s m = some s') : Refines portId portId_ne init (moves ++ [m]) s' := by
  have hquiet : ∀ hq : s.worker = none, False := fun hq => by
    rw [workerStep_quiet hq] at hs
    cases hs
  have hpc := hinv.atPc
  cases hmain : s.main with
  | awaiting =>
    rw [hmain] at hpc
    obtain ⟨⟨h, w, ha⟩, hstop, -⟩ := hpc
    obtain ⟨h', w', ha', hmoves⟩ := workerStep_alive ha hs
    refine refines_awaiting (hmoves.main.trans hmain) fun hw' => ?_
    cases hm : shadow m with
    | none =>
      obtain ⟨hw, hseen⟩ := workerStep_hidden ha hm hs hstop hw'
      rw [filterMap_hidden hm, hseen]
      exact hr.awaiting hmain hw
    | some wm =>
      cases m with
      | forward array burst =>
        obtain rfl := Option.some.inj hm
        rw [workerStep, ha.worker] at hs
        cases w with
        | loop pc =>
          obtain rfl := Option.some.inj hs
          refine run_shown rfl (hr.awaiting hmain (by simp [ha.worker])) ?_
          rw [started_loopStep ha]
          exact loopStep_seen ha.started rfl array burst .idle
        | _ => cases hs
      | request c => cases hs
      | reply => cases hs
      | _ => cases hm
  | serving ipc =>
    rw [hmain] at hpc
    obtain ⟨hqf, hstop, -⟩ := hpc
    obtain ⟨h, w, ha, -, hn⟩ := hqf.resolve_left fun hq => hquiet hq.worker
    obtain ⟨h', w', ha', hmoves⟩ := workerStep_alive ha hs
    refine refines_serving (hmoves.main.trans hmain) ?_
    obtain ⟨env, henv, hrun⟩ := hr.serving hmain
    refine ⟨env, henv, ?_⟩
    cases w with
    | loop pc =>
      cases m with
      | forward array burst =>
        rw [workerStep, ha.worker] at hs
        obtain rfl := Option.some.inj hs
        exact run_shown rfl hrun (loopStep_seen ha rfl array burst ipc)
      | register ok => simp [workerStep, ha.worker] at hs
      | notify => simp [workerStep, ha.worker] at hs
      | unregister => simp [workerStep, ha.worker] at hs
      | _ => cases hs
    | registering =>
      obtain ⟨hidle, -⟩ : h.notifier = .idle ∧ s.registered = false := ha.fits
      simp [hn] at hidle
    | reporting =>
      obtain ⟨ok, -, hin⟩ := ha.reporting
      simp [hn] at hin
    | unregistering =>
      obtain ⟨-, -, hstop'⟩ : h.notifier = .done (.ok ()) ∧ s.registered = true ∧ s.stopRequested = true := ha.fits
      simp [hstop] at hstop'
    | returned =>
      obtain ⟨-, hreturned⟩ := ha.fits
      simp [hn, hstop] at hreturned
  | starting =>
    rw [hmain] at hpc
    exact (hquiet hpc.1.worker).elim
  | exited ok =>
    rw [hmain] at hpc
    exact (hquiet hpc.1).elim
  | _ =>
    have hmain' := (workerStep_main hinv hs).trans hmain
    exact refines_of_main (by simp [hmain']) (by simp [hmain']) (by simp [hmain'])

/-- The worker is created, or the start fails. -/
theorem createWorker_refines {stops : PortRole → Bool} (threads : ThreadAnswers) (hsync : s.syncInitialized = false)
    (hworker : (started { prepareWorker (createSync s) with
        threadStarted := true, worker := some .registering, main := .awaiting }).seen .idle =
      Worker.launch (.dpdk (portId .ingress) (portId .egress)) init) (env : LaunchEnv) :
    Refines portId portId_ne init [(.start env stops : Move Mbuf burstSize)] (createWorker s threads stops) := by
  unfold createWorker initWorkerSync
  rw [if_neg (by simp [hsync])]
  by_cases hmutex : threads.mutexInit = false
  · rw [if_pos hmutex]
    exact refines_of_main (by simp [startFails]) (by simp [startFails]) (by simp [startFails])
  rw [if_neg hmutex]
  by_cases hcond : threads.condInit = false
  · rw [if_pos hcond]
    exact refines_of_main (by simp [startFails]) (by simp [startFails]) (by simp [startFails])
  rw [if_neg hcond]
  cases threads.created with
  | some text => exact refines_of_main (by simp [startFails]) (by simp [startFails]) (by simp [startFails])
  | none => exact refines_awaiting rfl fun _ => congrArg some hworker.symm

/-- The start of the devices, at the boot of the process. -/
theorem startDatapath_refines (env : LaunchEnv) (stops : PortRole → Bool) :
    Refines portId portId_ne init [(.start env stops : Move Mbuf burstSize)]
      (startDatapath (boot portId portId_ne init) env stops) := by
  unfold startDatapath
  rw [if_neg (by simp [boot])]
  cases env with
  | noDpdk => exact refines_serving rfl ⟨.noDpdk, Or.inl rfl, rfl⟩
  | noRoot => exact refines_serving rfl ⟨.noRoot, Or.inr (Or.inl rfl), rfl⟩
  | root answers threads =>
    have huntouched : Untouched ⟨init.ports, init.stats, false, false, false, []⟩ portId
        ((boot portId portId_ne init).setDatapath
          { (boot portId portId_ne init).machine.datapath with portsReady := false, paused := false }).machine :=
      ⟨rfl, rfl, rfl, rfl, rfl, fun _ => rfl, fun _ => rfl⟩
    rcases perform_cases (devicesStart_spec answers stops) ⟨huntouched, rfl, rfl⟩ with
      ⟨m, heq, -, hready, -, hd⟩ | ⟨m, e, heq, -⟩ | ⟨m, call, heq, -⟩
    · simp only [heq]
      refine createWorker_refines threads rfl ?_ _
      obtain ⟨dpdk, eal, initialized, attached, mempool, ready, datapath⟩ := m
      cases hd
      cases hready
      rfl
    · simp only [heq]
      exact refines_of_main (by simp [startFails]) (by simp [startFails]) (by simp [startFails])
    · simp only [heq]
      exact refines_of_main (by simp) (by simp) (by simp)

/-- A request and its reply leave the worker and the stop flag alone. -/
theorem serve_frame {x y : Worker.System} {wm : Worker.Move Mbuf burstSize} (hwm : wm = .reply ∨ ∃ c, wm = .request c)
    (hs : Worker.step x wm = some y) : y.worker = x.worker ∧ y.stopRequested = x.stopRequested := by
  rcases hwm with rfl | ⟨c, rfl⟩
  · rw [Worker.step] at hs
    split at hs
    · cases hs
    · exact Option.some.inj hs ▸ ⟨rfl, rfl⟩
    · exact Option.some.inj hs ▸ ⟨rfl, rfl⟩
  · rw [Worker.step, Option.ite_none_right_eq_some, Option.some.injEq] at hs
    rw [← hs.2]
    by_cases hc : needsForwarding c = true
    · cases c with
      | pauseDatapath =>
        rcases Worker.exchange_cases x true with ⟨-, he⟩ | ⟨-, he⟩
        · exact ⟨by rw [Worker.request, he], by rw [Worker.request, he]⟩
        · exact ⟨by rw [Worker.request, he], by rw [Worker.request, he]⟩
      | resumeDatapath =>
        rcases Worker.exchange_cases x false with ⟨-, he⟩ | ⟨-, he⟩
        · exact ⟨by rw [Worker.request, he], by rw [Worker.request, he]⟩
        · exact ⟨by rw [Worker.request, he], by rw [Worker.request, he]⟩
      | _ => exact absurd hc (by decide)
    · obtain ⟨stats, hr⟩ := Worker.request_other (s := x) (by simpa using hc)
      exact ⟨by rw [hr], by rw [hr]⟩

/-- A request or its reply. -/
theorem serve_refines {ipc : Worker.Ipc} {wm : Worker.Move Mbuf burstSize} (hwm : wm = .reply ∨ ∃ c, wm = .request c)
    (hr : Refines portId portId_ne init moves s) (hmain : s.main = .serving ipc) (hm : shadow m = some wm)
    (hs : serve s ipc wm = some s') : Refines portId portId_ne init (moves ++ [m]) s' := by
  obtain ⟨y, hstep, rfl⟩ := Option.map_eq_some_iff.mp hs
  obtain ⟨env, henv, hrun⟩ := hr.serving hmain
  refine refines_serving rfl ⟨env, henv, run_shown hm hrun (hstep.trans (congrArg some ?_))⟩
  obtain ⟨hworker, hstop⟩ := serve_frame hwm hstep
  cases y
  cases hworker
  cases hstop
  rfl

/-- The main thread in its wait. -/
theorem onSync_refines (hr : Refines portId portId_ne init moves s) (hmain : s.main = .awaiting)
    {move : Handshake.Move Report} (hsync : s.sync.isSome = true) (hm : shadow m = none)
    (hs : onSync s move = some s') : Refines portId portId_ne init (moves ++ [m]) s' := by
  obtain ⟨h, hh⟩ := Option.isSome_iff_exists.mp hsync
  rw [onSync, hh] at hs
  obtain ⟨h', -, rfl⟩ := Option.map_eq_some_iff.mp hs
  refine refines_awaiting hmain fun hw => ?_
  rw [filterMap_hidden hm]
  exact hr.awaiting hmain hw

/-- A worker whose success is known has not returned. -/
theorem Alive.unreturned (ha : Alive s h w) (hn : h.notifier = .done (.ok ())) (hstop : s.stopRequested = false) :
    s.worker ≠ some .returned := by
  rw [ha.worker]
  rintro hw
  obtain rfl := Option.some.inj hw
  obtain ⟨-, hreturned⟩ := ha.fits
  simp [hn, hstop] at hreturned

/-- A move of the main thread. -/
theorem mainStep_refines (hinv : Inv False s) (hr : Refines portId portId_ne init moves s)
    (hs : mainStep s m = some s') : Refines portId portId_ne init (moves ++ [m]) s' := by
  have hpc := hinv.atPc
  cases m with
  | start env stops =>
    rw [mainStep, Option.ite_none_right_eq_some, Option.some.injEq] at hs
    obtain ⟨hmain, rfl⟩ := hs
    unfold Refines at hr
    rw [hmain] at hr
    obtain ⟨rfl, rfl⟩ := hr
    exact startDatapath_refines env stops
  | await =>
    rw [mainStep, Option.ite_none_right_eq_some] at hs
    rw [hs.1] at hpc
    obtain ⟨⟨h, w, ha⟩, -⟩ := hpc
    exact onSync_refines hr hs.1 (by simp [ha.sync]) rfl hs.2
  | spurious =>
    rw [mainStep, Option.ite_none_right_eq_some] at hs
    rw [hs.1] at hpc
    obtain ⟨⟨h, w, ha⟩, -⟩ := hpc
    exact onSync_refines hr hs.1 (by simp [ha.sync]) rfl hs.2
  | conclude =>
    rw [mainStep] at hs
    split at hs
    · next h hmain hsync =>
      rw [Option.ite_none_right_eq_some, Option.some.injEq] at hs
      obtain ⟨hwaiter, rfl⟩ := hs
      rw [hmain] at hpc
      obtain ⟨⟨h', w, ha⟩, hstop, -⟩ := hpc
      obtain rfl := Option.some.inj (ha.sync.symm.trans hsync)
      have hn := ha.inv.through (Or.inr hwaiter)
      rcases hreport : h'.report with e | u
      · exact refines_of_main (by simp [conclude]) (by simp [conclude]) (by simp [conclude])
      · rw [hreport] at hn
        refine refines_serving rfl ⟨_, Or.inr (Or.inr rfl), ?_⟩
        rw [filterMap_hidden rfl]
        exact hr.awaiting hmain (ha.unreturned hn hstop)
    · cases hs
  | refuse stops =>
    rw [mainStep] at hs
    split at hs
    · next e hmain =>
      rw [hmain] at hpc
      obtain ⟨⟨h, w, ha, -⟩, -⟩ := hpc
      obtain ⟨-, rfl⟩ := joinThen_eq ha hs
      exact refines_of_main (by simp [startFails]) (by simp [startFails]) (by simp [startFails])
    · cases hs
  | request c =>
    rw [mainStep] at hs
    split at hs
    · next ipc hmain => exact serve_refines (Or.inr ⟨c, rfl⟩) hr hmain rfl hs
    · cases hs
  | reply =>
    rw [mainStep] at hs
    split at hs
    · next ipc hmain => exact serve_refines (Or.inl rfl) hr hmain rfl hs
    · cases hs
  | stop ok =>
    rw [mainStep, Option.ite_none_right_eq_some, Option.some.injEq] at hs
    obtain ⟨-, rfl⟩ := hs
    exact refines_of_main (by simp [serverReturned]) (by simp [serverReturned]) (by simp [serverReturned])
  | cleanup stops =>
    rw [mainStep] at hs
    split at hs
    · next ok hmain =>
      obtain rfl := Option.some.inj hs
      unfold cleanup
      split
      · exact refines_of_main (by simp) (by simp) (by simp)
      · split
        · exact refines_of_main (by simp) (by simp) (by simp)
        · exact refines_of_main (by simp [finish]) (by simp [finish]) (by simp [finish])
    · cases hs
  | join stops =>
    rw [mainStep] at hs
    split at hs
    · next ok hmain =>
      rw [hmain] at hpc
      obtain ⟨⟨h, w, ha, -⟩, -⟩ := hpc
      obtain ⟨-, rfl⟩ := joinThen_eq ha hs
      exact refines_of_main (by simp [finish]) (by simp [finish]) (by simp [finish])
    · cases hs
  | _ => cases hs

/-- What a move adds to the run of the pause protocol. -/
theorem step_refines (hinv : Inv False s) (hr : Refines portId portId_ne init moves s) (hs : step s m = some s') :
    Refines portId portId_ne init (moves ++ [m]) s' :=
  (step_cases hs).elim (workerStep_refines hinv hr) (mainStep_refines hinv hr)

theorem run_refines {s : System} (hrun : Run.run step (boot portId portId_ne init) moves = some s) :
    Refines portId portId_ne init moves s := by
  induction moves using List.reverseRecOn generalizing s with
  | nil =>
    cases hrun
    exact ⟨rfl, rfl⟩
  | append_singleton ms m ih =>
    obtain ⟨t, hbefore, hstep⟩ := Run.run_concat_eq_some.mp hrun
    exact step_refines (run_inv (fun hC => hC.elim) hbefore) (ih hbefore) hstep

/-- **A start of many steps is a launch.** In every run in which the daemon
serves requests, whatever the system answered and however the threads
interleaved, the requests, replies and bursts so far are a run of the pause
protocol from one of the three ways to start; the identifiers are those of the
two devices. So between two requests the health shows what the datapath does. -/
theorem startup_refines {s : System} {ipc : Worker.Ipc}
    (hrun : Run.run step (boot portId portId_ne init) moves = some s) (hmain : s.main = .serving ipc) :
    ∃ env, StartOf portId env ∧
      Run.run Worker.step (Worker.launch env init) (moves.filterMap shadow) = some (s.seen ipc) ∧
      (ipc = .idle → Worker.HealthAgrees s.daemon) := by
  obtain ⟨env, henv, hshadow⟩ := (run_refines hrun).serving hmain
  refine ⟨env, henv, hshadow, fun hi => ?_⟩
  have hagrees : Worker.Agrees (s.seen ipc) :=
    Run.run_induction (fun _ _ _ h hs => Worker.step_agrees h hs) (Worker.launch_agrees env init) hshadow
  exact hagrees.idle hi

/-- The start and the pause of a whole life: one burst is forwarded before the
main thread knows that the start was successful. -/
theorem startup_refines_paused :
    ∃ s env, Run.run step (boot firstTwo (by decide) defaultInit) (wholeLife.take 16) = some s ∧
      StartOf firstTwo env ∧
      Run.run Worker.step (Worker.launch env defaultInit) ((wholeLife.take 16).filterMap shadow) =
        some (s.seen .idle) ∧
      Worker.HealthAgrees s.daemon ∧ s.machine.datapath.paused = true := by
  obtain ⟨s, hrun, hmain, hpaused⟩ : ∃ s, Run.run step (boot firstTwo (by decide) defaultInit) (wholeLife.take 16) =
      some s ∧ s.main = .serving .idle ∧ s.machine.datapath.paused = true := ⟨_, rfl, rfl, rfl⟩
  obtain ⟨env, henv, hshadow, hagrees⟩ := startup_refines hrun hmain
  exact ⟨s, env, hrun, henv, hshadow, hagrees rfl, hpaused⟩

/-! ### The threads end -/

/-- How far the main thread is from its end. -/
def mainRank : MainPc → ℕ
  | .starting => 23
  | .awaiting => 4
  | .refusing _ => 3
  | .serving _ => 3
  | .stopping _ => 2
  | .joining _ => 1
  | .exited _ => 0

/-- How far the loop is from its end once the stop flag is set. -/
def pcRank : Worker.Pc → ℕ
  | .pauseCheck => 5
  | .forward01 => 4
  | .forward10 => 3
  | .stopCheck => 2

def workerRank (stopRequested : Bool) : WorkerPc → ℕ
  | .registering => 6
  | .reporting => 6
  | .loop pc => if stopRequested then pcRank pc else 6
  | .unregistering => 1
  | .returned => 0

def syncRank (sync : Option (Handshake.State Report)) : ℕ := (sync.map Handshake.rank).getD 0

def threadRank (stopRequested : Bool) (worker : Option WorkerPc) : ℕ := (worker.map (workerRank stopRequested)).getD 0

/-- How many moves are left, but for those that may go on for ever. -/
def rank (s : System) : ℕ := mainRank s.main + syncRank s.sync + threadRank s.stopRequested s.worker

/-- A move of which there are only so many: all but requests, their replies,
spurious wakeups, and steps of a loop that is not to stop. -/
def Counts (s : System) : Move Mbuf burstSize → Bool
  | .request _ => false
  | .reply => false
  | .spurious => false
  | .forward _ _ => s.stopRequested
  | _ => true

/-- What a move may add to the rank. -/
def Move.lift : Move Mbuf burstSize → ℕ
  | .spurious => 2
  | _ => 0

theorem pcRank_le (pc : Worker.Pc) : pcRank pc ≤ 5 := by
  cases pc <;> decide

/-- A worker whose loop is to stop is nearer to its end. -/
theorem workerRank_le (stop : Bool) (w : WorkerPc) : workerRank stop w ≤ 6 ∧ workerRank true w ≤ workerRank stop w := by
  cases w with
  | loop pc =>
    have hle := pcRank_le pc
    cases stop <;> simp [workerRank] <;> omega
  | _ => simp [workerRank]

theorem threadRank_le (stop : Bool) (worker : Option WorkerPc) :
    threadRank stop worker ≤ 6 ∧ threadRank true worker ≤ threadRank stop worker := by
  cases worker with
  | none => exact ⟨by simp [threadRank], le_rfl⟩
  | some w => exact workerRank_le stop w

/-- A step of the loop brings its end nearer once the stop flag is set. -/
theorem loopStep_rank (array : ℕ → Mbuf) (burst : Burst Mbuf burstSize) (pc : Worker.Pc) :
    threadRank s.stopRequested (loopStep s array burst pc).worker + (if s.stopRequested then 1 else 0) ≤
      workerRank s.stopRequested (.loop pc) := by
  cases pc with
  | stopCheck =>
    cases hstop : s.stopRequested <;>
      simp [loopStep, Worker.work, System.seen, hstop, threadRank, workerRank, pcRank]
  | pauseCheck =>
    cases hstop : s.stopRequested <;> cases hp : s.machine.datapath.paused <;>
      simp [loopStep, Worker.work, System.seen, System.daemon, hp, threadRank, workerRank, pcRank]
  | forward01 =>
    cases hstop : s.stopRequested <;> simp [loopStep, Worker.work, threadRank, workerRank, pcRank]
  | forward10 =>
    cases hstop : s.stopRequested <;> simp [loopStep, Worker.work, threadRank, workerRank, pcRank]

/-- A move of the worker. -/
theorem workerStep_rank (ha : Alive s h w) (hs : workerStep s m = some s') :
    rank s' + (if Counts s m then 1 else 0) ≤ rank s := by
  cases m with
  | register ok =>
    rw [workerStep, Option.ite_none_right_eq_some] at hs
    obtain ⟨hreg, hs⟩ := hs
    rw [guard_of (ha.usable .ingress).1] at hs
    obtain ⟨t, hsync, rfl⟩ := Option.map_eq_some_iff.mp hs
    rw [onSync, ha.sync] at hsync
    obtain ⟨h', hstep, rfl⟩ := Option.map_eq_some_iff.mp hsync
    have hle := Handshake.step_rank hstep
    simp only [rank, hreg, ha.sync, syncRank, threadRank, Option.map_some, Option.getD_some, workerRank,
      Handshake.Move.lift, Counts, if_true] at hle ⊢
    omega
  | notify =>
    rw [workerStep, Option.ite_none_right_eq_some] at hs
    obtain ⟨hrep, hs⟩ := hs
    obtain ⟨t, hsync, rfl⟩ := Option.map_eq_some_iff.mp hs
    rw [onSync, ha.sync] at hsync
    obtain ⟨h', hstep, rfl⟩ := Option.map_eq_some_iff.mp hsync
    have hle := Handshake.step_rank hstep
    have hw := (workerRank_le s.stopRequested (workerAt h')).1
    simp only [rank, hrep, ha.sync, syncRank, threadRank, Option.map_some, Option.getD_some, workerRank,
      Handshake.Move.lift, Counts, if_true] at hle hw ⊢
    omega
  | forward array burst =>
    rw [workerStep, ha.worker] at hs
    cases w with
    | loop pc =>
      have hrank := loopStep_rank (s := s) array burst pc
      obtain ⟨stats, w', heq, -⟩ := loopStep_eq ha array burst pc
      obtain rfl := (Option.some.inj hs).symm.trans heq
      have hcounts : Counts s (.forward array burst) = s.stopRequested := rfl
      rw [heq] at hrank
      simp only [rank, ha.worker, threadRank, Option.map_some, Option.getD_some, hcounts] at hrank ⊢
      omega
    | _ => cases hs
  | unregister =>
    rw [workerStep, Option.ite_none_right_eq_some] at hs
    obtain ⟨hw, hs⟩ := hs
    obtain ⟨x, hg⟩ := guard_eq s .threadUnregister (s.registered = true)
    rw [hg, Option.some.injEq] at hs
    subst hs
    simp [rank, hw, threadRank, workerRank, Counts]
  | _ => cases hs

/-- Giving the devices back moves nobody. -/
theorem releaseDevices_rank (s : System) (stops : PortRole → Bool) (e : DpdkdError) :
    rank (startFails (releaseDevices s stops) e) = 2 + syncRank s.sync + threadRank s.stopRequested s.worker := by
  obtain ⟨m, x, heq⟩ := releaseDevices_eq s stops
  rw [heq]
  rfl

theorem finish_rank (s : System) (stops : PortRole → Bool) (ok : Bool) :
    rank (finish s stops ok) ≤ syncRank s.sync + threadRank s.stopRequested s.worker := by
  obtain ⟨m, x, heq⟩ := releaseDevices_eq s stops
  unfold finish
  rw [heq, destroyWorkerSync]
  split
  · obtain ⟨y, hg⟩ := guard_eq { s with machine := m, misuse := x } .syncDestroy
      (∃ h ∈ s.sync, h.owner = none ∧ h.waiter ≠ .asleep)
    simp only [hg]
    simp [rank, mainRank, syncRank, System.setDatapath]
  · simp [rank, mainRank, System.setDatapath]

/-- The mutex and the condition variable bring a whole handshake. -/
theorem initWorkerSync_rank {threads : ThreadAnswers} {t : System} (hsync : s.sync = none)
    (ht : initWorkerSync s threads = .ok t) : syncRank t.sync ≤ 12 ∧ t.worker = s.worker := by
  have hstart : Handshake.rank (Handshake.start (.error ⟨.none, ""⟩ : Report)) = 12 := rfl
  unfold initWorkerSync at ht
  split_ifs at ht
  · obtain rfl := Except.ok.inj ht
    simp [hsync, syncRank]
  · obtain rfl := Except.ok.inj ht
    rw [createSync, guard_of hsync]
    exact ⟨hstart.le, rfl⟩

theorem createWorker_rank (hsync : s.sync = none) (hworker : s.worker = none) (threads : ThreadAnswers)
    (stops : PortRole → Bool) : rank (createWorker s threads stops) ≤ 22 := by
  unfold createWorker
  rcases hi : initWorkerSync s threads with e | t
  · simp only [releaseDevices_rank, hsync, hworker]
    simp [syncRank, threadRank]
  · obtain ⟨hrank, hw⟩ := initWorkerSync_rank hsync hi
    rw [hworker] at hw
    cases threads.created with
    | some text =>
      simp only [releaseDevices_rank]
      simp only [prepareWorker, System.setDatapath, hw, threadRank, Option.map_none, Option.getD_none]
      omega
    | none =>
      simp only [rank, prepareWorker, System.setDatapath, threadRank, Option.map_some, Option.getD_some, workerRank,
        mainRank]
      omega

/-- The start. -/
theorem startDatapath_rank (hsync : s.sync = none) (hworker : s.worker = none) (hconf : s.configured = true)
    (env : LaunchEnv) (stops : PortRole → Bool) : rank (startDatapath s env stops) ≤ 22 := by
  unfold startDatapath
  rw [if_neg (by simp [hconf])]
  cases env with
  | noDpdk => simp [degraded, rank, mainRank, syncRank, threadRank, System.setDaemon, System.setDatapath, hsync, hworker]
  | noRoot => simp [degraded, rank, mainRank, syncRank, threadRank, System.setDaemon, System.setDatapath, hsync, hworker]
  | root answers threads =>
    obtain ⟨m, x, heq⟩ := perform_eq (s.setDatapath { s.machine.datapath with portsReady := false, paused := false })
      (devicesStart answers stops)
    rcases hp : (s.setDatapath { s.machine.datapath with portsReady := false, paused := false }).perform
      (devicesStart answers stops) with ⟨f | u, t⟩
    · rw [hp] at heq
      simp only [hp]
      subst heq
      cases f <;> simp [startFails, rank, mainRank, syncRank, threadRank, System.setDatapath, hsync, hworker]
    · rw [hp] at heq
      simp only [hp]
      subst heq
      refine createWorker_rank ?_ ?_ threads stops
      · exact hsync
      · exact hworker

/-- A move of the main thread. -/
theorem mainStep_rank (hinv : Inv False s) (hs : mainStep s m = some s') :
    rank s' + (if Counts s m then 1 else 0) ≤ rank s + m.lift := by
  have hpc := hinv.atPc
  cases m with
  | start env stops =>
    rw [mainStep, Option.ite_none_right_eq_some, Option.some.injEq] at hs
    obtain ⟨hmain, rfl⟩ := hs
    rw [hmain] at hpc
    obtain ⟨hq, hsync, -, hconf, -⟩ := hpc
    have hle := startDatapath_rank hsync hq.worker hconf env stops
    have hstart : rank s = 23 := by
      simp [rank, hmain, hsync, hq.worker, mainRank, syncRank, threadRank]
    rw [hstart]
    exact Nat.succ_le_succ hle
  | await =>
    rw [mainStep, Option.ite_none_right_eq_some] at hs
    rw [hs.1] at hpc
    obtain ⟨⟨h, w, ha⟩, -⟩ := hpc
    obtain ⟨h', rfl, hstep, -⟩ := onSync_inv ha (fun _ => waiter_notifier) hs.2
    have hle := Handshake.step_rank hstep
    simp only [rank, ha.sync, syncRank, Option.map_some, Option.getD_some, Handshake.Move.lift, Move.lift, Counts,
      if_true] at hle ⊢
    omega
  | spurious =>
    rw [mainStep, Option.ite_none_right_eq_some] at hs
    rw [hs.1] at hpc
    obtain ⟨⟨h, w, ha⟩, -⟩ := hpc
    obtain ⟨h', rfl, hstep, -⟩ := onSync_inv ha (fun _ => spurious_notifier) hs.2
    have hle := Handshake.step_rank hstep
    simp only [rank, ha.sync, syncRank, Option.map_some, Option.getD_some, Handshake.Move.lift, Move.lift, Counts,
      Bool.false_eq_true, if_false] at hle ⊢
    omega
  | conclude =>
    rw [mainStep] at hs
    split at hs
    · next h hmain hsync =>
      rw [Option.ite_none_right_eq_some, Option.some.injEq] at hs
      obtain ⟨-, rfl⟩ := hs
      rcases h.report with e | u
      · have hle := (threadRank_le s.stopRequested s.worker).2
        simp only [rank, conclude, hmain, mainRank, Counts, if_true, Move.lift]
        omega
      · simp only [rank, conclude, started, System.setDaemon, System.setDatapath, hmain, mainRank, Counts, if_true,
          Move.lift]
        omega
    · cases hs
  | refuse stops =>
    rw [mainStep] at hs
    split at hs
    · next e hmain =>
      rw [hmain] at hpc
      obtain ⟨⟨h, w, ha, -⟩, -⟩ := hpc
      obtain ⟨-, rfl⟩ := joinThen_eq ha hs
      rw [releaseDevices_rank]
      simp only [rank, joined, hmain, mainRank, threadRank, Option.map_none, Option.getD_none, Counts, if_true, Move.lift]
      omega
    · cases hs
  | request c =>
    rw [mainStep] at hs
    split at hs
    · next ipc hmain =>
      obtain ⟨d, health, ipc', rfl, -⟩ := serve_eq (Or.inr ⟨c, rfl⟩) hs
      simp [rank, hmain, mainRank, Counts, Move.lift]
    · cases hs
  | reply =>
    rw [mainStep] at hs
    split at hs
    · next ipc hmain =>
      obtain ⟨d, health, ipc', rfl, -⟩ := serve_eq (Or.inl rfl) hs
      simp [rank, hmain, mainRank, Counts, Move.lift]
    · cases hs
  | stop ok =>
    rw [mainStep, Option.ite_none_right_eq_some, Option.some.injEq] at hs
    obtain ⟨hmain, rfl⟩ := hs
    simp only [rank, serverReturned, hmain, mainRank, Counts, if_true, Move.lift]
    omega
  | cleanup stops =>
    rw [mainStep] at hs
    split at hs
    · next ok hmain =>
      obtain rfl := Option.some.inj hs
      have hsrank : rank s = 2 + syncRank s.sync + threadRank s.stopRequested s.worker := by
        rw [rank, hmain]
        rfl
      have hle := (threadRank_le s.stopRequested s.worker).2
      have hfinish := finish_rank s stops ok
      show rank (cleanup s stops ok) + 1 ≤ rank s
      rw [hsrank]
      unfold cleanup
      split_ifs
      · simp only [rank, mainRank]
        omega
      · simp only [rank, mainRank]
        omega
      · omega
    · cases hs
  | join stops =>
    rw [mainStep] at hs
    split at hs
    · next ok hmain =>
      rw [hmain] at hpc
      obtain ⟨⟨h, w, ha, -⟩, -⟩ := hpc
      obtain ⟨-, rfl⟩ := joinThen_eq ha hs
      have hsrank : rank s = 1 + syncRank s.sync + threadRank s.stopRequested s.worker := by
        rw [rank, hmain]
        rfl
      have hfinish := finish_rank ((joined s).setDatapath { (joined s).machine.datapath with paused := false }) stops ok
      have hjoined : syncRank ((joined s).setDatapath { (joined s).machine.datapath with paused := false }).sync =
          syncRank s.sync := rfl
      have hworker : ((joined s).setDatapath { (joined s).machine.datapath with paused := false }).worker = none := rfl
      rw [hjoined, hworker] at hfinish
      simp only [threadRank, Option.map_none, Option.getD_none] at hfinish
      rw [hsrank]
      simp only [Counts, if_true, Move.lift]
      omega
    · cases hs
  | _ => cases hs

/-- **Every move but a request, its reply, a spurious wakeup or a step of a loop
that is not to stop** brings the end nearer. -/
theorem step_rank (hinv : Inv False s) (hs : step s m = some s') :
    rank s' + (if Counts s m then 1 else 0) ≤ rank s + m.lift := by
  rcases step_cases hs with hs | hs
  · obtain ⟨h, w, ha⟩ := alive_of_workerStep hinv hs
    exact (workerStep_rank ha hs).trans (Nat.le_add_right _ _)
  · exact mainStep_rank hinv hs

/-- The moves of a run that count, and its spurious wakeups. -/
structure Tally where
  moves : ℕ := 0
  spurious : ℕ := 0
  deriving DecidableEq, Repr

def tally (n : Tally) (s : System) (m : Move Mbuf burstSize) : Tally :=
  match m with
  | .spurious => { n with spurious := n.spurious + 1 }
  | _ => { n with moves := n.moves + (if Counts s m then 1 else 0) }

theorem tally_step (n : Tally) (s : System) (m : Move Mbuf burstSize) :
    (tally n s m).moves = n.moves + (if Counts s m then 1 else 0) ∧
      2 * (tally n s m).spurious = 2 * n.spurious + m.lift := by
  cases m <;> simp [tally, Counts, Move.lift]
  omega

/-- A worker whose loop is to stop can go on to its end. -/
theorem worker_can_go_on (array : ℕ → Mbuf) (ha : Alive s h w) {report : Report} (hn : h.notifier = .done report)
    (hstop : s.stopRequested = true) :
    w = .returned ∨ ∃ m : Move Mbuf burstSize, Counts s m = true ∧ (workerStep s m).isSome = true := by
  cases w with
  | returned => exact Or.inl rfl
  | registering =>
    obtain ⟨hidle, -⟩ : h.notifier = .idle ∧ s.registered = false := ha.fits
    simp [hn] at hidle
  | reporting =>
    obtain ⟨ok, -, hin⟩ := ha.reporting
    simp [hn] at hin
  | loop pc => exact Or.inr ⟨.forward array (idleBurst Mbuf burstSize), hstop, by simp [workerStep, ha.worker]⟩
  | unregistering => exact Or.inr ⟨.unregister, rfl, by simp [workerStep, ha.worker]⟩

/-- The wait for the report goes on. -/
theorem awaiting_can_go_on (ha : Alive s h w) (hmain : s.main = .awaiting) :
    ∃ m : Move Mbuf burstSize, Counts s m = true ∧ (step s m).isSome = true := by
  by_cases hwaiter : h.waiter = .done
  · exact ⟨.conclude, rfl, by simp [step, mainStep, hmain, ha.sync, hwaiter]⟩
  by_cases hidle : h.notifier = .idle
  · have hw : s.worker = some .registering := by
      have hfits := ha.fits
      rw [ha.worker]
      cases w <;> simp_all [Fits]
    refine ⟨.register true, rfl, ?_⟩
    simp [step, workerStep, hw, guard_of (ha.usable .ingress).1, onSync, ha.sync, Handshake.step, hidle]
  · rcases Handshake.enabled ha.inv hwaiter hidle with hgo | hgo
    · exact ⟨.await, rfl, by simp [step, mainStep, hmain, onSync, ha.sync, Handshake.step, hgo]⟩
    · have hw : s.worker = some .reporting := by
        have hfits := ha.fits
        rw [ha.worker]
        cases w with
        | reporting => rfl
        | registering => exact absurd hfits.1 hidle
        | loop pc => simp [Handshake.notifierStep, hfits.1] at hgo
        | unregistering => simp [Handshake.notifierStep, hfits.1] at hgo
        | returned =>
          rcases hfits.2 with ⟨hn, -⟩ | ⟨e, hn⟩
          · simp [Handshake.notifierStep, hn] at hgo
          · simp [Handshake.notifierStep, hn] at hgo
      exact ⟨.notify, rfl, by simp [step, workerStep, hw, onSync, ha.sync, Handshake.step, hgo]⟩

/-- As long as the process has not ended, one of the threads can make a move
that counts, or the reply is due. -/
theorem can_go_on (array : ℕ → Mbuf) (hinv : Inv False s) :
    (∃ ok, s.main = .exited ok) ∨
      ∃ m : Move Mbuf burstSize, (Counts s m = true ∨ m = .reply) ∧ (step s m).isSome = true := by
  have hpc := hinv.atPc
  cases hmain : s.main with
  | starting => exact Or.inr ⟨.start .noDpdk fun _ => true, Or.inl rfl, by simp [step, mainStep, hmain]⟩
  | awaiting =>
    rw [hmain] at hpc
    obtain ⟨⟨h, w, ha⟩, -⟩ := hpc
    obtain ⟨m, hcounts, hgo⟩ := awaiting_can_go_on ha hmain
    exact Or.inr ⟨m, Or.inl hcounts, hgo⟩
  | refusing e =>
    rw [hmain] at hpc
    obtain ⟨⟨h, w, ha, -, hn⟩, -⟩ := hpc
    have hw : s.worker = some .returned := by
      have hfits := ha.fits
      rw [ha.worker]
      cases w <;> simp_all [Fits]
    exact Or.inr ⟨.refuse fun _ => true, Or.inl rfl, by simp [step, mainStep, hmain, joinThen, hw]⟩
  | serving ipc =>
    cases ipc with
    | idle => exact Or.inr ⟨.stop true, Or.inl rfl, by simp [step, mainStep, hmain]⟩
    | exchanged paused =>
      refine Or.inr ⟨.reply, Or.inr rfl, ?_⟩
      cases paused <;> simp [step, mainStep, hmain, serve, Worker.step, System.seen]
  | stopping ok => exact Or.inr ⟨.cleanup fun _ => true, Or.inl rfl, by simp [step, mainStep, hmain]⟩
  | joining ok =>
    rw [hmain] at hpc
    obtain ⟨⟨h, w, ha, -, hn⟩, hstop, -⟩ := hpc
    rcases worker_can_go_on array ha hn hstop with rfl | ⟨m, hcounts, hgo⟩
    · exact Or.inr ⟨.join fun _ => true, Or.inl rfl, by simp [step, mainStep, hmain, joinThen, ha.worker]⟩
    · obtain ⟨t, ht⟩ := Option.isSome_iff_exists.mp hgo
      refine Or.inr ⟨m, Or.inl hcounts, ?_⟩
      cases m with
      | register ok => exact hgo
      | notify => exact hgo
      | forward array burst => exact hgo
      | unregister => exact hgo
      | _ => cases ht
  | exited ok => exact Or.inl ⟨ok, rfl⟩

/-- **The start is decided and the process ends.** In every run, whatever the
system answers and however the threads interleave, there are at most 23 moves
that count, and two more for every spurious wakeup; and unless the process has
ended, a thread can make such a move or the reply that is due. So the main thread
is not left waiting for a report, no signal is lost, and after a stop the worker
comes to its end and is joined. -/
theorem threads_end {s : System} {n : Tally} (array : ℕ → Mbuf)
    (hrun : Run.run (Run.withGhost step tally) (boot portId portId_ne init, {}) moves = some (s, n)) :
    n.moves ≤ 23 + 2 * n.spurious ∧
      ((∃ ok, s.main = .exited ok) ∨
        ∃ m : Move Mbuf burstSize, (Counts s m = true ∨ m = .reply) ∧ (step s m).isSome = true) := by
  have hinv : Inv False s ∧ n.moves + rank s ≤ 23 + 2 * n.spurious := by
    refine Run.run_induction (P := fun x : System × Tally => Inv False x.1 ∧ x.2.moves + rank x.1 ≤
      23 + 2 * x.2.spurious) ?_ ⟨boot_inv portId portId_ne init False, le_rfl⟩ hrun
    intro x m y hx hy
    obtain ⟨hstep, hghost⟩ := Run.withGhost_eq_some.mp hy
    have hrank := step_rank hx.1 hstep
    obtain ⟨hcounted, hspurious⟩ := tally_step x.2 x.1 m
    rw [← hghost] at hcounted hspurious
    refine ⟨step_inv hx.1 (fun hC => hC.elim) hstep, ?_⟩
    have hle := hx.2
    omega
  refine ⟨by omega, can_go_on array hinv.1⟩

/-- The main thread wakes up before it is signalled, and sleeps again. -/
theorem threads_end_spurious :
    ∃ s n, Run.run (Run.withGhost step tally)
        (boot firstTwo (by decide) defaultInit, {})
        [.start willing fun _ => true, .await, .await, .spurious, .await, .await,
          (.register true : Move Unit defaultInit.ports.burstSize)] = some (s, n) ∧
      n = ⟨6, 1⟩ ∧ n.moves ≤ 23 + 2 * n.spurious ∧
      ∃ m : Move Unit defaultInit.ports.burstSize, (Counts s m = true ∨ m = .reply) ∧ (step s m).isSome = true := by
  obtain ⟨s, hrun, hmain⟩ : ∃ s, Run.run (Run.withGhost step tally)
      (boot firstTwo (by decide) defaultInit, {})
      [.start willing fun _ => true, .await, .await, .spurious, .await, .await,
        (.register true : Move Unit defaultInit.ports.burstSize)] = some (s, ⟨6, 1⟩) ∧ s.main = .awaiting :=
    ⟨_, rfl, rfl⟩
  obtain ⟨hle, hgo⟩ := threads_end (fun _ => ()) hrun
  refine ⟨s, _, hrun, rfl, hle, hgo.resolve_left ?_⟩
  rintro ⟨ok, hexited⟩
  rw [hmain] at hexited
  cases hexited

end Lifecycle
end Dpdkd
end Pktlab
