/-
# Pausing the forwarding loop

`pktlab_datapath_worker_main` (`dpdkd/src/datapath.c`) beside the thread that
serves requests. Between two loads or stores that the other thread can see,
each of them is on its own, so a run is a list of moves (`Move`): a check of
the stop flag, a check of the pause flag, a forwarding call in each direction,
and of the other thread a command. `pause_datapath` and `resume_datapath` are
two moves, the exchange of the flag and the refresh of the health with the
reply: the worker may move in between.

`Overrun` counts what the worker forwards between the reply to a pause and the
next resume. The flag is checked once per iteration, so at most the rest of
the iteration in which the pause came is forwarded.

Key definitions: `System`, `Move`, `step`, `HealthAgrees`, `Overrun`.
Key theorems: `request_reply`, `step_agrees`, `step_bounded`,
`pause_protocol`.
-/
import Pktlab.Dpdkd.Forward
import Pktlab.Dpdkd.Dispatch

namespace Pktlab
namespace Dpdkd
namespace Worker

/-- The next thing the worker does. -/
inductive Pc
  | stopCheck
  | pauseCheck
  | forward01
  | forward10
  deriving DecidableEq, Repr

/-- Where the thread that serves requests is: between two commands, or after
the exchange of the pause flag. -/
inductive Ipc
  | idle
  | exchanged (paused : Bool)
  deriving DecidableEq, Repr

/-- The daemon and its two threads. Without DPDK or the privileges for it
there is no worker, and a worker that saw the stop flag has returned. -/
structure System where
  daemon : Daemon
  ipc : Ipc
  worker : Option Pc
  stopRequested : Bool
  deriving DecidableEq

variable {Mbuf : Type} {burstSize : UInt16}

/-- A move: a command arrives, the reply to a pause or resume is sent, the
stop flag is set, or the worker goes on, with what the ports do if it
forwards; `array` is what its packet array held. -/
inductive Move (Mbuf : Type) (burstSize : UInt16)
  | request (c : Command)
  | reply
  | requestStop
  | work (array : ℕ → Mbuf) (burst : Burst Mbuf burstSize)

/-- The store of the flag, or the error without a forwarding loop. -/
def exchange (s : System) (paused : Bool) : System :=
  match datapathSetPaused s.daemon.datapath paused with
  | .error _ => s
  | .ok (datapath, _) => { s with daemon := { s.daemon with datapath := datapath }, ipc := .exchanged paused }

/-- The first move of a command, for most commands the only one. -/
def request (s : System) : Command → System
  | .pauseDatapath => exchange s true
  | .resumeDatapath => exchange s false
  | c => { s with daemon := (runCommand s.daemon c).1 }

/-- `pktlab_datapath_forward_direction` by the worker: the counters of the
burst are merged. -/
def forward (daemon : Daemon) (array : ℕ → Mbuf) (burst : Burst Mbuf burstSize) : Daemon :=
  match (forwardDirection array burst).burstStats with
  | none => daemon
  | some delta => { daemon with datapath := { daemon.datapath with stats := statsAdd daemon.datapath.stats delta } }

/-- The next step of the loop of `pktlab_datapath_worker_main`. -/
def work (s : System) (array : ℕ → Mbuf) (burst : Burst Mbuf burstSize) : Pc → System
  | .stopCheck => { s with worker := if s.stopRequested then none else some .pauseCheck }
  | .pauseCheck => { s with worker := if s.daemon.datapath.paused then some .stopCheck else some .forward01 }
  | .forward01 => { s with daemon := forward s.daemon array burst, worker := some .forward10 }
  | .forward10 => { s with daemon := forward s.daemon array burst, worker := some .stopCheck }

def step (s : System) : Move Mbuf burstSize → Option System
  | .request c => if s.ipc = .idle then some (request s c) else none
  | .reply =>
    match s.ipc with
    | .idle => none
    | .exchanged true => some { s with daemon := refreshPausedHealth s.daemon, ipc := .idle }
    | .exchanged false => some { s with daemon := refreshStartedHealth s.daemon, ipc := .idle }
  | .requestStop => some { s with stopRequested := true }
  | .work array burst => s.worker.map (work s array burst)

/-- `pktlab_daemon_run` up to the request loop: only a start with DPDK has a
worker. -/
def launch (env : StartEnv) (init : DatapathInit) : System where
  daemon := start env init
  ipc := .idle
  worker :=
    match env with
    | .dpdk _ _ => some .stopCheck
    | _ => none
  stopRequested := false

/-! ### The pieces -/

/-- A start without a forwarding loop, or with one, the flag stored. -/
theorem exchange_cases (s : System) (paused : Bool) :
    (activeForwarding s.daemon.datapath = false ∧ exchange s paused = s) ∨
      (activeForwarding s.daemon.datapath = true ∧
        exchange s paused = { s with
          daemon := { s.daemon with datapath := { s.daemon.datapath with paused := paused } }
          ipc := .exchanged paused }) := by
  unfold exchange datapathSetPaused
  cases h : activeForwarding s.daemon.datapath with
  | false => exact Or.inl ⟨rfl, rfl⟩
  | true => exact Or.inr ⟨rfl, rfl⟩

/-- The commands that are one move leave everything but the counters. -/
theorem request_other {s : System} {c : Command} (hc : needsForwarding c = false) :
    ∃ stats, request s c =
      { s with daemon := { s.daemon with datapath := { s.daemon.datapath with stats := stats } } } := by
  cases c with
  | pauseDatapath => exact absurd hc (by decide)
  | resumeDatapath => exact absurd hc (by decide)
  | resetStats => exact ⟨_, rfl⟩
  | ping => exact ⟨_, rfl⟩
  | getVersion => exact ⟨_, rfl⟩
  | getHealth => exact ⟨_, rfl⟩
  | getPorts => exact ⟨_, rfl⟩
  | getStats => exact ⟨_, rfl⟩

/-- A forwarding call leaves everything but the counters. -/
theorem forward_eq (daemon : Daemon) (array : ℕ → Mbuf) (burst : Burst Mbuf burstSize) :
    ∃ stats, forward daemon array burst =
      { daemon with datapath := { daemon.datapath with stats := stats } } := by
  unfold forward
  cases (forwardDirection array burst).burstStats with
  | none => exact ⟨_, rfl⟩
  | some delta => exact ⟨_, rfl⟩

/-- A command and its reply do to the daemon what the dispatcher does. -/
theorem request_reply {s : System} (hs : s.ipc = .idle) (c : Command) :
    step s (.request c : Move Mbuf burstSize) = some { s with daemon := (runCommand s.daemon c).1 } ∨
      ∃ s', step s (.request c : Move Mbuf burstSize) = some s' ∧
        step s' (.reply : Move Mbuf burstSize) = some { s with daemon := (runCommand s.daemon c).1 } := by
  have hstep : step s (.request c : Move Mbuf burstSize) = some (request s c) := by rw [step, if_pos hs]
  by_cases hc : needsForwarding c = true
  · rcases Bool.eq_false_or_eq_true (activeForwarding s.daemon.datapath) with ha | ha
    · refine Or.inr ⟨_, hstep, ?_⟩
      cases c with
      | pauseDatapath => simp [request, exchange, datapathSetPaused, ha, step, runCommand, hs]
      | resumeDatapath => simp [request, exchange, datapathSetPaused, ha, step, runCommand, hs]
      | _ => exact absurd hc (by decide)
    · refine Or.inl ?_
      rw [hstep, runCommand_inactive hc ha]
      cases c with
      | pauseDatapath => simp [request, exchange, datapathSetPaused, ha]
      | resumeDatapath => simp [request, exchange, datapathSetPaused, ha]
      | _ => exact absurd hc (by decide)
  · refine Or.inl ?_
    rw [hstep]
    cases c with
    | pauseDatapath => exact absurd rfl hc
    | resumeDatapath => exact absurd rfl hc
    | _ => rfl

/-! ### The health and the flag -/

/-- What the health says of the datapath. -/
structure HealthAgrees (d : Daemon) : Prop where
  paused : d.health.paused = d.datapath.paused
  state : d.health.state =
    if d.datapath.paused then .paused else if d.datapath.portsReady then .running else .degraded

/-- Between two commands the health agrees with the flag; after an exchange
the flag is what was stored. A flag that is set needs ports. -/
structure Agrees (s : System) : Prop where
  idle : s.ipc = .idle → HealthAgrees s.daemon
  exchanged : ∀ paused, s.ipc = .exchanged paused → s.daemon.datapath.paused = paused
  ready : s.daemon.datapath.paused = true → s.daemon.datapath.portsReady = true

/-- Changes of the counters and of the worker do not matter. -/
theorem Agrees.frame {s : System} (h : Agrees s) (stats : StatsTracker) (worker : Option Pc)
    (stopRequested : Bool) :
    Agrees { s with
      daemon := { s.daemon with datapath := { s.daemon.datapath with stats := stats } }
      worker := worker
      stopRequested := stopRequested } :=
  ⟨fun hi => ⟨(h.idle hi).paused, (h.idle hi).state⟩, h.exchanged, h.ready⟩

theorem exchange_agrees {s : System} (h : Agrees s) (paused : Bool) : Agrees (exchange s paused) := by
  rcases exchange_cases s paused with ⟨-, he⟩ | ⟨ha, he⟩
  · rw [he]
    exact h
  · rw [he]
    refine ⟨fun hi => (by cases hi), fun p hp => ?_, fun _ => ?_⟩
    · cases hp
      rfl
    · rw [activeForwarding, Bool.and_eq_true] at ha
      exact ha.2

theorem step_agrees {s s' : System} {m : Move Mbuf burstSize} (h : Agrees s) (hs : step s m = some s') :
    Agrees s' := by
  cases m with
  | request c =>
    rw [step, Option.ite_none_right_eq_some, Option.some.injEq] at hs
    rw [← hs.2]
    by_cases hc : needsForwarding c = true
    · cases c with
      | pauseDatapath => exact exchange_agrees h true
      | resumeDatapath => exact exchange_agrees h false
      | _ => exact absurd hc (by decide)
    · obtain ⟨stats, hr⟩ := request_other (s := s) (by simpa using hc)
      rw [hr]
      exact h.frame stats s.worker s.stopRequested
  | reply =>
    cases hi : s.ipc with
    | idle => simp [step, hi] at hs
    | exchanged paused =>
      have hflag := h.exchanged paused hi
      cases paused with
      | true =>
        simp only [step, hi, Option.some.injEq] at hs
        rw [← hs]
        refine ⟨fun _ => ⟨?_, ?_⟩, fun p hp => (by cases hp), h.ready⟩
        · exact hflag.symm
        · show DpState.paused =
            if s.daemon.datapath.paused then .paused else if s.daemon.datapath.portsReady then .running else .degraded
          rw [hflag, if_pos rfl]
      | false =>
        simp only [step, hi, Option.some.injEq] at hs
        rw [← hs]
        refine ⟨fun _ => ⟨rfl, ?_⟩, fun p hp => (by cases hp), h.ready⟩
        show (if s.daemon.datapath.portsReady then DpState.running else .degraded) =
          if s.daemon.datapath.paused then .paused else if s.daemon.datapath.portsReady then .running else .degraded
        rw [hflag, if_neg Bool.false_ne_true]
  | requestStop =>
    simp only [step, Option.some.injEq] at hs
    rw [← hs]
    exact h.frame s.daemon.datapath.stats s.worker true
  | work array burst =>
    rw [step, Option.map_eq_some_iff] at hs
    obtain ⟨pc, -, rfl⟩ := hs
    obtain ⟨stats, hf⟩ := forward_eq s.daemon array burst
    cases pc with
    | stopCheck => exact h.frame s.daemon.datapath.stats _ s.stopRequested
    | pauseCheck => exact h.frame s.daemon.datapath.stats _ s.stopRequested
    | forward01 =>
      rw [work, hf]
      exact h.frame stats _ s.stopRequested
    | forward10 =>
      rw [work, hf]
      exact h.frame stats _ s.stopRequested

theorem launch_agrees (env : StartEnv) (init : DatapathInit) : Agrees (launch env init) := by
  cases env <;> exact ⟨fun _ => ⟨rfl, rfl⟩, fun p hp => (by cases hp), fun hp => (by cases hp)⟩

/-! ### What is forwarded after a pause -/

/-- The forwarding calls since the reply to a pause, and the packets they
received. -/
structure Overrun where
  forward01 : ℕ := 0
  forward10 : ℕ := 0
  packets : ℕ := 0
  deriving DecidableEq, Repr

/-- Counting starts with the reply to a pause, goes on through further
pauses, and ends with the next resume. -/
def count (n : Option Overrun) (s : System) : Move Mbuf burstSize → Option Overrun
  | .request .resumeDatapath => none
  | .request _ => n
  | .reply => if s.ipc = .exchanged true then some (n.getD {}) else n
  | .requestStop => n
  | .work _ burst =>
    match s.worker with
    | some .forward01 => n.map fun o =>
      { o with forward01 := o.forward01 + 1, packets := o.packets + burst.received.length }
    | some .forward10 => n.map fun o =>
      { o with forward10 := o.forward10 + 1, packets := o.packets + burst.received.length }
    | _ => n

/-- The calls left in the iteration that the worker is in. -/
def left01 : Option Pc → ℕ
  | some .forward01 => 1
  | _ => 0

def left10 : Option Pc → ℕ
  | some .forward01 => 1
  | some .forward10 => 1
  | _ => 0

/-- While calls are counted the flag is set and no resume is under way, and
what was forwarded with what is left is at most an iteration. -/
structure Bounded (burstSize : UInt16) (s : System) (o : Overrun) : Prop where
  paused : s.daemon.datapath.paused = true
  ipc : s.ipc ≠ .exchanged false
  forward01 : o.forward01 + left01 s.worker ≤ 1
  forward10 : o.forward10 + left10 s.worker ≤ 1
  packets : o.packets ≤ (o.forward01 + o.forward10) * burstSize.toNat

/-- Changes of the counters do not matter. -/
theorem Bounded.frame {s : System} {o : Overrun} (h : Bounded burstSize s o) (stats : StatsTracker) :
    Bounded burstSize
      { s with daemon := { s.daemon with datapath := { s.daemon.datapath with stats := stats } } } o :=
  ⟨h.paused, h.ipc, h.forward01, h.forward10, h.packets⟩

/-- A pause while calls are counted. -/
theorem exchange_bounded {s : System} {o : Overrun} (h : Bounded burstSize s o) :
    Bounded burstSize (exchange s true) o := by
  rcases exchange_cases s true with ⟨-, he⟩ | ⟨-, he⟩
  · rw [he]
    exact h
  · rw [he]
    exact ⟨rfl, by simp, h.forward01, h.forward10, h.packets⟩

/-- The reply to a pause: nothing was forwarded yet, or counting goes on. -/
theorem reply_bounded {s : System} {n : Option Overrun} (ha : Agrees s) (hi : s.ipc = .exchanged true)
    (h : ∀ o, n = some o → Bounded burstSize s o) :
    Bounded burstSize { s with daemon := refreshPausedHealth s.daemon, ipc := .idle } (n.getD {}) := by
  have hflag := ha.exchanged true hi
  cases n with
  | none =>
    refine ⟨hflag, by simp, ?_, ?_, Nat.zero_le _⟩
    · show 0 + left01 s.worker ≤ 1
      unfold left01
      split <;> decide
    · show 0 + left10 s.worker ≤ 1
      unfold left10
      split <;> decide
  | some o =>
    have ho := h o rfl
    exact ⟨hflag, by simp, ho.forward01, ho.forward10, ho.packets⟩

/-- A move of the worker while calls are counted. -/
theorem work_bounded {s : System} {o : Overrun} {pc : Pc} (h : Bounded burstSize s o) (hw : s.worker = some pc)
    (array : ℕ → Mbuf) (burst : Burst Mbuf burstSize) {o' : Overrun}
    (ho : count (some o) s (.work array burst) = some o') : Bounded burstSize (work s array burst pc) o' := by
  obtain ⟨hpaused, hipc, h01, h10, hpackets⟩ := h
  obtain ⟨stats, hf⟩ := forward_eq s.daemon array burst
  have hle := burst.received_le
  rw [hw] at h01 h10
  simp only [count, hw] at ho
  cases pc with
  | stopCheck =>
    cases ho
    rw [work]
    refine ⟨hpaused, hipc, ?_, ?_, hpackets⟩
    · cases s.stopRequested <;> exact h01
    · cases s.stopRequested <;> exact h10
  | pauseCheck =>
    -- the flag is set, so the iteration ends here
    cases ho
    rw [work, if_pos hpaused]
    exact ⟨hpaused, hipc, h01, h10, hpackets⟩
  | forward01 =>
    cases ho
    rw [work, hf]
    refine ⟨hpaused, hipc, h01, h10, ?_⟩
    simp only [Nat.add_mul, Nat.one_mul] at hpackets ⊢
    omega
  | forward10 =>
    cases ho
    rw [work, hf]
    refine ⟨hpaused, hipc, h01, h10, ?_⟩
    simp only [Nat.add_mul, Nat.one_mul] at hpackets ⊢
    omega

theorem step_bounded {s s' : System} {m : Move Mbuf burstSize} {n : Option Overrun} (ha : Agrees s)
    (h : ∀ o, n = some o → Bounded burstSize s o) (hs : step s m = some s') :
    ∀ o, count n s m = some o → Bounded burstSize s' o := by
  intro o ho
  cases m with
  | request c =>
    rw [step, Option.ite_none_right_eq_some, Option.some.injEq] at hs
    rw [← hs.2]
    by_cases hc : needsForwarding c = true
    · cases c with
      | pauseDatapath => exact exchange_bounded (h o ho)
      | resumeDatapath => cases ho
      | _ => exact absurd hc (by decide)
    · have hn : n = some o := by
        cases c with
        | resumeDatapath => exact absurd rfl hc
        | _ => exact ho
      obtain ⟨stats, hr⟩ := request_other (s := s) (by simpa using hc)
      rw [hr]
      exact (h o hn).frame stats
  | reply =>
    cases hi : s.ipc with
    | idle => simp [step, hi] at hs
    | exchanged paused =>
      cases paused with
      | true =>
        simp only [step, hi, Option.some.injEq] at hs
        rw [count, if_pos hi, Option.some.injEq] at ho
        rw [← hs, ← ho]
        exact reply_bounded ha hi h
      | false =>
        rw [count, if_neg (by simp [hi])] at ho
        exact absurd hi (h o ho).ipc
  | requestStop =>
    simp only [step, Option.some.injEq] at hs
    rw [← hs]
    have hb := h o ho
    exact ⟨hb.paused, hb.ipc, hb.forward01, hb.forward10, hb.packets⟩
  | work array burst =>
    rw [step, Option.map_eq_some_iff] at hs
    obtain ⟨pc, hw, rfl⟩ := hs
    cases n with
    | none =>
      simp only [count, Option.map_none] at ho
      split at ho <;> cases ho
    | some o0 => exact work_bounded (h o0 rfl) hw array burst ho

/-- **The pause protocol.** In every run of the worker beside the commands:
between two commands the health shows the pause flag, its state is `PAUSED`
when the flag is set and otherwise `RUNNING` or `DEGRADED` as the ports are
ready or not, and a flag that is set needs ready ports; and from the reply to
a pause until the next resume the worker makes at most one forwarding call in
each direction, which receive at most twice the burst size. -/
theorem pause_protocol (env : StartEnv) (init : DatapathInit) {moves : List (Move Mbuf init.ports.burstSize)}
    {s : System} {n : Option Overrun}
    (hrun : Run.run (Run.withGhost step count) (launch env init, none) moves = some (s, n)) :
    (s.ipc = .idle →
      s.daemon.health.paused = s.daemon.datapath.paused ∧
      (s.daemon.health.state = .paused ↔ s.daemon.datapath.paused = true) ∧
      (s.daemon.datapath.paused = false →
        s.daemon.health.state = if s.daemon.datapath.portsReady then .running else .degraded) ∧
      (s.daemon.datapath.paused = true → s.daemon.datapath.portsReady = true)) ∧
    ∀ o, n = some o → o.forward01 ≤ 1 ∧ o.forward10 ≤ 1 ∧ o.packets ≤ 2 * init.ports.burstSize.toNat := by
  have hinv : Agrees s ∧ ∀ o, n = some o → Bounded init.ports.burstSize s o := by
    refine Run.run_induction (P := fun x : System × Option Overrun =>
      Agrees x.1 ∧ ∀ o, x.2 = some o → Bounded init.ports.burstSize x.1 o) ?_ ?_ hrun
    · intro x m y hx hy
      obtain ⟨hstep, hghost⟩ := Run.withGhost_eq_some.mp hy
      refine ⟨step_agrees hx.1 hstep, fun o ho => ?_⟩
      exact step_bounded hx.1 hx.2 hstep o (hghost ▸ ho)
    · exact ⟨launch_agrees env init, fun o ho => by cases ho⟩
  obtain ⟨ha, hb⟩ := hinv
  refine ⟨fun hi => ?_, fun o ho => ?_⟩
  · obtain ⟨hpaused, hstate⟩ := ha.idle hi
    refine ⟨hpaused, ?_, fun hf => ?_, ha.ready⟩
    · rw [hstate]
      cases s.daemon.datapath.paused with
      | true => simp
      | false => cases s.daemon.datapath.portsReady <;> simp
    · rw [hstate, hf, if_neg Bool.false_ne_true]
  · obtain ⟨-, -, h01, h10, hpackets⟩ := hb o ho
    have h01' : o.forward01 ≤ 1 := by omega
    have h10' : o.forward10 ≤ 1 := by omega
    refine ⟨h01', h10', hpackets.trans ?_⟩
    exact Nat.mul_le_mul_right _ (by omega)

/-- A burst of two packets that are all forwarded. -/
def pairBurst : Burst Unit defaultInit.ports.burstSize where
  received := [(), ()]
  received_le := by decide
  parses := fun _ => true
  transmit := fun offered => offered.length
  transmit_le := fun _ => le_rfl

/-- A pause that comes after the worker has checked the flag. -/
def latePause : List (Move Unit defaultInit.ports.burstSize) :=
  [.work (fun _ => ()) pairBurst, .work (fun _ => ()) pairBurst, .request .pauseDatapath, .reply,
    .work (fun _ => ()) pairBurst, .work (fun _ => ()) pairBurst, .work (fun _ => ()) pairBurst,
    .work (fun _ => ()) pairBurst]

theorem pause_protocol_latePause :
    ∃ s o, Run.run (Run.withGhost step count) (launch (.dpdk 0 1) defaultInit, none) latePause = some (s, some o) ∧
      o = ⟨1, 1, 4⟩ ∧ o.forward01 ≤ 1 ∧ o.forward10 ≤ 1 ∧ o.packets ≤ 2 * 32 ∧
      s.daemon.health.paused = s.daemon.datapath.paused := by
  obtain ⟨s, hrun, hipc⟩ : ∃ s, Run.run (Run.withGhost step count) (launch (.dpdk 0 1) defaultInit, none) latePause =
      some (s, some ⟨1, 1, 4⟩) ∧ s.ipc = .idle := ⟨_, rfl, rfl⟩
  obtain ⟨hhealth, hover⟩ := pause_protocol (.dpdk 0 1) defaultInit hrun
  obtain ⟨h01, h10, hpackets⟩ := hover _ rfl
  exact ⟨s, _, hrun, rfl, h01, h10, hpackets, (hhealth hipc).1⟩

end Worker
end Dpdkd
end Pktlab
