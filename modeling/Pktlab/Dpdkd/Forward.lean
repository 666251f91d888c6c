/-
# A forwarding burst and the counters it leaves

`pktlab_datapath_forward_direction` (`dpdkd/src/datapath.c`) with the two
helpers of `dpdkd/src/actions.c`, in the build with DPDK: receive a burst,
parse each packet, free the ones that do not parse, compact the others to
the front of the same array, offer them for transmission, free what was not
sent, and merge the burst's counters.

The worker's bursts run beside the control thread's `reset_stats` and
`get_stats`. They meet only at the mutex of the tracker, so a run is a list
of moves (`Move`): a burst up to the point where its counters are complete,
their merge, a reset, a snapshot. `conserved` is packet conservation over
every such run.

What DPDK promises is in `Burst`: `rte_eth_rx_burst` and `rte_eth_tx_burst`
return at most the count they were asked for.

Key definitions: `Burst`, `forwardDirection`, `Move`, `step`, `Balanced`.
Key theorems: `scan_induction`, `forwardDirection_cases`,
`forwardDirection_balanced`, `conserved`.
-/
import Pktlab.Lib.Run
import Pktlab.Dpdkd.Stats
import Mathlib.Data.List.Induction
import Mathlib.Order.MinMax

namespace Pktlab
namespace Dpdkd

section Burst

variable {Mbuf : Type}

/-- What the ports and the parser do during one burst. -/
structure Burst (Mbuf : Type) (burstSize : UInt16) where
  /-- The packets `rte_eth_rx_burst` puts into the array. -/
  received : List Mbuf
  received_le : received.length ≤ burstSize.toNat
  /-- `pktlab_parser_parse` returns 0. -/
  parses : Mbuf → Bool
  /-- The count `rte_eth_tx_burst` returns for the packets offered to it. -/
  transmit : List Mbuf → ℕ
  transmit_le : ∀ offered, transmit offered ≤ offered.length

/-- `count` entries of a C array, from `first` on. -/
def slots (packets : ℕ → Mbuf) (first : ℕ) : ℕ → List Mbuf
  | 0 => []
  | count + 1 => packets first :: slots packets (first + 1) count

@[simp] theorem length_slots (packets : ℕ → Mbuf) :
    ∀ first count : ℕ, (slots packets first count).length = count
  | _, 0 => rfl
  | first, count + 1 => by simp [slots, length_slots packets (first + 1) count]

/-- `pktlab_actions_drop_burst(&packets[first], count)`: the packets it frees. -/
def actionsDropBurst (packets : ℕ → Mbuf) (first count : ℕ) : List Mbuf :=
  slots packets first count

/-- `pktlab_actions_forward_burst`: the count sent and the packets freed. -/
def actionsForwardBurst (transmit : List Mbuf → ℕ) (packets : ℕ → Mbuf) (packetCount : ℕ) :
    ℕ × List Mbuf :=
  if packetCount = 0 then (0, [])
  else
    let sentCount := transmit (slots packets 0 packetCount)
    if sentCount < packetCount then
      (sentCount, actionsDropBurst packets sentCount (packetCount - sentCount))
    else (sentCount, [])

/-- The locals of the parse loop. -/
structure Scan (Mbuf : Type) where
  packets : ℕ → Mbuf
  candidateCount : ℕ := 0
  burstStats : DpStatsSnapshot
  freed : List Mbuf := []

/-- One turn of the parse loop. -/
def scanStep (parses : Mbuf → Bool) (s : Scan Mbuf) (index : ℕ) : Scan Mbuf :=
  if parses (s.packets index) then
    { s with
      packets := Function.update s.packets s.candidateCount (s.packets index)
      candidateCount := s.candidateCount + 1 }
  else
    { s with
      burstStats :=
        { s.burstStats with
          dropParseErrors := s.burstStats.dropParseErrors + 1
          dropPackets := s.burstStats.dropPackets + 1 }
      freed := s.freed ++ actionsDropBurst s.packets index 1 }

/-- What a burst did: its return value, the counters it passes to
`pktlab_stats_add` (none when nothing was received), the packets offered to
`rte_eth_tx_burst` and the packets freed. -/
structure ForwardResult (Mbuf : Type) where
  didWork : Bool
  burstStats : Option DpStatsSnapshot
  offered : List Mbuf
  freed : List Mbuf

/-- The counters and the array after the parse loop; `array` is what the
array held before the receive. -/
def scan {burstSize : UInt16} (array : ℕ → Mbuf) (b : Burst Mbuf burstSize) : Scan Mbuf :=
  (List.range b.received.length).foldl (scanStep b.parses)
    { packets := fun i => (b.received[i]?).getD (array i)
      burstStats := { rxBursts := 1, rxPackets := .ofNat b.received.length } }

/-- `pktlab_datapath_forward_direction`. -/
def forwardDirection {burstSize : UInt16} (array : ℕ → Mbuf) (b : Burst Mbuf burstSize) :
    ForwardResult Mbuf :=
  let rxCount := b.received.length
  if rxCount = 0 then ⟨false, none, [], []⟩
  else
    let s := scan array b
    if s.candidateCount = 0 then ⟨true, some s.burstStats, [], s.freed⟩
    else
      let out := actionsForwardBurst b.transmit s.packets s.candidateCount
      let stats := { s.burstStats with txBursts := 1, txPackets := .ofNat out.1 }
      let stats :=
        if out.1 < s.candidateCount then
          { stats with
            unsentPackets := .ofNat (s.candidateCount - out.1)
            dropPackets := stats.dropPackets + .ofNat (s.candidateCount - out.1) }
        else stats
      ⟨true, some stats, slots s.packets 0 s.candidateCount, s.freed ++ out.2⟩

/-- What holds before the parse loop and is kept by each turn holds after it. -/
theorem scan_induction {burstSize : UInt16} {P : ℕ → Scan Mbuf → Prop} (array : ℕ → Mbuf) (b : Burst Mbuf burstSize)
    (hstart : P 0 { packets := fun i => (b.received[i]?).getD (array i)
                    burstStats := { rxBursts := 1, rxPackets := .ofNat b.received.length } })
    (hstep : ∀ k s, k < b.received.length → P k s → P (k + 1) (scanStep b.parses s k)) :
    P b.received.length (scan array b) := by
  suffices h : ∀ k ≤ b.received.length, P k ((List.range k).foldl (scanStep b.parses)
      { packets := fun i => (b.received[i]?).getD (array i)
        burstStats := { rxBursts := 1, rxPackets := .ofNat b.received.length } }) from
    h _ le_rfl
  intro k
  induction k with
  | zero => exact fun _ => hstart
  | succ k ih =>
    intro hk
    rw [List.range_succ, List.foldl_append]
    exact hstep k _ hk (ih (by omega))

/-- The counters of a burst after `sent` of `count` candidates were sent. -/
def sentStats (stats : DpStatsSnapshot) (count sent : ℕ) : DpStatsSnapshot :=
  if sent < count then
    { stats with
      txBursts := 1
      txPackets := .ofNat sent
      unsentPackets := .ofNat (count - sent)
      dropPackets := stats.dropPackets + .ofNat (count - sent) }
  else { stats with txBursts := 1, txPackets := .ofNat sent }

/-- Nothing received, nothing that parses, or candidates that are offered. -/
theorem forwardDirection_cases {burstSize : UInt16} (array : ℕ → Mbuf) (b : Burst Mbuf burstSize) :
    (b.received = [] ∧ forwardDirection array b = ⟨false, none, [], []⟩) ∨
      ((scan array b).candidateCount = 0 ∧ b.received ≠ [] ∧
        forwardDirection array b = ⟨true, some (scan array b).burstStats, [], (scan array b).freed⟩) ∨
      (b.received ≠ [] ∧ ∃ out,
        out = actionsForwardBurst b.transmit (scan array b).packets (scan array b).candidateCount ∧
        forwardDirection array b =
          ⟨true, some (sentStats (scan array b).burstStats (scan array b).candidateCount out.1),
            slots (scan array b).packets 0 (scan array b).candidateCount, (scan array b).freed ++ out.2⟩) := by
  unfold forwardDirection
  by_cases hn : b.received = []
  · refine Or.inl ⟨hn, if_pos ?_⟩
    rw [hn, List.length_nil]
  · have hlen : ¬ b.received.length = 0 := fun h0 => hn (List.length_eq_zero_iff.mp h0)
    simp only [hlen, ↓reduceIte]
    by_cases hc : (scan array b).candidateCount = 0
    · exact Or.inr (Or.inl ⟨hc, hn, if_pos hc⟩)
    · exact Or.inr (Or.inr ⟨hn, _, rfl, if_neg hc⟩)

/-! ### One burst -/

/-- A burst's counters: every packet received was sent or dropped, every
drop has its cause, and the burst counters bound the packet counters. -/
structure Balanced (burstSize : ℕ) (d : DpStatsSnapshot) : Prop where
  rx : d.rxPackets.toNat = d.txPackets.toNat + d.dropPackets.toNat
  drop : d.dropPackets.toNat =
    d.dropParseErrors.toNat + d.dropNoMatch.toNat + d.unsentPackets.toNat
  txBursts_le : d.txBursts.toNat ≤ d.rxBursts.toNat
  rxBursts_le : d.rxBursts.toNat ≤ d.rxPackets.toNat
  rxPackets_le : d.rxPackets.toNat ≤ burstSize * d.rxBursts.toNat
  txPackets_le : d.txPackets.toNat + d.unsentPackets.toNat ≤ burstSize * d.txBursts.toNat

/-- The parse loop after `k` packets: each is a candidate or a counted
parse error, and nothing else was counted. -/
structure Scanned (n k : ℕ) (s : Scan Mbuf) : Prop where
  split : s.candidateCount + s.burstStats.dropParseErrors.toNat = k
  drop : s.burstStats.dropPackets = s.burstStats.dropParseErrors
  rx : s.burstStats.rxPackets = .ofNat n ∧ s.burstStats.rxBursts = 1
  others : s.burstStats.txPackets = 0 ∧ s.burstStats.dropNoMatch = 0 ∧ s.burstStats.txBursts = 0 ∧
    s.burstStats.unsentPackets = 0

theorem scanStep_scanned {parses : Mbuf → Bool} {n k : ℕ} {s : Scan Mbuf} (hk : k < 65536)
    (h : Scanned n k s) : Scanned n (k + 1) (scanStep parses s k) := by
  obtain ⟨h1, h2, h3, h4⟩ := h
  unfold scanStep
  split
  · exact ⟨by simp only; omega, h2, h3, h4⟩
  · refine ⟨?_, by simp only [h2], h3, h4⟩
    have : (1 : UInt64).toNat = 1 := rfl
    simp only [UInt64.toNat_add, this]
    omega

theorem scan_scanned {burstSize : UInt16} (array : ℕ → Mbuf) (b : Burst Mbuf burstSize) :
    Scanned b.received.length b.received.length (scan array b) := by
  have hlt : b.received.length < 65536 := lt_of_le_of_lt b.received_le burstSize.toNat_lt
  refine scan_induction array b ⟨rfl, rfl, ⟨rfl, rfl⟩, rfl, rfl, rfl, rfl⟩ fun k s hk h => ?_
  exact scanStep_scanned (by omega) h

theorem actionsForwardBurst_sent_le {transmit : List Mbuf → ℕ}
    (h : ∀ offered, transmit offered ≤ offered.length) (packets : ℕ → Mbuf) (n : ℕ) :
    (actionsForwardBurst transmit packets n).1 ≤ n := by
  have hn := h (slots packets 0 n)
  rw [length_slots] at hn
  unfold actionsForwardBurst
  split
  · simp
  · simp only
    split <;> exact hn

/-- Whatever the ports and the parser do, a burst's counters balance. -/
theorem forwardDirection_balanced {burstSize : UInt16} (array : ℕ → Mbuf)
    (b : Burst Mbuf burstSize) {d : DpStatsSnapshot}
    (h : (forwardDirection array b).burstStats = some d) : Balanced burstSize.toNat d := by
  have hle := b.received_le
  have hlt : b.received.length < 65536 := lt_of_le_of_lt hle burstSize.toNat_lt
  obtain ⟨hsplit, hdrop, ⟨hrx, hrxb⟩, htx, hnm, htxb, hun⟩ := scan_scanned array b
  have hsent := actionsForwardBurst_sent_le b.transmit_le (scan array b).packets
    (scan array b).candidateCount
  have h1 : (1 : UInt64).toNat = 1 := rfl
  have h0 : (0 : UInt64).toNat = 0 := rfl
  rcases forwardDirection_cases array b with ⟨-, heq⟩ | ⟨hc, hn, heq⟩ | ⟨hn, out, rfl, heq⟩
  · rw [heq] at h
    cases h
  · rw [heq, Option.some.injEq] at h
    have hpos := List.length_pos_of_ne_nil hn
    subst h
    constructor <;> simp only [h0, h1, hdrop, hrx, hrxb, htx, hnm, htxb, hun, UInt64.toNat_ofNat'] <;>
      omega
  · rw [heq, Option.some.injEq] at h
    have hpos := List.length_pos_of_ne_nil hn
    generalize (actionsForwardBurst b.transmit (scan array b).packets
      (scan array b).candidateCount).1 = sent at h hsent
    unfold sentStats at h
    by_cases hs : sent < (scan array b).candidateCount
    · rw [if_pos hs] at h
      subst h
      constructor <;>
        simp only [h0, h1, hdrop, hrx, hrxb, hnm, UInt64.toNat_ofNat', UInt64.toNat_add] <;> omega
    · rw [if_neg hs] at h
      subst h
      constructor <;> simp only [h0, h1, hdrop, hrx, hrxb, hnm, hun, UInt64.toNat_ofNat'] <;> omega

end Burst

/-! ### Runs -/

open Run

/-- The moves of the worker and of the control thread. The direction of a
burst only picks the ports, whose behaviour is in `Burst`. -/
inductive Move (Mbuf : Type) (burstSize : UInt16)
  | burst (array : ℕ → Mbuf) (b : Burst Mbuf burstSize)
  | merge
  | resetStats
  | getStats

/-- The shared tracker, and the worker's counters that await their merge. -/
structure Counters where
  tracker : StatsTracker
  pending : Option DpStatsSnapshot

def Counters.start : Counters := ⟨statsInit, none⟩

section Runs

variable {Mbuf : Type} {burstSize : UInt16}

/-- One move: the worker starts a burst only after the merge of the last
one, the control thread resets and reads at any time. -/
def step (s : Counters) : Move Mbuf burstSize → Option Counters
  | .burst array b =>
    if s.pending.isNone then some { s with pending := (forwardDirection array b).burstStats }
    else none
  | .merge => s.pending.map fun d => ⟨statsAdd s.tracker d, none⟩
  | .resetStats => some { s with tracker := statsReset s.tracker }
  | .getStats => some s

/-- The bursts' counters merged since the last reset. -/
def mergedSinceReset (added : List DpStatsSnapshot) (s : Counters) :
    Move Mbuf burstSize → List DpStatsSnapshot
  | .merge => added ++ s.pending.toList
  | .resetStats => []
  | _ => added

/-- The exact total of a counter over the merged bursts. -/
def total (f : DpStatsSnapshot → UInt64) (added : List DpStatsSnapshot) : ℕ :=
  (added.map fun d => (f d).toNat).sum

/-- The eight counters. -/
def counters : List (DpStatsSnapshot → UInt64) :=
  [(·.rxPackets), (·.txPackets), (·.dropPackets), (·.dropParseErrors), (·.dropNoMatch),
    (·.rxBursts), (·.txBursts), (·.unsentPackets)]

/-- No counter has wrapped since the last reset. -/
def NoWrap (added : List DpStatsSnapshot) : Prop := ∀ f ∈ counters, total f added < 2 ^ 64

/-- A counter that `pktlab_stats_add` adds up. -/
structure Adds (f : DpStatsSnapshot → UInt64) : Prop where
  zero : f {} = 0
  add : ∀ s d : DpStatsSnapshot, f (s.add d) = f s + f d

theorem Adds.toNat_foldl {f : DpStatsSnapshot → UInt64} (hf : Adds f) (added : List DpStatsSnapshot) :
    (f (added.foldl .add {})).toNat = total f added % 2 ^ 64 := by
  induction added using List.reverseRecOn with
  | nil => rw [List.foldl_nil, hf.zero]; rfl
  | append_singleton l d ih =>
    rw [List.foldl_append, List.foldl_cons, List.foldl_nil, hf.add, UInt64.toNat_add, ih]
    simp [total]

theorem adds_rxPackets : Adds (·.rxPackets) := ⟨rfl, fun _ _ => rfl⟩
theorem adds_txPackets : Adds (·.txPackets) := ⟨rfl, fun _ _ => rfl⟩
theorem adds_dropPackets : Adds (·.dropPackets) := ⟨rfl, fun _ _ => rfl⟩
theorem adds_dropParseErrors : Adds (·.dropParseErrors) := ⟨rfl, fun _ _ => rfl⟩
theorem adds_dropNoMatch : Adds (·.dropNoMatch) := ⟨rfl, fun _ _ => rfl⟩
theorem adds_rxBursts : Adds (·.rxBursts) := ⟨rfl, fun _ _ => rfl⟩
theorem adds_txBursts : Adds (·.txBursts) := ⟨rfl, fun _ _ => rfl⟩
theorem adds_unsentPackets : Adds (·.unsentPackets) := ⟨rfl, fun _ _ => rfl⟩

/-- What a run keeps: the tracker holds the sum of the merged bursts, and
they and the pending one balance. -/
structure Inv (burstSize : UInt16) (x : Counters × List DpStatsSnapshot) : Prop where
  initialized : x.1.tracker.initialized = true
  sum : statsSnapshot x.1.tracker = x.2.foldl .add {}
  merged : ∀ d ∈ x.2, Balanced burstSize.toNat d
  pending : ∀ d ∈ x.1.pending, Balanced burstSize.toNat d

theorem step_inv (x : Counters × List DpStatsSnapshot) (m : Move Mbuf burstSize)
    (y : Counters × List DpStatsSnapshot) (h : Inv burstSize x)
    (hs : withGhost step mergedSinceReset x m = some y) : Inv burstSize y := by
  obtain ⟨h1, h2⟩ := withGhost_eq_some.mp hs
  obtain ⟨s, added⟩ := x
  obtain ⟨s', added'⟩ := y
  simp only at h1 h2
  cases m with
  | burst array b =>
    simp only [step] at h1
    split at h1
    · cases h1
      subst h2
      exact ⟨h.initialized, h.sum, h.merged, fun d hd => forwardDirection_balanced array b hd⟩
    · cases h1
  | merge =>
    obtain ⟨d, hd, rfl⟩ := Option.map_eq_some_iff.mp h1
    have hpend : mergedSinceReset added s (.merge : Move Mbuf burstSize) = added ++ [d] := by
      simp [mergedSinceReset, hd]
    rw [hpend] at h2
    subst h2
    refine ⟨by simpa using h.initialized, ?_, fun e he => ?_, fun e he => by simp at he⟩
    · rw [statsSnapshot_add h.initialized, h.sum, List.foldl_append]
      rfl
    · rcases List.mem_append.mp he with he | he
      · exact h.merged e he
      · rw [List.mem_singleton] at he
        exact he ▸ h.pending d hd
  | resetStats =>
    cases h1
    subst h2
    exact ⟨by simpa using h.initialized, statsSnapshot_reset _, fun e he => by simp [mergedSinceReset] at he,
      h.pending⟩
  | getStats =>
    cases h1
    subst h2
    exact h

/-- The totals of balanced bursts balance. -/
theorem total_balanced {n : ℕ} : ∀ {added : List DpStatsSnapshot}, (∀ d ∈ added, Balanced n d) →
    total (·.rxPackets) added = total (·.txPackets) added + total (·.dropPackets) added ∧
    total (·.dropPackets) added = total (·.dropParseErrors) added + total (·.dropNoMatch) added +
      total (·.unsentPackets) added ∧
    total (·.txBursts) added ≤ total (·.rxBursts) added ∧
    total (·.rxBursts) added ≤ total (·.rxPackets) added ∧
    total (·.rxPackets) added ≤ n * total (·.rxBursts) added ∧
    total (·.txPackets) added + total (·.unsentPackets) added ≤ n * total (·.txBursts) added
  | [], _ => by simp [total]
  | d :: added, h => by
    obtain ⟨i1, i2, i3, i4, i5, i6⟩ := total_balanced fun e he => h e (List.mem_cons_of_mem _ he)
    obtain ⟨b1, b2, b3, b4, b5, b6⟩ := h d List.mem_cons_self
    simp only [total, List.map_cons, List.sum_cons, Nat.mul_add] at *
    omega

/-- **Packet conservation.** After every run of bursts, merges, resets and
reads, the snapshot balances modulo `2^64`; and as long as no counter has
wrapped since the last reset, the burst counters bound the packet counters. -/
theorem conserved {moves : List (Move Mbuf burstSize)} {s : Counters} {added : List DpStatsSnapshot}
    (h : run (withGhost step mergedSinceReset) (Counters.start, []) moves = some (s, added)) :
    let c := statsSnapshot s.tracker
    c.rxPackets = c.txPackets + c.dropPackets ∧
    c.dropPackets = c.dropParseErrors + c.dropNoMatch + c.unsentPackets ∧
    (NoWrap added →
      c.txBursts.toNat ≤ c.rxBursts.toNat ∧
      c.rxBursts.toNat ≤ c.rxPackets.toNat ∧
      c.rxPackets.toNat ≤ burstSize.toNat * c.rxBursts.toNat ∧
      c.txPackets.toNat + c.unsentPackets.toNat ≤ burstSize.toNat * c.txBursts.toNat) := by
  have hI : Inv burstSize (s, added) :=
    run_induction step_inv ⟨rfl, rfl, fun _ h => by simp at h, fun _ h => by simp [Counters.start] at h⟩ h
  obtain ⟨t1, t2, t3, t4, t5, t6⟩ := total_balanced hI.merged
  intro c
  have hc : c = added.foldl .add {} := hI.sum
  have rx := adds_rxPackets.toNat_foldl added
  have tx := adds_txPackets.toNat_foldl added
  have dr := adds_dropPackets.toNat_foldl added
  have pe := adds_dropParseErrors.toNat_foldl added
  have nm := adds_dropNoMatch.toNat_foldl added
  have rb := adds_rxBursts.toNat_foldl added
  have tb := adds_txBursts.toNat_foldl added
  have un := adds_unsentPackets.toNat_foldl added
  simp only [← hc] at rx tx dr pe nm rb tb un
  refine ⟨?_, ?_, fun hw => ?_⟩
  · rw [← UInt64.toNat_inj, UInt64.toNat_add, rx, tx, dr, t1]
    simp
  · rw [← UInt64.toNat_inj, UInt64.toNat_add, UInt64.toNat_add, dr, pe, nm, un, t2]
    simp
  · simp only [NoWrap, counters, List.mem_cons, List.not_mem_nil, or_false, forall_eq_or_imp, forall_eq] at hw
    obtain ⟨w1, w2, w3, w4, w5, w6, w7, w8⟩ := hw
    rw [rx, tx, rb, tb, un, Nat.mod_eq_of_lt w1, Nat.mod_eq_of_lt w2, Nat.mod_eq_of_lt w6,
      Nat.mod_eq_of_lt w7, Nat.mod_eq_of_lt w8]
    exact ⟨t3, t4, t5, t6⟩

/-- Three packets arrive, the second does not parse, one of the other two is
sent; a burst that is merged after a reset counts in full. -/
def sampleBurst : Burst ℕ 32 where
  received := [10, 11, 12]
  received_le := by decide
  parses := (· ≠ 11)
  transmit := fun offered => min 1 offered.length
  transmit_le := fun _ => min_le_right _ _

def sampleCounters : DpStatsSnapshot where
  rxPackets := 3
  txPackets := 1
  dropPackets := 2
  dropParseErrors := 1
  rxBursts := 1
  txBursts := 1
  unsentPackets := 1

theorem conserved_sample :
    let moves : List (Move ℕ 32) := [.burst id sampleBurst, .merge, .getStats,
      .burst id sampleBurst, .resetStats, .merge, .getStats]
    run (withGhost step mergedSinceReset) (Counters.start, []) moves =
      some (⟨⟨true, sampleCounters⟩, none⟩, [sampleCounters]) ∧
    sampleCounters.rxPackets = sampleCounters.txPackets + sampleCounters.dropPackets := by
  intro moves
  have h : run (withGhost step mergedSinceReset) (Counters.start, []) moves =
      some (⟨⟨true, sampleCounters⟩, none⟩, [sampleCounters]) := rfl
  exact ⟨h, (conserved h).1⟩

end Runs

end Dpdkd
end Pktlab
