/-
# The counters that a client reads

`get_stats` over the socket, beside the forwarding thread and other clients. A
reset counts for all clients, and what a client reads is the sum of the bursts
merged since the last reset of anybody, modulo `2^64`. Where the bursts are
those of `pktlab_datapath_forward_direction`, what the client reads balances.

Key definitions: `mergedAfter`, `Forwarded`.
Key theorems: `counters_merged`, `client_counts`.
-/
import Pktlab.Ctrld.LiveStatus
import Pktlab.Dpdkd.Forward

namespace Pktlab
namespace Ctrld

open Utf8 Rfc8259 Wire Dpdkd DatapathService

/-- The bursts merged since the last reset that reached the daemon. -/
def mergedAfter (added : List DpStatsSnapshot) : ExchangeEvent → List DpStatsSnapshot
  | .call r _ => if r.cmd = .resetStats ∧ r.id.length ≤ 64 then [] else added
  | .burst delta => added ++ [delta]

/-- Of the calls, only a reset that reaches the daemon changes the counters. -/
theorem callService_counters (s : DatapathService) (r : RequestEnvelope) :
    (callService s r).1.counters = if r.cmd = .resetStats ∧ r.id.length ≤ 64 then {} else s.counters := by
  have hpaused : ∀ paused changed unchanged, (s.setPaused paused changed unchanged).1.counters = s.counters := by
    intro paused changed unchanged
    unfold DatapathService.setPaused
    split <;> rfl
  have hserve : ∀ c : DatapathCommand, (s.serve c).1.counters = if c = .resetStats then {} else s.counters := by
    intro c
    cases c with
    | pauseDatapath => exact hpaused _ _ _
    | resumeDatapath => exact hpaused _ _ _
    | _ => rfl
  unfold callService
  by_cases hid : r.id.length ≤ 64
  · have hlen := (compactJson_payload hid).2
    rw [if_neg (by omega), if_neg (by omega)]
    simp only [hid, and_true]
    exact hserve r.cmd
  · have hneither : ¬ (r.cmd = .resetStats ∧ r.id.length ≤ 64) := fun h => hid h.2
    rw [if_neg hneither]
    split
    · rfl
    · rw [if_pos (by omega)]

/-- The counters of the service are the sum of what has been merged. -/
theorem counters_merged : ∀ (events : List ExchangeEvent) (s : DatapathService) (added : List DpStatsSnapshot),
    s.counters = added.foldl .add {} →
    (events.foldl serviceAfter s).counters = (events.foldl mergedAfter added).foldl .add {}
  | [], _, _, h => h
  | .call r t :: events, s, added, h => by
    refine counters_merged events _ _ ?_
    show (callService s r).1.counters = _
    rw [callService_counters, mergedAfter]
    split
    · rfl
    · exact h
  | .burst delta :: events, s, added, h => by
    refine counters_merged events _ _ ?_
    show s.counters.add delta = _
    rw [mergedAfter, List.foldl_append, ← h]
    rfl

/-- A burst is one that the forwarding thread merges. -/
def Forwarded (Mbuf : Type) (burstSize : UInt16) : ExchangeEvent → Prop
  | .call _ _ => True
  | .burst delta => ∃ (array : ℕ → Mbuf) (b : Burst Mbuf burstSize), (forwardDirection array b).burstStats = some delta

theorem merged_balanced {Mbuf : Type} {burstSize : UInt16} : ∀ (events : List ExchangeEvent)
    (added : List DpStatsSnapshot), (∀ e ∈ events, Forwarded Mbuf burstSize e) →
    (∀ d ∈ added, Balanced burstSize.toNat d) → ∀ d ∈ events.foldl mergedAfter added, Balanced burstSize.toNat d
  | [], _, _, h => h
  | .call r t :: events, added, hf, h => by
    refine merged_balanced events (mergedAfter added (.call r t)) (List.forall_mem_cons.mp hf).2 fun d hd => ?_
    rw [mergedAfter] at hd
    split at hd
    · exact absurd hd List.not_mem_nil
    · exact h d hd
  | .burst delta :: events, added, hf, h => by
    obtain ⟨⟨array, b, hb⟩, hrest⟩ := List.forall_mem_cons.mp hf
    refine merged_balanced events _ hrest fun d hd => ?_
    rcases List.mem_append.mp hd with hd | hd
    · exact h d hd
    · rw [List.mem_singleton.mp hd]
      exact forwardDirection_balanced array b hb

variable {modelDumpJson : RequestEnvelope → List UInt8} {loads : List UInt8 → Except LoadsError Json}
  {lax : Coercions} {ingress egress : NonEmptyStr} {config : DatapathConfig} {init : DatapathInit}

/-- **What a client counts.** In every history of a started daemon whose
bursts are those of the forwarding thread, `get_stats` succeeds when its
identifier fits the daemon, and every counter it returns is the total of the bursts merged since the last reset,
modulo `2^64`. While none of these totals has reached `2^64`, every packet
counted as received is counted once as sent or dropped and every drop has its
cause. -/
theorem client_counts (hdump : CompactDump modelDumpJson) (hloads : LoadsJson loads)
    (hs : Started ingress egress config init) (env : StartEnv) {Mbuf : Type} {burstSize : UInt16}
    {before after : List ExchangeEvent} {id : RequestId} (hid : id.1.length ≤ 64) {t : Delivery} {d' : Daemon}
    (hrun : Run.run (exchangeStep modelDumpJson) (start env init)
      (before ++ .call (DatapathCommand.getStats.request id) t :: after) = some d')
    (hbursts : ∀ e ∈ before, Forwarded Mbuf burstSize e) :
    let added := before.foldl mergedAfter []
    ∃ stats : DatapathStatsModel,
      typedCall modelDumpJson loads lax (DatapathCommand.getStats.request id) t.session = .ok (.ok stats) ∧
      (stats.rxPackets = total (·.rxPackets) added % 2 ^ 64 ∧ stats.txPackets = total (·.txPackets) added % 2 ^ 64 ∧
        stats.dropPackets = total (·.dropPackets) added % 2 ^ 64 ∧
        stats.dropParseErrors = total (·.dropParseErrors) added % 2 ^ 64 ∧
        stats.dropNoMatch = total (·.dropNoMatch) added % 2 ^ 64 ∧ stats.rxBursts = total (·.rxBursts) added % 2 ^ 64 ∧
        stats.txBursts = total (·.txBursts) added % 2 ^ 64 ∧
        stats.unsentPackets = total (·.unsentPackets) added % 2 ^ 64 ∧ stats.ruleHits = []) ∧
      (NoWrap added → stats.rxPackets = stats.txPackets + stats.dropPackets ∧
        stats.dropPackets = stats.dropParseErrors + stats.dropNoMatch + stats.unsentPackets ∧
        stats.rxBursts ≤ stats.rxPackets ∧ stats.rxPackets ≤ burstSize.toNat * stats.rxBursts) := by
  intro added
  have hcall := hs.call lax hdump hloads env hrun
  rw [callService_short _ hid] at hcall
  have hstart : (launched env ingress egress).counters = ([] : List DpStatsSnapshot).foldl .add {} := by
    cases env <;> rfl
  have hcounters := counters_merged before _ [] hstart
  generalize before.foldl serviceAfter (launched env ingress egress) = s at hcall hcounters
  have hsum : ∀ {f : DpStatsSnapshot → UInt64}, Adds f → (f s.counters).toNat = total f added % 2 ^ 64 := by
    intro f hf
    rw [hcounters]
    exact hf.toNat_foldl added
  have rx := hsum adds_rxPackets
  have tx := hsum adds_txPackets
  have dr := hsum adds_dropPackets
  have pe := hsum adds_dropParseErrors
  have nm := hsum adds_dropNoMatch
  have rb := hsum adds_rxBursts
  have tb := hsum adds_txBursts
  have un := hsum adds_unsentPackets
  refine ⟨s.stats, hcall, ⟨rx, tx, dr, pe, nm, rb, tb, un, rfl⟩, fun hw => ?_⟩
  obtain ⟨t1, t2, -, t4, t5, -⟩ := total_balanced (merged_balanced before [] hbursts fun d hd => absurd hd List.not_mem_nil)
  simp only [NoWrap, Dpdkd.counters, List.mem_cons, List.not_mem_nil, or_false, forall_eq_or_imp, forall_eq] at hw
  obtain ⟨w1, w2, w3, w4, w5, w6, w7, w8⟩ := hw
  rw [Nat.mod_eq_of_lt w1] at rx
  rw [Nat.mod_eq_of_lt w2] at tx
  rw [Nat.mod_eq_of_lt w3] at dr
  rw [Nat.mod_eq_of_lt w4] at pe
  rw [Nat.mod_eq_of_lt w5] at nm
  rw [Nat.mod_eq_of_lt w6] at rb
  rw [Nat.mod_eq_of_lt w8] at un
  simp only [DatapathService.stats, rx, tx, dr, pe, nm, rb, un]
  exact ⟨t1, t2, t4, t5⟩

/-- A burst of three packets, a reset by another client, and the same burst
again. -/
def resetHistory : List ExchangeEvent :=
  [.burst sampleCounters,
    .call (DatapathCommand.resetStats.request otherId)
      (atOnce forwardingDaemon (DatapathCommand.resetStats.request otherId)),
    .burst sampleCounters]

/-- The daemon behind it, and its answer. -/
def countedDaemon : Daemon :=
  { forwardingDaemon with
    datapath := { forwardingDaemon.datapath with stats := statsAdd forwardingDaemon.datapath.stats sampleCounters } }

def countedDelivery : Delivery := atOnce countedDaemon (DatapathCommand.getStats.request firstId)

theorem client_counts_reset : ∃ stats : DatapathStatsModel,
    typedCall compactJson loadsStrict ⟨fun _ => none, fun _ => none⟩
      (DatapathCommand.getStats.request firstId) countedDelivery.session = .ok (.ok stats) ∧
      stats.rxPackets = 3 ∧ stats.rxPackets = stats.txPackets + stats.dropPackets := by
  have hinit : datapathInit defaultConfig = .ok defaultInit := by decide +kernel
  have hclean : ∀ s ∈ ["dtap0", "dtap1"], ∀ c ∈ utf8 s, isPlain c = true := by decide
  have hs : Started ⟨"dtap0", by decide⟩ ⟨"dtap1", by decide⟩ defaultConfig defaultInit :=
    ⟨hinit, rfl, rfl, clean_plain (hclean _ (by simp)), clean_plain (hclean _ (by simp))⟩
  have hrun : Run.run (exchangeStep compactJson) (start (.dpdk 0 1) defaultInit)
      (resetHistory ++ [.call (DatapathCommand.getStats.request firstId) countedDelivery]) =
        some countedDaemon := by decide +kernel
  have hburst : (forwardDirection id sampleBurst).burstStats = some sampleCounters := by decide +kernel
  have hbursts : ∀ e ∈ resetHistory, Forwarded ℕ 32 e := by
    simp only [resetHistory, List.forall_mem_cons]
    exact ⟨⟨_, _, hburst⟩, trivial, ⟨_, _, hburst⟩, by simp⟩
  have hadded : resetHistory.foldl mergedAfter [] = [sampleCounters] := by decide
  obtain ⟨stats, hcall, hcounts, hbalance⟩ := client_counts (fun _ => rfl) loadsStrict_loadsJson hs (.dpdk 0 1)
    (by decide) hrun hbursts
  rw [hadded] at hcounts hbalance
  exact ⟨stats, hcall, hcounts.1, (hbalance (by unfold NoWrap; decide)).1⟩

end Ctrld
end Pktlab
