/-
# Where the packets of a burst go

`pktlab_datapath_forward_direction` (`dpdkd/src/datapath.c`) compacts the
packets that parse to the front of the array it is scanning, and frees the
others through a pointer into it; what `rte_eth_tx_burst` did not take is
freed by `pktlab_actions_forward_burst` (`dpdkd/src/actions.c`).

The loop never reads a slot it has written: after `k` packets the slots
below the candidate count hold the packets that parsed, in receive order,
and the slots from `k` on still hold what was received (`Compacted`). So the
packets offered are the received ones filtered (`forwardDirection_offered`),
the packets freed are the rest and the tail that was not sent
(`forwardDirection_freed`), the parse errors counted are as many as did not
parse (`forwardDirection_parseErrors`), and every packet is disposed of once.

Key definitions: `Compacted`, `transmitted`.
Key theorems: `scan_compacted`, `forwardDirection_offered`,
`forwardDirection_freed`, `forwardDirection_parseErrors`, `disposed_once`.
-/
import Pktlab.Dpdkd.Forward
import Mathlib.Data.List.Nodup

namespace Pktlab
namespace Dpdkd

variable {Mbuf : Type}

/-! ### The array -/

theorem slots_append (packets : ℕ → Mbuf) : ∀ first m n : ℕ,
    slots packets first (m + n) = slots packets first m ++ slots packets (first + m) n
  | first, 0, n => by simp [slots]
  | first, m + 1, n => by
    rw [Nat.add_right_comm m 1 n, slots, slots, slots_append packets (first + 1) m n,
      List.cons_append, Nat.add_right_comm first 1 m, Nat.add_assoc first m 1]

/-- A write past the slots leaves them. -/
theorem slots_update {packets : ℕ → Mbuf} {at' : ℕ} {p : Mbuf} : ∀ {first n : ℕ},
    first + n ≤ at' → slots (Function.update packets at' p) first n = slots packets first n
  | _, 0, _ => rfl
  | first, n + 1, h => by
    have hne : first ≠ at' := by omega
    rw [slots, slots, Function.update_of_ne hne, slots_update (by omega)]

/-- The slots of a prefix and of the rest. -/
theorem slots_drop {packets : ℕ → Mbuf} {sent n : ℕ} (h : sent ≤ n) :
    slots packets sent (n - sent) = (slots packets 0 n).drop sent := by
  have hn : n = sent + (n - sent) := by omega
  have h0 := slots_append packets 0 sent (n - sent)
  rw [← hn, Nat.zero_add] at h0
  rw [h0, List.drop_left' (length_slots packets 0 sent)]

/-! ### The parse loop -/

/-- **The parse loop after `k` packets.** The candidates stand at the front
of the array, the packets not yet looked at where they were received. -/
structure Compacted (parses : Mbuf → Bool) (received : List Mbuf) (k : ℕ) (s : Scan Mbuf) :
    Prop where
  le : s.candidateCount ≤ k
  front : slots s.packets 0 s.candidateCount = (received.take k).filter parses
  rest : ∀ i, k ≤ i → ∀ p, received[i]? = some p → s.packets i = p
  freed : s.freed = (received.take k).filter (!parses ·)

theorem scanStep_compacted {parses : Mbuf → Bool} {received : List Mbuf} {k : ℕ} {s : Scan Mbuf}
    (hk : k < received.length) (h : Compacted parses received k s) :
    Compacted parses received (k + 1) (scanStep parses s k) := by
  have hget : received[k]? = some received[k] := List.getElem?_eq_getElem hk
  have hp : s.packets k = received[k] := h.rest k le_rfl _ hget
  have htake : received.take (k + 1) = received.take k ++ [received[k]] := by
    rw [List.take_add_one, hget]
    rfl
  have hle := h.le
  unfold scanStep
  rw [hp]
  by_cases hparse : parses received[k] = true
  · rw [if_pos hparse]
    refine ⟨?_, ?_, fun i hi p hrp => ?_, ?_⟩
    · show s.candidateCount + 1 ≤ k + 1
      omega
    · show slots (Function.update s.packets s.candidateCount received[k]) 0
        (s.candidateCount + 1) = _
      have hnew : slots (Function.update s.packets s.candidateCount received[k])
          (0 + s.candidateCount) 1 = [received[k]] := by simp [slots]
      rw [slots_append, slots_update (by omega), hnew, h.front, htake, List.filter_append]
      simp [hparse]
    · -- the write is at or below the packet just read
      show Function.update s.packets s.candidateCount received[k] i = p
      have hne : i ≠ s.candidateCount := by omega
      rw [Function.update_of_ne hne]
      exact h.rest i (by omega) p hrp
    · show s.freed = _
      rw [h.freed, htake, List.filter_append]
      simp [hparse]
  · rw [if_neg hparse]
    refine ⟨?_, ?_, fun i hi => h.rest i (by omega), ?_⟩
    · show s.candidateCount ≤ k + 1
      omega
    · show slots s.packets 0 s.candidateCount = _
      rw [h.front, htake, List.filter_append]
      simp [hparse]
    · show s.freed ++ actionsDropBurst s.packets k 1 = _
      have hdrop : actionsDropBurst s.packets k 1 = [received[k]] := by
        simp [actionsDropBurst, slots, hp]
      rw [h.freed, hdrop, htake, List.filter_append]
      simp [hparse]

variable {burstSize : UInt16}

theorem scan_compacted (array : ℕ → Mbuf) (b : Burst Mbuf burstSize) :
    Compacted b.parses b.received b.received.length (scan array b) := by
  refine scan_induction array b ⟨le_rfl, rfl, fun i _ p hp => ?_, rfl⟩ fun k s hk h => scanStep_compacted hk h
  show (b.received[i]?).getD (array i) = p
  rw [hp]
  rfl

/-- The packets that parse are at the front of the array. -/
theorem scan_front (array : ℕ → Mbuf) (b : Burst Mbuf burstSize) :
    slots (scan array b).packets 0 (scan array b).candidateCount = b.received.filter b.parses := by
  rw [(scan_compacted array b).front, List.take_length]

theorem scan_freed (array : ℕ → Mbuf) (b : Burst Mbuf burstSize) :
    (scan array b).freed = b.received.filter (!b.parses ·) := by
  rw [(scan_compacted array b).freed, List.take_length]

theorem scan_candidateCount (array : ℕ → Mbuf) (b : Burst Mbuf burstSize) :
    (scan array b).candidateCount = (b.received.filter b.parses).length := by
  rw [← scan_front array b, length_slots]

/-! ### The burst -/

/-- The burst frees what `rte_eth_tx_burst` did not take. -/
theorem actionsForwardBurst_freed {transmit : List Mbuf → ℕ}
    (hle : ∀ offered, transmit offered ≤ offered.length) (packets : ℕ → Mbuf) (n : ℕ) :
    (actionsForwardBurst transmit packets n).2 =
      (slots packets 0 n).drop (transmit (slots packets 0 n)) := by
  have hn := hle (slots packets 0 n)
  rw [length_slots] at hn
  unfold actionsForwardBurst
  by_cases h0 : n = 0
  · subst h0
    simp [slots]
  rw [if_neg h0]
  show (if transmit (slots packets 0 n) < n then _ else _ : ℕ × List Mbuf).2 = _
  by_cases hs : transmit (slots packets 0 n) < n
  · rw [if_pos hs]
    exact slots_drop hn
  · rw [if_neg hs]
    refine (List.drop_eq_nil_of_le ?_).symm
    rw [length_slots]
    omega

/-- **Offered.** The packets that parsed, in receive order. -/
theorem forwardDirection_offered (array : ℕ → Mbuf) (b : Burst Mbuf burstSize) :
    (forwardDirection array b).offered = b.received.filter b.parses := by
  rcases forwardDirection_cases array b with ⟨hn, heq⟩ | ⟨hc, -, heq⟩ | ⟨-, out, -, heq⟩
  · rw [heq, hn]
    rfl
  · rw [heq, ← scan_front array b, hc]
    rfl
  · rw [heq, ← scan_front array b]

/-- **Freed.** The parse failures, then what was offered and not sent. -/
theorem forwardDirection_freed (array : ℕ → Mbuf) (b : Burst Mbuf burstSize) :
    (forwardDirection array b).freed =
      b.received.filter (!b.parses ·) ++
        (b.received.filter b.parses).drop (b.transmit (b.received.filter b.parses)) := by
  have hfront := scan_front array b
  have hfreed := scan_freed array b
  have hout := actionsForwardBurst_freed b.transmit_le (scan array b).packets
    (scan array b).candidateCount
  rw [hfront] at hout
  rcases forwardDirection_cases array b with ⟨hn, heq⟩ | ⟨hc, -, heq⟩ | ⟨-, out, rfl, heq⟩
  · rw [heq, hn]
    simp
  · have hnil : b.received.filter b.parses = [] := by rw [← hfront, hc, slots]
    rw [heq, hfreed, hnil, List.drop_nil, List.append_nil]
  · rw [heq, hfreed, hout]

/-- The parse errors a burst counts. -/
def ForwardResult.parseErrors (r : ForwardResult Mbuf) : ℕ :=
  r.burstStats.elim 0 (·.dropParseErrors.toNat)

/-- **Counted.** One parse error for each packet that did not parse. -/
theorem forwardDirection_parseErrors (array : ℕ → Mbuf) (b : Burst Mbuf burstSize) :
    (forwardDirection array b).parseErrors = b.received.countP (!b.parses ·) := by
  have hsplit := (scan_scanned array b).split
  have hcount := scan_candidateCount array b
  have hcountP := List.length_eq_countP_add_countP b.parses (l := b.received)
  have hfailed : (scan array b).burstStats.dropParseErrors.toNat =
      b.received.countP (!b.parses ·) := by
    rw [← List.countP_eq_length_filter] at hcount
    have hnot : b.received.countP (fun a => decide (¬b.parses a = true)) =
        b.received.countP (!b.parses ·) := List.countP_congr fun a _ => by simp
    omega
  rcases forwardDirection_cases array b with ⟨hn, heq⟩ | ⟨-, -, heq⟩ | ⟨-, out, -, heq⟩
  · rw [heq, hn]
    rfl
  · rw [heq]
    exact hfailed
  · rw [heq, ← hfailed]
    show (sentStats _ _ _).dropParseErrors.toNat = _
    unfold sentStats
    split_ifs <;> rfl

/-- The packets that left through the egress port: `rte_eth_tx_burst` takes
the first of those offered, as many as it returns. -/
def transmitted (array : ℕ → Mbuf) (b : Burst Mbuf burstSize) : List Mbuf :=
  (forwardDirection array b).offered.take (b.transmit (forwardDirection array b).offered)

/-- Every packet received is freed or transmitted, as often as it came. -/
theorem freed_append_transmitted_perm (array : ℕ → Mbuf) (b : Burst Mbuf burstSize) :
    ((forwardDirection array b).freed ++ transmitted array b).Perm b.received := by
  unfold transmitted
  rw [forwardDirection_freed, forwardDirection_offered, List.append_assoc]
  have hdisposed := List.perm_append_comm.trans (List.Perm.of_eq (List.take_append_drop
    (b.transmit (b.received.filter b.parses)) (b.received.filter b.parses)))
  exact (hdisposed.append_left _).trans
    (List.perm_append_comm.trans (List.filter_append_perm b.parses b.received))

/-- **Each received packet is disposed of exactly once.** A burst of distinct
packets offers those that parsed, in receive order, and frees the others and
the offered ones that were not sent; nothing is freed twice, nothing is both
freed and transmitted, and nothing is leaked. -/
theorem disposed_once (array : ℕ → Mbuf) (b : Burst Mbuf burstSize) (distinct : b.received.Nodup) :
    let r := forwardDirection array b
    let parsed := b.received.filter b.parses
    let failed := b.received.filter (!b.parses ·)
    r.offered = parsed ∧ r.offered.Nodup ∧
    r.freed = failed ++ r.offered.drop (b.transmit r.offered) ∧ r.freed.Nodup ∧
    List.Disjoint r.freed (transmitted array b) ∧
    ∀ p, p ∈ b.received ↔ p ∈ r.freed ∨ p ∈ transmitted array b := by
  intro r parsed failed
  have hoffered : r.offered = parsed := forwardDirection_offered array b
  have hperm := freed_append_transmitted_perm array b
  obtain ⟨hfreed, -, hdisjoint⟩ := List.nodup_append'.mp (hperm.nodup_iff.mpr distinct)
  refine ⟨hoffered, hoffered ▸ distinct.filter _, ?_, hfreed, hdisjoint, fun p => ?_⟩
  · rw [hoffered]
    exact forwardDirection_freed array b
  · rw [← hperm.mem_iff, List.mem_append]

theorem disposed_once_sample :
    sampleBurst.received.Nodup ∧
    (forwardDirection id sampleBurst).offered = [10, 12] ∧
    (forwardDirection id sampleBurst).freed = [11, 12] ∧
    (forwardDirection id sampleBurst).freed.Nodup := by
  have distinct : sampleBurst.received.Nodup := by decide
  obtain ⟨-, -, -, hfreed, -, -⟩ := disposed_once id sampleBurst distinct
  exact ⟨distinct, rfl, rfl, hfreed⟩

end Dpdkd
end Pktlab
