/-
# The datapath counters

`dpdkd/src/stats.c`: the tracker behind a mutex, its reset, its merge of a
burst's counters and its snapshot. The counters are `uint64_t`, so `UInt64`
here: addition wraps at `2^64` as in C. Each function runs with the mutex
held, so it is one step of whatever run it is part of.

Key definitions: `DpStatsSnapshot`, `StatsTracker`, `statsReset`,
`statsAdd`, `statsSnapshot`.
-/
import Mathlib.Data.List.Basic
import Mathlib.Algebra.Order.Ring.Nat

namespace Pktlab
namespace Dpdkd

/-- `struct dp_stats_snapshot`. -/
structure DpStatsSnapshot where
  rxPackets : UInt64 := 0
  txPackets : UInt64 := 0
  dropPackets : UInt64 := 0
  dropParseErrors : UInt64 := 0
  dropNoMatch : UInt64 := 0
  rxBursts : UInt64 := 0
  txBursts : UInt64 := 0
  unsentPackets : UInt64 := 0
  deriving DecidableEq, Repr

/-- `struct pktlab_stats_tracker`, its mutex apart. -/
structure StatsTracker where
  initialized : Bool
  snapshot : DpStatsSnapshot
  deriving DecidableEq, Repr

/-- `pktlab_stats_init`, when the mutex can be initialised. -/
def statsInit : StatsTracker := ⟨true, {}⟩

/-- `pktlab_stats_reset`. -/
def statsReset (tracker : StatsTracker) : StatsTracker :=
  if tracker.initialized then { tracker with snapshot := {} } else tracker

/-- The eight additions of `pktlab_stats_add`. -/
def DpStatsSnapshot.add (s delta : DpStatsSnapshot) : DpStatsSnapshot where
  rxPackets := s.rxPackets + delta.rxPackets
  txPackets := s.txPackets + delta.txPackets
  dropPackets := s.dropPackets + delta.dropPackets
  dropParseErrors := s.dropParseErrors + delta.dropParseErrors
  dropNoMatch := s.dropNoMatch + delta.dropNoMatch
  rxBursts := s.rxBursts + delta.rxBursts
  txBursts := s.txBursts + delta.txBursts
  unsentPackets := s.unsentPackets + delta.unsentPackets

/-- `pktlab_stats_add`. -/
def statsAdd (tracker : StatsTracker) (delta : DpStatsSnapshot) : StatsTracker :=
  if tracker.initialized then { tracker with snapshot := tracker.snapshot.add delta } else tracker

/-- `pktlab_stats_snapshot`. -/
def statsSnapshot (tracker : StatsTracker) : DpStatsSnapshot :=
  if tracker.initialized then tracker.snapshot else {}

@[simp] theorem statsReset_initialized (t : StatsTracker) :
    (statsReset t).initialized = t.initialized := by
  unfold statsReset; split <;> rfl

@[simp] theorem statsAdd_initialized (t : StatsTracker) (d : DpStatsSnapshot) :
    (statsAdd t d).initialized = t.initialized := by
  unfold statsAdd; split <;> rfl

theorem statsSnapshot_reset (t : StatsTracker) : statsSnapshot (statsReset t) = {} := by
  unfold statsSnapshot statsReset
  split <;> simp_all

theorem statsSnapshot_add {t : StatsTracker} (h : t.initialized = true) (d : DpStatsSnapshot) :
    statsSnapshot (statsAdd t d) = (statsSnapshot t).add d := by
  simp [statsSnapshot, statsAdd, h]

end Dpdkd
end Pktlab
