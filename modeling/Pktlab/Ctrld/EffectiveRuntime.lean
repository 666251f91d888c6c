/-
# The runtime that is derived

Which runtime `derive_effective_dpdk_runtime` (`config/validation.py`) derives
when it succeeds, that it keeps the limits and what was requested, and that
deriving from it once more gives it back (`effective_sound_stable`).

The defaults are not always safe: the burst of 32 is larger than a small queue
that is given, and the queues of 256 may need more memory than is given. A
request whose omitted knobs could be filled in is accepted as it is exactly
when its defaults fit (`omitted_safe_iff`).

Key definitions: `effectiveFields`, `EffectiveDpdkRuntimeModel.asRequest`,
`Completes`, `DpdkProcessConfigModel.frugal`, `DefaultsFit`.
Key theorems: `derive_eq_ok_iff`, `effective_sound_stable`, `completable_iff`,
`acceptable_iff_frugal`, `omitted_safe_iff`.
-/
import Pktlab.Ctrld.SilentRuntime

namespace Pktlab
namespace Ctrld

open Python

variable {py : Interpreter} {requested : DpdkProcessConfigModel} {portCount : ℕ} {e : EffectiveDpdkRuntimeModel}

/-- The runtime of a request that is accepted. -/
def effectiveFields (py : Interpreter) (requested : DpdkProcessConfigModel) (portCount : ℕ) : EffectiveFields where
  lcores := requested.effectiveLcores
  lcoreCount := ((lcoreTokens requested.effectiveLcores).flatMap (expand py)).length
  hugepageSizeMb := DEFAULT_HUGEPAGE_SIZE_MB
  hugepagesMb := requested.hugepagesMb.getD (hugepagesFloorMb (requested.effectiveMempoolSize portCount))
  burstSize := requested.effectiveBurstSize
  rxQueueSize := requested.effectiveRxQueueSize
  txQueueSize := requested.effectiveTxQueueSize
  mempoolSize := requested.effectiveMempoolSize portCount
  portCount := portCount

theorem EffectiveDpdkRuntimeModel.eq_of_fields {e e' : EffectiveDpdkRuntimeModel}
    (h : e.toEffectiveFields = e'.toEffectiveFields) : e = e' := by
  obtain ⟨fields, hvalid⟩ := e
  obtain ⟨fields', hvalid'⟩ := e'
  obtain rfl : fields = fields' := h
  rfl

/-- A derivation without a report. -/
theorem fields_of_derive {pathPrefix : String}
    (h : deriveEffectiveDpdkRuntimeInto pathPrefix requested py portCount = .ok ([], e)) :
    e.toEffectiveFields = effectiveFields py requested portCount := by
  unfold deriveEffectiveDpdkRuntimeInto at h
  simp only [bind_eq_ok, Except.ok.injEq, Prod.mk.injEq, List.append_eq_nil_iff] at h
  obtain ⟨⟨_, ids⟩, hlcores, _, -, _, hmempool, recommended, hrecommended, _, -, e', hmake,
    ⟨⟨⟨⟨rfl, -⟩, -⟩, rfl⟩, -⟩, rfl⟩ := h
  obtain ⟨htokens, hnumeric, rfl, -, -⟩ := parseLcoreSpec_silent.mp hlcores
  rw [recommendedHugepagesMb_eq (mempoolIssues_silent.mp hmempool).2] at hrecommended
  obtain rfl := Except.ok.inj hrecommended
  rw [make_eq_ok hmake, if_neg (expand_ne_nil htokens fun token htoken => (hnumeric token htoken).2.2)]
  rfl

/-- **What is derived**, and when. -/
theorem derive_eq_ok_iff : deriveEffectiveDpdkRuntime py requested portCount = .ok e ↔
    0 < portCount ∧ RuntimeAcceptable py requested portCount ∧
      e.toEffectiveFields = effectiveFields py requested portCount := by
  unfold deriveEffectiveDpdkRuntime
  rw [raiseIssues_eq_ok]
  constructor
  · intro h
    have hfields := fields_of_derive h
    have hports : 0 < portCount := by
      have hvalid := (EffectiveFields.violations_eq_nil.mp e.valid).2.2.2.2.2.2.2.2
      rw [hfields] at hvalid
      exact hvalid
    exact ⟨hports, (derive_silent_iff hports).mp ⟨e, h⟩, hfields⟩
  · rintro ⟨hports, hacceptable, hfields⟩
    obtain ⟨e', he'⟩ := (derive_silent_iff hports).mpr hacceptable
    rw [EffectiveDpdkRuntimeModel.eq_of_fields (hfields.trans (fields_of_derive he').symm)]
    exact he'

theorem derive_returns_iff (hports : 0 < portCount) :
    (∃ e, deriveEffectiveDpdkRuntime py requested portCount = .ok e) ↔ RuntimeAcceptable py requested portCount := by
  unfold deriveEffectiveDpdkRuntime
  simp only [raiseIssues_eq_ok]
  exact derive_silent_iff hports

/-! ### Soundness and stability -/

/-- A request with the values of a runtime. -/
def EffectiveDpdkRuntimeModel.asRequest (e : EffectiveDpdkRuntimeModel) (netns : NonEmptyStr) :
    DpdkProcessConfigModel :=
  have hvalid := EffectiveFields.violations_eq_nil.mp e.valid
  { netns := netns
    lcores := some e.lcores
    hugepagesMb := some e.hugepagesMb
    burstSize := some e.burstSize
    rxQueueSize := some e.rxQueueSize
    txQueueSize := some e.txQueueSize
    mempoolSize := some e.mempoolSize
    two_le_hugepagesMb := by
      rintro n ⟨⟩
      exact hvalid.2.2.2.1.1
    burstSize_pos := by
      rintro n ⟨⟩
      exact hvalid.2.2.2.2.1
    rxQueueSize_pos := by
      rintro n ⟨⟩
      exact hvalid.2.2.2.2.2.1
    txQueueSize_pos := by
      rintro n ⟨⟩
      exact hvalid.2.2.2.2.2.2.1
    mempoolSize_pos := by
      rintro n ⟨⟩
      exact hvalid.2.2.2.2.2.2.2.1 }

/-- The limits that the values of a runtime keep, and their relations. -/
structure Sound (portCount : ℕ) (e : EffectiveFields) : Prop where
  burstSize : 1 ≤ e.burstSize ∧ e.burstSize ≤ 256 ∧ e.burstSize ≤ e.rxQueueSize ∧ e.burstSize ≤ e.txQueueSize
  queues : e.rxQueueSize ≤ 4096 ∧ e.txQueueSize ≤ 4096
  mempoolSize : 4 * portCount * (e.rxQueueSize + e.txQueueSize) ≤ e.mempoolSize ∧ 2048 ≤ e.mempoolSize ∧
    e.mempoolSize ≤ 65536
  hugepagesMb : e.hugepagesMb % 2 = 0 ∧ 256 ≤ e.hugepagesMb ∧ e.hugepagesMb ≤ 1024 ∧
    e.mempoolSize * 4096 + 64 * 2 ^ 20 ≤ e.hugepagesMb * 2 ^ 20
  lcoreCount : 1 ≤ e.lcoreCount ∧ e.lcoreCount ≤ 8

/-- What is given is kept. -/
structure KeepsRequest (requested : DpdkProcessConfigModel) (e : EffectiveFields) : Prop where
  lcores : ∀ lcores ∈ requested.lcores, lcores ≠ [] → e.lcores = lcores
  hugepagesMb : ∀ n ∈ requested.hugepagesMb, e.hugepagesMb = n
  burstSize : ∀ n ∈ requested.burstSize, e.burstSize = n
  rxQueueSize : ∀ n ∈ requested.rxQueueSize, e.rxQueueSize = n
  txQueueSize : ∀ n ∈ requested.txQueueSize, e.txQueueSize = n
  mempoolSize : ∀ n ∈ requested.mempoolSize, e.mempoolSize = n

theorem sound_of_acceptable (h : RuntimeAcceptable py requested portCount) :
    Sound portCount (effectiveFields py requested portCount) := by
  have hqueues := (le_max_right _ _).trans ((le_roundUpPowerOfTwo (max MIN_MEMPOOL_SIZE
    (portCount * (requested.effectiveRxQueueSize + requested.effectiveTxQueueSize) * MEMPOOL_HEADROOM_FACTOR))).trans
      h.mempoolFits)
  have hfloor := (requested.recommendedMempoolSize_ge portCount).1.trans h.mempoolFits
  have hids := expand_ne_nil h.lcores fun token htoken => (h.tokens token htoken).2.2
  have hcount := (le_min_iff.mp h.count).1
  have hfits := le_min_iff.mp h.burstFits
  have hhugepages : requested.hugepagesMb.getD (hugepagesFloorMb (requested.effectiveMempoolSize portCount)) % 2 = 0 ∧
      hugepagesFloorMb (requested.effectiveMempoolSize portCount) ≤
        requested.hugepagesMb.getD (hugepagesFloorMb (requested.effectiveMempoolSize portCount)) ∧
      requested.hugepagesMb.getD (hugepagesFloorMb (requested.effectiveMempoolSize portCount)) ≤ MAX_HUGEPAGES_MB := by
    cases hgiven : requested.hugepagesMb with
    | none =>
      obtain ⟨heven, -, hmax⟩ := hugepagesFloorMb_bounds h.mempoolSize
      exact ⟨heven, le_refl _, hmax⟩
    | some n => exact h.hugepagesMb n hgiven
  have hmegabytes : 256 ≤ hugepagesFloorMb (requested.effectiveMempoolSize portCount) ∧
      requested.effectiveMempoolSize portCount * 4096 + 64 * 2 ^ 20 ≤
        hugepagesFloorMb (requested.effectiveMempoolSize portCount) * 2 ^ 20 := by
    unfold hugepagesFloorMb
    omega
  constructor
  case burstSize => exact ⟨requested.effectiveBurstSize_pos, h.burstSize, hfits.1, hfits.2⟩
  case queues => exact ⟨h.rxQueueSize, h.txQueueSize⟩
  case mempoolSize =>
    refine ⟨?_, hfloor, h.mempoolSize⟩
    calc 4 * portCount * (requested.effectiveRxQueueSize + requested.effectiveTxQueueSize)
        = portCount * (requested.effectiveRxQueueSize + requested.effectiveTxQueueSize) * 4 := by ring
      _ ≤ requested.effectiveMempoolSize portCount := hqueues
  case hugepagesMb =>
    refine ⟨hhugepages.1, hmegabytes.1.trans hhugepages.2.1, hhugepages.2.2, hmegabytes.2.trans ?_⟩
    exact Nat.mul_le_mul_right _ hhugepages.2.1
  case lcoreCount => exact ⟨List.length_pos_iff.mpr hids, hcount⟩

theorem keeps_effectiveFields : KeepsRequest requested (effectiveFields py requested portCount) := by
  have hgetD : ∀ {o : Option ℕ} {d : ℕ}, ∀ n ∈ o, o.getD d = n := by
    rintro o d n hn
    rw [Option.mem_def.mp hn]
    rfl
  refine ⟨fun lcores hgiven hne => ?_, hgetD, hgetD, hgetD, hgetD, hgetD⟩
  show requested.effectiveLcores = lcores
  unfold DpdkProcessConfigModel.effectiveLcores
  rw [Option.mem_def.mp hgiven]
  exact if_neg hne

/-- Only the lcores and the sizes of a request matter. -/
theorem RuntimeAcceptable.congr {requested' : DpdkProcessConfigModel} (h : RuntimeAcceptable py requested portCount)
    (hlcores : requested'.effectiveLcores = requested.effectiveLcores)
    (hrx : requested'.effectiveRxQueueSize = requested.effectiveRxQueueSize)
    (htx : requested'.effectiveTxQueueSize = requested.effectiveTxQueueSize)
    (hburst : requested'.effectiveBurstSize = requested.effectiveBurstSize)
    (hmempool : requested'.effectiveMempoolSize portCount = requested.effectiveMempoolSize portCount)
    (hhugepages : ∀ n ∈ requested'.hugepagesMb, n % 2 = 0 ∧
      hugepagesFloorMb (requested.effectiveMempoolSize portCount) ≤ n ∧ n ≤ MAX_HUGEPAGES_MB) :
    RuntimeAcceptable py requested' portCount := by
  have hrecommended : requested'.recommendedMempoolSize portCount = requested.recommendedMempoolSize portCount := by
    unfold DpdkProcessConfigModel.recommendedMempoolSize
    rw [hrx, htx]
  constructor
  case hugepagesMb =>
    rw [hmempool]
    exact hhugepages
  all_goals simp only [hlcores, hrx, htx, hburst, hmempool, hrecommended]
  exacts [h.lcores, h.tokens, h.distinct, h.count, h.rxQueueSize, h.txQueueSize, h.burstSize, h.burstFits,
    h.mempoolFits, h.mempoolSize]

@[simp] theorem asRequest_effectiveLcores (netns : NonEmptyStr) : (e.asRequest netns).effectiveLcores = e.lcores :=
  if_neg (EffectiveFields.violations_eq_nil.mp e.valid).1.1

theorem asRequest_acceptable (h : RuntimeAcceptable py requested portCount)
    (he : e.toEffectiveFields = effectiveFields py requested portCount) (netns : NonEmptyStr) :
    RuntimeAcceptable py (e.asRequest netns) portCount := by
  have hsound := sound_of_acceptable h
  rw [← he] at hsound
  have hvalues : ∀ {α : Type} (f : EffectiveFields → α),
      f e.toEffectiveFields = f (effectiveFields py requested portCount) := fun f => congrArg f he
  refine h.congr ((asRequest_effectiveLcores netns).trans (hvalues EffectiveFields.lcores))
    (hvalues EffectiveFields.rxQueueSize) (hvalues EffectiveFields.txQueueSize) (hvalues EffectiveFields.burstSize)
    (hvalues EffectiveFields.mempoolSize) ?_
  rintro n ⟨⟩
  refine ⟨hsound.hugepagesMb.1, ?_, hsound.hugepagesMb.2.2.1⟩
  rw [he]
  show hugepagesFloorMb _ ≤ requested.hugepagesMb.getD _
  cases hgiven : requested.hugepagesMb with
  | none => exact le_refl _
  | some n => exact (h.hugepagesMb n hgiven).2.1

theorem asRequest_effectiveFields (he : e.toEffectiveFields = effectiveFields py requested portCount)
    (netns : NonEmptyStr) : effectiveFields py (e.asRequest netns) portCount = e.toEffectiveFields := by
  obtain ⟨fields, hvalid⟩ := e
  obtain rfl : fields = effectiveFields py requested portCount := he
  rw [effectiveFields, asRequest_effectiveLcores]
  rfl

/-- **What is derived is sound and stable**: it keeps the limits and what was
requested, and a request with its values is derived into the same. -/
theorem effective_sound_stable (h : deriveEffectiveDpdkRuntime py requested portCount = .ok e) :
    Sound portCount e.toEffectiveFields ∧ KeepsRequest requested e.toEffectiveFields ∧
      deriveEffectiveDpdkRuntime py (e.asRequest requested.netns) portCount = .ok e := by
  obtain ⟨hports, hacceptable, hfields⟩ := derive_eq_ok_iff.mp h
  refine ⟨?_, ?_, ?_⟩
  · rw [hfields]
    exact sound_of_acceptable hacceptable
  · rw [hfields]
    exact keeps_effectiveFields
  · refine derive_eq_ok_iff.mpr ⟨hports, asRequest_acceptable hacceptable hfields _, ?_⟩
    exact (asRequest_effectiveFields hfields _).symm

/-! ### Omitted knobs -/

/-- A value is there, and it is the one that was given. -/
def Fills {α : Type} (given full : Option α) : Prop := full.isSome = true ∧ ∀ a ∈ given, full = some a

/-- Every knob has a value in `full`, those that are given theirs. A text of
lcores that is empty is not given. -/
structure Completes (requested full : DpdkProcessConfigModel) : Prop where
  netns : full.netns = requested.netns
  lcores : Fills (requested.lcores.filter fun lcores => lcores ≠ []) full.lcores
  hugepagesMb : Fills requested.hugepagesMb full.hugepagesMb
  burstSize : Fills requested.burstSize full.burstSize
  rxQueueSize : Fills requested.rxQueueSize full.rxQueueSize
  txQueueSize : Fills requested.txQueueSize full.txQueueSize
  mempoolSize : Fills requested.mempoolSize full.mempoolSize

/-- The request with the smallest burst and the smallest queues in place of
those that are omitted. -/
def DpdkProcessConfigModel.frugal (requested : DpdkProcessConfigModel) : DpdkProcessConfigModel :=
  have hburst : 0 < requested.burstSize.getD 1 := by
    cases hgiven : requested.burstSize with
    | none => exact Nat.one_pos
    | some n => exact requested.burstSize_pos n hgiven
  { requested with
    burstSize := some (requested.burstSize.getD 1)
    rxQueueSize := some (requested.rxQueueSize.getD (requested.burstSize.getD 1))
    txQueueSize := some (requested.txQueueSize.getD (requested.burstSize.getD 1))
    burstSize_pos := by
      rintro n ⟨⟩
      exact hburst
    rxQueueSize_pos := by
      rintro n ⟨⟩
      cases hgiven : requested.rxQueueSize with
      | none => exact hburst
      | some n => exact requested.rxQueueSize_pos n hgiven
    txQueueSize_pos := by
      rintro n ⟨⟩
      cases hgiven : requested.txQueueSize with
      | none => exact hburst
      | some n => exact requested.txQueueSize_pos n hgiven }

/-- The defaults fit what is given. -/
structure DefaultsFit (requested : DpdkProcessConfigModel) (portCount : ℕ) : Prop where
  /-- the default burst fits the queues -/
  burst : requested.burstSize = none → (∀ n ∈ requested.rxQueueSize, DEFAULT_BURST_SIZE ≤ n) ∧
    ∀ n ∈ requested.txQueueSize, DEFAULT_BURST_SIZE ≤ n
  /-- the mempool and the huge pages suffice for the default queues -/
  queues : requested.rxQueueSize = none ∨ requested.txQueueSize = none →
    requested.recommendedMempoolSize portCount ≤ requested.mempoolSize.getD MAX_MEMPOOL_SIZE ∧
      (requested.mempoolSize = none → ∀ n ∈ requested.hugepagesMb,
        hugepagesFloorMb (requested.recommendedMempoolSize portCount) ≤ n)

/-! ### Smaller queues need less -/

theorem roundUpPowerOfTwo_mono {m n : ℕ} (h : m ≤ n) : roundUpPowerOfTwo m ≤ roundUpPowerOfTwo n := by
  unfold roundUpPowerOfTwo
  by_cases hm : m ≤ 1
  · rw [if_pos hm]
    split
    · exact le_refl 1
    · exact Nat.one_le_two_pow
  · rw [if_neg hm, if_neg (by omega)]
    exact Nat.pow_le_pow_right Nat.two_pos (Nat.size_le_size (Nat.sub_le_sub_right h 1))

theorem recommendedMempoolSize_mono {full : DpdkProcessConfigModel}
    (hrx : requested.effectiveRxQueueSize ≤ full.effectiveRxQueueSize)
    (htx : requested.effectiveTxQueueSize ≤ full.effectiveTxQueueSize) :
    requested.recommendedMempoolSize portCount ≤ full.recommendedMempoolSize portCount :=
  roundUpPowerOfTwo_mono (max_le_max_left _ (Nat.mul_le_mul_right _ (Nat.mul_le_mul_left _ (Nat.add_le_add hrx htx))))

theorem hugepagesFloorMb_mono {m n : ℕ} (h : m ≤ n) : hugepagesFloorMb m ≤ hugepagesFloorMb n := by
  unfold hugepagesFloorMb
  omega

/-! ### Lcores by default -/

theorem RuntimeAcceptable.listCap_pos (h : RuntimeAcceptable py requested portCount) : 1 ≤ py.listCap := by
  have hids := expand_ne_nil h.lcores fun token htoken => (h.tokens token htoken).2.2
  exact (List.length_pos_iff.mpr hids).trans_le (le_min_iff.mp h.count).2

/-- The default lcores are acceptable where a list can have an element. -/
theorem default_lcores (hcap : 1 ≤ py.listCap) : lcoreTokens DEFAULT_LCORES ≠ [] ∧
    (∀ token ∈ lcoreTokens DEFAULT_LCORES, Numeric py token ∧ Readable py token ∧ 0 < cpus py token) ∧
    ((lcoreTokens DEFAULT_LCORES).flatMap (expand py)).Nodup ∧
    ((lcoreTokens DEFAULT_LCORES).flatMap (expand py)).length ≤ min MAX_LCORE_COUNT py.listCap := by
  have htokens : lcoreTokens DEFAULT_LCORES = [[.char '1']] := by decide
  have hnumerals : numerals [.char '1'] = [[.char '1']] := rfl
  obtain ⟨hdigit, hdecimal⟩ := py.digits.ascii '1' (by decide)
  rw [htokens]
  refine ⟨List.cons_ne_nil _ _, ?_, ?_, ?_⟩
  · rintro token hmem
    obtain rfl := List.mem_singleton.mp hmem
    refine ⟨?_, ?_, Nat.one_pos⟩
    · rw [Numeric, hnumerals, List.forall_mem_singleton]
      simp [DigitTable.isdigit, hdigit]
    · rw [Readable, hnumerals, List.forall_mem_singleton, List.forall_mem_singleton, hdecimal]
      decide
  · simp [expand, splitFirst]
  · simpa [expand, splitFirst, MAX_LCORE_COUNT] using hcap

/-! ### Which requests can be completed -/

theorem Fills.getD {given full : Option ℕ} (h : Fills given full) {d : ℕ} : ∀ n ∈ given, full.getD d = n := by
  intro n hn
  rw [h.2 n hn]
  rfl

section Frugal

variable {full : DpdkProcessConfigModel}

theorem Completes.burst_le (hfull : Completes requested full) :
    requested.frugal.effectiveBurstSize ≤ full.effectiveBurstSize := by
  show requested.burstSize.getD 1 ≤ _
  cases hgiven : requested.burstSize with
  | none => exact full.effectiveBurstSize_pos
  | some n => exact (hfull.burstSize.getD n hgiven).ge

theorem Completes.rx_le (hfull : Completes requested full) (h : RuntimeAcceptable py full portCount) :
    requested.frugal.effectiveRxQueueSize ≤ full.effectiveRxQueueSize := by
  show requested.rxQueueSize.getD (requested.burstSize.getD 1) ≤ _
  cases hgiven : requested.rxQueueSize with
  | none => exact hfull.burst_le.trans (le_min_iff.mp h.burstFits).1
  | some n => exact (hfull.rxQueueSize.getD n hgiven).ge

theorem Completes.tx_le (hfull : Completes requested full) (h : RuntimeAcceptable py full portCount) :
    requested.frugal.effectiveTxQueueSize ≤ full.effectiveTxQueueSize := by
  show requested.txQueueSize.getD (requested.burstSize.getD 1) ≤ _
  cases hgiven : requested.txQueueSize with
  | none => exact hfull.burst_le.trans (le_min_iff.mp h.burstFits).2
  | some n => exact (hfull.txQueueSize.getD n hgiven).ge

theorem Completes.mempool_le (hfull : Completes requested full) (h : RuntimeAcceptable py full portCount) :
    requested.frugal.effectiveMempoolSize portCount ≤ full.effectiveMempoolSize portCount := by
  show requested.mempoolSize.getD _ ≤ _
  cases hgiven : requested.mempoolSize with
  | none => exact (recommendedMempoolSize_mono (hfull.rx_le h) (hfull.tx_le h)).trans h.mempoolFits
  | some n => exact (hfull.mempoolSize.getD n hgiven).ge

/-- With the smallest burst and queues a request is accepted if some
completion of it is. -/
theorem Completes.frugal_acceptable (hfull : Completes requested full) (h : RuntimeAcceptable py full portCount) :
    RuntimeAcceptable py requested.frugal portCount := by
  obtain ⟨htokens, hnumeric, hdistinct, hcount⟩ : lcoreTokens requested.effectiveLcores ≠ [] ∧
      (∀ token ∈ lcoreTokens requested.effectiveLcores, Numeric py token ∧ Readable py token ∧ 0 < cpus py token) ∧
      ((lcoreTokens requested.effectiveLcores).flatMap (expand py)).Nodup ∧
      ((lcoreTokens requested.effectiveLcores).flatMap (expand py)).length ≤ min MAX_LCORE_COUNT py.listCap := by
    by_cases hdefault : requested.effectiveLcores = DEFAULT_LCORES
    · rw [hdefault]
      exact default_lcores h.listCap_pos
    · have hsame : full.effectiveLcores = requested.effectiveLcores := by
        unfold DpdkProcessConfigModel.effectiveLcores at hdefault ⊢
        cases hgiven : requested.lcores with
        | none =>
          rw [hgiven] at hdefault
          exact absurd rfl hdefault
        | some lcores =>
          rw [hgiven] at hdefault
          have hne : lcores ≠ [] := fun hempty => hdefault (if_pos hempty)
          rw [hfull.lcores.2 lcores (by simp [hgiven, hne])]
      rw [← hsame]
      exact ⟨h.lcores, h.tokens, h.distinct, h.count⟩
  constructor
  case lcores => exact htokens
  case tokens => exact hnumeric
  case distinct => exact hdistinct
  case count => exact hcount
  case rxQueueSize => exact (hfull.rx_le h).trans h.rxQueueSize
  case txQueueSize => exact (hfull.tx_le h).trans h.txQueueSize
  case burstSize => exact hfull.burst_le.trans h.burstSize
  case burstFits =>
    obtain ⟨hrx, htx⟩ := le_min_iff.mp h.burstFits
    refine le_min ?_ ?_
    · show requested.burstSize.getD 1 ≤ requested.rxQueueSize.getD (requested.burstSize.getD 1)
      cases hgiven : requested.rxQueueSize with
      | none => exact le_refl _
      | some n => exact (hfull.burst_le.trans hrx).trans (hfull.rxQueueSize.getD n hgiven).le
    · show requested.burstSize.getD 1 ≤ requested.txQueueSize.getD (requested.burstSize.getD 1)
      cases hgiven : requested.txQueueSize with
      | none => exact le_refl _
      | some n => exact (hfull.burst_le.trans htx).trans (hfull.txQueueSize.getD n hgiven).le
  case mempoolFits =>
    have hmono : requested.frugal.recommendedMempoolSize portCount ≤ full.recommendedMempoolSize portCount :=
      recommendedMempoolSize_mono (hfull.rx_le h) (hfull.tx_le h)
    show _ ≤ requested.mempoolSize.getD _
    cases hgiven : requested.mempoolSize with
    | none => exact le_refl _
    | some n => exact (hmono.trans h.mempoolFits).trans (hfull.mempoolSize.getD n hgiven).le
  case mempoolSize => exact (hfull.mempool_le h).trans h.mempoolSize
  case hugepagesMb =>
    intro n hn
    obtain ⟨heven, hfloor, hmax⟩ := h.hugepagesMb n (hfull.hugepagesMb.2 n hn)
    exact ⟨heven, (hugepagesFloorMb_mono (hfull.mempool_le h)).trans hfloor, hmax⟩

end Frugal

/-- A request with the values that are derived completes the request they are
derived from. -/
theorem KeepsRequest.completes (h : KeepsRequest requested e.toEffectiveFields) :
    Completes requested (e.asRequest requested.netns) := by
  refine ⟨rfl, ⟨rfl, fun lcores hlcores => ?_⟩, ⟨rfl, fun n hn => ?_⟩, ⟨rfl, fun n hn => ?_⟩, ⟨rfl, fun n hn => ?_⟩,
    ⟨rfl, fun n hn => ?_⟩, ⟨rfl, fun n hn => ?_⟩⟩
  · obtain ⟨hgiven, hne⟩ := Option.mem_filter_iff.mp hlcores
    exact congrArg some (h.lcores lcores hgiven (by simpa using hne))
  · exact congrArg some (h.hugepagesMb n hn)
  · exact congrArg some (h.burstSize n hn)
  · exact congrArg some (h.rxQueueSize n hn)
  · exact congrArg some (h.txQueueSize n hn)
  · exact congrArg some (h.mempoolSize n hn)

/-- A request can be completed exactly when its frugal form is acceptable. -/
theorem completable_iff (hports : 0 < portCount) :
    (∃ full e, Completes requested full ∧ deriveEffectiveDpdkRuntime py full portCount = .ok e) ↔
      RuntimeAcceptable py requested.frugal portCount := by
  constructor
  · rintro ⟨full, e, hfull, he⟩
    exact hfull.frugal_acceptable (derive_eq_ok_iff.mp he).2.1
  · intro h
    obtain ⟨e, he⟩ := (derive_returns_iff hports).mpr h
    obtain ⟨-, hkeeps, hagain⟩ := effective_sound_stable he
    refine ⟨e.asRequest requested.netns, e, KeepsRequest.completes ?_, hagain⟩
    have hsome : ∀ {o : Option ℕ} {d : ℕ}, ∀ n ∈ o, some (o.getD d) = some n := by
      intro o d n hn
      rw [Option.mem_def.mp hn]
      rfl
    exact ⟨hkeeps.lcores, hkeeps.hugepagesMb, fun n hn => hkeeps.burstSize n (hsome n hn),
      fun n hn => hkeeps.rxQueueSize n (hsome n hn), fun n hn => hkeeps.txQueueSize n (hsome n hn), hkeeps.mempoolSize⟩

/-! ### Which of them are accepted as they are -/

/-- What an accepted request says about the defaults in it. -/
theorem RuntimeAcceptable.defaultsFit (h : RuntimeAcceptable py requested portCount) :
    DefaultsFit requested portCount := by
  obtain ⟨hrx, htx⟩ := le_min_iff.mp h.burstFits
  have hgetD : ∀ {o : Option ℕ} {d : ℕ}, ∀ n ∈ o, o.getD d = n := by
    rintro o d n hn
    rw [Option.mem_def.mp hn]
    rfl
  constructor
  case burst =>
    intro hnone
    have hburst : requested.effectiveBurstSize = DEFAULT_BURST_SIZE := by
      unfold DpdkProcessConfigModel.effectiveBurstSize
      rw [hnone]
      rfl
    rw [hburst] at hrx htx
    exact ⟨fun n hn => hrx.trans (hgetD n hn).le, fun n hn => htx.trans (hgetD n hn).le⟩
  case queues =>
    intro _
    cases hgiven : requested.mempoolSize with
    | none =>
      have hmempool : requested.effectiveMempoolSize portCount = requested.recommendedMempoolSize portCount := by
        unfold DpdkProcessConfigModel.effectiveMempoolSize
        rw [hgiven]
        rfl
      refine ⟨hmempool ▸ h.mempoolSize, fun _ n hn => ?_⟩
      exact hmempool ▸ (h.hugepagesMb n hn).2.1
    | some m =>
      refine ⟨?_, fun hnone => ?_⟩
      · exact h.mempoolFits.trans (hgetD m hgiven).le
      · cases hnone

/-- A queue that is given is the same in the frugal request. -/
theorem frugal_rx {n : ℕ} (h : requested.rxQueueSize = some n) :
    requested.frugal.effectiveRxQueueSize = requested.effectiveRxQueueSize := by
  show requested.rxQueueSize.getD _ = requested.rxQueueSize.getD _
  rw [h]
  rfl

theorem frugal_tx {n : ℕ} (h : requested.txQueueSize = some n) :
    requested.frugal.effectiveTxQueueSize = requested.effectiveTxQueueSize := by
  show requested.txQueueSize.getD _ = requested.txQueueSize.getD _
  rw [h]
  rfl

theorem frugal_burst {n : ℕ} (h : requested.burstSize = some n) :
    requested.frugal.effectiveBurstSize = requested.effectiveBurstSize := by
  show requested.burstSize.getD _ = requested.burstSize.getD _
  rw [h]
  rfl

/-- What the default queues are checked for. -/
theorem mempool_of_defaultsFit (hfrugal : RuntimeAcceptable py requested.frugal portCount)
    (hfit : DefaultsFit requested portCount) :
    requested.recommendedMempoolSize portCount ≤ requested.mempoolSize.getD MAX_MEMPOOL_SIZE ∧
      (requested.mempoolSize = none → ∀ n ∈ requested.hugepagesMb,
        hugepagesFloorMb (requested.recommendedMempoolSize portCount) ≤ n) := by
  by_cases hnone : requested.rxQueueSize = none ∨ requested.txQueueSize = none
  · exact hfit.queues hnone
  · -- both queues are given, so the frugal request has them too
    rw [not_or] at hnone
    obtain ⟨rx, hrx⟩ := Option.ne_none_iff_exists'.mp hnone.1
    obtain ⟨tx, htx⟩ := Option.ne_none_iff_exists'.mp hnone.2
    have hsame : requested.frugal.recommendedMempoolSize portCount = requested.recommendedMempoolSize portCount := by
      unfold DpdkProcessConfigModel.recommendedMempoolSize
      rw [frugal_rx hrx, frugal_tx htx]
    have hfits := hfrugal.mempoolFits
    have hsize := hfrugal.mempoolSize
    have hhugepages := hfrugal.hugepagesMb
    simp only [DpdkProcessConfigModel.effectiveMempoolSize, hsame] at hfits hsize hhugepages
    cases hgiven : requested.mempoolSize with
    | none =>
      have hmempool : requested.frugal.mempoolSize = none := hgiven
      rw [hmempool] at hsize hhugepages
      exact ⟨hsize, fun _ n hn => (hhugepages n hn).2.1⟩
    | some m =>
      have hmempool : requested.frugal.mempoolSize = some m := hgiven
      rw [hmempool] at hfits
      refine ⟨hfits, fun hnone => ?_⟩
      cases hnone

/-- The burst fits both queues, whichever of them is a default. -/
theorem burst_of_defaultsFit (hfrugal : RuntimeAcceptable py requested.frugal portCount)
    (hfit : DefaultsFit requested portCount) :
    requested.effectiveBurstSize ≤ MAX_BURST_SIZE ∧
      requested.effectiveBurstSize ≤ requested.effectiveRxQueueSize ∧
      requested.effectiveBurstSize ≤ requested.effectiveTxQueueSize := by
  obtain ⟨hrx, htx⟩ := le_min_iff.mp hfrugal.burstFits
  have hburst : requested.effectiveBurstSize ≤ MAX_BURST_SIZE := by
    cases hgiven : requested.burstSize with
    | none =>
      unfold DpdkProcessConfigModel.effectiveBurstSize
      rw [hgiven]
      decide
    | some b => exact (frugal_burst hgiven) ▸ hfrugal.burstSize
  refine ⟨hburst, ?_, ?_⟩
  · cases hqueue : requested.rxQueueSize with
    | none =>
      -- the default queue has room for any burst that is allowed
      unfold DpdkProcessConfigModel.effectiveRxQueueSize
      rw [hqueue]
      exact hburst
    | some n =>
      cases hgiven : requested.burstSize with
      | none =>
        unfold DpdkProcessConfigModel.effectiveBurstSize DpdkProcessConfigModel.effectiveRxQueueSize
        rw [hqueue, hgiven]
        exact (hfit.burst hgiven).1 n hqueue
      | some b => rwa [frugal_burst hgiven, frugal_rx hqueue] at hrx
  · cases hqueue : requested.txQueueSize with
    | none =>
      unfold DpdkProcessConfigModel.effectiveTxQueueSize
      rw [hqueue]
      exact hburst
    | some n =>
      cases hgiven : requested.burstSize with
      | none =>
        unfold DpdkProcessConfigModel.effectiveBurstSize DpdkProcessConfigModel.effectiveTxQueueSize
        rw [hqueue, hgiven]
        exact (hfit.burst hgiven).2 n hqueue
      | some b => rwa [frugal_burst hgiven, frugal_tx hqueue] at htx

/-- **A request is accepted** exactly when it can be completed and its defaults
fit. -/
theorem acceptable_iff_frugal (hports : 0 < portCount) : RuntimeAcceptable py requested portCount ↔
    RuntimeAcceptable py requested.frugal portCount ∧ DefaultsFit requested portCount := by
  constructor
  · intro h
    obtain ⟨e, he⟩ := (derive_returns_iff hports).mpr h
    obtain ⟨-, hkeeps, hagain⟩ := effective_sound_stable he
    exact ⟨(completable_iff hports).mp ⟨_, e, hkeeps.completes, hagain⟩, h.defaultsFit⟩
  · rintro ⟨hfrugal, hfit⟩
    obtain ⟨hmempool, hhugepages⟩ := mempool_of_defaultsFit hfrugal hfit
    obtain ⟨hburst, hrx, htx⟩ := burst_of_defaultsFit hfrugal hfit
    constructor
    case lcores => exact hfrugal.lcores
    case tokens => exact hfrugal.tokens
    case distinct => exact hfrugal.distinct
    case count => exact hfrugal.count
    case rxQueueSize =>
      cases hgiven : requested.rxQueueSize with
      | none =>
        unfold DpdkProcessConfigModel.effectiveRxQueueSize
        rw [hgiven]
        decide
      | some n => exact frugal_rx hgiven ▸ hfrugal.rxQueueSize
    case txQueueSize =>
      cases hgiven : requested.txQueueSize with
      | none =>
        unfold DpdkProcessConfigModel.effectiveTxQueueSize
        rw [hgiven]
        decide
      | some n => exact frugal_tx hgiven ▸ hfrugal.txQueueSize
    case burstSize => exact hburst
    case burstFits => exact le_min hrx htx
    case mempoolFits =>
      show _ ≤ requested.mempoolSize.getD _
      cases hgiven : requested.mempoolSize with
      | none => exact le_refl _
      | some m =>
        rw [hgiven] at hmempool
        exact hmempool
    case mempoolSize =>
      have hsize := hfrugal.mempoolSize
      show requested.mempoolSize.getD _ ≤ _
      cases hgiven : requested.mempoolSize with
      | none =>
        rw [hgiven] at hmempool
        exact hmempool
      | some m =>
        have hmempool' : requested.frugal.mempoolSize = some m := hgiven
        unfold DpdkProcessConfigModel.effectiveMempoolSize at hsize
        rwa [hmempool'] at hsize
    case hugepagesMb =>
      intro n hn
      obtain ⟨heven, hfloor, hmax⟩ := hfrugal.hugepagesMb n hn
      refine ⟨heven, ?_, hmax⟩
      show hugepagesFloorMb (requested.mempoolSize.getD _) ≤ n
      cases hgiven : requested.mempoolSize with
      | none => exact hhugepages hgiven n hn
      | some m =>
        have hmempool' : requested.frugal.mempoolSize = some m := hgiven
        unfold DpdkProcessConfigModel.effectiveMempoolSize at hfloor
        rwa [hmempool'] at hfloor

/-- **Omitting knobs is safe** exactly when the defaults fit, or when what is
given is bad enough on its own. -/
theorem omitted_safe_iff (hports : 1 ≤ portCount) :
    ((∃ full e, Completes requested full ∧ deriveEffectiveDpdkRuntime py full portCount = .ok e) →
        ∃ e, deriveEffectiveDpdkRuntime py requested portCount = .ok e) ↔
      (RuntimeAcceptable py requested.frugal portCount → DefaultsFit requested portCount) := by
  rw [completable_iff hports, derive_returns_iff hports]
  constructor
  · intro h hfrugal
    exact ((acceptable_iff_frugal hports).mp (h hfrugal)).2
  · intro h hfrugal
    exact (acceptable_iff_frugal hports).mpr ⟨hfrugal, h hfrugal⟩

/-! ### Two requests -/

theorem two_le_floor : 2 ≤ DEFAULT_HUGEPAGES_FLOOR_MB := by decide

theorem sixteen_pos : ∀ n ∈ some 16, 0 < n := by decide

/-- A request for the huge pages alone. -/
def floorRequest : DpdkProcessConfigModel := hugepagesRequest DEFAULT_HUGEPAGES_FLOOR_MB two_le_floor

/-- The same with a small receive queue. -/
def smallQueueRequest : DpdkProcessConfigModel :=
  { floorRequest with
    rxQueueSize := some 16
    rxQueueSize_pos := sixteen_pos }

theorem effective_floor : ∃ e, deriveEffectiveDpdkRuntime asciiInterpreter floorRequest 2 = .ok e ∧
    Sound 2 e.toEffectiveFields ∧ KeepsRequest floorRequest e.toEffectiveFields ∧
      deriveEffectiveDpdkRuntime asciiInterpreter (e.asRequest floorRequest.netns) 2 = .ok e := by
  obtain ⟨e, he⟩ := exists_of_toBool
    (show (deriveEffectiveDpdkRuntime asciiInterpreter floorRequest 2).toBool = true by decide +kernel)
  exact ⟨e, he, effective_sound_stable he⟩

/-- The smallest burst and queues complete a request. -/
theorem completable_of_frugal {requested : DpdkProcessConfigModel} {portCount : ℕ} (hports : 0 < portCount)
    (h : (deriveEffectiveDpdkRuntime py requested.frugal portCount).toBool = true) :
    ∃ full e, Completes requested full ∧ deriveEffectiveDpdkRuntime py full portCount = .ok e :=
  (completable_iff hports).mpr ((derive_returns_iff hports).mp (exists_of_toBool h))

theorem omitted_safe_floor : ∃ e, deriveEffectiveDpdkRuntime asciiInterpreter floorRequest 2 = .ok e := by
  have hcompletable := completable_of_frugal Nat.two_pos
    (show (deriveEffectiveDpdkRuntime asciiInterpreter floorRequest.frugal 2).toBool = true by decide +kernel)
  refine (omitted_safe_iff (Nat.le_succ 1)).mpr (fun _ => ⟨fun _ => ⟨?_, ?_⟩, fun _ => ⟨?_, fun _ => ?_⟩⟩) hcompletable
  · decide
  · decide
  · decide +kernel
  · decide +kernel

/-- The default burst of 32 does not fit a receive queue of 16, which a burst
of 16 would. -/
theorem small_queue_rejected :
    ¬ ∀ (py : Interpreter) (requested : DpdkProcessConfigModel) (portCount : ℕ), 1 ≤ portCount →
      (∃ full e, Completes requested full ∧ deriveEffectiveDpdkRuntime py full portCount = .ok e) →
        ∃ e, deriveEffectiveDpdkRuntime py requested portCount = .ok e := by
  intro h
  obtain ⟨e, he⟩ := h asciiInterpreter smallQueueRequest 2 (Nat.le_succ 1)
    (completable_of_frugal Nat.two_pos (by decide +kernel))
  have hrejected : (deriveEffectiveDpdkRuntime asciiInterpreter smallQueueRequest 2).toBool = false := by
    decide +kernel
  rw [he] at hrejected
  cases hrejected

end Ctrld
end Pktlab
