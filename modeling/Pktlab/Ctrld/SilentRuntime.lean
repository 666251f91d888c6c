/-
# When rules and launch parameters are not reported

The loop over the rules is silent when their identifiers are distinct and each
rule is in order; the effective runtime is derived without a report when the
tokens of the lcores stand for distinct CPUs and the sizes are within their
limits. The memory estimate is a float in the source; for the mempools that
are accepted it is exact.

Key theorems: `ruleLoop_silent`, `lcoreLoop_silent`, `recommendedHugepagesMb_eq`,
`derive_silent_iff`.
-/
import Pktlab.Ctrld.Acceptable

namespace Pktlab
namespace Ctrld

open Python

/-! ### Rules -/

theorem parseAddress_optional {py : Interpreter} {value : Option String} {path : String} :
    (parseAddress py value path true).1 = [] ↔ ∀ ip ∈ value, IsV4 py.ipAddress ip := by
  cases value with
  | none => simp [parseAddress]
  | some ip => simp [parseAddress, parseIp_eq_nil]

theorem parseNetwork_optional {py : Interpreter} {value : Option String} {path : String} :
    (parseNetwork py value path true).1 = [] ↔ ∀ cidr ∈ value, IsV4 py.ipNetwork cidr := by
  cases value with
  | none => simp [parseNetwork]
  | some cidr => simp [parseNetwork, parseIp_eq_nil]

theorem validateRuleMatch_silent {py : Interpreter} {m : RuleMatchModel} {pathPrefix : String} :
    validateRuleMatch py m pathPrefix = [] ↔ m.Acceptable py := by
  have hissue : ∀ {c : Prop} [Decidable c] {issue : ValidationIssue}, (if c then [issue] else []) = [] ↔ ¬ c := by
    intro c _ issue
    by_cases hc : c
    · simp [hc]
    · simp [hc]
  unfold validateRuleMatch
  simp only [List.append_eq_nil_iff, hissue, parseAddress_optional, parseNetwork_optional]
  constructor
  · rintro ⟨⟨⟨⟨⟨⟨hsource, hdestination⟩, hsrcIp⟩, hdstIp⟩, hsrcCidr⟩, hdstCidr⟩, hicmp⟩
    refine ⟨hsource, hdestination, hsrcIp, hdstIp, hsrcCidr, hdstCidr, fun hproto => ?_⟩
    simpa [hproto] using hicmp
  · intro h
    refine ⟨⟨⟨⟨⟨⟨h.source, h.destination⟩, h.srcIp⟩, h.dstIp⟩, h.srcCidr⟩, h.dstCidr⟩, ?_⟩
    rintro ⟨hproto, hports⟩
    obtain ⟨hsrc, hdst⟩ := h.icmp hproto
    simp [hsrc, hdst] at hports

theorem validateRuleAction_silent {action : RuleActionModel} {path : String}
    {ports : Option (Finset String)} :
    validateRuleAction action path ports = [] ↔
      ∀ allowed ∈ ports, ∀ port ∈ action.port, port ∈ allowed := by
  unfold validateRuleAction
  cases action.port with
  | none => simp
  | some port =>
    cases ports with
    | none => simp
    | some allowed =>
      by_cases hport : port ∈ allowed
      · simp [hport]
      · simp [hport]

/-- **The loop over the rules** is silent when the identifiers are distinct,
from each other and from what has been met, and every rule is in order. -/
theorem ruleLoop_silent (py : Interpreter) (pathPrefix : Option String) (ports : Option (Finset String)) :
    ∀ (rules : List RuleModel) (seenIds : List (ℕ × ℕ)) (index : ℕ), (∀ p ∈ seenIds, p.2 < index) →
      (ruleLoop py pathPrefix ports seenIds index rules = .ok [] ↔
        ((rules.map RuleModel.id).Nodup ∧ ∀ rule ∈ rules, ∀ p ∈ seenIds, p.1 ≠ rule.id) ∧
          ∀ rule ∈ rules, rule.pattern.Acceptable py ∧
            ∀ allowed ∈ ports, ∀ port ∈ rule.action.port, port ∈ allowed)
  | [], _, _, _ => by simp [ruleLoop]
  | rule :: rules, seenIds, index, hseen => by
    rw [ruleLoop, List.map_cons, List.nodup_cons]
    simp only [List.forall_mem_cons]
    rcases setdefault_cases seenIds rule.id index with ⟨w, hw, hset⟩ | ⟨hnew, hset⟩
    · have hne : w ≠ index := Nat.ne_of_lt (hseen _ hw)
      rw [hset]
      simp only [if_pos hne]
      refine iff_of_false (fun h => ?_) fun h => h.1.2.1 _ hw rfl
      obtain ⟨duplicate, hduplicate, h⟩ := bind_eq_ok.mp h
      obtain ⟨rest, -, h⟩ := bind_eq_ok.mp h
      simp only [Except.ok.injEq, List.append_eq_nil_iff] at h
      obtain ⟨⟨⟨rfl, -⟩, -⟩, -⟩ := h
      cases hstr : str rule.id with
      | error e =>
        rw [hstr] at hduplicate
        cases hduplicate
      | ok text =>
        rw [hstr] at hduplicate
        cases hduplicate
    · have hseen' : ∀ p ∈ (rule.id, index) :: seenIds, p.2 < index + 1 :=
        List.forall_mem_cons.mpr ⟨Nat.lt_succ_self _, fun p hp => Nat.lt_succ_of_lt (hseen p hp)⟩
      rw [hset]
      simp only [ne_eq, not_true_eq_false, if_false, bind_eq_ok, Except.ok.injEq, exists_eq_left',
        List.append_eq_nil_iff, validateRuleMatch_silent, validateRuleAction_silent]
      have hrest := ruleLoop_silent py pathPrefix ports rules _ (index + 1) hseen'
      have hids : (∀ r ∈ rules, ∀ p ∈ (rule.id, index) :: seenIds, p.1 ≠ r.id) ↔
          rule.id ∉ rules.map RuleModel.id ∧ ∀ r ∈ rules, ∀ p ∈ seenIds, p.1 ≠ r.id := by
        simp only [List.forall_mem_cons, forall_and, List.mem_map, not_exists, not_and, ne_eq, eq_comm]
      constructor
      · rintro ⟨rest, hloop, ⟨⟨-, hpattern⟩, haction⟩, rfl⟩
        obtain ⟨⟨hnodup, hfresh⟩, hrules⟩ := hrest.mp hloop
        obtain ⟨hnot, hfresh⟩ := hids.mp hfresh
        exact ⟨⟨⟨hnot, hnodup⟩, hnew, hfresh⟩, ⟨hpattern, haction⟩, hrules⟩
      · rintro ⟨⟨⟨hnot, hnodup⟩, -, hfresh⟩, ⟨hpattern, haction⟩, hrules⟩
        exact ⟨[], hrest.mpr ⟨⟨hnodup, hids.mpr ⟨hnot, hfresh⟩⟩, hrules⟩, ⟨⟨trivial, hpattern⟩, haction⟩, rfl⟩

/-- **The rules**, for optional port names. -/
theorem collectRulesetIssues_eq_nil {py : Interpreter} {ruleset : RulesetModel}
    {pathPrefix : Option String} {ports : Option (Finset String)} :
    collectRulesetIssues py ruleset pathPrefix ports = .ok [] ↔
      (∀ allowed ∈ ports, ∀ port ∈ ruleset.defaultAction.port, port ∈ allowed) ∧
        (ruleset.entries.map RuleModel.id).Nodup ∧
        ∀ rule ∈ ruleset.entries, rule.pattern.Acceptable py ∧
          ∀ allowed ∈ ports, ∀ port ∈ rule.action.port, port ∈ allowed := by
  have hloop := ruleLoop_silent py pathPrefix ports ruleset.entries [] 0 (by simp)
  have hmap : collectRulesetIssues py ruleset pathPrefix ports = .ok [] ↔
      (∀ allowed ∈ ports, ∀ port ∈ ruleset.defaultAction.port, port ∈ allowed) ∧
        ruleLoop py pathPrefix ports [] 0 ruleset.entries = .ok [] := by
    unfold collectRulesetIssues
    cases ruleLoop py pathPrefix ports [] 0 ruleset.entries with
    | error e => simp [Except.map]
    | ok issues => simp only [Except.map, Except.ok.injEq, List.append_eq_nil_iff, validateRuleAction_silent]
  have hfresh : ∀ rule ∈ ruleset.entries, ∀ p ∈ ([] : List (ℕ × ℕ)), p.1 ≠ rule.id := by simp
  rw [hmap, hloop]
  exact and_congr_right fun _ => and_congr_left fun _ => and_iff_left hfresh

theorem collectRulesetIssues_silent {py : Interpreter} {ruleset : RulesetModel} {pathPrefix : Option String}
    {ports : Finset String} :
    collectRulesetIssues py ruleset pathPrefix (some ports) = .ok [] ↔ ruleset.Acceptable py ports := by
  rw [collectRulesetIssues_eq_nil]
  simp only [Option.mem_some_iff, forall_eq']
  constructor
  · rintro ⟨hdefault, hids, hrules⟩
    exact ⟨hdefault, hids, fun rule hrule => (hrules rule hrule).1, fun rule hrule => (hrules rule hrule).2⟩
  · intro h
    exact ⟨h.defaultAction, h.ids, fun rule hrule => ⟨h.patterns rule hrule, h.actions rule hrule⟩⟩

/-! ### The runtime -/

/-- One round of the loop over the tokens. -/
theorem lcoreLoop_cons_silent {py : Interpreter} {path : String} {token : Str} {tokens : List Str}
    {parsed ids : List ℕ} :
    lcoreLoop py path (token :: tokens) parsed = .ok ([], ids) ↔
      (Numeric py token ∧ Readable py token ∧ 0 < cpus py token) ∧
        parsed.length + cpus py token ≤ py.listCap ∧
          lcoreLoop py path tokens (parsed ++ expand py token) = .ok ([], ids) := by
  rw [lcoreLoop.eq_2, Numeric, Readable, numerals, cpus, expand]
  cases hsplit : splitFirst (.char '-') token with
  | none =>
    simp only [List.forall_mem_singleton]
    by_cases hdigit : py.digits.isdigit token = true
    · simp only [hdigit, not_true_eq_false, if_false, bind_eq_ok, int_eq_ok, append_eq_ok, true_and,
        Nat.zero_lt_one, and_true]
      constructor
      · rintro ⟨n, ⟨hread, rfl⟩, out, ⟨hfit, rfl⟩, hrest⟩
        exact ⟨hread, hfit, hrest⟩
      · rintro ⟨hread, hfit, hrest⟩
        exact ⟨_, ⟨hread, rfl⟩, _, ⟨hfit, rfl⟩, hrest⟩
    · simp [hdigit]
  | some parts =>
    obtain ⟨startText, endText⟩ := parts
    simp only [List.forall_mem_cons, List.not_mem_nil, false_implies, implies_true, and_true, cpus, hsplit]
    by_cases hdigit : py.digits.isdigit startText = true ∧ py.digits.isdigit endText = true
    · simp only [hdigit, and_self, not_true_eq_false, if_false, bind_eq_ok, int_eq_ok, true_and]
      by_cases hdesc : py.digits.value startText > py.digits.value endText
      · refine iff_of_false ?_ fun h => by omega
        rintro ⟨_, ⟨-, rfl⟩, _, ⟨-, rfl⟩, h⟩
        rw [if_pos hdesc] at h
        cases h
      · constructor
        · rintro ⟨_, ⟨hstart, rfl⟩, _, ⟨hend, rfl⟩, h⟩
          rw [if_neg hdesc] at h
          obtain ⟨out, hout, hrest⟩ := bind_eq_ok.mp h
          obtain ⟨hfit, rfl⟩ := extendRange_eq_ok.mp hout
          exact ⟨⟨⟨hstart, hend⟩, by omega⟩, hfit, hrest⟩
        · rintro ⟨⟨⟨hstart, hend⟩, -⟩, hfit, hrest⟩
          refine ⟨_, ⟨hstart, rfl⟩, _, ⟨hend, rfl⟩, ?_⟩
          rw [if_neg hdesc]
          exact bind_eq_ok.mpr ⟨_, extendRange_eq_ok.mpr ⟨hfit, rfl⟩, hrest⟩
    · simp only [hdigit, not_false_eq_true, if_true, Except.ok.injEq, Prod.mk.injEq, List.cons_ne_nil, false_and]

/-- **The loop over the tokens** is silent when each of them stands for some
CPUs, which fit a list and are distinct. -/
theorem lcoreLoop_silent {py : Interpreter} {path : String} :
    ∀ {tokens : List Str} {parsed ids : List ℕ}, parsed.length ≤ py.listCap →
      (lcoreLoop py path tokens parsed = .ok ([], ids) ↔
        (∀ token ∈ tokens, Numeric py token ∧ Readable py token ∧ 0 < cpus py token) ∧
          ids = parsed ++ tokens.flatMap (expand py) ∧ ids.Nodup ∧ ids.length ≤ py.listCap)
  | [], parsed, ids, hcap => by
    rw [lcoreLoop]
    by_cases hnodup : parsed.Nodup
    · rw [if_pos hnodup]
      simp only [Except.ok.injEq, Prod.mk.injEq, true_and, List.flatMap_nil, List.append_nil]
      constructor
      · rintro rfl
        exact ⟨by simp, rfl, hnodup, hcap⟩
      · exact fun h => h.2.1.symm
    · rw [if_neg hnodup]
      refine iff_of_false (fun h => ?_) fun h => hnodup ?_
      · simp at h
      · rw [List.flatMap_nil, List.append_nil] at h
        exact h.2.1 ▸ h.2.2.1
  | token :: tokens, parsed, ids, hcap => by
    rw [lcoreLoop_cons_silent, List.forall_mem_cons, List.flatMap_cons, ← List.append_assoc]
    refine (and_congr_right fun _ => ?_).trans and_assoc.symm
    have hgrown : (parsed ++ expand py token).length = parsed.length + cpus py token := by
      rw [List.length_append, length_expand]
    constructor
    · rintro ⟨hfit, hrest⟩
      exact (lcoreLoop_silent (hgrown.trans_le hfit)).mp hrest
    · intro h
      have hfit : (parsed ++ expand py token).length ≤ py.listCap := by
        refine le_trans ?_ h.2.2.2
        rw [h.2.1]
        simp
      exact ⟨hgrown ▸ hfit, (lcoreLoop_silent hfit).mpr h⟩

/-- The estimate of the memory is exact for the mempools that are accepted. -/
theorem recommendedHugepagesMb_eq {mempoolSize : ℕ} (h : mempoolSize ≤ MAX_MEMPOOL_SIZE) :
    recommendedHugepagesMb mempoolSize = .ok (hugepagesFloorMb mempoolSize) := by
  have hbytes : mempoolSize * MBUF_MEMORY_ESTIMATE_BYTES ≤ 2 ^ 28 :=
    Nat.mul_le_mul_right MBUF_MEMORY_ESTIMATE_BYTES h
  have hexact := nearestDouble_eq (hbytes.trans_lt (show 2 ^ 28 < 2 ^ 53 by decide))
  have hpow : ∀ k, 28 < k → 2 ^ 28 < 2 ^ k := fun k hk => Nat.pow_lt_pow_right Nat.one_lt_two hk
  have hfits : mempoolSize * MBUF_MEMORY_ESTIMATE_BYTES < 2 ^ (1024 + 20) := hbytes.trans_lt (hpow _ (by omega))
  have hceil : ceilTrueDivPow2 (mempoolSize * MBUF_MEMORY_ESTIMATE_BYTES) 20 = some ((mempoolSize + 255) / 256) := by
    unfold ceilTrueDivPow2
    rw [hexact, if_pos hfits, MBUF_MEMORY_ESTIMATE_BYTES]
    congr 1
    omega
  unfold recommendedHugepagesMb
  rw [hceil]
  rfl

theorem queueIssues_silent {pathPrefix : String} {requested : DpdkProcessConfigModel} :
    queueIssues pathPrefix requested = .ok [] ↔ requested.effectiveRxQueueSize ≤ MAX_QUEUE_SIZE ∧
      requested.effectiveTxQueueSize ≤ MAX_QUEUE_SIZE ∧ requested.effectiveBurstSize ≤ MAX_BURST_SIZE ∧
        requested.effectiveBurstSize ≤ min requested.effectiveRxQueueSize requested.effectiveTxQueueSize := by
  unfold queueIssues
  simp only [bind_eq_ok, Except.ok.injEq, List.append_eq_nil_iff]
  constructor
  · rintro ⟨_, hrx, _, htx, _, hburst, ⟨⟨rfl, rfl⟩, rfl⟩, hfit⟩
    refine ⟨limitIssue_eq_nil.mp hrx, limitIssue_eq_nil.mp htx, limitIssue_eq_nil.mp hburst, ?_⟩
    by_contra hlt
    rw [if_pos (Nat.lt_of_not_le hlt)] at hfit
    cases hfit
  · rintro ⟨hrx, htx, hburst, hfit⟩
    exact ⟨_, limitIssue_eq_nil.mpr hrx, _, limitIssue_eq_nil.mpr htx, _, limitIssue_eq_nil.mpr hburst,
      ⟨⟨rfl, rfl⟩, rfl⟩, if_neg (Nat.not_lt.mpr hfit)⟩

theorem undersizedMempool_silent {pathPrefix : String} {mempoolSize portCount recommended : ℕ} :
    undersizedMempool pathPrefix mempoolSize portCount recommended = .ok [] ↔ recommended ≤ mempoolSize := by
  unfold undersizedMempool
  by_cases hlt : mempoolSize < recommended
  · rw [if_pos hlt]
    refine iff_of_false (fun h => ?_) (Nat.not_le.mpr hlt)
    simp [bind_eq_ok] at h
  · rw [if_neg hlt]
    exact iff_of_true rfl (Nat.not_lt.mp hlt)

theorem undersizedHugepages_silent {pathPrefix : String} {hugepagesMb recommended : ℕ} :
    undersizedHugepages pathPrefix hugepagesMb recommended = .ok [] ↔ recommended ≤ hugepagesMb := by
  unfold undersizedHugepages
  by_cases hlt : hugepagesMb < recommended
  · rw [if_pos hlt]
    refine iff_of_false (fun h => ?_) (Nat.not_le.mpr hlt)
    simp [bind_eq_ok] at h
  · rw [if_neg hlt]
    exact iff_of_true rfl (Nat.not_lt.mp hlt)

theorem mempoolIssues_silent {pathPrefix : String} {requested : DpdkProcessConfigModel} {portCount : ℕ} :
    mempoolIssues pathPrefix requested portCount = .ok [] ↔
      requested.recommendedMempoolSize portCount ≤ requested.effectiveMempoolSize portCount ∧
        requested.effectiveMempoolSize portCount ≤ MAX_MEMPOOL_SIZE := by
  unfold mempoolIssues
  simp only [bind_eq_ok, Except.ok.injEq, List.append_eq_nil_iff]
  constructor
  · rintro ⟨_, hsmall, _, hlarge, rfl, rfl⟩
    exact ⟨undersizedMempool_silent.mp hsmall, limitIssue_eq_nil.mp hlarge⟩
  · rintro ⟨hsmall, hlarge⟩
    exact ⟨_, undersizedMempool_silent.mpr hsmall, _, limitIssue_eq_nil.mpr hlarge, rfl, rfl⟩

theorem hugepagesIssues_silent {pathPrefix : String} {hugepagesMb recommended : ℕ} :
    hugepagesIssues pathPrefix hugepagesMb recommended = .ok [] ↔
      hugepagesMb % DEFAULT_HUGEPAGE_SIZE_MB = 0 ∧ recommended ≤ hugepagesMb ∧ hugepagesMb ≤ MAX_HUGEPAGES_MB := by
  unfold hugepagesIssues
  simp only [bind_eq_ok, Except.ok.injEq, List.append_eq_nil_iff]
  constructor
  · rintro ⟨_, hsmall, _, hlarge, ⟨hmultiple, rfl⟩, rfl⟩
    refine ⟨?_, undersizedHugepages_silent.mp hsmall, limitIssue_eq_nil.mp hlarge⟩
    by_contra hodd
    rw [if_pos hodd] at hmultiple
    cases hmultiple
  · rintro ⟨hmultiple, hsmall, hlarge⟩
    exact ⟨_, undersizedHugepages_silent.mpr hsmall, _, limitIssue_eq_nil.mpr hlarge,
      ⟨if_neg (not_not.mpr hmultiple), rfl⟩, rfl⟩

theorem parseLcoreSpec_silent {py : Interpreter} {value : Str} {path : String} {ids : List ℕ} :
    parseLcoreSpec py value path = .ok ([], ids) ↔ lcoreTokens value ≠ [] ∧
      (∀ token ∈ lcoreTokens value, Numeric py token ∧ Readable py token ∧ 0 < cpus py token) ∧
        ids = (lcoreTokens value).flatMap (expand py) ∧ ids.Nodup ∧ ids.length ≤ py.listCap := by
  unfold parseLcoreSpec
  by_cases hnone : lcoreTokens value = []
  · rw [if_pos hnone]
    refine iff_of_false (fun h => ?_) fun h => h.1 hnone
    simp at h
  · rw [if_neg hnone, lcoreLoop_silent (Nat.zero_le _), List.nil_append]
    exact (and_iff_right hnone).symm

/-- At most one issue is reported, under the path that is given. -/
theorem lcoreLoop_issues {py : Interpreter} {path : String} {issues : List ValidationIssue} :
    ∀ {tokens : List Str} {parsed ids : List ℕ},
      lcoreLoop py path tokens parsed = .ok (issues, ids) →
        issues = [] ∨ ∃ code message, issues = [⟨path, code, message⟩]
  | [], parsed, ids, h => by
    unfold lcoreLoop at h
    split at h
    · cases h
      exact .inl rfl
    · cases h
      exact .inr ⟨_, _, rfl⟩
  | token :: tokens, parsed, ids, h => by
    unfold lcoreLoop at h
    split at h
    · split at h
      · cases h
        exact .inr ⟨_, _, rfl⟩
      · obtain ⟨start, -, h⟩ := bind_eq_ok.mp h
        obtain ⟨stop, -, h⟩ := bind_eq_ok.mp h
        split at h
        · cases h
          exact .inr ⟨_, _, rfl⟩
        · obtain ⟨longer, -, h⟩ := bind_eq_ok.mp h
          exact lcoreLoop_issues h
    · split at h
      · cases h
        exact .inr ⟨_, _, rfl⟩
      · obtain ⟨n, -, h⟩ := bind_eq_ok.mp h
        obtain ⟨longer, -, h⟩ := bind_eq_ok.mp h
        exact lcoreLoop_issues h

theorem parseLcoreSpec_issues {py : Interpreter} {value : Str} {path : String} {issues : List ValidationIssue}
    {ids : List ℕ} (h : parseLcoreSpec py value path = .ok (issues, ids)) :
    issues = [] ∨ ∃ code message, issues = [⟨path, code, message⟩] := by
  unfold parseLcoreSpec at h
  split at h
  · cases h
    exact .inr ⟨_, _, rfl⟩
  · exact lcoreLoop_issues h

theorem hugepagesFloorMb_bounds {mempoolSize : ℕ} (h : mempoolSize ≤ MAX_MEMPOOL_SIZE) :
    hugepagesFloorMb mempoolSize % 2 = 0 ∧ 2 ≤ hugepagesFloorMb mempoolSize ∧
      hugepagesFloorMb mempoolSize ≤ MAX_HUGEPAGES_MB := by
  unfold hugepagesFloorMb MAX_HUGEPAGES_MB
  unfold MAX_MEMPOOL_SIZE at h
  omega

/-- Tokens that stand for CPUs give a list of them. -/
theorem expand_ne_nil {py : Interpreter} {tokens : List Str} (hne : tokens ≠ [])
    (h : ∀ token ∈ tokens, 0 < cpus py token) : tokens.flatMap (expand py) ≠ [] := by
  obtain ⟨token, htoken⟩ := List.exists_mem_of_ne_nil tokens hne
  intro hnil
  have hlen := @length_expand py token
  rw [List.flatMap_eq_nil_iff.mp hnil token htoken, List.length_nil] at hlen
  exact absurd (h token htoken) (by omega)

/-- **The runtime is derived without a report** exactly from the acceptable
launch parameters. -/
theorem derive_silent_iff {py : Interpreter} {pathPrefix : String} {requested : DpdkProcessConfigModel}
    {portCount : ℕ} (hports : 0 < portCount) :
    (∃ effective, deriveEffectiveDpdkRuntimeInto pathPrefix requested py portCount = .ok ([], effective)) ↔
      RuntimeAcceptable py requested portCount := by
  unfold deriveEffectiveDpdkRuntimeInto
  simp only [bind_eq_ok, Except.ok.injEq, Prod.mk.injEq, List.append_eq_nil_iff]
  constructor
  · rintro ⟨_, ⟨_, ids⟩, hlcores, _, hqueues, _, hmempool, recommended, hrecommended, _, hhugepages, _, -,
      ⟨⟨⟨⟨rfl, hcount⟩, rfl⟩, rfl⟩, rfl⟩, rfl⟩
    obtain ⟨htokens, hnumeric, rfl, hnodup, hcap⟩ := parseLcoreSpec_silent.mp hlcores
    obtain ⟨hrx, htx, hburst, hfits⟩ := queueIssues_silent.mp hqueues
    obtain ⟨hsmall, hlarge⟩ := mempoolIssues_silent.mp hmempool
    rw [recommendedHugepagesMb_eq hlarge] at hrecommended
    obtain rfl := Except.ok.inj hrecommended
    have hids := expand_ne_nil htokens fun token htoken => (hnumeric token htoken).2.2
    refine ⟨htokens, hnumeric, hnodup, le_min ?_ hcap, hrx, htx, hburst, hfits, hsmall, hlarge, fun h hh => ?_⟩
    · by_contra hlt
      rw [if_neg hids, if_pos (Nat.lt_of_not_le hlt)] at hcount
      cases hcount
    · rw [Option.mem_def.mp hh] at hhugepages
      exact hugepagesIssues_silent.mp hhugepages
  · intro h
    have hids := expand_ne_nil h.lcores fun token htoken => (h.tokens token htoken).2.2
    obtain ⟨heven, htwo, hmax⟩ := hugepagesFloorMb_bounds h.mempoolSize
    have hhugepages : 2 ≤ requested.hugepagesMb.getD (hugepagesFloorMb (requested.effectiveMempoolSize portCount)) ∧
        requested.hugepagesMb.getD (hugepagesFloorMb (requested.effectiveMempoolSize portCount)) % 2 = 0 ∧
        hugepagesFloorMb (requested.effectiveMempoolSize portCount) ≤
          requested.hugepagesMb.getD (hugepagesFloorMb (requested.effectiveMempoolSize portCount)) ∧
        requested.hugepagesMb.getD (hugepagesFloorMb (requested.effectiveMempoolSize portCount)) ≤
          MAX_HUGEPAGES_MB := by
      cases hreq : requested.hugepagesMb with
      | none => exact ⟨htwo, heven, le_refl _, hmax⟩
      | some n => exact ⟨requested.two_le_hugepagesMb n hreq, h.hugepagesMb n hreq⟩
    have hpos : 1 ≤ ((lcoreTokens requested.effectiveLcores).flatMap (expand py)).length :=
      List.length_pos_iff.mpr hids
    have hcount := le_min_iff.mp h.count
    obtain ⟨effective, hmake⟩ := make_returns.mpr (EffectiveFields.violations_eq_nil (f :=
        { lcores := requested.effectiveLcores
          lcoreCount := ((lcoreTokens requested.effectiveLcores).flatMap (expand py)).length
          hugepageSizeMb := DEFAULT_HUGEPAGE_SIZE_MB
          hugepagesMb := requested.hugepagesMb.getD (hugepagesFloorMb (requested.effectiveMempoolSize portCount))
          burstSize := requested.effectiveBurstSize
          rxQueueSize := requested.effectiveRxQueueSize
          txQueueSize := requested.effectiveTxQueueSize
          mempoolSize := requested.effectiveMempoolSize portCount
          portCount := portCount }) |>.mpr
      ⟨⟨requested.effectiveLcores_ne, lcores_encodable fun token htoken => (h.tokens token htoken).1⟩, hpos, rfl, ⟨hhugepages.1, hhugepages.2.1⟩, requested.effectiveBurstSize_pos,
        requested.effectiveRxQueueSize_pos, requested.effectiveTxQueueSize_pos,
        requested.effectiveMempoolSize_pos portCount, hports⟩)
    refine ⟨effective, ([], _), parseLcoreSpec_silent.mpr ⟨h.lcores, h.tokens, rfl, h.distinct, hcount.2⟩, [],
      queueIssues_silent.mpr ⟨h.rxQueueSize, h.txQueueSize, h.burstSize, h.burstFits⟩, [],
      mempoolIssues_silent.mpr ⟨h.mempoolFits, h.mempoolSize⟩, _, recommendedHugepagesMb_eq h.mempoolSize, [],
      hugepagesIssues_silent.mpr hhugepages.2, effective, ?_, ⟨⟨⟨⟨rfl, ?_⟩, rfl⟩, rfl⟩, rfl⟩, rfl⟩
    · simp only [if_neg hids]
      exact hmake
    · simp only [if_neg hids]
      exact if_neg (Nat.not_lt.mpr hcount.1)

end Ctrld
end Pktlab
