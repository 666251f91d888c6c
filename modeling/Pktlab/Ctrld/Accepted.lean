/-
# What an accepted topology satisfies

`validateTopologyConfig` returns exactly when every collector is silent
(`Clean`); this module reads off what silence says about the runtime, the
lcores and the ports.

Key definitions: `Clean`, `RuntimeLimits`.
Key theorems: `validateTopologyConfig_eq_ok`, `derive_silent`, `lcores_chars`,
`lcores_noNul`, `duplicateNames_eq_nil`, `Clean.ports_roles`.
-/
import Pktlab.Ctrld.ValidationTotal

namespace Pktlab
namespace Ctrld

open Python

theorem bind_eq_ok {ε α β : Type} {x : Except ε α} {f : α → Except ε β} {b : β} :
    (x >>= f) = .ok b ↔ ∃ a, x = .ok a ∧ f a = .ok b := by
  rcases x with e | a
  · refine iff_of_false (fun h => ?_) fun ⟨_, h, _⟩ => ?_
    · cases h
    · cases h
  · refine ⟨fun h => ⟨a, rfl, h⟩, fun ⟨_, ha, h⟩ => ?_⟩
    cases ha
    exact h

theorem raiseIssues_eq_ok {α : Type} {message : String} {code : ErrorCode}
    {r : Except Exc (List ValidationIssue × α)} {a : α} :
    raiseIssues message code r = .ok a ↔ r = .ok ([], a) := by
  rcases r with e | ⟨issues, b⟩
  · simp [raiseIssues]
  · cases issues with
    | nil => simp [raiseIssues]
    | cons issue issues => simp [raiseIssues]

/-- The names of the declared namespaces. -/
def TopologyConfigModel.namespaceNames (config : TopologyConfigModel) : Finset String :=
  (config.namespaces.map fun item => item.name.1).toFinset

/-- The tables after the links. -/
def TopologyConfigModel.linkTables (config : TopologyConfigModel) (py : Interpreter) : LinkTables :=
  (collectLinkIssues py config config.namespaceNames).2

/-- The interfaces after the links and the ports. -/
def TopologyConfigModel.interfaces (config : TopologyConfigModel) (py : Interpreter) :
    Finset (String × String) :=
  (collectDpdkPortIssues config config.namespaceNames config.processes.dpdkd.netns.1
    (config.linkTables py).interfaceNames).2

def TopologyConfigModel.dpdkPortNames (config : TopologyConfigModel) : Finset String :=
  (config.dpdkPorts.map fun port => port.name.1).toFinset

/-- No collector has anything to report. -/
structure Clean (py : Interpreter) (config : TopologyConfigModel) (effective : EffectiveDpdkRuntimeModel) :
    Prop where
  names : duplicateNames "namespaces" [] 0 (config.namespaces.map fun item => item.name.1) = []
  dpdkNamespace : config.processes.dpdkd.netns.1 ∈ config.namespaceNames
  links : (collectLinkIssues py config config.namespaceNames).1 = []
  ports : (collectDpdkPortIssues config config.namespaceNames config.processes.dpdkd.netns.1
    (config.linkTables py).interfaceNames).1 = []
  routes : collectRouteIssues py config config.namespaceNames (config.linkTables py).connectedNetworks = []
  capturePoints : collectCapturePointIssues config config.namespaceNames (config.interfaces py) = []
  bridges : collectBridgeSideInterfaceIssues config.processes.dpdkd.netns.1 (config.interfaces py) = []
  rules : collectRulesetIssues py config.rules (some "rules") (some config.dpdkPortNames) = .ok []
  runtime : deriveEffectiveDpdkRuntimeInto "processes.dpdkd" config.processes.dpdkd py
    config.dpdkPorts.length = .ok ([], effective)

/-- **Acceptance is silence.** -/
theorem validateTopologyConfig_eq_ok {py : Interpreter} {config : TopologyConfigModel}
    {v : ValidatedTopologyConfig} :
    validateTopologyConfig py config = .ok v ↔ ∃ effective, Clean py config effective ∧
      v =
        { topology := config
          requestedDpdkConfig := config.processes.dpdkd
          effectiveDpdkConfig := effective
          namespaceNames := config.namespaceNames
          dpdkPortNames := config.dpdkPortNames
          namespaceInterfaces := config.interfaces py } := by
  unfold validateTopologyConfig
  rw [raiseIssues_eq_ok]
  simp only [bind_eq_ok, Except.ok.injEq, Prod.mk.injEq, List.append_eq_nil_iff, collectDuplicateNames]
  refine ⟨?_, ?_⟩
  · rintro ⟨rules, hrules, ⟨runtime, effective⟩, hruntime,
      ⟨⟨⟨⟨⟨⟨⟨⟨hnames, hns⟩, hlinks⟩, hports⟩, hroutes⟩, hcapture⟩, hbridges⟩, hempty⟩, hnone⟩, rfl⟩
    simp only at hempty hnone
    subst hempty hnone
    refine ⟨effective, ⟨hnames, ?_, hlinks, hports, hroutes, hcapture, hbridges, hrules, hruntime⟩, rfl⟩
    by_contra hmem
    exact List.cons_ne_nil _ _ ((if_pos hmem).symm.trans hns)
  · rintro ⟨effective, h, rfl⟩
    refine ⟨[], h.rules, ([], effective), h.runtime, ⟨⟨⟨⟨⟨⟨⟨⟨h.names, ?_⟩, h.links⟩, h.ports⟩, h.routes⟩,
      h.capturePoints⟩, h.bridges⟩, rfl⟩, rfl⟩, rfl⟩
    exact if_neg (not_not.mpr h.dpdkNamespace)

/-! ### The runtime -/

theorem limitIssue_eq_nil {path code : String} {value limit : ℕ} {message : String → String} :
    limitIssue path code value limit message = .ok [] ↔ value ≤ limit := by
  unfold limitIssue
  split
  · rename_i h
    refine iff_of_false ?_ (Nat.not_le.mpr h)
    cases str value with
    | error e => simp [Except.map]
    | ok text => simp [Except.map]
  · rename_i h
    exact iff_of_true rfl (Nat.not_lt.mp h)

/-- The limits of the controller. -/
structure RuntimeLimits (e : EffectiveFields) : Prop where
  burstSize : e.burstSize ≤ MAX_BURST_SIZE
  rxQueueSize : e.rxQueueSize ≤ MAX_QUEUE_SIZE
  txQueueSize : e.txQueueSize ≤ MAX_QUEUE_SIZE
  mempoolSize : e.mempoolSize ≤ MAX_MEMPOOL_SIZE
  hugepagesMb : e.hugepagesMb ≤ MAX_HUGEPAGES_MB

theorem make_eq_ok {fields : EffectiveFields} {effective : EffectiveDpdkRuntimeModel}
    (h : EffectiveDpdkRuntimeModel.make fields = .ok effective) : effective.toEffectiveFields = fields := by
  unfold EffectiveDpdkRuntimeModel.make at h
  split at h
  · cases h
    rfl
  · cases h

/-- A silent derivation keeps the limits and passes the lcores on. -/
theorem derive_silent {py : Interpreter} {pathPrefix : String} {requested : DpdkProcessConfigModel}
    {portCount : ℕ} {effective : EffectiveDpdkRuntimeModel}
    (h : deriveEffectiveDpdkRuntimeInto pathPrefix requested py portCount = .ok ([], effective)) :
    RuntimeLimits effective.toEffectiveFields ∧ effective.lcores = requested.effectiveLcores ∧
      ∃ ids, parseLcoreSpec py requested.effectiveLcores s!"{pathPrefix}.lcores" = .ok ([], ids) := by
  unfold deriveEffectiveDpdkRuntimeInto at h
  simp only [bind_eq_ok, Except.ok.injEq, Prod.mk.injEq, List.append_eq_nil_iff] at h
  obtain ⟨⟨issues, ids⟩, hlcores, queues, hqueues, mempool, hmempool, recommended, -, hugepages, hhugepages,
    effective', hmake, ⟨⟨⟨⟨hissues, -⟩, rfl⟩, rfl⟩, rfl⟩, rfl⟩ := h
  simp only at hissues
  subst hissues
  simp only [queueIssues, mempoolIssues, hugepagesIssues, bind_eq_ok, Except.ok.injEq,
    List.append_eq_nil_iff] at hqueues hmempool hhugepages
  obtain ⟨_, hrx, _, htx, _, hburst, ⟨⟨rfl, rfl⟩, rfl⟩, -⟩ := hqueues
  obtain ⟨_, -, _, hlarge, -, rfl⟩ := hmempool
  obtain ⟨_, -, _, hhuge, -, rfl⟩ := hhugepages
  have hfields := make_eq_ok hmake
  refine ⟨?_, by rw [hfields], ids, hlcores⟩
  rw [hfields]
  exact ⟨limitIssue_eq_nil.mp hburst, limitIssue_eq_nil.mp hrx, limitIssue_eq_nil.mp htx,
    limitIssue_eq_nil.mp hlarge, limitIssue_eq_nil.mp hhuge⟩

/-! ### The lcores -/

/-- The code points of a numeric token are digits and dashes. -/
theorem Numeric.chars {py : Interpreter} {token : Str} (h : Numeric py token) {c : CodePoint}
    (hc : c ∈ token) : py.digits.digit c = true ∨ c = .char '-' := by
  have hdigit : ∀ text ∈ numerals token, ∀ c ∈ text, py.digits.digit c = true := by
    intro text htext c hc
    have := h text htext
    rw [DigitTable.isdigit, Bool.and_eq_true, List.all_eq_true] at this
    exact this.2 c hc
  unfold numerals at hdigit
  cases hsplit : splitFirst (.char '-') token with
  | none =>
    rw [hsplit] at hdigit
    exact Or.inl (hdigit token (by simp) c hc)
  | some parts =>
    obtain ⟨startText, endText⟩ := parts
    rw [hsplit] at hdigit
    rw [splitFirst_eq_some hsplit, List.mem_append, List.mem_cons] at hc
    rcases hc with hc | rfl | hc
    · exact Or.inl (hdigit startText (by simp) c hc)
    · exact Or.inr rfl
    · exact Or.inl (hdigit endText (by simp) c hc)

/-- What is neither a comma nor space is in one of the tokens. -/
theorem mem_lcoreTokens {value : Str} {c : CodePoint} (h : c ∈ value) (hcomma : c ≠ .char ',')
    (hspace : c.isSpace = false) : ∃ token ∈ lcoreTokens value, c ∈ token := by
  obtain ⟨part, hpart, hc⟩ := mem_splitAll h hcomma
  have hstrip : c ∈ strip CodePoint.isSpace part := mem_strip hc hspace
  refine ⟨strip CodePoint.isSpace part, ?_, hstrip⟩
  unfold lcoreTokens
  rw [List.mem_filter, List.mem_map]
  exact ⟨⟨part, hpart, rfl⟩, by simpa using List.ne_nil_of_mem hstrip⟩

/-- The code points between numeric tokens are commas and space. -/
theorem lcores_chars {py : Interpreter} {value : Str} (h : ∀ token ∈ lcoreTokens value, Numeric py token)
    {c : CodePoint} (hc : c ∈ value) :
    (c = .char ',' ∨ c.isSpace = true) ∨ py.digits.digit c = true ∨ c = .char '-' := by
  by_contra hnot
  obtain ⟨hbetween, hin⟩ := not_or.mp hnot
  obtain ⟨hcomma, hspace⟩ := not_or.mp hbetween
  obtain ⟨token, htoken, hmem⟩ := mem_lcoreTokens hc hcomma (Bool.eq_false_iff.mpr hspace)
  exact hin ((h token htoken).chars hmem)

/-- Lcores of numeric tokens hold no surrogate. -/
theorem lcores_encodable {py : Interpreter} {value : Str} (h : ∀ token ∈ lcoreTokens value, Numeric py token) :
    value.Encodable := by
  intro c hc
  cases c with
  | char c => rfl
  | surrogate n =>
    rcases lcores_chars h hc with (hcomma | hspace) | hdigit | hdash
    · cases hcomma
    · cases hspace
    · rw [py.digits.surrogate n] at hdigit
      cases hdigit
    · cases hdash

/-- Nor do they hold a NUL. -/
theorem lcores_noNul {py : Interpreter} {value : Str} (h : ∀ token ∈ lcoreTokens value, Numeric py token) :
    .char '\x00' ∉ value := by
  intro hmem
  rcases lcores_chars h hmem with (hcomma | hspace) | hdigit | hdash
  · exact absurd hcomma (by decide)
  · exact absurd hspace (by decide)
  · rw [(py.digits.ascii '\x00' (by decide)).1] at hdigit
    exact absurd hdigit (by decide)
  · exact absurd hdash (by decide)

/-! ### The ports -/

/-- No duplicate is reported exactly when there is none. -/
theorem duplicateNames_eq_nil {pathPrefix : String} :
    ∀ {names : List String} {seen : List (String × ℕ)} {index : ℕ}, (∀ p ∈ seen, p.2 < index) →
      (duplicateNames pathPrefix seen index names = [] ↔
        names.Nodup ∧ ∀ name ∈ names, ∀ p ∈ seen, p.1 ≠ name)
  | [], _, _, _ => by simp [duplicateNames]
  | name :: names, seen, index, hseen => by
    rw [duplicateNames, List.nodup_cons, List.forall_mem_cons]
    rcases setdefault_cases seen name index with ⟨w, hw, hset⟩ | ⟨hnew, hset⟩
    · have hne : w ≠ index := Nat.ne_of_lt (hseen _ hw)
      rw [hset]
      simp only [if_pos hne, List.append_eq_nil_iff, List.cons_ne_nil, false_and, false_iff]
      exact fun h => h.2.1 _ hw rfl
    · have hseen' : ∀ p ∈ (name, index) :: seen, p.2 < index + 1 :=
        List.forall_mem_cons.mpr ⟨Nat.lt_succ_self _, fun p hp => Nat.lt_succ_of_lt (hseen p hp)⟩
      rw [hset]
      simp only [ne_eq, not_true_eq_false, if_false, List.nil_append]
      rw [duplicateNames_eq_nil hseen']
      simp only [List.forall_mem_cons]
      refine ⟨fun ⟨hnodup, h⟩ => ⟨⟨fun hmem => (h name hmem).1 rfl, hnodup⟩, hnew, fun n hn => (h n hn).2⟩,
        fun ⟨⟨hmem, hnodup⟩, _, h⟩ => ⟨hnodup, fun n hn => ⟨?_, h n hn⟩⟩⟩
      rintro rfl
      exact hmem hn

theorem duplicateNames_nil_iff {pathPrefix : String} {names : List String} :
    duplicateNames pathPrefix [] 0 names = [] ↔ names.Nodup := by
  rw [duplicateNames_eq_nil (by simp)]
  simp

/-- A role that occurs once has one port. -/
theorem find?_role {ports : List DpdkPortModel} {role : PortRole}
    (h : (ports.map DpdkPortModel.role).count role = 1) :
    ∃ port ∈ ports, port.role = role ∧ ports.find? (fun p => p.role = role) = some port ∧
      ∀ p ∈ ports, p.role = role → p = port := by
  have hlen : (ports.filter fun p => p.role = role).length = 1 := by
    rw [← h, List.count_eq_countP, List.countP_map, List.countP_eq_length_filter]
    congr 1
  obtain ⟨port, hfilter⟩ := List.length_eq_one_iff.mp hlen
  have hport : ∀ p, p ∈ ports ∧ p.role = role ↔ p = port := by
    intro p
    have hmem : p ∈ ports.filter (fun p => p.role = role) ↔ p ∈ ports ∧ p.role = role := by simp
    rw [← hmem, hfilter, List.mem_singleton]
  refine ⟨port, ((hport port).mpr rfl).1, ((hport port).mpr rfl).2, ?_, fun p hp hr => (hport p).mp ⟨hp, hr⟩⟩
  rw [← List.head?_filter, hfilter]
  rfl

/-- **An accepted topology has one ingress and one egress port, with different
names.** -/
theorem Clean.ports_roles {py : Interpreter} {config : TopologyConfigModel}
    {effective : EffectiveDpdkRuntimeModel} (h : Clean py config effective) :
    (∀ role, (config.dpdkPorts.map DpdkPortModel.role).count role = 1) ∧
      (config.dpdkPorts.map fun port => port.name.1).Nodup := by
  have hports := h.ports
  simp only [collectDpdkPortIssues, collectDuplicateNames, List.append_eq_nil_iff] at hports
  obtain ⟨⟨hnames, hroles⟩, -⟩ := hports
  have hboth : ¬ ((config.dpdkPorts.map DpdkPortModel.role).count .ingress ≠ 1 ∨
      (config.dpdkPorts.map DpdkPortModel.role).count .egress ≠ 1) := by
    intro hne
    rw [if_pos hne] at hroles
    cases hroles
  rw [not_or, not_not, not_not] at hboth
  refine ⟨fun role => ?_, duplicateNames_nil_iff.mp hnames⟩
  cases role with
  | ingress => exact hboth.1
  | egress => exact hboth.2

end Ctrld
end Pktlab
