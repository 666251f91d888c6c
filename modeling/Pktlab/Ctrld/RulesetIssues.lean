/-
# The issues of a ruleset, embedded and standalone

`validate_ruleset` and `validate_topology_config` (`config/validation.py`)
collect the issues of a ruleset with one helper. The second passes the prefix
`rules`, from which every path below is built, so its issues are those of the
first with `rules.` before their paths (`ruleLoop_prefixed`); and every other
collector names another section of the topology in the paths of its issues
(`Under`), so the reported issues of the rules are those whose path begins
with `rules.`.

Key definitions: `RulesetModel.Valid`, `ValidationIssue.under`, `Under`,
`reported`.
Key theorems: `validateRuleset_returns_iff`, `collectRulesetIssues_prefixed`,
`embedded_issues`, `ruleset_validation_exact`.
-/
import Pktlab.Ctrld.SilentRuntime
import Pktlab.Ctrld.TopologyRuns

namespace Pktlab
namespace Ctrld

open Python

/-! ### When a ruleset is valid -/

/-- A ruleset that is in order by itself and, when port names are given, names
only these. -/
structure RulesetModel.Valid (py : Interpreter) (allowedPortNames : Option (Finset String))
    (ruleset : RulesetModel) : Prop where
  ids : (ruleset.entries.map RuleModel.id).Nodup
  patterns : ∀ rule ∈ ruleset.entries, rule.pattern.Acceptable py
  defaultAction : ∀ allowed ∈ allowedPortNames, ∀ port ∈ ruleset.defaultAction.port, port ∈ allowed
  actions : ∀ allowed ∈ allowedPortNames, ∀ rule ∈ ruleset.entries, ∀ port ∈ rule.action.port,
    port ∈ allowed

theorem raiseIssues_returns {α : Type} {message : String} {code : ErrorCode}
    {x : Except Exc (List ValidationIssue)} {a : α} :
    Returns (raiseIssues message code (x.map fun issues => (issues, a))) ↔ x = .ok [] := by
  cases x with
  | error e => simp [raiseIssues, Except.map]
  | ok issues =>
    cases issues with
    | nil => simp [raiseIssues, Except.map]
    | cons issue issues => simp [raiseIssues, Except.map]

/-- **The standalone check.** -/
theorem validateRuleset_returns_iff (py : Interpreter) (ruleset : RulesetModel)
    (allowedPortNames : Option (Finset String)) :
    Returns (validateRuleset py ruleset allowedPortNames) ↔ ruleset.Valid py allowedPortNames := by
  unfold validateRuleset
  rw [raiseIssues_returns, collectRulesetIssues_eq_nil]
  constructor
  · rintro ⟨hdefault, hids, hrules⟩
    exact ⟨hids, fun rule hrule => (hrules rule hrule).1, hdefault,
      fun allowed hallowed rule hrule => (hrules rule hrule).2 allowed hallowed⟩
  · intro h
    exact ⟨h.defaultAction, h.ids, fun rule hrule => ⟨h.patterns rule hrule,
      fun allowed hallowed => h.actions allowed hallowed rule hrule⟩⟩

/-! ### The prefix -/

/-- The issue under a prefix. -/
def ValidationIssue.under (pathPrefix : String) (issue : ValidationIssue) : ValidationIssue :=
  { issue with path := pathPrefix ++ issue.path }

theorem map_under_ite {p : Prop} [Decidable p] {pathPrefix path code : String} {message : Str} :
    (if p then [(⟨path, code, message⟩ : ValidationIssue)] else []).map
        (ValidationIssue.under pathPrefix) =
      if p then [(⟨pathPrefix ++ path, code, message⟩ : ValidationIssue)] else [] := by
  split <;> rfl

theorem parseIp_under {α : Type} (parse : String → IpResult α) (code kind family value pathPrefix path : String) :
    (parseIp parse code kind family value (pathPrefix ++ path)).1 =
      (parseIp parse code kind family value path).1.map (.under pathPrefix) := by
  unfold parseIp
  cases parse value <;> rfl

theorem parseAddress_under (py : Interpreter) (value : Option String) (pathPrefix path : String) :
    (parseAddress py value (pathPrefix ++ path) true).1 =
      (parseAddress py value path true).1.map (.under pathPrefix) := by
  cases value with
  | none => rfl
  | some value => exact parseIp_under ..

theorem parseNetwork_under (py : Interpreter) (value : Option String) (pathPrefix path : String) :
    (parseNetwork py value (pathPrefix ++ path) true).1 =
      (parseNetwork py value path true).1.map (.under pathPrefix) := by
  cases value with
  | none => rfl
  | some value => exact parseIp_under ..

theorem validateRuleMatch_under (py : Interpreter) (m : RuleMatchModel) (pathPrefix path : String) :
    validateRuleMatch py m (pathPrefix ++ path) =
      (validateRuleMatch py m path).map (.under pathPrefix) := by
  simp only [validateRuleMatch, List.map_append, map_under_ite, ← parseAddress_under,
    ← parseNetwork_under, toString, String.append_assoc]

theorem validateRuleAction_under (action : RuleActionModel) (pathPrefix path : String)
    (ports : Option (Finset String)) :
    validateRuleAction action (pathPrefix ++ path) ports =
      (validateRuleAction action path ports).map (.under pathPrefix) := by
  unfold validateRuleAction
  cases action.port with
  | none => rfl
  | some port =>
    cases ports with
    | none => rfl
    | some allowed => simp only [map_under_ite, toString, String.append_assoc]

theorem pathWithPrefix_rules (suffix : String) :
    pathWithPrefix (some "rules") suffix = "rules." ++ pathWithPrefix none suffix := by
  have hdot : "rules." = "rules" ++ "." := rfl
  rw [hdot]
  rfl

/-- **The rules** are reported alike, with the prefix and without. -/
theorem ruleLoop_prefixed (py : Interpreter) (ports : Option (Finset String)) :
    ∀ (seenIds : List (ℕ × ℕ)) (index : ℕ) (rules : List RuleModel),
      ruleLoop py (some "rules") ports seenIds index rules =
        (ruleLoop py none ports seenIds index rules).map (List.map (ValidationIssue.under "rules."))
  | _, _, [] => rfl
  | seenIds, index, rule :: rules => by
    rw [ruleLoop, ruleLoop]
    simp only [pathWithPrefix_rules, toString, String.append_assoc, validateRuleMatch_under,
      validateRuleAction_under, ruleLoop_prefixed py ports _ _ rules]
    -- the duplicate's report first, then the rest of the rules
    by_cases hduplicate : (setdefault seenIds rule.id index).2 ≠ index
    · simp only [if_pos hduplicate]
      cases str rule.id with
      | error e => rfl
      | ok id =>
        cases ruleLoop py none ports (setdefault seenIds rule.id index).1 (index + 1) rules with
        | error e => rfl
        | ok rest => simp [bind, Except.bind, Except.map, ValidationIssue.under]
    · simp only [if_neg hduplicate]
      cases ruleLoop py none ports (setdefault seenIds rule.id index).1 (index + 1) rules with
      | error e => rfl
      | ok rest => simp [bind, Except.bind, Except.map]

/-- **The ruleset** is reported alike, with the prefix and without. -/
theorem collectRulesetIssues_prefixed (py : Interpreter) (ruleset : RulesetModel)
    (ports : Option (Finset String)) :
    collectRulesetIssues py ruleset (some "rules") ports =
      (collectRulesetIssues py ruleset none ports).map (List.map (ValidationIssue.under "rules.")) := by
  unfold collectRulesetIssues
  rw [ruleLoop_prefixed, pathWithPrefix_rules, validateRuleAction_under]
  cases ruleLoop py none ports [] 0 ruleset.entries with
  | error e => rfl
  | ok issues => simp [Except.map]

/-! ### The paths of the other collectors -/

/-- A path that begins with `top`. -/
def Starts (top path : String) : Prop := top.toList <+: path.toList

instance (top path : String) : Decidable (Starts top path) :=
  inferInstanceAs (Decidable (_ <+: _))

theorem starts_append {top head rest : String} (h : Starts top head) : Starts top (head ++ rest) := by
  unfold Starts
  rw [String.toList_append]
  exact h.trans (List.prefix_append _ _)

theorem starts_refl (top : String) : Starts top top := List.prefix_rfl

/-- Paths that begin apart are different. -/
theorem Starts.apart {top top' path : String} (h : Starts top path) (h' : ¬Starts top' top)
    (h'' : ¬Starts top top') : ¬Starts top' path := fun hstarts =>
  (List.prefix_or_prefix_of_prefix hstarts h).elim h' h''

/-- Every issue names the section `top` in its path. -/
def Under (top : String) (issues : List ValidationIssue) : Prop :=
  ∀ issue ∈ issues, Starts top issue.path

section Under

variable {top : String}

theorem under_nil : Under top [] := fun _ h => absurd h List.not_mem_nil

theorem under_cons {path code : String} {message : Str} {issues : List ValidationIssue} (h : Starts top path)
    (hissues : Under top issues) : Under top (⟨path, code, message⟩ :: issues) :=
  List.forall_mem_cons.mpr ⟨h, hissues⟩

theorem under_singleton {path code : String} {message : Str} (h : Starts top path) :
    Under top [⟨path, code, message⟩] := under_cons h under_nil

theorem under_append {issues issues' : List ValidationIssue} (h : Under top issues)
    (h' : Under top issues') : Under top (issues ++ issues') := fun issue hissue =>
  (List.mem_append.mp hissue).elim (h issue) (h' issue)

theorem under_ite {p : Prop} [Decidable p] {path code : String} {message : Str} (h : Starts top path) :
    Under top (if p then [⟨path, code, message⟩] else []) := by
  split
  · exact under_singleton h
  · exact under_nil

theorem under_flatMap {α : Type} {items : List α} {f : α → List ValidationIssue}
    (h : ∀ item, Under top (f item)) : Under top (items.flatMap f) := fun issue hissue => by
  obtain ⟨item, -, hmem⟩ := List.mem_flatMap.mp hissue
  exact h item issue hmem

theorem duplicateNames_under : ∀ (seen : List (String × ℕ)) (index : ℕ) (names : List String),
    Under top (duplicateNames top seen index names)
  | _, _, [] => under_nil
  | _, _, _ :: names =>
    under_append (under_ite (starts_append (starts_append (starts_append (starts_refl top)))))
      (duplicateNames_under _ _ names)

theorem collectDuplicateNames_under (names : List String) :
    Under top (collectDuplicateNames names top).1 := duplicateNames_under _ _ _

theorem parseInterfaceRef_under (value : String) {path : String} (h : Starts top path) :
    Under top (parseInterfaceRef value path).1 := by
  unfold parseInterfaceRef
  split
  · exact under_nil
  · exact under_singleton h

theorem parseIp_top {α : Type} (parse : String → IpResult α) (code kind family value : String)
    {path : String} (h : Starts top path) : Under top (parseIp parse code kind family value path).1 := by
  unfold parseIp
  cases parse value with
  | invalid => exact under_singleton h
  | v6 => exact under_singleton h
  | v4 a => exact under_nil

theorem parseInterfaceAddress_top (py : Interpreter) (value : Option String) {path : String}
    (h : Starts top path) : Under top (parseInterfaceAddress py value path).1 := by
  cases value with
  | none => exact under_nil
  | some value => exact parseIp_top _ _ _ _ value h

theorem parseAddress_top (py : Interpreter) (value : String) {path : String} (optional : Bool)
    (h : Starts top path) : Under top (parseAddress py (some value) path optional).1 :=
  parseIp_top _ _ _ _ value h

theorem parseNetwork_top (py : Interpreter) (value : String) {path : String} (optional : Bool)
    (h : Starts top path) : Under top (parseNetwork py (some value) path optional).1 :=
  parseIp_top _ _ _ _ value h

end Under

/-- The path of an entry of a section. -/
theorem starts_entry {top head : String} (index : ℕ) (rest : String) (h : Starts top head) :
    Starts top (toString head ++ toString index ++ toString rest) :=
  starts_append (starts_append h)

/-- The path of a link. -/
theorem starts_links (index : ℕ) (rest : String) :
    Starts "links" (toString "links[" ++ toString index ++ toString rest) := starts_entry index rest (by decide)

section Links

variable (py : Interpreter) (N : Finset String)

theorem linkEndpoint_under (index : ℕ) {path : String} (ref : Option (String × String)) (t : LinkTables)
    (h : Starts "links" path) : Under "links" (linkEndpoint N index path ref t).1 := by
  unfold linkEndpoint
  cases ref with
  | none => exact under_nil
  | some ref =>
    simp only
    split
    · exact under_singleton h
    · exact under_ite h

theorem linkAddressing_under (index : ℕ) (link : LinkModel) (aRef bRef : Option (String × String))
    (t : LinkTables) : Under "links" (linkAddressing py N index link aRef bRef t).1 := by
  have hentry := starts_links index
  unfold linkAddressing
  cases link.ipA with
  | none =>
    cases link.ipB with
    | none => exact under_nil
    | some ipB => exact under_singleton (hentry _)
  | some ipA =>
    cases link.ipB with
    | none => exact under_singleton (hentry _)
    | some ipB =>
      have hboth := under_append (parseInterfaceAddress_top py (some ipA) (hentry "].ip_a"))
        (parseInterfaceAddress_top py (some ipB) (hentry "].ip_b"))
      simp only
      split
      · split
        · exact under_append hboth (under_singleton (hentry _))
        · exact hboth
      · exact hboth

theorem linkIssues_under (index : ℕ) (link : LinkModel) (t : LinkTables) :
    Under "links" (linkIssues py N index link t).1 := by
  have hentry := starts_links index
  unfold linkIssues
  have hrefs := under_append (parseInterfaceRef_under link.a.1 (hentry "].a"))
    (parseInterfaceRef_under link.b.1 (hentry "].b"))
  exact under_append (under_append (under_append (under_append hrefs (under_ite (hentry _)))
    (linkEndpoint_under N index _ _ (hentry "].a"))) (linkEndpoint_under N index _ _ (hentry "].b")))
    (linkAddressing_under py N index link _ _ _)

theorem linkLoop_under : ∀ (index : ℕ) (links : List LinkModel) (t : LinkTables),
    Under "links" (linkLoop py N index links t).1
  | _, [], _ => under_nil
  | index, link :: links, t =>
    under_append (linkIssues_under py N index link t) (linkLoop_under (index + 1) links _)

theorem collectLinkIssues_under (config : TopologyConfigModel) :
    Under "links" (collectLinkIssues py config N).1 :=
  under_append (collectDuplicateNames_under _) (linkLoop_under py N 0 config.links _)

theorem portIssues_under (dpdkNamespace : String) (index : ℕ) (port : DpdkPortModel)
    (interfaces : Finset (String × String)) :
    Under "dpdk_ports" (portIssues N dpdkNamespace index port interfaces).1 := by
  have hentry : ∀ rest : String,
      Starts "dpdk_ports" (toString "dpdk_ports[" ++ toString index ++ toString rest) :=
    fun rest => starts_entry index rest (by decide)
  unfold portIssues
  split
  · exact under_singleton (hentry _)
  · simp only
    split
    · exact under_append (under_ite (hentry _)) (under_singleton (hentry _))
    · exact under_ite (hentry _)

theorem portLoop_under (dpdkNamespace : String) :
    ∀ (index : ℕ) (ports : List DpdkPortModel) (interfaces : Finset (String × String)),
      Under "dpdk_ports" (portLoop N dpdkNamespace index ports interfaces).1
  | _, [], _ => under_nil
  | index, port :: ports, interfaces =>
    under_append (portIssues_under N dpdkNamespace index port interfaces)
      (portLoop_under dpdkNamespace (index + 1) ports _)

theorem collectDpdkPortIssues_under (config : TopologyConfigModel) (dpdkNamespace : String)
    (interfaces : Finset (String × String)) :
    Under "dpdk_ports" (collectDpdkPortIssues config N dpdkNamespace interfaces).1 :=
  under_append (under_append (collectDuplicateNames_under _) (under_ite (starts_refl _)))
    (portLoop_under N dpdkNamespace 0 config.dpdkPorts interfaces)

theorem routeIssues_under (networks : List (String × IPv4Network)) (index : ℕ) (route : RouteModel) :
    Under "routes" (routeIssues py N networks index route) := by
  have hentry : ∀ rest : String, Starts "routes" (toString "routes[" ++ toString index ++ toString rest) :=
    fun rest => starts_entry index rest (by decide)
  unfold routeIssues
  split
  · exact under_singleton (hentry _)
  · refine under_append (under_append (parseNetwork_top py _ false (hentry _))
      (parseAddress_top py _ false (hentry _))) ?_
    split
    · exact under_nil
    · split
      · exact under_singleton (hentry _)
      · split
        · exact under_nil
        · exact under_singleton (hentry _)

theorem capturePointIssues_under (interfaces : Finset (String × String)) (index : ℕ)
    (point : CapturePointModel) : Under "capture_points" (capturePointIssues N interfaces index point) := by
  have hentry : ∀ rest : String,
      Starts "capture_points" (toString "capture_points[" ++ toString index ++ toString rest) :=
    fun rest => starts_entry index rest (by decide)
  unfold capturePointIssues
  split
  · exact under_singleton (hentry _)
  · exact under_ite (hentry _)

theorem collectBridgeSideInterfaceIssues_under (dpdkNamespace : String)
    (interfaces : Finset (String × String)) :
    Under "links" (collectBridgeSideInterfaceIssues dpdkNamespace interfaces) :=
  under_flatMap fun _ => under_ite (starts_refl _)

end Links

section Runtime

variable {top : String} {issues : List ValidationIssue}

theorem parseLcoreSpec_under {py : Interpreter} {value : Str} {path : String} {ids : List ℕ}
    (hpath : Starts top path) (h : parseLcoreSpec py value path = .ok (issues, ids)) :
    Under top issues := by
  rcases parseLcoreSpec_issues h with rfl | ⟨code, message, rfl⟩
  · exact under_nil
  · exact under_singleton hpath

theorem limitIssue_under {path code : String} {value limit : ℕ} {message : String → String}
    (hpath : Starts top path) (h : limitIssue path code value limit message = .ok issues) :
    Under top issues := by
  unfold limitIssue at h
  split at h
  · cases hstr : str value with
    | error e =>
      rw [hstr] at h
      cases h
    | ok text =>
      rw [hstr] at h
      cases h
      exact under_singleton hpath
  · cases h
    exact under_nil

/-- A report of the runtime's sizes, under the prefix it is given. -/
theorem starts_field {pathPrefix : String} (field : String) :
    Starts pathPrefix (toString pathPrefix ++ toString field) := starts_append (starts_refl _)

variable {pathPrefix : String} {requested : DpdkProcessConfigModel} {portCount : ℕ}

theorem queueIssues_under (h : queueIssues pathPrefix requested = .ok issues) :
    Under pathPrefix issues := by
  unfold queueIssues at h
  obtain ⟨issuesRx, hrx, h⟩ := bind_eq_ok.mp h
  obtain ⟨issuesTx, htx, h⟩ := bind_eq_ok.mp h
  obtain ⟨issuesBurst, hburst, h⟩ := bind_eq_ok.mp h
  cases h
  exact under_append (under_append (under_append (limitIssue_under (starts_field _) hrx)
    (limitIssue_under (starts_field _) htx)) (limitIssue_under (starts_field _) hburst))
    (under_ite (starts_field _))

theorem undersizedMempool_under {mempoolSize recommended : ℕ}
    (h : undersizedMempool pathPrefix mempoolSize portCount recommended = .ok issues) :
    Under pathPrefix issues := by
  unfold undersizedMempool at h
  split at h
  · obtain ⟨m, -, h⟩ := bind_eq_ok.mp h
    obtain ⟨p, -, h⟩ := bind_eq_ok.mp h
    obtain ⟨r, -, h⟩ := bind_eq_ok.mp h
    cases h
    exact under_singleton (starts_field _)
  · cases h
    exact under_nil

theorem mempoolIssues_under (h : mempoolIssues pathPrefix requested portCount = .ok issues) :
    Under pathPrefix issues := by
  unfold mempoolIssues at h
  obtain ⟨issuesSmall, hsmall, h⟩ := bind_eq_ok.mp h
  obtain ⟨issuesLarge, hlarge, h⟩ := bind_eq_ok.mp h
  cases h
  exact under_append (undersizedMempool_under hsmall) (limitIssue_under (starts_field _) hlarge)

theorem undersizedHugepages_under {hugepagesMb recommended : ℕ}
    (h : undersizedHugepages pathPrefix hugepagesMb recommended = .ok issues) :
    Under pathPrefix issues := by
  unfold undersizedHugepages at h
  split at h
  · obtain ⟨n, -, h⟩ := bind_eq_ok.mp h
    obtain ⟨r, -, h⟩ := bind_eq_ok.mp h
    cases h
    exact under_singleton (starts_field _)
  · cases h
    exact under_nil

theorem hugepagesIssues_under {hugepagesMb recommended : ℕ}
    (h : hugepagesIssues pathPrefix hugepagesMb recommended = .ok issues) :
    Under pathPrefix issues := by
  unfold hugepagesIssues at h
  obtain ⟨issuesSmall, hsmall, h⟩ := bind_eq_ok.mp h
  obtain ⟨issuesLarge, hlarge, h⟩ := bind_eq_ok.mp h
  cases h
  exact under_append (under_append (under_ite (starts_field _)) (undersizedHugepages_under hsmall))
    (limitIssue_under (starts_field _) hlarge)

theorem deriveEffectiveDpdkRuntimeInto_under {py : Interpreter} {effective : EffectiveDpdkRuntimeModel}
    (h : deriveEffectiveDpdkRuntimeInto pathPrefix requested py portCount = .ok (issues, effective)) :
    Under pathPrefix issues := by
  unfold deriveEffectiveDpdkRuntimeInto at h
  obtain ⟨⟨issuesLcores, ids⟩, hlcores, h⟩ := bind_eq_ok.mp h
  obtain ⟨issuesQueues, hqueues, h⟩ := bind_eq_ok.mp h
  obtain ⟨issuesMempool, hmempool, h⟩ := bind_eq_ok.mp h
  obtain ⟨recommended, -, h⟩ := bind_eq_ok.mp h
  obtain ⟨issuesHugepages, hhugepages, h⟩ := bind_eq_ok.mp h
  obtain ⟨made, -, h⟩ := bind_eq_ok.mp h
  cases h
  exact under_append (under_append (under_append (under_append
    (parseLcoreSpec_under (starts_field _) hlcores) (under_ite (starts_field _)))
    (queueIssues_under hqueues)) (mempoolIssues_under hmempool)) (hugepagesIssues_under hhugepages)

end Runtime

/-! ### The two entry points -/

/-- The issues a call reports, when it reaches the check of its issues. -/
def reported {α : Type} : Except Raised α → Option (List ValidationIssue)
  | .ok _ => some []
  | .error (.validationError _ _ issues) => some issues
  | .error (.escaped _) => none

theorem map_eq_ok {ε α β : Type} {x : Except ε α} {f : α → β} {b : β} :
    x.map f = .ok b ↔ ∃ a, x = .ok a ∧ f a = b := by
  cases x <;> simp [Except.map]

theorem reported_raiseIssues {α : Type} {message : String} {code : ErrorCode}
    {r : Except Exc (List ValidationIssue × α)} {issues : List ValidationIssue} :
    reported (raiseIssues message code r) = some issues ↔ ∃ a, r = .ok (issues, a) := by
  rcases r with e | ⟨issues', a⟩
  · simp [raiseIssues, reported]
  · cases issues' with
    | nil => simp [raiseIssues, reported, eq_comm]
    | cons issue rest => simp [raiseIssues, reported]

/-- No issue is about the rules. -/
def Elsewhere (issues : List ValidationIssue) : Prop :=
  ∀ issue ∈ issues, ¬Starts "rules." issue.path

theorem Under.elsewhere {top : String} {issues : List ValidationIssue} (h : Under top issues)
    (h' : ¬Starts "rules." top) (h'' : ¬Starts top "rules.") : Elsewhere issues :=
  fun issue hissue => (h issue hissue).apart h' h''

theorem Elsewhere.append {issues issues' : List ValidationIssue} (h : Elsewhere issues)
    (h' : Elsewhere issues') : Elsewhere (issues ++ issues') := fun issue hissue =>
  (List.mem_append.mp hissue).elim (h issue) (h' issue)

theorem Elsewhere.filter {issues : List ValidationIssue} (h : Elsewhere issues) :
    (issues.filter fun issue => Starts "rules." issue.path) = [] :=
  List.filter_eq_nil_iff.mpr fun issue hissue => by simpa using h issue hissue

/-- The issues of the rules are found between the others. -/
theorem filter_starts {before after : List ValidationIssue} (issues : List ValidationIssue)
    (hbefore : Elsewhere before) (hafter : Elsewhere after) :
    ((before ++ issues.map (ValidationIssue.under "rules.") ++ after).filter fun issue =>
      Starts "rules." issue.path) = issues.map (ValidationIssue.under "rules.") := by
  have hself : ((issues.map (ValidationIssue.under "rules.")).filter fun issue =>
      Starts "rules." issue.path) = issues.map (ValidationIssue.under "rules.") := by
    refine List.filter_eq_self.mpr fun issue hissue => ?_
    obtain ⟨inner, -, rfl⟩ := List.mem_map.mp hissue
    exact decide_eq_true (starts_append (starts_refl _))
  rw [List.filter_append, List.filter_append, hbefore.filter, hafter.filter, hself, List.nil_append,
    List.append_nil]

/-- **The embedded rules.** Of the issues of a topology, those about the rules
are the standalone ones, in their order, with the prefix. -/
theorem embedded_issues {py : Interpreter} {config : TopologyConfigModel} {issues : List ValidationIssue}
    (h : reported (validateTopologyConfig py config) = some issues) :
    ∃ standalone,
      reported (validateRuleset py config.rules (some config.dpdkPortNames)) = some standalone ∧
      (issues.filter fun issue => Starts "rules." issue.path) =
        standalone.map (ValidationIssue.under "rules.") := by
  obtain ⟨v, h⟩ := reported_raiseIssues.mp h
  obtain ⟨issuesRules, hrules, h⟩ := bind_eq_ok.mp h
  obtain ⟨⟨issuesRuntime, effective⟩, hruntime, h⟩ := bind_eq_ok.mp h
  change collectRulesetIssues py config.rules (some "rules") (some config.dpdkPortNames) = _ at hrules
  rw [collectRulesetIssues_prefixed] at hrules
  obtain ⟨standalone, hstandalone, rfl⟩ := map_eq_ok.mp hrules
  refine ⟨standalone, reported_raiseIssues.mpr ⟨_, by rw [hstandalone]; rfl⟩, ?_⟩
  cases h
  have hroutes : ∀ N networks, Under "routes" (collectRouteIssues py config N networks) :=
    fun N networks => under_flatMap fun _ => routeIssues_under py N networks _ _
  have hcapture : ∀ N interfaces, Under "capture_points" (collectCapturePointIssues config N interfaces) :=
    fun N interfaces => under_append (collectDuplicateNames_under _)
      (under_flatMap fun _ => capturePointIssues_under N interfaces _ _)
  refine filter_starts standalone ?_
    ((deriveEffectiveDpdkRuntimeInto_under hruntime).elsewhere (by decide) (by decide))
  refine .append (.append (.append (.append (.append (.append ?_ ?_) ?_) ?_) ?_) ?_) ?_
  · have hnames : ∀ names, Under "namespaces" (duplicateNames "namespaces" [] 0 names) :=
      fun names => duplicateNames_under _ _ names
    exact (hnames _).elsewhere (by decide) (by decide)
  · have hnamespace : Starts "processes.dpdkd" "processes.dpdkd.namespace" := by decide
    exact (under_ite hnamespace).elsewhere (by decide) (by decide)
  · exact (collectLinkIssues_under py _ config).elsewhere (by decide) (by decide)
  · exact (collectDpdkPortIssues_under _ config _ _).elsewhere (by decide) (by decide)
  · exact (hroutes _ _).elsewhere (by decide) (by decide)
  · exact (hcapture _ _).elsewhere (by decide) (by decide)
  · exact (collectBridgeSideInterfaceIssues_under _ _).elsewhere (by decide) (by decide)

/-- **Exact ruleset validation.** A ruleset passes by itself exactly when it
is valid; and in a topology whose validation reaches the check of its issues,
the rules are reported as they would be by themselves, for the topology's
ports, with `rules.` before the paths. -/
theorem ruleset_validation_exact (py : Interpreter) :
    (∀ (ruleset : RulesetModel) (allowedPortNames : Option (Finset String)),
      (∃ v, validateRuleset py ruleset allowedPortNames = .ok v) ↔ ruleset.Valid py allowedPortNames) ∧
    ∀ (config : TopologyConfigModel) (issues : List ValidationIssue),
      reported (validateTopologyConfig py config) = some issues →
      ∃ standalone,
        reported (validateRuleset py config.rules (some config.dpdkPortNames)) = some standalone ∧
        (issues.filter fun issue => Starts "rules." issue.path) =
          standalone.map (ValidationIssue.under "rules.") :=
  ⟨validateRuleset_returns_iff py, fun _ _ => embedded_issues⟩

theorem missingPort_ne : "dtap9" ≠ "" := by decide

/-- The plain lab, forwarding to a port it does not have. -/
def misroutedLab : TopologyConfigModel :=
  { plainLab with rules := ⟨1, ⟨.forward, some "dtap9", "dtap9", rfl, missingPort_ne⟩, []⟩ }

/-- What is reported of it. -/
def misrouted (path : String) : ValidationIssue :=
  ⟨path, "unknown_port", "port 'dtap9' is not declared in dpdk_ports"⟩

theorem ruleset_validation_exact_misrouted :
    reported (validateTopologyConfig asciiInterpreter misroutedLab) =
      some [misrouted "rules.default_action.port"] ∧
    ∃ standalone,
      reported (validateRuleset asciiInterpreter misroutedLab.rules (some misroutedLab.dpdkPortNames)) =
        some standalone ∧
      standalone.map (ValidationIssue.under "rules.") = [misrouted "rules.default_action.port"] := by
  have htopology : reported (validateTopologyConfig asciiInterpreter misroutedLab) =
      some [misrouted "rules.default_action.port"] := by decide +kernel
  obtain ⟨standalone, hstandalone, hpaths⟩ :=
    (ruleset_validation_exact asciiInterpreter).2 misroutedLab _ htopology
  exact ⟨htopology, standalone, hstandalone, hpaths.symm.trans (by decide)⟩

end Ctrld
end Pktlab
