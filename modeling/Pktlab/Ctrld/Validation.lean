/-
# Validation of a topology

`pktlab_ctrld/config/validation.py`. A collector of the source appends to a
list of issues; here it returns the issues it appends, in order, with what else
it computes. What can raise is in `Except Exc`: an integer too long to format,
`int` of a string it cannot read, a list that outgrows memory, a quotient too
large for a float, a constraint of `EffectiveDpdkRuntimeModel`. The typed
`ValidationError` is raised in one place, `raiseIssues`, after all issues are
collected.

The dictionary from namespaces to sets of interfaces is the set of its pairs,
and the one from namespaces to lists of networks is the list of its pairs: the
source reads the first only under declared namespaces, which are its keys, and
the second is a `defaultdict`.

Key definitions: `Interpreter`, `Exc`, `Raised`, `validateTopologyConfig`,
`deriveEffectiveDpdkRuntime`, `validateRuleset`, `parseLcoreSpec`.
-/
import Mathlib.Data.Finset.Basic
import Pktlab.Ctrld.Types
import Pktlab.Lib.Python

namespace Pktlab
namespace Ctrld

open Python

/-- What validation asks of the interpreter it runs on. -/
structure Interpreter where
  digits : DigitTable
  /-- the number of elements a list can grow to -/
  listCap : ℕ
  listCap_lt : listCap < 2 ^ 63
  ipAddress : String → IpResult IPv4Address
  ipInterface : String → IpResult IPv4Interface
  ipNetwork : String → IpResult IPv4Network

/-- `ErrorCode`, as far as validation and the topology manager use it. -/
inductive ErrorCode
  | ruleValidationError
  | topologyValidationError
  | topologyApplyError
  | topologyDestroyError
  | processError
  | timeout
  deriving DecidableEq, Repr

/-- `ValidationIssue`. -/
structure ValidationIssue where
  path : String
  code : String
  message : Str
  deriving DecidableEq, Repr

/-- The exceptions that nothing in validation catches. -/
inductive Exc
  | pydanticValidationError (fields : List String)
  | valueError
  | overflowError
  | memoryError
  deriving DecidableEq, Repr

/-- How a call of the validator can end other than by returning. -/
inductive Raised
  | validationError (message : String) (code : ErrorCode) (issues : List ValidationIssue)
  | escaped (exc : Exc)
  deriving DecidableEq, Repr

def DEFAULT_LCORES : Str := "1"
def DEFAULT_BURST_SIZE : ℕ := 32
def DEFAULT_RX_QUEUE_SIZE : ℕ := 256
def DEFAULT_TX_QUEUE_SIZE : ℕ := 256
def DEFAULT_HUGEPAGE_SIZE_MB : ℕ := 2
def DEFAULT_HUGEPAGES_FLOOR_MB : ℕ := 256
def MAX_LCORE_COUNT : ℕ := 8
def MAX_BURST_SIZE : ℕ := 256
def MAX_QUEUE_SIZE : ℕ := 4096
def MAX_MEMPOOL_SIZE : ℕ := 65536
def MAX_HUGEPAGES_MB : ℕ := 1024
def MIN_MEMPOOL_SIZE : ℕ := 2048
def MEMPOOL_HEADROOM_FACTOR : ℕ := 4
def MBUF_MEMORY_ESTIMATE_BYTES : ℕ := 4096
def FIXED_RUNTIME_OVERHEAD_MB : ℕ := 64
def INGRESS_BRIDGE_KERNEL_INTERFACE : String := "veth-in-k"
def EGRESS_BRIDGE_KERNEL_INTERFACE : String := "veth-out-k"

/-- An integer in an f-string. -/
def str (n : ℕ) : Except Exc String := (strOfInt n).elim (.error .valueError) .ok

namespace Interpreter

variable (py : Interpreter)

/-- `int(text)`. -/
def int (text : Str) : Except Exc ℕ := (py.digits.intOfStr text).elim (.error .valueError) .ok

/-- `parsed.append(n)`. -/
def append (parsed : List ℕ) (n : ℕ) : Except Exc (List ℕ) :=
  if parsed.length + 1 ≤ py.listCap then .ok (parsed ++ [n]) else .error .memoryError

/-- `parsed.extend(range(start, stop + 1))`: the length of the range has to fit
a `Py_ssize_t` before the list can grow. -/
def extendRange (parsed : List ℕ) (start stop : ℕ) : Except Exc (List ℕ) :=
  if parsed.length + (stop + 1 - start) ≤ py.listCap then
    .ok (parsed ++ List.range' start (stop + 1 - start))
  else if stop + 1 - start < 2 ^ 63 then .error .memoryError
  else .error .overflowError

end Interpreter

/-! ### Names and references -/

/-- The loop of `_collect_duplicate_names`. -/
def duplicateNames (pathPrefix : String) : List (String × ℕ) → ℕ → List String → List ValidationIssue
  | _, _, [] => []
  | seen, index, name :: names =>
    let (seen, firstIndex) := setdefault seen name index
    (if firstIndex ≠ index then
      [⟨s!"{pathPrefix}[{index}].name", "duplicate_name",
        s!"{pathPrefix} name '{name}' duplicates the entry at index {firstIndex}"⟩]
    else []) ++ duplicateNames pathPrefix seen (index + 1) names

/-- `_collect_duplicate_names`, for the names of the items. -/
def collectDuplicateNames (names : List String) (pathPrefix : String) :
    List ValidationIssue × Finset String :=
  (duplicateNames pathPrefix [] 0 names, names.toFinset)

/-- `_parse_interface_ref`. -/
def parseInterfaceRef (value path : String) : List ValidationIssue × Option (String × String) :=
  match splitFirst ':' value.toList with
  | some (c :: cs, d :: ds) => ([], some (String.ofList (c :: cs), String.ofList (d :: ds)))
  | _ => ([⟨path, "invalid_interface_ref",
      "interface references must use the '<namespace>:<interface>' form"⟩], none)

/-- The common body of `_parse_interface_address`, `_parse_address` and
`_parse_network` for a string that is there. -/
def parseIp {α : Type} (parse : String → IpResult α) (code : String) (kind family : String)
    (value path : String) : List ValidationIssue × Option α :=
  match parse value with
  | .invalid => ([⟨path, code, s!"'{value}' is not a valid {kind}"⟩], none)
  | .v6 => ([⟨path, "invalid_address_family", s!"only {family} are supported in the MVP"⟩], none)
  | .v4 a => ([], some a)

/-- `_missing_value_issue`. -/
def missingValueIssue (path label : String) : List ValidationIssue :=
  [⟨path, "missing_value", s!"{label} is required"⟩]

section Ip

variable (py : Interpreter)

/-- `_parse_interface_address`. -/
def parseInterfaceAddress (value : Option String) (path : String) :
    List ValidationIssue × Option IPv4Interface :=
  match value with
  | none => ([], none)
  | some value => parseIp py.ipInterface "invalid_ipv4_interface" "IPv4 interface with prefix length"
      "IPv4 addresses" value path

/-- `_parse_address`. -/
def parseAddress (value : Option String) (path : String) (optional : Bool) :
    List ValidationIssue × Option IPv4Address :=
  match value with
  | none => (if optional then [] else missingValueIssue path "IPv4 address", none)
  | some value => parseIp py.ipAddress "invalid_ipv4_address" "IPv4 address" "IPv4 addresses" value path

/-- `_parse_network`. -/
def parseNetwork (value : Option String) (path : String) (optional : Bool) :
    List ValidationIssue × Option IPv4Network :=
  match value with
  | none => (if optional then [] else missingValueIssue path "IPv4 network with prefix", none)
  | some value => parseIp py.ipNetwork "invalid_ipv4_network" "IPv4 network with prefix length"
      "IPv4 networks" value path

end Ip

/-! ### Links, ports, routes and capture points -/

/-- What `validate_topology_config` fills while it goes over the links. -/
structure LinkTables where
  seenInterfaces : List ((String × String) × ℕ)
  interfaceNames : Finset (String × String)
  connectedNetworks : List (String × IPv4Network)

/-- The body of the inner loop of `_collect_link_issues`, for one endpoint. -/
def linkEndpoint (namespaceNames : Finset String) (index : ℕ) (path : String)
    (ref : Option (String × String)) (t : LinkTables) : List ValidationIssue × LinkTables :=
  match ref with
  | none => ([], t)
  | some (namespaceName, interfaceName) =>
    if namespaceName ∉ namespaceNames then
      ([⟨path, "unknown_namespace", s!"namespace '{namespaceName}' is not declared in namespaces"⟩], t)
    else
      let (seen, previousIndex) := setdefault t.seenInterfaces (namespaceName, interfaceName) index
      (if previousIndex ≠ index then
        [⟨path, "interface_reused",
          s!"interface '{namespaceName}:{interfaceName}' is already used by links[{previousIndex}]"⟩]
      else [],
        { t with
          seenInterfaces := seen
          interfaceNames := insert (namespaceName, interfaceName) t.interfaceNames })

/-- The networks a pair of addressed endpoints connects to. -/
def connectNetwork (namespaceNames : Finset String) (ref : Option (String × String))
    (network : IPv4Network) (t : LinkTables) : LinkTables :=
  match ref with
  | none => t
  | some (namespaceName, _) =>
    if namespaceName ∈ namespaceNames then
      { t with connectedNetworks := t.connectedNetworks ++ [(namespaceName, network)] }
    else t

/-- The part of `_collect_link_issues` about the addresses of a link. -/
def linkAddressing (py : Interpreter) (namespaceNames : Finset String) (index : ℕ) (link : LinkModel)
    (aRef bRef : Option (String × String)) (t : LinkTables) : List ValidationIssue × LinkTables :=
  match link.ipA, link.ipB with
  | none, none => ([], t)
  | some _, none | none, some _ =>
    ([⟨s!"links[{index}]", "incomplete_link_addressing",
      "ip_a and ip_b must either both be provided or both be omitted"⟩], t)
  | some ipA, some ipB =>
    let (issuesA, ifaceA) := parseInterfaceAddress py (some ipA) s!"links[{index}].ip_a"
    let (issuesB, ifaceB) := parseInterfaceAddress py (some ipB) s!"links[{index}].ip_b"
    match ifaceA, ifaceB with
    | some a, some b =>
      if a.network ≠ b.network then
        (issuesA ++ issuesB ++ [⟨s!"links[{index}]", "mismatched_subnets",
          "link endpoint addresses must belong to the same IPv4 network"⟩], t)
      else
        (issuesA ++ issuesB, connectNetwork namespaceNames bRef b.network
          (connectNetwork namespaceNames aRef a.network t))
    | _, _ => (issuesA ++ issuesB, t)

/-- The body of the loop of `_collect_link_issues`. -/
def linkIssues (py : Interpreter) (namespaceNames : Finset String) (index : ℕ) (link : LinkModel)
    (t : LinkTables) : List ValidationIssue × LinkTables :=
  let (issuesA, aRef) := parseInterfaceRef link.a s!"links[{index}].a"
  let (issuesB, bRef) := parseInterfaceRef link.b s!"links[{index}].b"
  let issuesSelf : List ValidationIssue :=
    if aRef.isSome ∧ bRef.isSome ∧ aRef = bRef then
      [⟨s!"links[{index}]", "self_link", "link endpoints must refer to two different interfaces"⟩]
    else []
  let (issuesEndA, t) := linkEndpoint namespaceNames index s!"links[{index}].a" aRef t
  let (issuesEndB, t) := linkEndpoint namespaceNames index s!"links[{index}].b" bRef t
  let (issuesIp, t) := linkAddressing py namespaceNames index link aRef bRef t
  (issuesA ++ issuesB ++ issuesSelf ++ issuesEndA ++ issuesEndB ++ issuesIp, t)

/-- The loop of `_collect_link_issues`. -/
def linkLoop (py : Interpreter) (namespaceNames : Finset String) :
    ℕ → List LinkModel → LinkTables → List ValidationIssue × LinkTables
  | _, [], t => ([], t)
  | index, link :: links, t =>
    let (issues, t) := linkIssues py namespaceNames index link t
    let (rest, t) := linkLoop py namespaceNames (index + 1) links t
    (issues ++ rest, t)

/-- `_collect_link_issues`. -/
def collectLinkIssues (py : Interpreter) (config : TopologyConfigModel) (namespaceNames : Finset String) :
    List ValidationIssue × LinkTables :=
  let (issues, t) := linkLoop py namespaceNames 0 config.links ⟨[], ∅, []⟩
  ((collectDuplicateNames (config.links.map fun link => link.name.1) "links").1 ++ issues, t)

/-- The body of the port loop of `_collect_dpdk_port_issues`. -/
def portIssues (namespaceNames : Finset String) (dpdkNamespace : String) (index : ℕ)
    (port : DpdkPortModel) (interfaces : Finset (String × String)) :
    List ValidationIssue × Finset (String × String) :=
  if port.netns.1 ∉ namespaceNames then
    ([⟨s!"dpdk_ports[{index}].namespace", "unknown_namespace",
      s!"namespace '{port.netns.1}' is not declared in namespaces"⟩], interfaces)
  else
    let mismatch : List ValidationIssue :=
      if port.netns.1 ≠ dpdkNamespace then
        [⟨s!"dpdk_ports[{index}].namespace", "port_namespace_mismatch",
          s!"dpdk port '{port.name.1}' must live in the datapath namespace '{dpdkNamespace}', not '{port.netns.1}'"⟩]
      else []
    if (port.netns.1, port.name.1) ∈ interfaces then
      (mismatch ++ [⟨s!"dpdk_ports[{index}].name", "interface_name_conflict",
        s!"interface name '{port.name.1}' is already used in namespace '{port.netns.1}'"⟩], interfaces)
    else (mismatch, insert (port.netns.1, port.name.1) interfaces)

/-- The port loop of `_collect_dpdk_port_issues`. -/
def portLoop (namespaceNames : Finset String) (dpdkNamespace : String) :
    ℕ → List DpdkPortModel → Finset (String × String) → List ValidationIssue × Finset (String × String)
  | _, [], interfaces => ([], interfaces)
  | index, port :: ports, interfaces =>
    let (issues, interfaces) := portIssues namespaceNames dpdkNamespace index port interfaces
    let (rest, interfaces) := portLoop namespaceNames dpdkNamespace (index + 1) ports interfaces
    (issues ++ rest, interfaces)

/-- `_collect_dpdk_port_issues`, without the port names it returns. -/
def collectDpdkPortIssues (config : TopologyConfigModel) (namespaceNames : Finset String)
    (dpdkNamespace : String) (interfaces : Finset (String × String)) :
    List ValidationIssue × Finset (String × String) :=
  let roles : PortRole → ℕ := fun role => (config.dpdkPorts.map DpdkPortModel.role).count role
  let issuesRoles : List ValidationIssue :=
    if roles .ingress ≠ 1 ∨ roles .egress ≠ 1 then
      [⟨"dpdk_ports", "invalid_port_roles",
        "dpdk_ports must declare exactly one ingress port and one egress port for the MVP"⟩]
    else []
  let (issues, interfaces) := portLoop namespaceNames dpdkNamespace 0 config.dpdkPorts interfaces
  ((collectDuplicateNames (config.dpdkPorts.map fun port => port.name.1) "dpdk_ports").1 ++ issuesRoles ++
    issues, interfaces)

/-- The body of the loop of `_collect_route_issues`. -/
def routeIssues (py : Interpreter) (namespaceNames : Finset String)
    (connectedNetworks : List (String × IPv4Network)) (index : ℕ) (route : RouteModel) :
    List ValidationIssue :=
  if route.netns.1 ∉ namespaceNames then
    [⟨s!"routes[{index}].namespace", "unknown_namespace",
      s!"namespace '{route.netns.1}' is not declared in namespaces"⟩]
  else
    let issuesDst := (parseNetwork py (some route.dst.1) s!"routes[{index}].dst" false).1
    let (issuesVia, via) := parseAddress py (some route.via.1) s!"routes[{index}].via" false
    let networks := (connectedNetworks.filter fun p => p.1 = route.netns.1).map Prod.snd
    issuesDst ++ issuesVia ++
      match via with
      | none => []
      | some via =>
        if networks = [] then
          [⟨s!"routes[{index}]", "unreachable_gateway",
            s!"namespace '{route.netns.1}' has no directly addressed links that can reach route via {route.via.1}"⟩]
        else if networks.any fun network => network.contains via then []
        else
          [⟨s!"routes[{index}].via", "unreachable_gateway",
            s!"gateway '{route.via.1}' is not reachable from any addressed link in namespace '{route.netns.1}'"⟩]

/-- `_collect_route_issues`. -/
def collectRouteIssues (py : Interpreter) (config : TopologyConfigModel) (namespaceNames : Finset String)
    (connectedNetworks : List (String × IPv4Network)) : List ValidationIssue :=
  config.routes.zipIdx.flatMap fun p => routeIssues py namespaceNames connectedNetworks p.2 p.1

/-- The body of the loop of `_collect_capture_point_issues`. -/
def capturePointIssues (namespaceNames : Finset String) (interfaces : Finset (String × String))
    (index : ℕ) (point : CapturePointModel) : List ValidationIssue :=
  if point.netns.1 ∉ namespaceNames then
    [⟨s!"capture_points[{index}].namespace", "unknown_namespace",
      s!"namespace '{point.netns.1}' is not declared in namespaces"⟩]
  else if (point.netns.1, point.interface.1) ∉ interfaces then
    [⟨s!"capture_points[{index}].interface", "unknown_interface",
      s!"interface '{point.interface.1}' is not declared in namespace '{point.netns.1}' through links or dpdk_ports"⟩]
  else []

/-- `_collect_capture_point_issues`. -/
def collectCapturePointIssues (config : TopologyConfigModel) (namespaceNames : Finset String)
    (interfaces : Finset (String × String)) : List ValidationIssue :=
  (collectDuplicateNames (config.capturePoints.map fun point => point.name.1) "capture_points").1 ++
    config.capturePoints.zipIdx.flatMap fun p => capturePointIssues namespaceNames interfaces p.2 p.1

/-- `_collect_bridge_side_interface_issues`. -/
def collectBridgeSideInterfaceIssues (dpdkNamespace : String) (interfaces : Finset (String × String)) :
    List ValidationIssue :=
  [INGRESS_BRIDGE_KERNEL_INTERFACE, EGRESS_BRIDGE_KERNEL_INTERFACE].flatMap fun interfaceName =>
    if (dpdkNamespace, interfaceName) ∉ interfaces then
      [⟨"links", "missing_bridge_side_interface",
        s!"dpdk namespace '{dpdkNamespace}' must define bridge-side interface '{interfaceName}' through the topology links"⟩]
    else []

/-! ### Rules -/

/-- `_path_with_prefix`. -/
def pathWithPrefix (pathPrefix : Option String) (suffix : String) : String :=
  match pathPrefix with
  | none => suffix
  | some pathPrefix => if pathPrefix = "" then suffix else s!"{pathPrefix}.{suffix}"

/-- `_validate_rule_match`. -/
def validateRuleMatch (py : Interpreter) (m : RuleMatchModel) (pathPrefix : String) :
    List ValidationIssue :=
  (if m.srcIp.isSome ∧ m.srcCidr.isSome then
    [⟨s!"{pathPrefix}.match", "conflicting_source_match",
      "src_ip and src_cidr cannot both be set on the same rule"⟩]
  else []) ++
  (if m.dstIp.isSome ∧ m.dstCidr.isSome then
    [⟨s!"{pathPrefix}.match", "conflicting_destination_match",
      "dst_ip and dst_cidr cannot both be set on the same rule"⟩]
  else []) ++
  (parseAddress py m.srcIp s!"{pathPrefix}.match.src_ip" true).1 ++
  (parseAddress py m.dstIp s!"{pathPrefix}.match.dst_ip" true).1 ++
  (parseNetwork py m.srcCidr s!"{pathPrefix}.match.src_cidr" true).1 ++
  (parseNetwork py m.dstCidr s!"{pathPrefix}.match.dst_cidr" true).1 ++
  (if m.proto = some .icmp ∧ (m.srcPort.isSome ∨ m.dstPort.isSome) then
    [⟨s!"{pathPrefix}.match", "icmp_port_match", "icmp rules cannot constrain src_port or dst_port"⟩]
  else [])

/-- `_validate_rule_action`. -/
def validateRuleAction (action : RuleActionModel) (path : String)
    (allowedPortNames : Option (Finset String)) : List ValidationIssue :=
  match action.port, allowedPortNames with
  | some portName, some allowed =>
    if portName ∉ allowed then
      [⟨s!"{path}.port", "unknown_port", s!"port '{portName}' is not declared in dpdk_ports"⟩]
    else []
  | _, _ => []

/-- The loop of `_collect_ruleset_issues`. -/
def ruleLoop (py : Interpreter) (pathPrefix : Option String) (allowedPorts : Option (Finset String)) :
    List (ℕ × ℕ) → ℕ → List RuleModel → Except Exc (List ValidationIssue)
  | _, _, [] => .ok []
  | seenIds, index, rule :: rules => do
    let entryPath := pathWithPrefix pathPrefix s!"entries[{index}]"
    let firstIndex := (setdefault seenIds rule.id index).2
    let duplicate ←
      if firstIndex ≠ index then
        (str rule.id).map fun id => [(⟨s!"{entryPath}.id", "duplicate_rule_id",
          s!"rule id {id} duplicates the entry at index {firstIndex}"⟩ : ValidationIssue)]
      else .ok []
    let rest ← ruleLoop py pathPrefix allowedPorts (setdefault seenIds rule.id index).1 (index + 1) rules
    .ok (duplicate ++ validateRuleMatch py rule.pattern entryPath ++
      validateRuleAction rule.action s!"{entryPath}.action" allowedPorts ++ rest)

/-- `_collect_ruleset_issues`. -/
def collectRulesetIssues (py : Interpreter) (ruleset : RulesetModel) (pathPrefix : Option String)
    (allowedPortNames : Option (Finset String)) : Except Exc (List ValidationIssue) :=
  (ruleLoop py pathPrefix allowedPortNames [] 0 ruleset.entries).map fun issues =>
    validateRuleAction ruleset.defaultAction (pathWithPrefix pathPrefix "default_action") allowedPortNames ++
      issues

/-! ### The effective runtime -/

/-- The tokens `_parse_lcore_spec` goes over. -/
def lcoreTokens (value : Str) : List Str :=
  ((splitAll (.char ',') value).map (strip CodePoint.isSpace)).filter fun token => token ≠ []

/-- The loop of `_parse_lcore_spec` and what follows it. -/
def lcoreLoop (py : Interpreter) (path : String) :
    List Str → List ℕ → Except Exc (List ValidationIssue × List ℕ)
  | [], parsed =>
    if parsed.Nodup then .ok ([], parsed)
    else .ok ([⟨path, "duplicate_lcore", "lcore identifiers must not repeat"⟩], parsed.dedup.mergeSort)
  | token :: tokens, parsed =>
    match splitFirst (.char '-') token with
    | some (startText, endText) =>
      if ¬ (py.digits.isdigit startText ∧ py.digits.isdigit endText) then
        .ok ([⟨path, "invalid_lcore_spec", "unsupported lcore token '" ++ token ++ "'"⟩], [1])
      else do
        let start ← py.int startText
        let stop ← py.int endText
        if start > stop then
          .ok ([⟨path, "invalid_lcore_range", "lcore range '" ++ token ++ "' must be ascending"⟩], [1])
        else
          let parsed ← py.extendRange parsed start stop
          lcoreLoop py path tokens parsed
    | none =>
      if ¬ py.digits.isdigit token then
        .ok ([⟨path, "invalid_lcore_spec", "unsupported lcore token '" ++ token ++ "'"⟩], [1])
      else do
        let n ← py.int token
        let parsed ← py.append parsed n
        lcoreLoop py path tokens parsed

/-- `_parse_lcore_spec`. -/
def parseLcoreSpec (py : Interpreter) (value : Str) (path : String) :
    Except Exc (List ValidationIssue × List ℕ) :=
  if lcoreTokens value = [] then
    .ok ([⟨path, "invalid_lcore_spec", "lcores must contain at least one CPU identifier"⟩], [1])
  else lcoreLoop py path (lcoreTokens value) []

/-- `_round_up_power_of_two`. -/
def roundUpPowerOfTwo (value : ℕ) : ℕ := if value ≤ 1 then 1 else 2 ^ (value - 1).size

/-- `_round_up_to_multiple`. -/
def roundUpToMultiple (value multiple : ℕ) : ℕ := (value + multiple - 1) / multiple * multiple

/-- `_recommended_hugepages_mb`. -/
def recommendedHugepagesMb (mempoolSize : ℕ) : Except Exc ℕ :=
  (ceilTrueDivPow2 (mempoolSize * MBUF_MEMORY_ESTIMATE_BYTES) 20).elim (.error .overflowError) fun estimate =>
    .ok (roundUpToMultiple (max DEFAULT_HUGEPAGES_FLOOR_MB (FIXED_RUNTIME_OVERHEAD_MB + estimate))
      DEFAULT_HUGEPAGE_SIZE_MB)

/-- The checks of a value against a limit of the controller. -/
def limitIssue (path code : String) (value limit : ℕ) (message : String → String) :
    Except Exc (List ValidationIssue) :=
  if value > limit then (str value).map fun text => [⟨path, code, message text⟩] else .ok []

/-- The constructor of `EffectiveDpdkRuntimeModel`. -/
def EffectiveDpdkRuntimeModel.make (fields : EffectiveFields) : Except Exc EffectiveDpdkRuntimeModel :=
  if h : fields.violations = [] then .ok ⟨fields, h⟩
  else .error (.pydanticValidationError fields.violations)

namespace DpdkProcessConfigModel

variable (requested : DpdkProcessConfigModel)

/-- `requested.lcores or DEFAULT_LCORES`; the empty string is falsy too. -/
def effectiveLcores : Str :=
  match requested.lcores with
  | some lcores => if lcores = [] then DEFAULT_LCORES else lcores
  | none => DEFAULT_LCORES

/-- The bounds of the request exclude `0`, so `or` replaces only `None`. -/
def effectiveRxQueueSize : ℕ := requested.rxQueueSize.getD DEFAULT_RX_QUEUE_SIZE

def effectiveTxQueueSize : ℕ := requested.txQueueSize.getD DEFAULT_TX_QUEUE_SIZE

def effectiveBurstSize : ℕ := requested.burstSize.getD DEFAULT_BURST_SIZE

def recommendedMempoolSize (portCount : ℕ) : ℕ :=
  roundUpPowerOfTwo (max MIN_MEMPOOL_SIZE
    (portCount * (requested.effectiveRxQueueSize + requested.effectiveTxQueueSize) *
      MEMPOOL_HEADROOM_FACTOR))

def effectiveMempoolSize (portCount : ℕ) : ℕ :=
  requested.mempoolSize.getD (requested.recommendedMempoolSize portCount)

end DpdkProcessConfigModel

section Derive

variable (pathPrefix : String) (requested : DpdkProcessConfigModel)

/-- The part of `_derive_effective_dpdk_runtime` about the queues and the burst. -/
def queueIssues : Except Exc (List ValidationIssue) := do
  let rx := requested.effectiveRxQueueSize
  let tx := requested.effectiveTxQueueSize
  let burst := requested.effectiveBurstSize
  let issuesRx ← limitIssue s!"{pathPrefix}.rx_queue_size" "oversized_queue" rx MAX_QUEUE_SIZE
    fun n => s!"rx_queue_size {n} exceeds the controller limit of {MAX_QUEUE_SIZE}"
  let issuesTx ← limitIssue s!"{pathPrefix}.tx_queue_size" "oversized_queue" tx MAX_QUEUE_SIZE
    fun n => s!"tx_queue_size {n} exceeds the controller limit of {MAX_QUEUE_SIZE}"
  let issuesBurst ← limitIssue s!"{pathPrefix}.burst_size" "oversized_burst" burst MAX_BURST_SIZE
    fun n => s!"burst_size {n} exceeds the controller limit of {MAX_BURST_SIZE}"
  let issuesFit : List ValidationIssue :=
    if burst > min rx tx then
      [⟨s!"{pathPrefix}.burst_size", "burst_exceeds_queue", "burst_size must not exceed either queue size"⟩]
    else []
  .ok (issuesRx ++ issuesTx ++ issuesBurst ++ issuesFit)

/-- The report of a mempool below the recommended size. -/
def undersizedMempool (mempoolSize portCount recommended : ℕ) : Except Exc (List ValidationIssue) :=
  if mempoolSize < recommended then do
    let m ← str mempoolSize
    let p ← str portCount
    let r ← str recommended
    .ok [⟨s!"{pathPrefix}.mempool_size", "undersized_mempool",
      s!"mempool_size {m} is too small for {p} ports and the configured queues; minimum recommended value is {r}"⟩]
  else .ok []

/-- The part of `_derive_effective_dpdk_runtime` about the mempool. -/
def mempoolIssues (portCount : ℕ) : Except Exc (List ValidationIssue) := do
  let mempoolSize := requested.effectiveMempoolSize portCount
  let issuesSmall ← undersizedMempool pathPrefix mempoolSize portCount
    (requested.recommendedMempoolSize portCount)
  let issuesLarge ← limitIssue s!"{pathPrefix}.mempool_size" "oversized_mempool" mempoolSize MAX_MEMPOOL_SIZE
    fun n => s!"mempool_size {n} exceeds the controller limit of {MAX_MEMPOOL_SIZE}"
  .ok (issuesSmall ++ issuesLarge)

/-- The report of huge pages below the recommended amount. -/
def undersizedHugepages (hugepagesMb recommended : ℕ) : Except Exc (List ValidationIssue) :=
  if hugepagesMb < recommended then do
    let h ← str hugepagesMb
    let r ← str recommended
    .ok [⟨s!"{pathPrefix}.hugepages_mb", "undersized_hugepages",
      s!"hugepages_mb {h} is below the controller floor of {r} MB for the current mempool and safety margin"⟩]
  else .ok []

/-- The part of `_derive_effective_dpdk_runtime` about the huge pages. -/
def hugepagesIssues (hugepagesMb recommended : ℕ) : Except Exc (List ValidationIssue) := do
  let issuesMultiple : List ValidationIssue :=
    if hugepagesMb % DEFAULT_HUGEPAGE_SIZE_MB ≠ 0 then
      [⟨s!"{pathPrefix}.hugepages_mb", "invalid_hugepage_multiple",
        s!"hugepages_mb must be a multiple of {DEFAULT_HUGEPAGE_SIZE_MB} MB"⟩]
    else []
  let issuesSmall ← undersizedHugepages pathPrefix hugepagesMb recommended
  let issuesLarge ← limitIssue s!"{pathPrefix}.hugepages_mb" "oversized_hugepages" hugepagesMb MAX_HUGEPAGES_MB
    fun n => s!"hugepages_mb {n} exceeds the controller limit of {MAX_HUGEPAGES_MB} MB"
  .ok (issuesMultiple ++ issuesSmall ++ issuesLarge)

/-- `_derive_effective_dpdk_runtime`: the issues are not looked at before the
constrained model is built from the values they are about. -/
def deriveEffectiveDpdkRuntimeInto (py : Interpreter) (portCount : ℕ) :
    Except Exc (List ValidationIssue × EffectiveDpdkRuntimeModel) := do
  let lcores := requested.effectiveLcores
  let (issuesLcores, lcoreIds) ← parseLcoreSpec py lcores s!"{pathPrefix}.lcores"
  let lcoreCount := if lcoreIds = [] then 1 else lcoreIds.length
  let issuesCount : List ValidationIssue :=
    if lcoreCount > MAX_LCORE_COUNT then
      [⟨s!"{pathPrefix}.lcores", "oversized_lcore_set",
        s!"lcore set resolves to {lcoreCount} lcores; the controller caps this at {MAX_LCORE_COUNT} for the MVP"⟩]
    else []
  let issuesQueues ← queueIssues pathPrefix requested
  let issuesMempool ← mempoolIssues pathPrefix requested portCount
  let mempoolSize := requested.effectiveMempoolSize portCount
  let recommended ← recommendedHugepagesMb mempoolSize
  let hugepagesMb := requested.hugepagesMb.getD recommended
  let issuesHugepages ← hugepagesIssues pathPrefix hugepagesMb recommended
  let effective ← EffectiveDpdkRuntimeModel.make
    { lcores := lcores
      lcoreCount := lcoreCount
      hugepageSizeMb := DEFAULT_HUGEPAGE_SIZE_MB
      hugepagesMb := hugepagesMb
      burstSize := requested.effectiveBurstSize
      rxQueueSize := requested.effectiveRxQueueSize
      txQueueSize := requested.effectiveTxQueueSize
      mempoolSize := mempoolSize
      portCount := portCount }
  .ok (issuesLcores ++ issuesCount ++ issuesQueues ++ issuesMempool ++ issuesHugepages, effective)

end Derive

/-! ### The entry points -/

/-- `if issues: raise ValidationError(...)`, else the value. -/
def raiseIssues {α : Type} (message : String) (code : ErrorCode) (r : Except Exc (List ValidationIssue × α)) :
    Except Raised α :=
  match r with
  | .error exc => .error (.escaped exc)
  | .ok ([], a) => .ok a
  | .ok (issue :: issues, _) => .error (.validationError message code (issue :: issues))

/-- `derive_effective_dpdk_runtime`. -/
def deriveEffectiveDpdkRuntime (py : Interpreter) (requested : DpdkProcessConfigModel) (portCount : ℕ) :
    Except Raised EffectiveDpdkRuntimeModel :=
  raiseIssues "effective datapath runtime config is invalid" .topologyValidationError
    (deriveEffectiveDpdkRuntimeInto "processes.dpdkd" requested py portCount)

/-- `ValidatedRuleset`. -/
structure ValidatedRuleset where
  ruleset : RulesetModel
  allowedPortNames : Finset String

/-- `validate_ruleset`. -/
def validateRuleset (py : Interpreter) (ruleset : RulesetModel) (allowedPortNames : Option (Finset String)) :
    Except Raised ValidatedRuleset :=
  raiseIssues "rules config failed semantic validation" .ruleValidationError
    ((collectRulesetIssues py ruleset none allowedPortNames).map fun issues =>
      (issues, ⟨ruleset, allowedPortNames.getD ∅⟩))

/-- `ValidatedTopologyConfig`. -/
structure ValidatedTopologyConfig where
  topology : TopologyConfigModel
  requestedDpdkConfig : DpdkProcessConfigModel
  effectiveDpdkConfig : EffectiveDpdkRuntimeModel
  namespaceNames : Finset String
  dpdkPortNames : Finset String
  namespaceInterfaces : Finset (String × String)

/-- `validate_topology_config`. -/
def validateTopologyConfig (py : Interpreter) (config : TopologyConfigModel) :
    Except Raised ValidatedTopologyConfig :=
  raiseIssues "topology config failed semantic validation" .topologyValidationError <| do
    let (issuesNames, namespaceNames) :=
      collectDuplicateNames (config.namespaces.map fun item => item.name.1) "namespaces"
    let dpdkNamespace := config.processes.dpdkd.netns.1
    let issuesNamespace : List ValidationIssue :=
      if dpdkNamespace ∉ namespaceNames then
        [⟨"processes.dpdkd.namespace", "unknown_namespace",
          s!"dpdkd namespace '{dpdkNamespace}' is not declared in namespaces"⟩]
      else []
    let (issuesLinks, tables) := collectLinkIssues py config namespaceNames
    let dpdkPortNames := (config.dpdkPorts.map fun port => port.name.1).toFinset
    let (issuesPorts, interfaces) :=
      collectDpdkPortIssues config namespaceNames dpdkNamespace tables.interfaceNames
    let issuesRoutes := collectRouteIssues py config namespaceNames tables.connectedNetworks
    let issuesCapture := collectCapturePointIssues config namespaceNames interfaces
    let issuesBridge := collectBridgeSideInterfaceIssues dpdkNamespace interfaces
    let issuesRules ← collectRulesetIssues py config.rules (some "rules") (some dpdkPortNames)
    let (issuesRuntime, effective) ←
      deriveEffectiveDpdkRuntimeInto "processes.dpdkd" config.processes.dpdkd py config.dpdkPorts.length
    .ok (issuesNames ++ issuesNamespace ++ issuesLinks ++ issuesPorts ++ issuesRoutes ++ issuesCapture ++
      issuesBridge ++ issuesRules ++ issuesRuntime,
      { topology := config
        requestedDpdkConfig := config.processes.dpdkd
        effectiveDpdkConfig := effective
        namespaceNames := namespaceNames
        dpdkPortNames := dpdkPortNames
        namespaceInterfaces := interfaces })

end Ctrld
end Pktlab
