/-
# Acceptable topologies

`validate_topology_config` goes over a topology with eight collectors, which
fill dictionaries for the ones after them and leave out checks where an
earlier one has failed. `Acceptable` says what they look for without any of
this: which texts are endpoints, which names are declared, what is distinct
from what.

Key definitions: `IsEndpoint`, `LinkModel.sides`, `TopologyConfigModel.HasEndpoint`,
`RuntimeAcceptable`, `Acceptable`.
Key theorems: `IsEndpoint.unique`, `parseInterfaceRef_cases`, `parseIp_cases`.
-/
import Pktlab.Ctrld.Accepted

namespace Pktlab
namespace Ctrld

open Python

/-! ### Acceptable topologies -/

/-- The text `value` names `interface` in the namespace `ns`: a namespace has
no colon here. -/
structure IsEndpoint (value ns interface : String) : Prop where
  eq : value = ns ++ ":" ++ interface
  ns_ne : ns ≠ ""
  interface_ne : interface ≠ ""
  colon : ':' ∉ ns.toList

/-- The two endpoints of a link with their addresses. -/
def LinkModel.sides (link : LinkModel) : List (String × Option String) :=
  [(link.a.1, link.ipA), (link.b.1, link.ipB)]

namespace LinkModel

variable (link : LinkModel)

/-- A link has an endpoint `interface` in `ns`. -/
def HasEndpoint (ns interface : String) : Prop := ∃ side ∈ link.sides, IsEndpoint side.1 ns interface

/-- An endpoint of the link in `ns` has an address in `network`. -/
def Connects (py : Interpreter) (ns : String) (network : IPv4Network) : Prop :=
  ∃ side ∈ link.sides, (∃ interface, IsEndpoint side.1 ns interface) ∧
    ∃ ip ∈ side.2, ∃ iface, py.ipInterface ip = .v4 iface ∧ iface.network = network

/-- The link has no addresses, or two in equal networks. -/
def Addressed (py : Interpreter) : Prop :=
  link.ipA = none ∧ link.ipB = none ∨
    ∃ ipA ∈ link.ipA, ∃ ipB ∈ link.ipB, ∃ a b, py.ipInterface ipA = .v4 a ∧ py.ipInterface ipB = .v4 b ∧
      a.network = b.network

end LinkModel

/-- A text that `parse` reads as a value of version 4. -/
def IsV4 {α : Type} (parse : String → IpResult α) (value : String) : Prop := ∃ a, parse value = .v4 a

/-- A source or a destination is given in one way, by texts that are read, and
only TCP and UDP have ports. -/
structure RuleMatchModel.Acceptable (py : Interpreter) (m : RuleMatchModel) : Prop where
  source : ¬ (m.srcIp.isSome ∧ m.srcCidr.isSome)
  destination : ¬ (m.dstIp.isSome ∧ m.dstCidr.isSome)
  srcIp : ∀ ip ∈ m.srcIp, IsV4 py.ipAddress ip
  dstIp : ∀ ip ∈ m.dstIp, IsV4 py.ipAddress ip
  srcCidr : ∀ cidr ∈ m.srcCidr, IsV4 py.ipNetwork cidr
  dstCidr : ∀ cidr ∈ m.dstCidr, IsV4 py.ipNetwork cidr
  icmp : m.proto = some .icmp → m.srcPort = none ∧ m.dstPort = none

/-- The ports that a ruleset names are among `ports`, its identifiers are
distinct and its rules acceptable. -/
structure RulesetModel.Acceptable (py : Interpreter) (ports : Finset String) (ruleset : RulesetModel) : Prop where
  defaultAction : ∀ port ∈ ruleset.defaultAction.port, port ∈ ports
  ids : (ruleset.entries.map RuleModel.id).Nodup
  patterns : ∀ rule ∈ ruleset.entries, rule.pattern.Acceptable py
  actions : ∀ rule ∈ ruleset.entries, ∀ port ∈ rule.action.port, port ∈ ports

/-- The huge pages in megabytes for a mempool: 4096 bytes for each buffer and
64 MB besides, at least 256 MB, in pages of 2 MB. -/
def hugepagesFloorMb (mempoolSize : ℕ) : ℕ := (max 256 (64 + (mempoolSize + 255) / 256) + 1) / 2 * 2

/-- What the controller asks of the launch parameters. -/
structure RuntimeAcceptable (py : Interpreter) (requested : DpdkProcessConfigModel) (portCount : ℕ) : Prop where
  /-- some CPU is named, by numbers and ascending ranges -/
  lcores : lcoreTokens requested.effectiveLcores ≠ []
  tokens : ∀ token ∈ lcoreTokens requested.effectiveLcores,
    Numeric py token ∧ Readable py token ∧ 0 < cpus py token
  /-- no CPU is named twice, and there are not too many -/
  distinct : ((lcoreTokens requested.effectiveLcores).flatMap (expand py)).Nodup
  count : ((lcoreTokens requested.effectiveLcores).flatMap (expand py)).length ≤ min MAX_LCORE_COUNT py.listCap
  rxQueueSize : requested.effectiveRxQueueSize ≤ MAX_QUEUE_SIZE
  txQueueSize : requested.effectiveTxQueueSize ≤ MAX_QUEUE_SIZE
  burstSize : requested.effectiveBurstSize ≤ MAX_BURST_SIZE
  burstFits : requested.effectiveBurstSize ≤ min requested.effectiveRxQueueSize requested.effectiveTxQueueSize
  mempoolFits : requested.recommendedMempoolSize portCount ≤ requested.effectiveMempoolSize portCount
  mempoolSize : requested.effectiveMempoolSize portCount ≤ MAX_MEMPOOL_SIZE
  hugepagesMb : ∀ h ∈ requested.hugepagesMb, h % 2 = 0 ∧
    hugepagesFloorMb (requested.effectiveMempoolSize portCount) ≤ h ∧ h ≤ MAX_HUGEPAGES_MB

namespace TopologyConfigModel

variable (config : TopologyConfigModel)

/-- The `2n` endpoints of `n` links, as they are written. -/
def endpoints : List String := config.links.flatMap fun link => link.sides.map Prod.fst

/-- Some link has an endpoint `interface` in `ns`. -/
def HasEndpoint (ns interface : String) : Prop := ∃ link ∈ config.links, link.HasEndpoint ns interface

/-- A port called `interface` is in `ns`. -/
def HasPort (ns interface : String) : Prop :=
  ∃ port ∈ config.dpdkPorts, port.netns.1 = ns ∧ port.name.1 = interface

end TopologyConfigModel

/-- **An acceptable topology.** -/
structure Acceptable (py : Interpreter) (config : TopologyConfigModel) : Prop where
  namespaces : (config.namespaces.map fun item => item.name.1).Nodup
  linkNames : (config.links.map fun link => link.name.1).Nodup
  portNames : (config.dpdkPorts.map fun port => port.name.1).Nodup
  capturePointNames : (config.capturePoints.map fun point => point.name.1).Nodup
  dpdkNamespace : config.processes.dpdkd.netns.1 ∈ config.namespaceNames
  endpoints : ∀ value ∈ config.endpoints, ∃ ns interface, IsEndpoint value ns interface ∧ ns ∈ config.namespaceNames
  endpointsDistinct : config.endpoints.Nodup
  addressed : ∀ link ∈ config.links, link.Addressed py
  roles : ∀ role, (config.dpdkPorts.map DpdkPortModel.role).count role = 1
  ports : ∀ port ∈ config.dpdkPorts, port.netns.1 = config.processes.dpdkd.netns.1 ∧
    ¬ config.HasEndpoint config.processes.dpdkd.netns.1 port.name.1
  routes : ∀ route ∈ config.routes, route.netns.1 ∈ config.namespaceNames ∧ IsV4 py.ipNetwork route.dst.1 ∧
    ∃ via, py.ipAddress route.via.1 = .v4 via ∧
      ∃ link ∈ config.links, ∃ network, link.Connects py route.netns.1 network ∧ network.contains via = true
  capturePoints : ∀ point ∈ config.capturePoints, point.netns.1 ∈ config.namespaceNames ∧
    (config.HasEndpoint point.netns.1 point.interface.1 ∨ config.HasPort point.netns.1 point.interface.1)
  bridgeSides : ∀ name ∈ [INGRESS_BRIDGE_KERNEL_INTERFACE, EGRESS_BRIDGE_KERNEL_INTERFACE],
    config.HasEndpoint config.processes.dpdkd.netns.1 name ∨ config.HasPort config.processes.dpdkd.netns.1 name
  rules : config.rules.Acceptable py config.dpdkPortNames
  runtime : RuntimeAcceptable py config.processes.dpdkd config.dpdkPorts.length

/-! ### Endpoints -/

theorem IsEndpoint.splitFirst {value ns interface : String} (h : IsEndpoint value ns interface) :
    splitFirst ':' value.toList = some (ns.toList, interface.toList) := by
  refine splitFirst_eq_some_iff.mpr ⟨?_, h.colon⟩
  rw [h.eq, String.toList_append, String.toList_append, List.append_assoc]
  rfl

theorem IsEndpoint.unique {value ns ns' interface interface' : String} (h : IsEndpoint value ns interface)
    (h' : IsEndpoint value ns' interface') : ns = ns' ∧ interface = interface' := by
  have hsplit' := h'.splitFirst
  rw [h.splitFirst] at hsplit'
  obtain ⟨hns, hinterface⟩ := Prod.mk.inj (Option.some.inj hsplit')
  exact ⟨String.toList_inj.mp hns, String.toList_inj.mp hinterface⟩

theorem IsEndpoint.text_unique {value value' ns interface : String} (h : IsEndpoint value ns interface)
    (h' : IsEndpoint value' ns interface) : value = value' :=
  h.eq.trans h'.eq.symm

/-- A reference is read, or reported because it names nothing. -/
theorem parseInterfaceRef_cases (value path : String) :
    (∃ ns interface, IsEndpoint value ns interface ∧ parseInterfaceRef value path = ([], some (ns, interface))) ∨
      (∀ ns interface, ¬ IsEndpoint value ns interface) ∧ (parseInterfaceRef value path).1 ≠ [] := by
  unfold parseInterfaceRef
  split
  · rename_i c cs d ds hsplit
    obtain ⟨heq, hcolon⟩ := splitFirst_eq_some_iff.mp hsplit
    refine Or.inl ⟨String.ofList (c :: cs), String.ofList (d :: ds), ⟨String.toList_inj.mp ?_, ?_, ?_, ?_⟩, rfl⟩
    · rw [heq, String.toList_append, String.toList_append]
      simp
    · simp
    · simp
    · simpa using hcolon
  · rename_i hsplit
    refine Or.inr ⟨fun ns interface h => ?_, List.cons_ne_nil _ _⟩
    have heq := h.splitFirst
    cases hns : ns.toList with
    | nil => exact h.ns_ne (String.toList_eq_nil_iff.mp hns)
    | cons c cs =>
      cases hinterface : interface.toList with
      | nil => exact h.interface_ne (String.toList_eq_nil_iff.mp hinterface)
      | cons d ds =>
        rw [hns, hinterface] at heq
        exact hsplit c cs d ds heq

/-- A text is read as a value of version 4, or reported. -/
theorem parseIp_cases {α : Type} (parse : String → IpResult α) (code kind family value path : String) :
    (∃ a, parse value = .v4 a ∧ parseIp parse code kind family value path = ([], some a)) ∨
      ¬ IsV4 parse value ∧ ∃ issue, parseIp parse code kind family value path = ([issue], none) := by
  unfold parseIp IsV4
  cases parse value with
  | invalid => simp
  | v6 => simp
  | v4 a => simp

theorem parseIp_eq_nil {α : Type} {parse : String → IpResult α} {code kind family value path : String} :
    (parseIp parse code kind family value path).1 = [] ↔ IsV4 parse value := by
  rcases parseIp_cases parse code kind family value path with ⟨a, hparse, h⟩ | ⟨hnot, issue, h⟩
  · rw [h]
    exact iff_of_true rfl ⟨a, hparse⟩
  · rw [h]
    exact iff_of_false (List.cons_ne_nil _ _) hnot

end Ctrld
end Pktlab
