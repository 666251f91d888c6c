/-
# Which topologies are accepted

The collectors of `validate_topology_config` are silent together exactly on
the acceptable topologies: none of the checks that one leaves out, because an
earlier one has failed, is the only one that would have failed
(`accepted_iff`).

Key theorems: `collectLinkIssues_silent`, `interfaces_iff`, `Clean.acceptable`,
`Acceptable.clean`, `accepted_iff`.
-/
import Pktlab.Ctrld.Silence
import Pktlab.Ctrld.SilentRuntime

namespace Pktlab
namespace Ctrld

open Python

/-! ### The collectors -/

theorem collectLinkIssues_silent (py : Interpreter) (config : TopologyConfigModel) (N : Finset String) :
    ((collectLinkIssues py config N).1 = [] ↔ (config.links.map fun link => link.name.1).Nodup ∧
        (∀ link ∈ config.links, link.WellFormed py N) ∧ config.endpoints.Nodup) ∧
      ((collectLinkIssues py config N).1 = [] →
        LinkTables.Linked py config.links ⟨[], ∅, []⟩ (collectLinkIssues py config N).2) := by
  obtain ⟨hsilent, hlinked⟩ := linkLoop_silent py N config.links 0 ⟨[], ∅, []⟩ (by simp)
  simp only [collectLinkIssues, collectDuplicateNames, List.append_eq_nil_iff, duplicateNames_nil_iff]
  refine ⟨and_congr_right fun _ => hsilent.trans ?_, fun h => hlinked h.2⟩
  have hfresh : ∀ ns interface, ¬ LinkTables.Sees ⟨[], ∅, []⟩ (ns, interface) := by
    rintro ns interface ⟨p, hp, -⟩
    cases hp
  constructor
  · rintro ⟨hwell, hnodup, -⟩
    exact ⟨hwell, hnodup⟩
  · rintro ⟨hwell, hnodup⟩
    exact ⟨hwell, hnodup, fun link _ ns interface _ => hfresh ns interface⟩

theorem collectDpdkPortIssues_silent (config : TopologyConfigModel) (N : Finset String) (dpdkNamespace : String)
    (interfaces : Finset (String × String)) :
    ((collectDpdkPortIssues config N dpdkNamespace interfaces).1 = [] ↔
        (config.dpdkPorts.map fun port => port.name.1).Nodup ∧
          (∀ role, (config.dpdkPorts.map DpdkPortModel.role).count role = 1) ∧
          ∀ port ∈ config.dpdkPorts, port.netns.1 ∈ N ∧ port.netns.1 = dpdkNamespace ∧
            (port.netns.1, port.name.1) ∉ interfaces) ∧
      ((collectDpdkPortIssues config N dpdkNamespace interfaces).1 = [] → ∀ ns interface,
        (ns, interface) ∈ (collectDpdkPortIssues config N dpdkNamespace interfaces).2 ↔
          (ns, interface) ∈ interfaces ∨ config.HasPort ns interface) := by
  obtain ⟨hsilent, hmem⟩ := portLoop_silent N dpdkNamespace config.dpdkPorts 0 interfaces
  have hroles : (∀ role, (config.dpdkPorts.map DpdkPortModel.role).count role = 1) ↔
      ¬ ((config.dpdkPorts.map DpdkPortModel.role).count .ingress ≠ 1 ∨
        (config.dpdkPorts.map DpdkPortModel.role).count .egress ≠ 1) := by
    rw [not_or, not_not, not_not]
    refine ⟨fun h => ⟨h .ingress, h .egress⟩, fun h role => ?_⟩
    cases role with
    | ingress => exact h.1
    | egress => exact h.2
  have hpairs : (config.dpdkPorts.map fun port => port.name.1).Nodup →
      (config.dpdkPorts.map fun port => (port.netns.1, port.name.1)).Nodup := by
    intro h
    refine List.Nodup.of_map Prod.snd ?_
    rw [List.map_map]
    exact h
  simp only [collectDpdkPortIssues, collectDuplicateNames, List.append_eq_nil_iff, duplicateNames_nil_iff, hsilent,
    hroles, ite_eq_right_iff, List.cons_ne_nil, imp_false, and_assoc]
  refine ⟨and_congr_right fun hnames => and_congr_right fun _ => and_iff_left (hpairs hnames), fun h ns interface => ?_⟩
  rw [hmem (hsilent.mpr h.2.2)]
  simp [TopologyConfigModel.HasPort]

section Tables

variable {py : Interpreter} {config : TopologyConfigModel}

theorem linkNames_iff (hlinks : (collectLinkIssues py config config.namespaceNames).1 = []) (ns interface : String) :
    (ns, interface) ∈ (config.linkTables py).interfaceNames ↔ config.HasEndpoint ns interface := by
  refine (((collectLinkIssues_silent py config _).2 hlinks).names ns interface).trans ?_
  simp [TopologyConfigModel.HasEndpoint]

theorem networks_iff (hlinks : (collectLinkIssues py config config.namespaceNames).1 = []) (ns : String)
    (network : IPv4Network) : (ns, network) ∈ (config.linkTables py).connectedNetworks ↔
      ∃ link ∈ config.links, link.Connects py ns network := by
  refine (((collectLinkIssues_silent py config _).2 hlinks).networks ns network).trans ?_
  simp

theorem interfaces_iff (hlinks : (collectLinkIssues py config config.namespaceNames).1 = [])
    (hports : (collectDpdkPortIssues config config.namespaceNames config.processes.dpdkd.netns.1
      (config.linkTables py).interfaceNames).1 = []) (ns interface : String) :
    (ns, interface) ∈ config.interfaces py ↔ config.HasEndpoint ns interface ∨ config.HasPort ns interface :=
  ((collectDpdkPortIssues_silent config _ _ _).2 hports ns interface).trans
    (or_congr_left (linkNames_iff hlinks ns interface))

end Tables

theorem collectRouteIssues_silent {py : Interpreter} {config : TopologyConfigModel} {N : Finset String}
    {networks : List (String × IPv4Network)}
    (hnetworks : ∀ ns network, (ns, network) ∈ networks ↔ ∃ link ∈ config.links, link.Connects py ns network) :
    collectRouteIssues py config N networks = [] ↔ ∀ route ∈ config.routes, route.netns.1 ∈ N ∧
      IsV4 py.ipNetwork route.dst.1 ∧ ∃ via, py.ipAddress route.via.1 = .v4 via ∧
        ∃ link ∈ config.links, ∃ network, link.Connects py route.netns.1 network ∧ network.contains via = true := by
  unfold collectRouteIssues
  rw [zipIdx_flatMap_eq_nil (routeIssues_silent py N networks)]
  refine forall₂_congr fun route _ => and_congr_right fun _ => and_congr_right fun _ =>
    exists_congr fun via => and_congr_right fun _ => ?_
  simp only [hnetworks]
  constructor
  · rintro ⟨network, ⟨link, hlink, hconnects⟩, hcontains⟩
    exact ⟨link, hlink, network, hconnects, hcontains⟩
  · rintro ⟨link, hlink, network, hconnects, hcontains⟩
    exact ⟨network, ⟨link, hlink, hconnects⟩, hcontains⟩

theorem collectCapturePointIssues_silent {config : TopologyConfigModel} {N : Finset String}
    {interfaces : Finset (String × String)} :
    collectCapturePointIssues config N interfaces = [] ↔
      (config.capturePoints.map fun point => point.name.1).Nodup ∧
        ∀ point ∈ config.capturePoints, point.netns.1 ∈ N ∧ (point.netns.1, point.interface.1) ∈ interfaces := by
  unfold collectCapturePointIssues collectDuplicateNames
  rw [List.append_eq_nil_iff, duplicateNames_nil_iff,
    zipIdx_flatMap_eq_nil (capturePointIssues_silent N interfaces)]

theorem collectBridgeSideInterfaceIssues_silent {dpdkNamespace : String} {interfaces : Finset (String × String)} :
    collectBridgeSideInterfaceIssues dpdkNamespace interfaces = [] ↔
      ∀ name ∈ [INGRESS_BRIDGE_KERNEL_INTERFACE, EGRESS_BRIDGE_KERNEL_INTERFACE],
        (dpdkNamespace, name) ∈ interfaces := by
  unfold collectBridgeSideInterfaceIssues
  rw [List.flatMap_eq_nil_iff]
  refine forall₂_congr fun name _ => ?_
  by_cases hmem : (dpdkNamespace, name) ∈ interfaces
  · simp [hmem]
  · simp [hmem]

theorem wellFormed_links_iff {py : Interpreter} {config : TopologyConfigModel} :
    (∀ link ∈ config.links, link.WellFormed py config.namespaceNames) ↔
      (∀ value ∈ config.endpoints, ∃ ns interface, IsEndpoint value ns interface ∧ ns ∈ config.namespaceNames) ∧
        ∀ link ∈ config.links, link.Addressed py := by
  unfold LinkModel.WellFormed TopologyConfigModel.endpoints
  simp only [forall₂_and, List.forall_mem_flatMap, List.forall_mem_map]

theorem length_pos_of_roles {ports : List DpdkPortModel}
    (h : ∀ role, (ports.map DpdkPortModel.role).count role = 1) : 0 < ports.length := by
  have hle := List.count_le_length (a := PortRole.ingress) (l := ports.map DpdkPortModel.role)
  rw [h .ingress, List.length_map] at hle
  exact hle

/-- A topology on which no collector reports is acceptable. -/
theorem Clean.acceptable {py : Interpreter} {config : TopologyConfigModel} {effective : EffectiveDpdkRuntimeModel}
    (h : Clean py config effective) : Acceptable py config := by
  obtain ⟨hlinkNames, hwell, hdistinct⟩ := (collectLinkIssues_silent py config _).1.mp h.links
  obtain ⟨hendpoints, haddressed⟩ := wellFormed_links_iff.mp hwell
  obtain ⟨hportNames, hroles, hports⟩ := (collectDpdkPortIssues_silent config _ _ _).1.mp h.ports
  obtain ⟨hpointNames, hpoints⟩ := collectCapturePointIssues_silent.mp h.capturePoints
  have hinterfaces := interfaces_iff h.links h.ports
  refine ⟨duplicateNames_nil_iff.mp h.names, hlinkNames, hportNames, hpointNames, h.dpdkNamespace, hendpoints,
    hdistinct, haddressed, hroles, fun port hport => ?_,
    (collectRouteIssues_silent (networks_iff h.links)).mp h.routes, fun point hpoint => ?_, fun name hname => ?_,
    collectRulesetIssues_silent.mp h.rules,
    (derive_silent_iff (length_pos_of_roles hroles)).mp ⟨effective, h.runtime⟩⟩
  · obtain ⟨-, hns, hnew⟩ := hports port hport
    rw [linkNames_iff h.links, hns] at hnew
    exact ⟨hns, hnew⟩
  · obtain ⟨hmem, hknown⟩ := hpoints point hpoint
    exact ⟨hmem, (hinterfaces _ _).mp hknown⟩
  · exact (hinterfaces _ _).mp (collectBridgeSideInterfaceIssues_silent.mp h.bridges name hname)

/-- On an acceptable topology no collector reports. -/
theorem Acceptable.clean {py : Interpreter} {config : TopologyConfigModel} (h : Acceptable py config) :
    ∃ effective, Clean py config effective := by
  have hlinks : (collectLinkIssues py config config.namespaceNames).1 = [] :=
    (collectLinkIssues_silent py config _).1.mpr
      ⟨h.linkNames, wellFormed_links_iff.mpr ⟨h.endpoints, h.addressed⟩, h.endpointsDistinct⟩
  have hports : (collectDpdkPortIssues config config.namespaceNames config.processes.dpdkd.netns.1
      (config.linkTables py).interfaceNames).1 = [] := by
    refine (collectDpdkPortIssues_silent config _ _ _).1.mpr ⟨h.portNames, h.roles, fun port hport => ?_⟩
    obtain ⟨hns, hnew⟩ := h.ports port hport
    rw [linkNames_iff hlinks, hns]
    exact ⟨h.dpdkNamespace, rfl, hnew⟩
  have hinterfaces := interfaces_iff hlinks hports
  obtain ⟨effective, hruntime⟩ := (derive_silent_iff (length_pos_of_roles h.roles)).mpr h.runtime
  refine ⟨effective, duplicateNames_nil_iff.mpr h.namespaces, h.dpdkNamespace, hlinks, hports,
    (collectRouteIssues_silent (networks_iff hlinks)).mpr h.routes,
    collectCapturePointIssues_silent.mpr ⟨h.capturePointNames, fun point hpoint => ?_⟩,
    collectBridgeSideInterfaceIssues_silent.mpr fun name hname => (hinterfaces _ _).mpr (h.bridgeSides name hname),
    collectRulesetIssues_silent.mpr h.rules, hruntime⟩
  obtain ⟨hmem, hknown⟩ := h.capturePoints point hpoint
  exact ⟨hmem, (hinterfaces _ _).mpr hknown⟩

/-- **Exactly the acceptable topologies are accepted.** -/
theorem accepted_iff (py : Interpreter) (config : TopologyConfigModel) :
    Returns (validateTopologyConfig py config) ↔ Acceptable py config := by
  constructor
  · rintro ⟨v, hv⟩
    obtain ⟨effective, hclean, -⟩ := validateTopologyConfig_eq_ok.mp hv
    exact hclean.acceptable
  · intro h
    obtain ⟨effective, hclean⟩ := h.clean
    exact ⟨_, validateTopologyConfig_eq_ok.mpr ⟨effective, hclean, rfl⟩⟩

end Ctrld
end Pktlab
