/-
# The interfaces of the datapath namespace

`apply` creates the link endpoints of the namespace of dpdkd, the TAP
interfaces of the two ports and the bridges `br-in` and `br-out`, and it
connects `veth-in-k` and `veth-out-k` to the bridges. Validation compares the
names of ports with those of link endpoints, but nothing with the names of the
bridges (`created_nodup_iff`), and it looks for `veth-in-k` and `veth-out-k`
among the ports too, although its message says "through the topology links"
(`bridge_sides_linked_iff`).

Key definitions: `TopologyConfigModel.created`, `TopologyConfigModel.NamesPort`.
Key theorems: `bridge_sides_linked_iff`, `created_nodup_iff`.
-/
import Pktlab.Ctrld.TopologyRuns

namespace Pktlab
namespace Ctrld

open Python

/-- The names of the interfaces that `apply` creates in the namespace of
dpdkd. -/
def TopologyConfigModel.created (config : TopologyConfigModel) : List String :=
  (((config.endpoints.map splitRef).filter fun ref => ref.1 = config.processes.dpdkd.netns.1).map Prod.snd ++
    config.dpdkPorts.map fun port => port.name.1) ++ [INGRESS_BRIDGE_NAME, EGRESS_BRIDGE_NAME]

/-- A port is called `name`. -/
def TopologyConfigModel.NamesPort (config : TopologyConfigModel) (name : String) : Prop :=
  ∃ port ∈ config.dpdkPorts, port.name.1 = name

instance (config : TopologyConfigModel) (name : String) : Decidable (config.NamesPort name) :=
  inferInstanceAs (Decidable (∃ port ∈ config.dpdkPorts, _))

section Accepted

variable {py : Interpreter} {config : TopologyConfigModel}

theorem Acceptable.hasPort (h : Acceptable py config) {name : String} :
    config.HasPort config.processes.dpdkd.netns.1 name ↔ config.NamesPort name := by
  constructor
  · rintro ⟨port, hport, -, hname⟩
    exact ⟨port, hport, hname⟩
  · rintro ⟨port, hport, hname⟩
    exact ⟨port, hport, (h.ports port hport).1, hname⟩

/-- **Where an accepted topology has its bridge sides.** Both are endpoints of
links exactly when no port has one of their names. -/
theorem bridge_sides_linked_iff {v : ValidatedTopologyConfig} (h : validateTopologyConfig py config = .ok v) :
    (∀ name ∈ [INGRESS_BRIDGE_KERNEL_INTERFACE, EGRESS_BRIDGE_KERNEL_INTERFACE],
        config.HasEndpoint config.processes.dpdkd.netns.1 name ∧ ¬ config.NamesPort name) ↔
      ¬ config.NamesPort "veth-in-k" ∧ ¬ config.NamesPort "veth-out-k" := by
  have hacceptable := acceptable_of_validated h
  constructor
  · intro hsides
    exact ⟨(hsides _ (by simp [INGRESS_BRIDGE_KERNEL_INTERFACE])).2,
      (hsides _ (by simp [EGRESS_BRIDGE_KERNEL_INTERFACE])).2⟩
  · rintro ⟨hin, hout⟩ name hname
    have hport : ¬ config.NamesPort name := by
      simp only [List.mem_cons, List.not_mem_nil, or_false] at hname
      rcases hname with rfl | rfl
      · exact hin
      · exact hout
    rcases hacceptable.bridgeSides name hname with hendpoint | hhas
    · exact ⟨hendpoint, hport⟩
    · exact absurd (hacceptable.hasPort.mp hhas) hport

/-- In the plain lab both are endpoints of links. -/
theorem bridge_sides_linked_plain :
    ¬ plainLab.NamesPort "veth-in-k" ∧ ¬ plainLab.NamesPort "veth-out-k" ∧
      ∀ name ∈ [INGRESS_BRIDGE_KERNEL_INTERFACE, EGRESS_BRIDGE_KERNEL_INTERFACE],
        plainLab.HasEndpoint plainLab.processes.dpdkd.netns.1 name ∧ ¬ plainLab.NamesPort name := by
  have hports : ¬ plainLab.NamesPort "veth-in-k" ∧ ¬ plainLab.NamesPort "veth-out-k" := by decide
  exact ⟨hports.1, hports.2, (bridge_sides_linked_iff plainLab_valid).mpr hports⟩

/-- The same topology with another name for the port of a role. -/
def TopologyConfigModel.renamePort (config : TopologyConfigModel) (role : PortRole) (name : NonEmptyStr) :
    TopologyConfigModel :=
  { config with
    dpdkPorts := config.dpdkPorts.map fun port => if port.role = role then { port with name := name } else port }

theorem ingressSide_ne : INGRESS_BRIDGE_KERNEL_INTERFACE ≠ "" := by decide

theorem upEndpoint_ne : "dp:up0" ≠ "" := by decide

/-- The plain lab with its ingress port called `veth-in-k`, and the link to the
source host ending in `up0`. -/
def unlinkedLab : TopologyConfigModel :=
  { plainLab.renamePort .ingress ⟨INGRESS_BRIDGE_KERNEL_INTERFACE, ingressSide_ne⟩ with
    links := plainLab.links.map fun link =>
      if link.name.1 = "in" then { link with b := ⟨"dp:up0", upEndpoint_ne⟩ } else link }

/-- A topology is accepted whose only `veth-in-k` is a port. -/
theorem port_as_bridge_side :
    ¬ ∀ (py : Interpreter) (config : TopologyConfigModel) (v : ValidatedTopologyConfig),
      validateTopologyConfig py config = .ok v →
      ∀ name ∈ [INGRESS_BRIDGE_KERNEL_INTERFACE, EGRESS_BRIDGE_KERNEL_INTERFACE],
        config.HasEndpoint config.processes.dpdkd.netns.1 name ∧ ¬ config.NamesPort name := by
  intro h
  have haccepted : (validateTopologyConfig asciiInterpreter unlinkedLab).toBool = true := by decide +kernel
  obtain ⟨v, hv⟩ := exists_of_toBool haccepted
  have hport : unlinkedLab.NamesPort INGRESS_BRIDGE_KERNEL_INTERFACE := by decide
  exact (h _ _ v hv _ List.mem_cons_self).2 hport

/-- The names of link endpoints among what is created. -/
theorem Acceptable.mem_endpointNames (h : Acceptable py config) {ns name : String} :
    name ∈ ((config.endpoints.map splitRef).filter fun ref => ref.1 = ns).map Prod.snd ↔
      config.HasEndpoint ns name := by
  simp only [List.mem_map, List.mem_filter, decide_eq_true_eq]
  constructor
  · rintro ⟨ref, ⟨⟨value, hvalue, rfl⟩, hns⟩, hname⟩
    obtain ⟨ns', name', hendpoint, -⟩ := h.endpoints value hvalue
    rw [hendpoint.splitRef_eq] at hns hname
    subst hns hname
    obtain ⟨link, hlink, hmem⟩ := List.mem_flatMap.mp hvalue
    obtain ⟨side, hside, rfl⟩ := List.mem_map.mp hmem
    exact ⟨link, hlink, side, hside, hendpoint⟩
  · rintro ⟨link, hlink, side, hside, hendpoint⟩
    refine ⟨(ns, name), ⟨⟨side.1, ?_, hendpoint.splitRef_eq⟩, rfl⟩, rfl⟩
    exact List.mem_flatMap.mpr ⟨link, hlink, List.mem_map_of_mem hside⟩

/-- The link endpoints of a namespace have different names. -/
theorem Acceptable.endpointNames_nodup (h : Acceptable py config) (ns : String) :
    (((config.endpoints.map splitRef).filter fun ref => ref.1 = ns).map Prod.snd).Nodup := by
  have hrefs : (config.endpoints.map splitRef).Nodup := by
    refine List.Nodup.map_on (fun value hvalue value' hvalue' heq => ?_) h.endpointsDistinct
    obtain ⟨ns₁, name₁, hendpoint, -⟩ := h.endpoints value hvalue
    obtain ⟨ns₂, name₂, hendpoint', -⟩ := h.endpoints value' hvalue'
    rw [hendpoint.splitRef_eq, hendpoint'.splitRef_eq] at heq
    obtain ⟨rfl, rfl⟩ := Prod.mk.inj heq
    exact hendpoint.text_unique hendpoint'
  refine List.Nodup.map_on (fun ref href ref' href' heq => ?_) (hrefs.filter _)
  simp only [List.mem_filter, decide_eq_true_eq] at href href'
  exact Prod.ext (href.2.trans href'.2.symm) heq

/-- **When the created interfaces have different names**: when no link endpoint
of the namespace and no port is called like a bridge. -/
theorem created_nodup_iff {v : ValidatedTopologyConfig} (h : validateTopologyConfig py config = .ok v) :
    config.created.Nodup ↔ ∀ bridge ∈ [INGRESS_BRIDGE_NAME, EGRESS_BRIDGE_NAME],
      ¬ config.HasEndpoint config.processes.dpdkd.netns.1 bridge ∧ ¬ config.NamesPort bridge := by
  have hacceptable := acceptable_of_validated h
  have hports : ∀ name ∈ config.dpdkPorts.map (fun port => port.name.1),
      ¬ config.HasEndpoint config.processes.dpdkd.netns.1 name := by
    intro name hname
    obtain ⟨port, hport, rfl⟩ := List.mem_map.mp hname
    exact (hacceptable.ports port hport).2
  have hbefore : (((config.endpoints.map splitRef).filter fun ref => ref.1 = config.processes.dpdkd.netns.1).map
      Prod.snd ++ config.dpdkPorts.map fun port => port.name.1).Nodup := by
    refine List.nodup_append.mpr ⟨hacceptable.endpointNames_nodup _, hacceptable.portNames, ?_⟩
    rintro name hendpoint name' hname' rfl
    exact hports name hname' (hacceptable.mem_endpointNames.mp hendpoint)
  have hmem : ∀ name, name ∈ (((config.endpoints.map splitRef).filter fun ref =>
        ref.1 = config.processes.dpdkd.netns.1).map Prod.snd ++ config.dpdkPorts.map fun port => port.name.1) ↔
      config.HasEndpoint config.processes.dpdkd.netns.1 name ∨ config.NamesPort name := by
    intro name
    rw [List.mem_append, hacceptable.mem_endpointNames, List.mem_map]
    rfl
  unfold TopologyConfigModel.created
  rw [List.nodup_append]
  constructor
  · rintro ⟨-, -, hdisjoint⟩ bridge hbridge
    rw [← not_or, ← hmem]
    exact fun hname => hdisjoint bridge hname bridge hbridge rfl
  · intro hbridges
    refine ⟨hbefore, by decide, ?_⟩
    rintro name hname bridge hbridge rfl
    obtain ⟨hendpoint, hport⟩ := hbridges name hbridge
    exact ((hmem name).mp hname).elim hendpoint hport

/-- The plain lab creates six interfaces there with different names. -/
theorem created_nodup_plain : plainLab.created.Nodup ∧
    ∀ bridge ∈ [INGRESS_BRIDGE_NAME, EGRESS_BRIDGE_NAME],
      ¬ plainLab.HasEndpoint plainLab.processes.dpdkd.netns.1 bridge ∧ ¬ plainLab.NamesPort bridge := by
  have hnodup : plainLab.created.Nodup := by decide +kernel
  exact ⟨hnodup, (created_nodup_iff plainLab_valid).mp hnodup⟩

/-- A port called `br-in` is accepted. -/
theorem port_as_bridge :
    ¬ ∀ (py : Interpreter) (config : TopologyConfigModel) (v : ValidatedTopologyConfig),
      validateTopologyConfig py config = .ok v → config.created.Nodup := by
  intro h
  have haccepted : (validateTopologyConfig asciiInterpreter (twoHostLab (hugepagesRequest 256 (by decide))
      ⟨"br-in", by decide⟩ ⟨"dtap1", by decide⟩)).toBool = true := by decide +kernel
  obtain ⟨v, hv⟩ := exists_of_toBool haccepted
  have hnodup := h _ _ v hv
  exact absurd hnodup (by decide +kernel)

end Accepted

end Ctrld
end Pktlab
