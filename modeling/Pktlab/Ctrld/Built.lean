/-
# What an apply is to build, and from what it can

`Built` is the lab that a topology declares: the two endpoints of a link are
the ends of one veth pair, the members of `br-in` and `br-out` are their
kernel side and their port, and the addresses and routes are there.

The helpers of `apply` look for names. An interface that is there is taken for
the one that is wanted, a bridge keeps the members it has, an interface that is
attached twice moves, and a route takes the place of another one to the same
network. `Buildable` says of the host on which the building begins that none of
this does harm.

Key definitions: `Host.VethPair`, `Built`, `Host.Present`, `Lab.OwnsTap`,
`Buildable`, `Host.Grows`, `Host.Without`, `Host.shape`.
Key theorems: `exec_grows`, `withoutDatapath_without`, `exec_setMaster`,
`exec_setUp`.
-/
import Pktlab.Ctrld.Equipped
import Pktlab.Ctrld.InterfaceNames

namespace Pktlab
namespace Ctrld

open Python Effect

namespace Host

variable (h : Host)

def kindOf (key : LinkKey) : Option LinkKind := (h.links key).map Link.kind

def masterOf (key : LinkKey) : Option String := (h.links key).bind Link.master

def HasAddress (key : LinkKey) (cidr : String) : Prop := ∃ link ∈ h.links key, cidr ∈ link.addresses

/-- `a` and `b` are the two ends of one veth pair. -/
def VethPair (a b : LinkKey) : Prop := h.kindOf a = some (.veth b) ∧ h.kindOf b = some (.veth a)

/-- There is such an interface, or there will be one with its namespace. -/
def Present (key : LinkKey) : Prop := h.links key ≠ none ∨ key.2 = "lo"

end Host

/-- The interface that a reference names. -/
def endpointKey (value : String) : LinkKey := (some (splitRef value).1, (splitRef value).2)

/-- The port with this role is called `name`. -/
def TopologyConfigModel.NamesRole (config : TopologyConfigModel) (role : PortRole) (name : String) : Prop :=
  ∃ port ∈ config.dpdkPorts, port.role = role ∧ port.name.1 = name

/-- **The declared lab is there.** -/
structure Built (k : Kernel) (v : ValidatedTopologyConfig) (h : Host) : Prop where
  pairs : ∀ link ∈ v.topology.links, h.VethPair (endpointKey link.a.1) (endpointKey link.b.1)
  bridges : ∀ bridge ∈ [INGRESS_BRIDGE_NAME, EGRESS_BRIDGE_NAME],
    h.kindOf (some v.requestedDpdkConfig.netns.1, bridge) = some .bridge
  ingress : ∀ x, h.masterOf (some v.requestedDpdkConfig.netns.1, x) = some INGRESS_BRIDGE_NAME ↔
    x = INGRESS_BRIDGE_KERNEL_INTERFACE ∨ v.topology.NamesRole .ingress x
  egress : ∀ x, h.masterOf (some v.requestedDpdkConfig.netns.1, x) = some EGRESS_BRIDGE_NAME ↔
    x = EGRESS_BRIDGE_KERNEL_INTERFACE ∨ v.topology.NamesRole .egress x
  addresses : ∀ link ∈ v.topology.links, ∀ side ∈ link.sides, ∀ ip ∈ side.2, h.HasAddress (endpointKey side.1) ip
  routes : ∀ route ∈ v.topology.routes,
    (h.routes (some route.netns.1, k.destination route.dst.1)).map Route.via = some route.via.1

/-- A TAP interface of the running datapath. -/
def Lab.OwnsTap (lab : Lab) (key : LinkKey) : Prop :=
  (∃ taps ∈ lab.datapath, key = (some taps.ns, taps.ingress) ∨ key = (some taps.ns, taps.egress)) ∧
    lab.host.kindOf key = some .tap

/-- **Nothing is in the way of a topology.** -/
structure Buildable (k : Kernel) (v : ValidatedTopologyConfig) (lab : Lab) : Prop where
  /-- a link whose two endpoints are there already is a veth pair -/
  pairs : ∀ link ∈ v.topology.links, lab.host.Present (endpointKey link.a.1) →
    lab.host.Present (endpointKey link.b.1) → lab.host.VethPair (endpointKey link.a.1) (endpointKey link.b.1)
  /-- what is in one of the two bridges already is attached anew, or goes with the datapath -/
  members : ∀ x, ∀ bridge ∈ [INGRESS_BRIDGE_NAME, EGRESS_BRIDGE_NAME],
    lab.host.masterOf (some v.requestedDpdkConfig.netns.1, x) = some bridge →
    x ∈ [INGRESS_BRIDGE_KERNEL_INTERFACE, EGRESS_BRIDGE_KERNEL_INTERFACE] ∨ v.topology.NamesPort x ∨
      lab.OwnsTap (some v.requestedDpdkConfig.netns.1, x)
  /-- no port has the name of the kernel side of the other bridge -/
  sides : ¬ v.topology.NamesRole .egress INGRESS_BRIDGE_KERNEL_INTERFACE ∧
    ¬ v.topology.NamesRole .ingress EGRESS_BRIDGE_KERNEL_INTERFACE
  /-- the routes of a namespace to one network have the same gateway -/
  routes : ∀ route ∈ v.topology.routes, ∀ other ∈ v.topology.routes, route.netns.1 = other.netns.1 →
    k.destination route.dst.1 = k.destination other.dst.1 → route.via.1 = other.via.1

namespace Host

variable {h h' h'' : Host}

/-! ### Growing -/

/-- `h'` has what `h` has, with more addresses; what is new is in no bridge and
is no TAP interface. -/
structure Grows (h h' : Host) : Prop where
  namespaces : h.namespaces ⊆ h'.namespaces
  old : ∀ key link, h.links key = some link → ∃ link', h'.links key = some link' ∧ link'.kind = link.kind ∧
    link'.master = link.master ∧ link.addresses ⊆ link'.addresses
  new : ∀ key link', h.links key = none → h'.links key = some link' → link'.master = none ∧ link'.kind ≠ .tap

theorem Grows.refl (h : Host) : h.Grows h :=
  ⟨Finset.Subset.refl _, fun _ link hl => ⟨link, hl, rfl, rfl, Finset.Subset.refl _⟩, fun _ _ hnone hl => by
    rw [hnone] at hl
    cases hl⟩

theorem Grows.trans (hg : h.Grows h') (hg' : h'.Grows h'') : h.Grows h'' where
  namespaces := hg.namespaces.trans hg'.namespaces
  old key link hl := by
    obtain ⟨link', hl', hkind, hmaster, haddresses⟩ := hg.old key link hl
    obtain ⟨link'', hl'', hkind', hmaster', haddresses'⟩ := hg'.old key link' hl'
    exact ⟨link'', hl'', hkind'.trans hkind, hmaster'.trans hmaster, haddresses.trans haddresses'⟩
  new key link'' hnone hl'' := by
    cases hl' : h'.links key with
    | none => exact hg'.new key link'' hl' hl''
    | some link' =>
      obtain ⟨hmaster, hkind⟩ := hg.new key link' hnone hl'
      obtain ⟨link, hl, hkind', hmaster', -⟩ := hg'.old key link' hl'
      rw [hl''] at hl
      cases hl
      exact ⟨hmaster'.trans hmaster, hkind' ▸ hkind⟩

/-- A new interface is put in place. -/
theorem grows_add {key : LinkKey} {kind : LinkKind} (hnew : h.links key = none) (hkind : kind ≠ .tap) :
    h.Grows (h.setLink key (Link.fresh kind)) where
  namespaces := Finset.Subset.refl _
  old key' link hl := by
    have hne : key' ≠ key := by
      rintro rfl
      rw [hnew] at hl
      cases hl
    exact ⟨link, (h.setLink_links_of_ne hne _).trans hl, rfl, rfl, Finset.Subset.refl _⟩
  new key' link' hnone hl' := by
    by_cases heq : key' = key
    · rw [heq, setLink_links_self, Option.some.injEq] at hl'
      rw [← hl']
      exact ⟨rfl, hkind⟩
    · rw [setLink_links_of_ne h heq, hnone] at hl'
      cases hl'

/-- An interface gets more addresses. -/
theorem grows_edit {key : LinkKey} {old link : Link} (hold : h.links key = some old) (hkind : link.kind = old.kind)
    (hmaster : link.master = old.master) (haddresses : old.addresses ⊆ link.addresses) :
    h.Grows (h.setLink key link) where
  namespaces := Finset.Subset.refl _
  old key' link' hl := by
    by_cases heq : key' = key
    · rw [heq, hold, Option.some.injEq] at hl
      rw [heq, ← hl]
      exact ⟨link, setLink_links_self _ _ _, hkind, hmaster, haddresses⟩
    · exact ⟨link', (h.setLink_links_of_ne heq _).trans hl, rfl, rfl, Finset.Subset.refl _⟩
  new key' link' hnone hl' := by
    have hne : key' ≠ key := by
      rintro rfl
      rw [hold] at hnone
      cases hnone
    rw [setLink_links_of_ne h hne, hnone] at hl'
    cases hl'

theorem Grows.kindOf (hg : h.Grows h') {key : LinkKey} (hpresent : h.links key ≠ none) :
    h'.kindOf key = h.kindOf key := by
  obtain ⟨link, hl⟩ := Option.ne_none_iff_exists'.mp hpresent
  obtain ⟨link', hl', hkind, -, -⟩ := hg.old key link hl
  rw [Host.kindOf, Host.kindOf, hl, hl', Option.map_some, Option.map_some, hkind]

theorem Grows.links_ne (hg : h.Grows h') {key : LinkKey} (hpresent : h.links key ≠ none) : h'.links key ≠ none := by
  obtain ⟨link, hl⟩ := Option.ne_none_iff_exists'.mp hpresent
  obtain ⟨link', hl', -⟩ := hg.old key link hl
  rw [hl']
  exact Option.some_ne_none link'

theorem Grows.masterOf (hg : h.Grows h') (key : LinkKey) : h'.masterOf key = h.masterOf key := by
  unfold Host.masterOf
  cases hl : h.links key with
  | some link =>
    obtain ⟨link', hl', -, hmaster, -⟩ := hg.old key link hl
    rw [hl', Option.bind_some, Option.bind_some, hmaster]
  | none =>
    cases hl' : h'.links key with
    | none => rfl
    | some link' => exact (hg.new key link' hl hl').1

/-- The TAP interfaces stay the same. -/
theorem Grows.tap_iff (hg : h.Grows h') (key : LinkKey) : h'.kindOf key = some .tap ↔ h.kindOf key = some .tap := by
  by_cases hl : h.links key = none
  · refine iff_of_false (fun htap => ?_) fun htap => ?_
    · obtain ⟨link', hl', hkind⟩ := Option.map_eq_some_iff.mp htap
      exact (hg.new key link' hl hl').2 hkind
    · rw [Host.kindOf, hl] at htap
      cases htap
  · rw [hg.kindOf hl]

theorem Grows.hasAddress (hg : h.Grows h') {key : LinkKey} {cidr : String} (ha : h.HasAddress key cidr) :
    h'.HasAddress key cidr := by
  obtain ⟨link, hl, hmem⟩ := ha
  obtain ⟨link', hl', -, -, haddresses⟩ := hg.old key link hl
  exact ⟨link', hl', haddresses hmem⟩

theorem VethPair.links_ne {a b : LinkKey} (hp : h.VethPair a b) : h.links a ≠ none ∧ h.links b ≠ none := by
  obtain ⟨ha, hb⟩ := hp
  refine ⟨fun hnone => ?_, fun hnone => ?_⟩
  · rw [Host.kindOf, hnone] at ha
    cases ha
  · rw [Host.kindOf, hnone] at hb
    cases hb

end Host

/-- The commands of the first steps of `apply`. -/
inductive IpCommand.Growing : IpCommand → Prop
  | netnsAdd (ns : String) : Growing (.netnsAdd ns)
  | linkShow (ns interface : String) : Growing (.linkShow ns interface)
  | vethAdd (nsA interfaceA nsB interfaceB : String) : Growing (.vethAdd nsA interfaceA nsB interfaceB)
  | bridgeAdd (ns bridge : String) : Growing (.bridgeAdd ns bridge)
  | addressReplace (ns interface cidr : String) : Growing (.addressReplace ns interface cidr)

section Commands

variable {k : Kernel} {h h' : Host}

theorem netnsAdd_eq_ok {ns : String} (hrun : exec k h (.netnsAdd ns) = .ok h') :
    ns ∉ h.namespaces ∧ h' = h.addNamespace ns := by
  simp only [exec] at hrun
  split at hrun
  · cases hrun
  · rename_i hcond
    cases hrun
    exact ⟨(not_or.mp hcond).1, rfl⟩

theorem vethAdd_eq_ok {nsA interfaceA nsB interfaceB : String}
    (hrun : exec k h (.vethAdd nsA interfaceA nsB interfaceB) = .ok h') :
    nsA ∈ h.namespaces ∧ nsB ∈ h.namespaces ∧ ((some nsA, interfaceA) : LinkKey) ≠ (some nsB, interfaceB) ∧
      h.links (some nsA, interfaceA) = none ∧ h.links (some nsB, interfaceB) = none ∧
      h' = (h.setLink (some nsA, interfaceA) (Link.fresh (.veth (some nsB, interfaceB)))).setLink
        (some nsB, interfaceB) (Link.fresh (.veth (some nsA, interfaceA))) := by
  simp only [exec] at hrun
  split at hrun
  · cases hrun
  · rename_i hcond
    simp only [not_or, not_not] at hcond
    obtain ⟨hA, hB, -, hne, ha, hb⟩ := hcond
    cases hrun
    refine ⟨hA, hB, fun heq => hne ?_, ha, hb, rfl⟩
    exact Prod.ext (Option.some.inj (Prod.mk.inj heq).1) (Prod.mk.inj heq).2

theorem addressReplace_eq_ok {ns interface cidr : String}
    (hrun : exec k h (.addressReplace ns interface cidr) = .ok h') :
    ∃ old, h.links (some ns, interface) = some old ∧
      h' = h.setLink (some ns, interface) { old with addresses := insert cidr old.addresses } := by
  obtain ⟨-, old, link, hold, hedit, rfl⟩ := editLink_eq_ok hrun
  split at hedit
  · cases hedit
    exact ⟨old, hold, rfl⟩
  · cases hedit

theorem linkShow_eq_ok {ns interface : String} (hrun : exec k h (.linkShow ns interface) = .ok h') :
    h.links (some ns, interface) ≠ none ∧ h' = h := by
  simp only [exec] at hrun
  split at hrun
  · cases hrun
  · split at hrun
    · cases hrun
    · rename_i hl
      cases hrun
      exact ⟨hl, rfl⟩

/-- The commands of the first steps let the host grow. -/
theorem exec_grows {c : IpCommand} (hc : c.Growing) (he : h.Equipped) (hrun : exec k h c = .ok h') : h.Grows h' := by
  cases hc with
  | netnsAdd ns =>
    obtain ⟨hns, rfl⟩ := netnsAdd_eq_ok hrun
    have hins : h.Grows { h with namespaces := insert ns h.namespaces } :=
      ⟨Finset.subset_insert _ _, (Host.Grows.refl h).old, (Host.Grows.refl h).new⟩
    refine hins.trans (Host.grows_add (he.links _ ?_) (by decide))
    simpa [Host.hasNs] using hns
  | linkShow ns interface =>
    obtain ⟨-, rfl⟩ := linkShow_eq_ok hrun
    exact Host.Grows.refl _
  | vethAdd nsA interfaceA nsB interfaceB =>
    obtain ⟨-, -, hne, ha, hb, rfl⟩ := vethAdd_eq_ok hrun
    refine (Host.grows_add ha (by simp)).trans (Host.grows_add ?_ (by simp))
    rw [Host.setLink_links_of_ne _ hne.symm]
    exact hb
  | bridgeAdd ns bridge =>
    simp only [exec] at hrun
    split at hrun
    · cases hrun
    · split at hrun
      · cases hrun
      · rename_i hcond
        cases hrun
        exact Host.grows_add (not_not.mp (not_or.mp hcond).1) (by decide)
  | addressReplace ns interface cidr =>
    obtain ⟨old, hold, rfl⟩ := addressReplace_eq_ok hrun
    exact Host.grows_edit hold rfl rfl (Finset.subset_insert _ _)

end Commands

/-! ### A datapath that ends -/

/-- `h'` is `h` without the TAP interfaces among `S`. -/
structure Host.Without (S : LinkKey → Prop) (h h' : Host) : Prop where
  gone : ∀ key, S key → h.kindOf key = some .tap → h'.links key = none
  stays : ∀ key link, h.links key = some link → ¬ (S key ∧ link.kind = .tap) →
    ∃ link', h'.links key = some link' ∧ link'.kind = link.kind ∧ link'.addresses = link.addresses ∧
      ∀ bridge, h.kindOf (key.1, bridge) ≠ some .tap → (link'.master = some bridge ↔ link.master = some bridge)
  absent : ∀ key, h.links key = none → h'.links key = none

namespace Host

variable {S T : LinkKey → Prop} {h h' h'' : Host}

theorem Without.refl (h : Host) : Without (fun _ => False) h h :=
  ⟨fun _ hS => hS.elim, fun _ link hl _ => ⟨link, hl, rfl, rfl, fun _ _ => Iff.rfl⟩, fun _ hnone => hnone⟩

theorem Without.trans (hw : Without S h h') (hw' : Without T h' h'') : Without (fun key => S key ∨ T key) h h'' where
  gone key hST htap := by
    by_cases hS : S key
    · exact hw'.absent key (hw.gone key hS htap)
    · obtain ⟨link, hl, hkind⟩ := Option.map_eq_some_iff.mp htap
      obtain ⟨link', hl', hkind', -⟩ := hw.stays key link hl fun h => hS h.1
      refine hw'.gone key (hST.resolve_left hS) ?_
      rw [kindOf, hl', Option.map_some, hkind', hkind]
  stays key link hl hnot := by
    obtain ⟨link', hl', hkind', haddresses', hmaster'⟩ := hw.stays key link hl fun h => hnot ⟨.inl h.1, h.2⟩
    obtain ⟨link'', hl'', hkind'', haddresses'', hmaster''⟩ := hw'.stays key link' hl' fun h =>
      hnot ⟨.inr h.1, hkind' ▸ h.2⟩
    refine ⟨link'', hl'', hkind''.trans hkind', haddresses''.trans haddresses', fun bridge hbridge => ?_⟩
    refine (hmaster'' bridge fun htap => hbridge ?_).trans (hmaster' bridge hbridge)
    -- a TAP interface that is left was one before
    cases hb : h.links (key.1, bridge) with
    | none =>
      rw [kindOf, hw.absent _ hb] at htap
      cases htap
    | some link₀ =>
      by_cases hgone : S (key.1, bridge) ∧ link₀.kind = .tap
      · exact absurd (by rw [kindOf, hb, Option.map_some, hgone.2]) hbridge
      · obtain ⟨link₁, hl₁, hkind₁, -⟩ := hw.stays _ link₀ hb hgone
        rw [kindOf, hl₁, Option.map_some, hkind₁] at htap
        rw [kindOf, hb, Option.map_some, htap]
  absent key hnone := hw'.absent key (hw.absent key hnone)

theorem Without.kindOf (hw : Without S h h') {key : LinkKey} (hnot : ¬ (S key ∧ h.kindOf key = some .tap)) :
    h'.kindOf key = h.kindOf key := by
  cases hl : h.links key with
  | none => rw [Host.kindOf, Host.kindOf, hl, hw.absent key hl]
  | some link =>
    have hkind : h.kindOf key = some link.kind := by rw [Host.kindOf, hl, Option.map_some]
    obtain ⟨link', hl', hkind', -⟩ := hw.stays key link hl fun h => hnot ⟨h.1, hkind.trans (congrArg some h.2)⟩
    rw [hkind, Host.kindOf, hl', Option.map_some, hkind']

theorem Without.kindOf_of_some (hw : Without S h h') {key : LinkKey} {kind : LinkKind}
    (hkind : h'.kindOf key = some kind) : h.kindOf key = some kind := by
  by_cases hgone : S key ∧ h.kindOf key = some .tap
  · rw [Host.kindOf, hw.gone key hgone.1 hgone.2] at hkind
    cases hkind
  · rw [← hw.kindOf hgone]
    exact hkind

theorem Without.hasAddress (hw : Without S h h') {key : LinkKey} {cidr : String}
    (hnot : ¬ (S key ∧ h.kindOf key = some .tap)) (ha : h.HasAddress key cidr) : h'.HasAddress key cidr := by
  obtain ⟨link, hl, hmem⟩ := ha
  have hkind : h.kindOf key = some link.kind := by rw [Host.kindOf, hl, Option.map_some]
  obtain ⟨link', hl', -, haddresses, -⟩ := hw.stays key link hl fun h => hnot ⟨h.1, hkind.trans (congrArg some h.2)⟩
  exact ⟨link', hl', haddresses ▸ hmem⟩

/-- What is in a bridge stays there, except for the TAP interfaces that go. -/
theorem Without.masterOf_iff (hw : Without S h h') {key : LinkKey} {bridge : String}
    (hbridge : h.kindOf (key.1, bridge) ≠ some .tap) :
    h'.masterOf key = some bridge ↔ h.masterOf key = some bridge ∧ ¬ (S key ∧ h.kindOf key = some .tap) := by
  cases hl : h.links key with
  | none => simp [masterOf, hl, hw.absent key hl]
  | some link =>
    have hkind : h.kindOf key = some link.kind := by rw [Host.kindOf, hl, Option.map_some]
    by_cases hgone : S key ∧ link.kind = .tap
    · have htap : h.kindOf key = some .tap := hkind.trans (congrArg some hgone.2)
      rw [masterOf, hw.gone key hgone.1 htap]
      exact iff_of_false (by simp) fun h => h.2 ⟨hgone.1, htap⟩
    · obtain ⟨link', hl', -, -, hmaster⟩ := hw.stays key link hl hgone
      have hnot : ¬ (S key ∧ h.kindOf key = some .tap) := fun h =>
        hgone ⟨h.1, Option.some.inj (hkind.symm.trans h.2)⟩
      rw [masterOf, masterOf, hl', hl, Option.bind_some, Option.bind_some, hmaster bridge hbridge]
      exact (and_iff_left hnot).symm

theorem deleteTap_without (hc : h.Closed) (tap : LinkKey) : Without (fun key => key = tap) h (h.deleteTap tap) where
  gone key hkey htap := by
    subst hkey
    have htap' : (h.links key).map Link.kind = some .tap := htap
    rw [deleteTap_links hc, if_pos htap', if_pos rfl]
  stays key link hl hnot := by
    rw [deleteTap_links hc]
    by_cases htap : (h.links tap).map Link.kind = some .tap
    · have hne : key ≠ tap := by
        rintro rfl
        rw [hl, Option.map_some, Option.some.injEq] at htap
        exact hnot ⟨rfl, htap⟩
      rw [if_pos htap, if_neg hne, hl]
      refine ⟨_, rfl, rfl, rfl, fun bridge hbridge => ?_⟩
      simp only [Option.filter_eq_some_iff, and_iff_left_iff_imp]
      intro _
      rw [Bool.not_eq_true', decide_eq_false_iff_not]
      rintro rfl
      exact hbridge htap
    · rw [if_neg htap]
      exact ⟨link, hl, rfl, rfl, fun _ _ => Iff.rfl⟩
  absent key hnone := by
    rw [deleteTap_links hc, hnone]
    split
    · split
      · rfl
      · rfl
    · rfl

end Host

/-- **A datapath that ends takes its TAP interfaces along.** -/
theorem withoutDatapath_without {lab : Lab} (he : lab.host.Equipped) :
    Host.Without (fun key => ∃ taps ∈ lab.datapath, key = (some taps.ns, taps.ingress) ∨
      key = (some taps.ns, taps.egress)) lab.host lab.withoutDatapath.host := by
  unfold Lab.withoutDatapath
  cases lab.datapath with
  | none => simpa using Host.Without.refl lab.host
  | some taps =>
    have hfirst := Host.deleteTap_without he.toClosed (some taps.ns, taps.ingress)
    have hsecond := Host.deleteTap_without (deleteTap_equipped he (some taps.ns, taps.ingress)).toClosed
      (some taps.ns, taps.egress)
    simpa using hfirst.trans hsecond

/-! ### Attaching and setting up -/

/-- An interface but for its up flag. -/
def Link.shape (link : Link) : Link := { link with up := false }

/-- The interfaces but for their up flags. -/
def Host.shape (h : Host) (key : LinkKey) : Option Link := (h.links key).map Link.shape

namespace Host

variable {h h' : Host}

theorem kindOf_shape (hs : h'.shape = h.shape) : h'.kindOf = h.kindOf := by
  funext key
  have hkey := congrArg (Option.map Link.kind) (congrFun hs key)
  simpa [shape, kindOf, Function.comp_def, Link.shape] using hkey

theorem masterOf_shape (hs : h'.shape = h.shape) : h'.masterOf = h.masterOf := by
  funext key
  have hkey := congrArg (fun o => Option.bind o Link.master) (congrFun hs key)
  simpa [shape, masterOf, Option.bind_map, Function.comp_def, Link.shape] using hkey

theorem hasAddress_shape (hs : h'.shape = h.shape) {key : LinkKey} {cidr : String} (ha : h.HasAddress key cidr) :
    h'.HasAddress key cidr := by
  obtain ⟨link, hl, hmem⟩ := ha
  have hkey := congrFun hs key
  rw [shape, shape, Option.mem_def.mp hl, Option.map_some] at hkey
  obtain ⟨link', hl', hshape⟩ := Option.map_eq_some_iff.mp hkey
  refine ⟨link', hl', ?_⟩
  have haddresses : link'.shape.addresses = link.shape.addresses := congrArg Link.addresses hshape
  exact (show link'.addresses = link.addresses from haddresses) ▸ hmem

end Host

section Commands

variable {k : Kernel} {h h' : Host}

theorem exec_setUp {ns interface : String} (hrun : exec k h (.setUp ns interface) = .ok h') : h'.shape = h.shape := by
  obtain ⟨-, old, link, hold, hedit, rfl⟩ := editLink_eq_ok hrun
  split at hedit
  · cases hedit
    funext key
    unfold Host.shape
    by_cases heq : key = (some ns, interface)
    · rw [heq, Host.setLink_links_self, hold]
      rfl
    · rw [Host.setLink_links_of_ne h heq]
  · cases hedit

/-- What attaching an interface to a bridge needs and does. -/
theorem exec_setMaster {ns interface bridge : String} (hrun : exec k h (.setMaster ns interface bridge) = .ok h') :
    h.kindOf (some ns, bridge) = some .bridge ∧ h'.kindOf = h.kindOf ∧
      (∀ key cidr, h.HasAddress key cidr → h'.HasAddress key cidr) ∧
      h'.masterOf = Function.update h.masterOf (some ns, interface) (some bridge) := by
  obtain ⟨-, old, link, hold, hedit, rfl⟩ := editLink_eq_ok hrun
  split at hedit
  · rename_i hcond
    cases hedit
    refine ⟨hcond.2.2, funext fun key => ?_, fun key cidr ha => ?_, funext fun key => ?_⟩
    · unfold Host.kindOf
      by_cases heq : key = (some ns, interface)
      · rw [heq, Host.setLink_links_self, hold]
        rfl
      · rw [Host.setLink_links_of_ne h heq]
    · by_cases heq : key = (some ns, interface)
      · obtain ⟨link, hl, hmem⟩ := ha
        rw [heq, hold] at hl
        cases hl
        exact ⟨{ old with master := some bridge }, by rw [heq, Host.setLink_links_self]; rfl, hmem⟩
      · obtain ⟨link, hl, hmem⟩ := ha
        exact ⟨link, (Host.setLink_links_of_ne h heq _).trans hl, hmem⟩
    · by_cases heq : key = (some ns, interface)
      · rw [heq, Function.update_self, Host.masterOf, Host.setLink_links_self]
        rfl
      · rw [Function.update_of_ne heq, Host.masterOf, Host.setLink_links_of_ne h heq]
        rfl
  · cases hedit

theorem exec_routeReplace {ns dst via : String} (hrun : exec k h (.routeReplace ns dst via) = .ok h') :
    h'.links = h.links ∧ ∃ dev, h'.routes = Function.update h.routes (some ns, k.destination dst) (some ⟨via, dev⟩) := by
  simp only [exec] at hrun
  split at hrun
  · cases hrun
  · split at hrun
    · cases hrun
    · rename_i dev _
      cases hrun
      exact ⟨rfl, dev, rfl⟩

end Commands

end Ctrld
end Pktlab
