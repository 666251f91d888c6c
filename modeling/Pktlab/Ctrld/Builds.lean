/-
# When an apply that returns has built the declared lab

The steps of `apply` in turn: the first three let the host grow
(`ensureNamespaces_eq_ok`, `each_ensureLink_eq_ok`, `ensureBridges_grows`), the
start of the datapath takes the old TAP interfaces away and puts the new ones
in place, `reconcile_taps` attaches four interfaces, and what is left changes
up flags and routes. So an `apply` that returns leaves the declared lab if and
only if nothing was in its way (`apply_builds_iff`).

Key definitions: `Lab.Grows`, `Settled`, `Outcome`.
Key theorems: `each_ensureLink_eq_ok`, `reconcileTaps_eq_ok`,
`each_replaceRoute_eq_ok`, `apply_outcome`, `apply_builds_iff`.
-/
import Pktlab.Ctrld.Built

namespace Pktlab
namespace Ctrld

open Python Effect

section Calls

variable {k : Kernel} {lab lab' : Lab}

theorem runIp_eq_ok {c : IpCommand} {allowed : List ℕ} {status : ℕ} (h : runIp k c allowed lab = (.ok status, lab')) :
    lab'.datapath = lab.datapath ∧
      (status = 0 ∧ exec k lab.host c = .ok lab'.host ∨ status ≠ 0 ∧ lab'.host = lab.host) := by
  obtain ⟨status', host, hrun, hanswer⟩ := runIp_answers (k := k) c allowed lab
  rw [hrun, answer] at h
  split at h
  · obtain ⟨hstatus, rfl⟩ := Prod.mk.inj h
    rw [← Except.ok.inj hstatus]
    exact ⟨rfl, hanswer⟩
  · cases h

/-- An interface that is found is there. -/
theorem linkExists_eq_ok {ns interface : String} {found : Bool}
    (h : linkExists k ns interface lab = (.ok found, lab')) :
    lab'.host = lab.host ∧ lab'.datapath = lab.datapath ∧
      (found = true → lab.host.links (some ns, interface) ≠ none) := by
  obtain ⟨status, lab₁, hrun, hrest⟩ := Eff.bind_eq_ok.mp h
  obtain ⟨hfound, rfl⟩ := Prod.mk.inj hrest
  obtain ⟨hdatapath, ⟨rfl, he⟩ | ⟨hne, hhost⟩⟩ := runIp_eq_ok hrun
  · obtain ⟨hl, hhost⟩ := linkShow_eq_ok he
    exact ⟨hhost, hdatapath, fun _ => hl⟩
  · refine ⟨hhost, hdatapath, fun htrue => absurd ?_ hne⟩
    rw [← Except.ok.inj hfound] at htrue
    exact of_decide_eq_true htrue

/-- What is there is left alone, else the pair is added. -/
theorem ensureVethPair_eq_ok {nsA interfaceA nsB interfaceB : String}
    (h : ensureVethPair k nsA interfaceA nsB interfaceB lab = (.ok (), lab')) :
    lab'.datapath = lab.datapath ∧
      (lab'.host = lab.host ∧ lab.host.links (some nsA, interfaceA) ≠ none ∧
          lab.host.links (some nsB, interfaceB) ≠ none ∨
        exec k lab.host (.vethAdd nsA interfaceA nsB interfaceB) = .ok lab'.host) := by
  obtain ⟨found, lab₁, hboth, hrest⟩ := Eff.bind_eq_ok.mp h
  obtain ⟨foundA, lab₂, hA, hB⟩ := Eff.bind_eq_ok.mp hboth
  obtain ⟨hhostA, hdatapathA, hpresentA⟩ := linkExists_eq_ok hA
  have hadds : found = false → lab₁.host = lab.host ∧ lab₁.datapath = lab.datapath →
      lab'.datapath = lab.datapath ∧ exec k lab.host (.vethAdd nsA interfaceA nsB interfaceB) = .ok lab'.host := by
    rintro rfl ⟨hhost, hdatapath⟩
    obtain ⟨host, he, rfl⟩ := callIp_eq_ok hrest
    exact ⟨hdatapath, hhost ▸ he⟩
  cases foundA with
  | false =>
    obtain ⟨hfound, rfl⟩ := Prod.mk.inj hB
    obtain ⟨hdatapath, he⟩ := hadds (Except.ok.inj hfound).symm ⟨hhostA, hdatapathA⟩
    exact ⟨hdatapath, .inr he⟩
  | true =>
    obtain ⟨hhostB, hdatapathB, hpresentB⟩ := linkExists_eq_ok hB
    have hhost : lab₁.host = lab.host := hhostB.trans hhostA
    have hdatapath : lab₁.datapath = lab.datapath := hdatapathB.trans hdatapathA
    cases found with
    | false =>
      obtain ⟨hdatapath', he⟩ := hadds rfl ⟨hhost, hdatapath⟩
      exact ⟨hdatapath', .inr he⟩
    | true =>
      obtain ⟨-, rfl⟩ := Prod.mk.inj hrest
      exact ⟨hdatapath, .inl ⟨hhost, hpresentA rfl, hhostA ▸ hpresentB rfl⟩⟩

end Calls

/-! ### The steps before the datapath starts -/

/-- The datapath is the same, and the host has grown. -/
def Lab.Grows (lab lab' : Lab) : Prop :=
  lab'.datapath = lab.datapath ∧ (lab.host.Equipped → lab'.host.Equipped ∧ lab.host.Grows lab'.host)

theorem Lab.Grows.of_same {lab lab' : Lab} (hdatapath : lab'.datapath = lab.datapath) (hhost : lab'.host = lab.host) :
    lab.Grows lab' := by
  unfold Lab.Grows
  rw [hhost]
  exact ⟨hdatapath, fun he => ⟨he, Host.Grows.refl _⟩⟩

theorem Lab.Grows.refl (lab : Lab) : lab.Grows lab := .of_same rfl rfl

theorem Lab.Grows.trans (lab lab' lab'' : Lab) (h : lab.Grows lab') (h' : lab'.Grows lab'') : lab.Grows lab'' := by
  refine ⟨h'.1.trans h.1, fun he => ?_⟩
  obtain ⟨he', hg⟩ := h.2 he
  obtain ⟨he'', hg'⟩ := h'.2 he'
  exact ⟨he'', hg.trans hg'⟩

section Growing

variable {k : Kernel} {v : ValidatedTopologyConfig} {lab lab' : Lab}

theorem callIp_grows {c : IpCommand} (hc : c.Growing) : Relates Lab.Grows (callIp k c) := by
  intro lab _ lab' h
  obtain ⟨host, he, rfl⟩ := callIp_eq_ok h
  exact ⟨rfl, fun hequipped => ⟨exec_equipped hequipped he, exec_grows hc hequipped he⟩⟩

theorem linkExists_grows (ns interface : String) : Relates Lab.Grows (linkExists k ns interface) := by
  intro lab found lab' h
  obtain ⟨hhost, hdatapath, -⟩ := linkExists_eq_ok h
  exact .of_same hdatapath hhost

theorem ensureBridges_grows : Relates Lab.Grows (ensureBridges k v) := by
  have hbridge : ∀ bridge, Relates Lab.Grows (ensureBridge k v.requestedDpdkConfig.netns.1 bridge) := by
    intro bridge
    refine relates_bind Lab.Grows.trans (linkExists_grows _ _) fun found => ?_
    split
    · exact relates_pure Lab.Grows.refl ()
    · exact callIp_grows (.bridgeAdd _ _)
  exact relates_bind Lab.Grows.trans (hbridge _) fun _ => hbridge _

/-- Creating namespaces creates loopback devices alone. -/
theorem ensureNamespaces_eq_ok (h : ensureNamespaces k v lab = (.ok (), lab')) :
    lab.Grows lab' ∧ ∀ key : LinkKey, key.2 ≠ "lo" → lab'.host.links key = lab.host.links key := by
  refine relates_each (R := fun lab lab' => lab.Grows lab' ∧ ∀ key : LinkKey, key.2 ≠ "lo" →
    lab'.host.links key = lab.host.links key) (fun lab => ⟨Lab.Grows.refl lab, fun _ _ => rfl⟩) ?_ ?_ lab () lab' h
  · rintro lab lab' lab'' ⟨hg, hsame⟩ ⟨hg', hsame'⟩
    exact ⟨hg.trans _ _ _ hg', fun key hne => (hsame' key hne).trans (hsame key hne)⟩
  · intro ns _ lab _ lab' h
    obtain ⟨found, lab₁, hfound, hrest⟩ := Eff.bind_eq_ok.mp h
    obtain ⟨-, rfl⟩ := namespaceExists_eq_ok hfound
    cases found with
    | true =>
      obtain ⟨-, rfl⟩ := Prod.mk.inj hrest
      exact ⟨.of_same rfl rfl, fun _ _ => rfl⟩
    | false =>
      obtain ⟨host, he, rfl⟩ := callIp_eq_ok hrest
      refine ⟨⟨rfl, fun hequipped => ⟨exec_equipped hequipped he, exec_grows (.netnsAdd _) hequipped he⟩⟩,
        fun key hne => ?_⟩
      obtain ⟨-, rfl⟩ := netnsAdd_eq_ok he
      refine Host.setLink_links_of_ne _ (fun heq => hne ?_) _
      rw [heq]

/-- A link whose endpoints were there, or has been created; and its addresses. -/
structure Settled (h h' : Host) (link : LinkModel) : Prop where
  pair : h.links (endpointKey link.a.1) ≠ none ∧ h.links (endpointKey link.b.1) ≠ none ∨
    h'.VethPair (endpointKey link.a.1) (endpointKey link.b.1) ∧ ¬ h.Present (endpointKey link.a.1)
  addresses : ∀ side ∈ link.sides, ∀ ip ∈ side.2, h'.HasAddress (endpointKey side.1) ip

/-- Setting an address of an endpoint. -/
theorem addressIfGiven_eq_ok {value : String} {ip : Option String}
    (h : addressIfGiven k (splitRef value).1 (splitRef value).2 ip lab = (.ok (), lab')) :
    lab.Grows lab' ∧ (∀ key, key ≠ endpointKey value → lab'.host.links key = lab.host.links key) ∧
      ∀ cidr ∈ ip, lab'.host.HasAddress (endpointKey value) cidr := by
  cases ip with
  | none =>
    obtain ⟨-, rfl⟩ := Prod.mk.inj h
    exact ⟨Lab.Grows.refl _, fun _ _ => rfl, fun _ hnone => by cases hnone⟩
  | some ip =>
    obtain ⟨host, he, rfl⟩ := callIp_eq_ok h
    refine ⟨⟨rfl, fun hequipped => ⟨exec_equipped hequipped he, exec_grows (.addressReplace _ _ _) hequipped he⟩⟩, ?_⟩
    obtain ⟨old, hold, rfl⟩ := addressReplace_eq_ok he
    refine ⟨fun key hne => Host.setLink_links_of_ne _ hne _, fun cidr hcidr => ?_⟩
    cases hcidr
    exact ⟨_, Host.setLink_links_self _ _ _, Finset.mem_insert_self _ _⟩

/-- One round of the loop over the links. -/
theorem ensureLink_eq_ok {link : LinkModel} (hequipped : lab.host.Equipped)
    (h : ensureLink k link lab = (.ok (), lab')) :
    lab.Grows lab' ∧ Settled lab.host lab'.host link ∧
      ∀ key, key ≠ endpointKey link.a.1 → key ≠ endpointKey link.b.1 →
        lab'.host.links key = lab.host.links key := by
  obtain ⟨_, lab₁, hveth, hrest⟩ := Eff.bind_eq_ok.mp h
  obtain ⟨_, lab₂, hA, hB⟩ := Eff.bind_eq_ok.mp hrest
  obtain ⟨hgA, hframeA, haddressA⟩ := addressIfGiven_eq_ok hA
  obtain ⟨hgB, hframeB, haddressB⟩ := addressIfGiven_eq_ok hB
  have hfirst : lab.Grows lab₁ ∧
      (lab.host.links (endpointKey link.a.1) ≠ none ∧ lab.host.links (endpointKey link.b.1) ≠ none ∨
        lab₁.host.VethPair (endpointKey link.a.1) (endpointKey link.b.1) ∧ ¬ lab.host.Present (endpointKey link.a.1)) ∧
      ∀ key, key ≠ endpointKey link.a.1 → key ≠ endpointKey link.b.1 → lab₁.host.links key = lab.host.links key := by
    obtain ⟨hdatapath, ⟨hhost, ha, hb⟩ | he⟩ := ensureVethPair_eq_ok hveth
    · exact ⟨.of_same hdatapath hhost, .inl ⟨ha, hb⟩, fun key _ _ => by rw [hhost]⟩
    · refine ⟨⟨hdatapath, fun hequipped => ⟨exec_equipped hequipped he, exec_grows (.vethAdd _ _ _ _) hequipped he⟩⟩,
        .inr ?_, fun key hna hnb => ?_⟩
      · obtain ⟨hns, -, hne, ha, -, hhost⟩ := vethAdd_eq_ok he
        refine ⟨⟨?_, ?_⟩, ?_⟩
        · rw [hhost, Host.kindOf, endpointKey, Host.setLink_links_of_ne _ hne, Host.setLink_links_self]
          rfl
        · rw [hhost, Host.kindOf, endpointKey, endpointKey, Host.setLink_links_self]
          rfl
        · -- the loopback device is there already
          rintro (hpresent | hlo)
          · exact hpresent ha
          · have hloopback := hequipped.loopbacks _ hns
            simp only [endpointKey] at hlo
            rw [← hlo, ha] at hloopback
            cases hloopback
      · obtain ⟨-, -, -, -, -, hhost⟩ := vethAdd_eq_ok he
        rw [hhost]
        exact (Host.setLink_links_of_ne _ hnb _).trans (Host.setLink_links_of_ne _ hna _)
  obtain ⟨hg, hpair, hframe⟩ := hfirst
  obtain ⟨hequipped₁, -⟩ := hg.2 hequipped
  obtain ⟨hequipped₂, hgrows₂⟩ := hgA.2 hequipped₁
  obtain ⟨-, hgrows₃⟩ := hgB.2 hequipped₂
  refine ⟨(hg.trans _ _ _ hgA).trans _ _ _ hgB, ⟨hpair.imp_right fun hcreated => ⟨?_, hcreated.2⟩, ?_⟩,
    fun key hna hnb => (hframeB key hnb).trans ((hframeA key hna).trans (hframe key hna hnb))⟩
  · obtain ⟨ha, hb⟩ := hcreated.1.links_ne
    have hgrows := hgrows₂.trans hgrows₃
    exact ⟨(hgrows.kindOf ha).trans hcreated.1.1, (hgrows.kindOf hb).trans hcreated.1.2⟩
  · intro side hside ip hip
    simp only [LinkModel.sides, List.mem_cons, List.not_mem_nil, or_false] at hside
    rcases hside with rfl | rfl
    · exact hgrows₃.hasAddress (haddressA ip hip)
    · exact haddressB ip hip

/-- **The loop over the links.** No endpoint is named twice, so an endpoint
that a round finds was there before the loop. -/
theorem each_ensureLink_eq_ok : ∀ {links : List LinkModel} {lab lab' : Lab},
    (links.flatMap fun link => link.sides.map fun side => endpointKey side.1).Nodup → lab.host.Equipped →
    Eff.each (ensureLink k) links lab = (.ok (), lab') →
    lab.Grows lab' ∧ ∀ link ∈ links, Settled lab.host lab'.host link
  | [], lab, lab', _, _, h => by
    obtain ⟨-, rfl⟩ := Prod.mk.inj h
    exact ⟨Lab.Grows.refl _, by simp⟩
  | link :: links, lab, lab', hnodup, he, h => by
    obtain ⟨lab₁, hhead, htail⟩ := Eff.each_cons_eq_ok.mp h
    obtain ⟨hg₁, hsettled, hframe⟩ := ensureLink_eq_ok he hhead
    obtain ⟨he₁, hgrows₁⟩ := hg₁.2 he
    rw [List.flatMap_cons, List.nodup_append] at hnodup
    obtain ⟨-, hnodup', hdisjoint⟩ := hnodup
    obtain ⟨hg₂, hrest⟩ := each_ensureLink_eq_ok hnodup' he₁ htail
    obtain ⟨-, hgrows₂⟩ := hg₂.2 he₁
    refine ⟨hg₁.trans _ _ _ hg₂, List.forall_mem_cons.mpr ⟨⟨?_, ?_⟩, fun other hother => ?_⟩⟩
    · refine hsettled.pair.imp_right fun hcreated => ⟨?_, hcreated.2⟩
      obtain ⟨ha, hb⟩ := hcreated.1.links_ne
      exact ⟨(hgrows₂.kindOf ha).trans hcreated.1.1, (hgrows₂.kindOf hb).trans hcreated.1.2⟩
    · exact fun side hside ip hip => hgrows₂.hasAddress (hsettled.addresses side hside ip hip)
    · have hsame : ∀ side ∈ other.sides, lab₁.host.links (endpointKey side.1) = lab.host.links (endpointKey side.1) := by
        intro side hside
        have hmem : endpointKey side.1 ∈ links.flatMap fun link => link.sides.map fun side => endpointKey side.1 :=
          List.mem_flatMap.mpr ⟨other, hother, List.mem_map_of_mem hside⟩
        refine hframe _ (fun heq => ?_) fun heq => ?_
        · exact hdisjoint _ (by simp [LinkModel.sides]) _ hmem heq.symm
        · exact hdisjoint _ (by simp [LinkModel.sides]) _ hmem heq.symm
      have hA := hsame (other.a.1, other.ipA) (by simp [LinkModel.sides])
      have hB := hsame (other.b.1, other.ipB) (by simp [LinkModel.sides])
      obtain ⟨hpair, haddresses⟩ := hrest other hother
      refine ⟨?_, haddresses⟩
      simp only [Host.Present] at hpair ⊢
      rw [← hA, ← hB]
      exact hpair

end Growing

/-! ### The datapath, the bridges and the routes -/

section Rest

variable {k : Kernel} {v : ValidatedTopologyConfig} {m : Manager} {lab lab' : Lab} {ingress egress : String}

theorem liftExc_eq_ok {α : Type} {x : Except Exc α} {a b : α} (hx : x = .ok a)
    (h : liftExc x lab = (.ok b, lab')) : b = a ∧ lab' = lab := by
  rw [hx] at h
  obtain ⟨hb, rfl⟩ := Prod.mk.inj h
  exact ⟨(Except.ok.inj hb).symm, rfl⟩

theorem stopDatapath_eq_ok (h : stopDatapath lab = (.ok (), lab')) : lab' = lab.withoutDatapath := by
  unfold stopDatapath at h
  cases hraises : lab.stopRaises with
  | none =>
    rw [hraises] at h
    exact (Prod.mk.inj h).2.symm
  | some e =>
    rw [hraises] at h
    cases h

/-- The new TAP interfaces have free names. -/
theorem startDatapath_eq_ok {running : Bool} (hin : portNameForRole v .ingress = .ok ingress)
    (hout : portNameForRole v .egress = .ok egress) (h : m.startDatapath v lab = (.ok running, lab')) :
    lab.withoutDatapath.host.links (some v.requestedDpdkConfig.netns.1, ingress) = none ∧
      lab.withoutDatapath.host.links (some v.requestedDpdkConfig.netns.1, egress) = none ∧
      lab'.host = (lab.withoutDatapath.host.setLink (some v.requestedDpdkConfig.netns.1, ingress)
        (Link.fresh .tap)).setLink (some v.requestedDpdkConfig.netns.1, egress) (Link.fresh .tap) := by
  obtain ⟨_, lab₁, hstop, hports⟩ := Eff.bind_eq_ok.mp h
  obtain ⟨name, lab₂, hingress, hport⟩ := Eff.bind_eq_ok.mp hports
  obtain ⟨name', lab₃, hegress, hstart⟩ := Eff.bind_eq_ok.mp hport
  obtain ⟨rfl, rfl⟩ := liftExc_eq_ok hin hingress
  obtain ⟨rfl, rfl⟩ := liftExc_eq_ok hout hegress
  have hlab := stopDatapath_eq_ok hstop
  subst hlab
  simp only [Eff.bind_apply, Eff.get] at hstart
  split_ifs at hstart with hready
  · obtain ⟨-, hlab⟩ := Prod.mk.inj hstart
    rw [← hlab]
    exact ⟨hready.2.2.1, hready.2.2.2, rfl⟩
  · cases hstart

theorem waitUntil_same (ns interface description : String) :
    ∀ polls, Relates (fun lab lab' : Lab => lab'.host = lab.host)
      (waitUntil (linkExists k ns interface) description polls)
  | 0 => fun _ _ _ h => by cases h
  | polls + 1 => by
    refine relates_bind (fun _ _ _ h h' => h'.trans h) (fun lab found lab' h => (linkExists_eq_ok h).1) fun done => ?_
    split
    · exact relates_pure (R := fun lab lab' : Lab => lab'.host = lab.host) (fun _ => rfl) ()
    · exact waitUntil_same ns interface description polls

theorem setLinkUp_shape (ns interface : String) :
    Relates (fun lab lab' : Lab => lab'.host.shape = lab.host.shape) (setLinkUp k ns interface) := by
  intro lab _ lab' h
  obtain ⟨host, he, rfl⟩ := callIp_eq_ok h
  exact exec_setUp he

/-- **Four interfaces are attached.** Where two of them are the same one, the
later bridge has it. -/
theorem reconcileTaps_eq_ok {polls : ℕ} (hin : portNameForRole v .ingress = .ok ingress)
    (hout : portNameForRole v .egress = .ok egress) (h : reconcileTaps k v polls lab = (.ok (), lab')) :
    (∀ bridge ∈ [INGRESS_BRIDGE_NAME, EGRESS_BRIDGE_NAME],
        lab.host.kindOf (some v.requestedDpdkConfig.netns.1, bridge) = some .bridge) ∧
      lab'.host.kindOf = lab.host.kindOf ∧
      (∀ key cidr, lab.host.HasAddress key cidr → lab'.host.HasAddress key cidr) ∧
      lab'.host.masterOf = Function.update (Function.update (Function.update (Function.update lab.host.masterOf
        (some v.requestedDpdkConfig.netns.1, INGRESS_BRIDGE_KERNEL_INTERFACE) (some INGRESS_BRIDGE_NAME))
        (some v.requestedDpdkConfig.netns.1, ingress) (some INGRESS_BRIDGE_NAME))
        (some v.requestedDpdkConfig.netns.1, egress) (some EGRESS_BRIDGE_NAME))
        (some v.requestedDpdkConfig.netns.1, EGRESS_BRIDGE_KERNEL_INTERFACE) (some EGRESS_BRIDGE_NAME) := by
  obtain ⟨name, lab₁, hingress, hports⟩ := Eff.bind_eq_ok.mp h
  obtain ⟨name', lab₂, hegress, hrest⟩ := Eff.bind_eq_ok.mp hports
  obtain ⟨rfl, rfl⟩ := liftExc_eq_ok hin hingress
  obtain ⟨rfl, rfl⟩ := liftExc_eq_ok hout hegress
  obtain ⟨_, lab₃, hwait, hrest₁⟩ := Eff.bind_eq_ok.mp hrest
  obtain ⟨_, lab₄, hwait', hrest₂⟩ := Eff.bind_eq_ok.mp hrest₁
  obtain ⟨_, lab₅, hfirst, hrest₃⟩ := Eff.bind_eq_ok.mp hrest₂
  obtain ⟨_, lab₆, hsecond, hrest₄⟩ := Eff.bind_eq_ok.mp hrest₃
  obtain ⟨_, lab₇, hthird, hrest₅⟩ := Eff.bind_eq_ok.mp hrest₄
  obtain ⟨_, lab₈, hfourth, hup⟩ := Eff.bind_eq_ok.mp hrest₅
  have hhost : lab₄.host = lab₂.host :=
    (waitUntil_same _ _ _ _ _ _ _ hwait').trans (waitUntil_same _ _ _ _ _ _ _ hwait)
  obtain ⟨h₁, he₁, rfl⟩ := callIp_eq_ok hfirst
  obtain ⟨h₂, he₂, rfl⟩ := callIp_eq_ok hsecond
  obtain ⟨h₃, he₃, rfl⟩ := callIp_eq_ok hthird
  obtain ⟨h₄, he₄, rfl⟩ := callIp_eq_ok hfourth
  rw [hhost] at he₁
  obtain ⟨hbridge₁, hkind₁, haddress₁, hmaster₁⟩ := exec_setMaster he₁
  obtain ⟨-, hkind₂, haddress₂, hmaster₂⟩ := exec_setMaster he₂
  obtain ⟨hbridge₃, hkind₃, haddress₃, hmaster₃⟩ := exec_setMaster he₃
  obtain ⟨-, hkind₄, haddress₄, hmaster₄⟩ := exec_setMaster he₄
  have hshape : lab'.host.shape = h₄.shape :=
    relates_each (R := fun lab lab' : Lab => lab'.host.shape = lab.host.shape) (fun _ => rfl)
      (fun _ _ _ h h' => h'.trans h) (fun interface _ => setLinkUp_shape _ interface) _ _ _ hup
  refine ⟨?_, ?_, fun key cidr ha => ?_, ?_⟩
  · simp only [List.mem_cons, List.not_mem_nil, or_false, forall_eq_or_imp, forall_eq]
    refine ⟨hbridge₁, ?_⟩
    rw [← hkind₁, ← hkind₂]
    exact hbridge₃
  · rw [Host.kindOf_shape hshape, hkind₄, hkind₃, hkind₂, hkind₁]
  · exact Host.hasAddress_shape hshape (haddress₄ _ _ (haddress₃ _ _ (haddress₂ _ _ (haddress₁ _ _ ha))))
  · rw [Host.masterOf_shape hshape, hmaster₄, hmaster₃, hmaster₂, hmaster₁]

theorem bringLinkEndpointsUp_shape :
    Relates (fun lab lab' : Lab => lab'.host.shape = lab.host.shape) (bringLinkEndpointsUp k v) := by
  refine relates_each (R := fun lab lab' : Lab => lab'.host.shape = lab.host.shape) (fun _ => rfl)
    (fun _ _ _ h h' => h'.trans h) fun link _ => ?_
  exact relates_bind (fun _ _ _ h h' => h'.trans h) (setLinkUp_shape _ _) fun _ => setLinkUp_shape _ _

/-- Where a route is stored. -/
def routeKey (k : Kernel) (route : RouteModel) : NsId × String := (some route.netns.1, k.destination route.dst.1)

/-- **The loop over the routes.** The last route to a network is the one that
stays. -/
theorem each_replaceRoute_eq_ok : ∀ {routes : List RouteModel} {lab lab' : Lab},
    Eff.each (fun route : RouteModel => replaceRoute k route.netns.1 route.dst.1 route.via.1) routes lab =
      (.ok (), lab') →
    lab'.host.links = lab.host.links ∧
      (∀ key, (∀ route ∈ routes, routeKey k route ≠ key) → lab'.host.routes key = lab.host.routes key) ∧
      ∀ route ∈ routes, ∃ other ∈ routes, routeKey k other = routeKey k route ∧
        (lab'.host.routes (routeKey k route)).map Route.via = some other.via.1
  | [], lab, lab', h => by
    obtain ⟨-, rfl⟩ := Prod.mk.inj h
    exact ⟨rfl, fun _ _ => rfl, by simp⟩
  | route :: routes, lab, lab', h => by
    obtain ⟨lab₁, hhead, htail⟩ := Eff.each_cons_eq_ok.mp h
    obtain ⟨host, he, rfl⟩ := callIp_eq_ok hhead
    obtain ⟨hlinks, dev, hroutes⟩ := exec_routeReplace he
    obtain ⟨hlinks', hframe, hlast⟩ := each_replaceRoute_eq_ok htail
    refine ⟨hlinks'.trans hlinks, fun key hkey => ?_, List.forall_mem_cons.mpr ⟨?_, fun other hother => ?_⟩⟩
    · have hne : key ≠ routeKey k route := fun heq => hkey route List.mem_cons_self heq.symm
      rw [hframe key fun other hother => hkey other (List.mem_cons_of_mem _ hother)]
      show host.routes key = _
      rw [hroutes]
      exact Function.update_of_ne hne _ _
    · by_cases hlater : ∃ other ∈ routes, routeKey k other = routeKey k route
      · obtain ⟨other, hother, heq⟩ := hlater
        obtain ⟨last, hmem, heq', hvia⟩ := hlast other hother
        rw [heq] at hvia heq'
        exact ⟨last, List.mem_cons_of_mem _ hmem, heq', hvia⟩
      · refine ⟨route, List.mem_cons_self, rfl, ?_⟩
        rw [hframe _ fun other hother heq => hlater ⟨other, hother, heq⟩]
        show (host.routes _).map Route.via = _
        rw [hroutes, routeKey, Function.update_self]
        rfl
    · obtain ⟨last, hmem, heq, hvia⟩ := hlast other hother
      exact ⟨last, List.mem_cons_of_mem _ hmem, heq, hvia⟩

end Rest

/-! ### An apply that returns -/

section Outcome

variable {m : Manager} {v : ValidatedTopologyConfig} {configPath : String} {lab lab' : Lab}

theorem acceptable_of_loadValidated (h : m.loadValidated configPath = .ok v) :
    Acceptable m.interpreter v.topology ∧ v.requestedDpdkConfig = v.topology.processes.dpdkd := by
  obtain ⟨config, hv⟩ := Manager.validated_of_loadValidated h
  have hacceptable := acceptable_of_validated hv
  obtain ⟨effective, -, rfl⟩ := validateTopologyConfig_eq_ok.mp hv
  exact ⟨hacceptable, rfl⟩

/-- Each role has its port. -/
theorem Acceptable.portNameForRole (h : Acceptable m.interpreter v.topology) (role : PortRole) :
    ∃ name, portNameForRole v role = .ok name ∧ ∀ x, v.topology.NamesRole role x ↔ x = name := by
  obtain ⟨port, hport, hrole, hfind, hunique⟩ := find?_role (h.roles role)
  refine ⟨port.name.1, ?_, fun x => ⟨?_, ?_⟩⟩
  · unfold Ctrld.portNameForRole
    rw [hfind]
  · rintro ⟨other, hother, hrole', rfl⟩
    rw [hunique other hother hrole']
  · rintro rfl
    exact ⟨port, hport, hrole, rfl⟩

theorem namesPort_iff (config : TopologyConfigModel) (x : String) :
    config.NamesPort x ↔ config.NamesRole .ingress x ∨ config.NamesRole .egress x := by
  constructor
  · rintro ⟨port, hport, hname⟩
    cases hrole : port.role with
    | ingress => exact .inl ⟨port, hport, hrole, hname⟩
    | egress => exact .inr ⟨port, hport, hrole, hname⟩
  · rintro (⟨port, hport, -, hname⟩ | ⟨port, hport, -, hname⟩)
    · exact ⟨port, hport, hname⟩
    · exact ⟨port, hport, hname⟩

theorem Acceptable.endpointKeys_nodup {py : Interpreter} {config : TopologyConfigModel} (h : Acceptable py config) :
    (config.links.flatMap fun link => link.sides.map fun side => endpointKey side.1).Nodup := by
  have hkeys : (config.endpoints.map endpointKey).Nodup := by
    refine List.Nodup.map_on (fun value hvalue value' hvalue' heq => ?_) h.endpointsDistinct
    obtain ⟨ns, name, hendpoint, -⟩ := h.endpoints value hvalue
    obtain ⟨ns', name', hendpoint', -⟩ := h.endpoints value' hvalue'
    simp only [endpointKey, hendpoint.splitRef_eq, hendpoint'.splitRef_eq, Prod.mk.injEq, Option.some.injEq] at heq
    obtain ⟨rfl, rfl⟩ := heq
    exact hendpoint.text_unique hendpoint'
  simpa [TopologyConfigModel.endpoints, List.map_flatMap, Function.comp_def] using hkeys

/-- No endpoint of a link is a port. -/
theorem Acceptable.endpointKey_ne {py : Interpreter} {config : TopologyConfigModel} (h : Acceptable py config)
    {link : LinkModel} (hlink : link ∈ config.links) {side : String × Option String} (hside : side ∈ link.sides)
    {name : String} (hname : config.NamesPort name) :
    endpointKey side.1 ≠ (some config.processes.dpdkd.netns.1, name) := by
  obtain ⟨port, hport, rfl⟩ := hname
  obtain ⟨ns, interface, hendpoint, -⟩ := h.endpoints side.1 (List.mem_flatMap.mpr
    ⟨link, hlink, List.mem_map_of_mem hside⟩)
  rw [endpointKey, hendpoint.splitRef_eq]
  intro heq
  obtain ⟨hsome, rfl⟩ := Prod.mk.inj heq
  have hns : ns = config.processes.dpdkd.netns.1 := Option.some.inj hsome
  rw [hns] at hendpoint
  exact (h.ports port hport).2 ⟨link, hlink, side, hside, hendpoint⟩

/-- An `apply` that returns has built on what tearing down has left. -/
theorem apply_eq_ok {r : Manager.OperationResult} (hv : m.loadValidated configPath = .ok v)
    (h : m.apply configPath lab = (.ok r, lab')) :
    ∃ running lab₁, m.clearCurrent lab = (.ok (), (m.clearCurrent lab).2) ∧
      m.build v (m.clearCurrent lab).2 = (.ok running, lab₁) ∧ lab'.host = lab₁.host := by
  unfold Manager.apply at h
  rw [hv] at h
  obtain ⟨_, start, hclear, hrest⟩ := Eff.bind_eq_ok.mp h
  obtain ⟨running, lab₁, hbuild, hset⟩ := Eff.bind_eq_ok.mp hrest
  obtain ⟨_, lab₂, hcurrent, hpure⟩ := Eff.bind_eq_ok.mp hset
  obtain ⟨-, rfl⟩ := Prod.mk.inj hcurrent
  obtain ⟨-, rfl⟩ := Prod.mk.inj hpure
  rw [hclear]
  rw [Eff.tryCatch_apply] at hbuild
  rcases hrun : m.build v start with ⟨e | b, lab₃⟩
  · rw [hrun] at hbuild
    obtain ⟨cleanup, lab₄, -, hraise⟩ := Eff.bind_eq_ok.mp hbuild
    cases e with
    | pktlab code message errors => cases hraise
    | other detail => cases hraise
  · rw [hrun] at hbuild
    obtain ⟨-, rfl⟩ := Prod.mk.inj hbuild
    exact ⟨b, lab₃, rfl, rfl, rfl⟩

/-- The loopback device is no veth. -/
theorem Host.Equipped.not_loopback {h : Host} (he : h.Equipped) {ns x : String} {peer : LinkKey}
    (hk : h.kindOf (some ns, x) = some (.veth peer)) : x ≠ "lo" := by
  rintro rfl
  have hns : ns ∈ h.namespaces := by
    by_contra hns
    rw [Host.kindOf, he.links _ fun hmem => hns (Host.hasNs_some.mp hmem)] at hk
    cases hk
  have hlo := he.loopbacks ns hns
  rw [Host.kindOf, hlo] at hk
  cases hk

/-- The first steps leave a link as a veth pair unless both endpoints were
there as something else. -/
theorem Settled.vethPair_iff {h₀ h₁ h₂ : Host} {link : LinkModel} (hs : Settled h₁ h₂ link) (he₁ : h₁.Equipped)
    (hg : h₀.Grows h₁) (hlo : ∀ key : LinkKey, key.2 ≠ "lo" → h₁.links key = h₀.links key) (hg' : h₁.Grows h₂) :
    (h₂.links (endpointKey link.a.1) ≠ none ∧ h₂.links (endpointKey link.b.1) ≠ none) ∧
      (h₂.VethPair (endpointKey link.a.1) (endpointKey link.b.1) ↔
        (h₀.Present (endpointKey link.a.1) → h₀.Present (endpointKey link.b.1) →
          h₀.VethPair (endpointKey link.a.1) (endpointKey link.b.1))) := by
  rcases hs.pair with ⟨ha, hb⟩ | ⟨hcreated, habsent⟩
  · have hpresent : ∀ key : LinkKey, h₁.links key ≠ none → h₀.Present key := by
      intro key hkey
      by_cases hname : key.2 = "lo"
      · exact .inr hname
      · exact .inl (hlo key hname ▸ hkey)
    have hkeep : ∀ value (peer : LinkKey), h₁.kindOf (endpointKey value) = some (.veth peer) →
        h₀.kindOf (endpointKey value) = some (.veth peer) := by
      intro value peer hk
      have hne : (endpointKey value).2 ≠ "lo" := he₁.not_loopback hk
      unfold Host.kindOf at hk ⊢
      rw [← hlo _ hne]
      exact hk
    refine ⟨⟨hg'.links_ne ha, hg'.links_ne hb⟩, fun hpair _ _ => ?_, fun hpair => ?_⟩
    · unfold Host.VethPair at hpair
      rw [hg'.kindOf ha, hg'.kindOf hb] at hpair
      exact ⟨hkeep _ _ hpair.1, hkeep _ _ hpair.2⟩
    · have hbefore := hpair (hpresent _ ha) (hpresent _ hb)
      obtain ⟨ha₀, hb₀⟩ := hbefore.links_ne
      unfold Host.VethPair
      rw [hg'.kindOf ha, hg'.kindOf hb, hg.kindOf ha₀, hg.kindOf hb₀]
      exact hbefore
  · refine ⟨hcreated.links_ne, iff_of_true hcreated fun hpresent => ?_⟩
    exact absurd (hpresent.imp_left hg.links_ne) habsent

/-- The bridge to which `reconcile_taps` attaches an interface last. -/
def attachedTo (ingress egress x : String) : Option String :=
  if x = EGRESS_BRIDGE_KERNEL_INTERFACE then some EGRESS_BRIDGE_NAME
  else if x = egress then some EGRESS_BRIDGE_NAME
  else if x = ingress then some INGRESS_BRIDGE_NAME
  else if x = INGRESS_BRIDGE_KERNEL_INTERFACE then some INGRESS_BRIDGE_NAME
  else none

theorem attachedTo_ingress {ingress egress x : String} : attachedTo ingress egress x = some INGRESS_BRIDGE_NAME ↔
    x ≠ EGRESS_BRIDGE_KERNEL_INTERFACE ∧ x ≠ egress ∧ (x = INGRESS_BRIDGE_KERNEL_INTERFACE ∨ x = ingress) := by
  have hne : (some EGRESS_BRIDGE_NAME : Option String) ≠ some INGRESS_BRIDGE_NAME := by decide
  unfold attachedTo
  split_ifs with hout hegress hingress hin
  · exact iff_of_false hne fun h => h.1 hout
  · exact iff_of_false hne fun h => h.2.1 hegress
  · exact iff_of_true rfl ⟨hout, hegress, .inr hingress⟩
  · exact iff_of_true rfl ⟨hout, hegress, .inl hin⟩
  · exact iff_of_false (by simp) fun h => h.2.2.elim hin hingress

theorem attachedTo_egress {ingress egress x : String} : attachedTo ingress egress x = some EGRESS_BRIDGE_NAME ↔
    x = EGRESS_BRIDGE_KERNEL_INTERFACE ∨ x = egress := by
  have hne : (some INGRESS_BRIDGE_NAME : Option String) ≠ some EGRESS_BRIDGE_NAME := by decide
  unfold attachedTo
  split_ifs with hout hegress hingress hin
  · exact iff_of_true rfl (.inl hout)
  · exact iff_of_true rfl (.inr hegress)
  · exact iff_of_false hne (not_or.mpr ⟨hout, hegress⟩)
  · exact iff_of_false hne (not_or.mpr ⟨hout, hegress⟩)
  · exact iff_of_false (by simp) (not_or.mpr ⟨hout, hegress⟩)

theorem attachedTo_none {ingress egress x : String} : attachedTo ingress egress x = none ↔
    x ∉ [INGRESS_BRIDGE_KERNEL_INTERFACE, EGRESS_BRIDGE_KERNEL_INTERFACE] ∧ x ≠ ingress ∧ x ≠ egress := by
  unfold attachedTo
  split_ifs with hout hegress hingress hin
  · exact iff_of_false (by simp) fun h => h.1 (by simp [hout])
  · exact iff_of_false (by simp) fun h => h.2.2 hegress
  · exact iff_of_false (by simp) fun h => h.2.1 hingress
  · exact iff_of_false (by simp) fun h => h.1 (by simp [hin])
  · exact iff_of_true rfl ⟨by simp [hin, hout], hingress, hegress⟩

/-- **The members of the two bridges**, when `P x bridge` says that `x` was
in `bridge` before and is not attached anew. -/
theorem members_iff {ingress egress : String} (hne : ingress ≠ egress) {P : String → String → Prop} :
    ((∀ x, (attachedTo ingress egress x = some INGRESS_BRIDGE_NAME ∨
          attachedTo ingress egress x = none ∧ P x INGRESS_BRIDGE_NAME) ↔
          x = INGRESS_BRIDGE_KERNEL_INTERFACE ∨ x = ingress) ∧
        ∀ x, (attachedTo ingress egress x = some EGRESS_BRIDGE_NAME ∨
          attachedTo ingress egress x = none ∧ P x EGRESS_BRIDGE_NAME) ↔
          x = EGRESS_BRIDGE_KERNEL_INTERFACE ∨ x = egress) ↔
      (∀ x, ∀ bridge ∈ [INGRESS_BRIDGE_NAME, EGRESS_BRIDGE_NAME], P x bridge →
          x ∈ [INGRESS_BRIDGE_KERNEL_INTERFACE, EGRESS_BRIDGE_KERNEL_INTERFACE] ∨ x = ingress ∨ x = egress) ∧
        egress ≠ INGRESS_BRIDGE_KERNEL_INTERFACE ∧ ingress ≠ EGRESS_BRIDGE_KERNEL_INTERFACE := by
  have hkernel : INGRESS_BRIDGE_KERNEL_INTERFACE ≠ EGRESS_BRIDGE_KERNEL_INTERFACE := by decide
  simp only [attachedTo_ingress, attachedTo_egress, attachedTo_none, List.mem_cons, List.not_mem_nil, or_false,
    not_or]
  constructor
  · rintro ⟨hingress, hegress⟩
    refine ⟨fun x bridge hbridge hleft => ?_, ?_, ?_⟩
    · by_contra hother
      simp only [not_or] at hother
      obtain ⟨⟨hin, hout⟩, hi, he⟩ := hother
      rcases hbridge with rfl | rfl
      · exact ((hingress x).mp (.inr ⟨⟨⟨hin, hout⟩, hi, he⟩, hleft⟩)).elim hin hi
      · exact ((hegress x).mp (.inr ⟨⟨⟨hin, hout⟩, hi, he⟩, hleft⟩)).elim hout he
    · rcases (hingress INGRESS_BRIDGE_KERNEL_INTERFACE).mpr (.inl rfl) with h | h
      · exact h.2.1.symm
      · exact absurd rfl h.1.1.1
    · rcases (hingress ingress).mpr (.inr rfl) with h | h
      · exact h.1
      · exact absurd rfl h.1.2.1
  · rintro ⟨hleft, hin, hout⟩
    refine ⟨fun x => ⟨?_, ?_⟩, fun x => ⟨?_, .inl⟩⟩
    · rintro (⟨-, -, h⟩ | ⟨⟨⟨hx, hx'⟩, hi, he⟩, h⟩)
      · exact h
      · exact absurd (hleft x _ (.inl rfl) h) (by simp [hx, hx', hi, he])
    · rintro (rfl | rfl)
      · exact .inl ⟨hkernel, hin.symm, .inl rfl⟩
      · exact .inl ⟨hout, hne, .inr rfl⟩
    · rintro (h | ⟨⟨⟨hx, hx'⟩, hi, he⟩, h⟩)
      · exact h
      · exact absurd (hleft x _ (.inr rfl) h) (by simp [hx, hx', hi, he])

/-- What building a topology on `start` leaves on the host. -/
structure Outcome (k : Kernel) (v : ValidatedTopologyConfig) (ingress egress : String) (start : Lab) (h : Host) :
    Prop where
  pairs : ∀ link ∈ v.topology.links, h.VethPair (endpointKey link.a.1) (endpointKey link.b.1) ↔
    (start.host.Present (endpointKey link.a.1) → start.host.Present (endpointKey link.b.1) →
      start.host.VethPair (endpointKey link.a.1) (endpointKey link.b.1))
  addresses : ∀ link ∈ v.topology.links, h.VethPair (endpointKey link.a.1) (endpointKey link.b.1) →
    ∀ side ∈ link.sides, ∀ ip ∈ side.2, h.HasAddress (endpointKey side.1) ip
  bridges : ∀ bridge ∈ [INGRESS_BRIDGE_NAME, EGRESS_BRIDGE_NAME],
    h.kindOf (some v.requestedDpdkConfig.netns.1, bridge) = some .bridge
  members : ∀ x, ∀ bridge ∈ [INGRESS_BRIDGE_NAME, EGRESS_BRIDGE_NAME],
    h.masterOf (some v.requestedDpdkConfig.netns.1, x) = some bridge ↔
      attachedTo ingress egress x = some bridge ∨ attachedTo ingress egress x = none ∧
        start.host.masterOf (some v.requestedDpdkConfig.netns.1, x) = some bridge ∧
        ¬ start.OwnsTap (some v.requestedDpdkConfig.netns.1, x)
  routes : ∀ route ∈ v.topology.routes, ∃ other ∈ v.topology.routes, routeKey k other = routeKey k route ∧
    (h.routes (routeKey k route)).map Route.via = some other.via.1

/-- A TAP interface is none of the endpoints, so the datapath leaves these as
they are. -/
theorem kindOf_veth_iff {S : LinkKey → Prop} {h₃ h₄ : Host} {key peer tap tap' : LinkKey} (hw : Host.Without S h₃ h₄)
    (hne : key ≠ tap) (hne' : key ≠ tap') :
    ((h₄.setLink tap (Link.fresh .tap)).setLink tap' (Link.fresh .tap)).kindOf key = some (.veth peer) ↔
      h₃.kindOf key = some (.veth peer) := by
  have hsame : ((h₄.setLink tap (Link.fresh .tap)).setLink tap' (Link.fresh .tap)).kindOf key = h₄.kindOf key := by
    rw [Host.kindOf, Host.setLink_links_of_ne _ hne', Host.setLink_links_of_ne _ hne, Host.kindOf]
  rw [hsame]
  refine ⟨hw.kindOf_of_some, fun hk => ?_⟩
  rw [hw.kindOf, hk]
  rintro ⟨-, htap⟩
  rw [hk] at htap
  cases htap

theorem hasAddress_of_taps {S : LinkKey → Prop} {h₃ h₄ : Host} {key peer tap tap' : LinkKey} {ip : String}
    (hw : Host.Without S h₃ h₄) (hne : key ≠ tap) (hne' : key ≠ tap') (hkind : h₃.kindOf key = some (.veth peer))
    (haddress : h₃.HasAddress key ip) :
    ((h₄.setLink tap (Link.fresh .tap)).setLink tap' (Link.fresh .tap)).HasAddress key ip := by
  have hstays := hw.hasAddress (fun hgone => by rw [hkind] at hgone; cases hgone.2) haddress
  obtain ⟨link, hlink, hmem⟩ := hstays
  refine ⟨link, ?_, hmem⟩
  rw [Host.setLink_links_of_ne _ hne', Host.setLink_links_of_ne _ hne]
  exact hlink

/-- A bridge is none of the TAP interfaces that come and go. -/
theorem kindOf_bridge_of_taps {S : LinkKey → Prop} {h₃ h₄ : Host} {key tap tap' : LinkKey} (hw : Host.Without S h₃ h₄)
    (hbridge : ((h₄.setLink tap (Link.fresh .tap)).setLink tap' (Link.fresh .tap)).kindOf key = some .bridge) :
    h₃.kindOf key = some .bridge := by
  refine hw.kindOf_of_some ?_
  by_cases htap' : key = tap'
  · rw [htap', Host.kindOf, Host.setLink_links_self] at hbridge
    cases hbridge
  by_cases htap : key = tap
  · rw [htap, Host.kindOf, Host.setLink_links_of_ne _ (by rwa [htap] at htap'), Host.setLink_links_self] at hbridge
    cases hbridge
  rw [Host.kindOf, Host.setLink_links_of_ne _ htap', Host.setLink_links_of_ne _ htap] at hbridge
  exact hbridge

/-- **The steps of `apply` one after the other.** -/
theorem build_outcome {ingress egress : String} {start : Lab} {running : Bool}
    (hacceptable : Acceptable m.interpreter v.topology) (hdpdkd : v.requestedDpdkConfig = v.topology.processes.dpdkd)
    (hin : portNameForRole v .ingress = .ok ingress) (hout : portNameForRole v .egress = .ok egress)
    (hports : v.topology.NamesPort ingress ∧ v.topology.NamesPort egress) (he : start.host.Equipped)
    (h : m.build v start = (.ok running, lab')) : Outcome m.kernel v ingress egress start lab'.host := by
  obtain ⟨_, lab₁, hnamespaces, hrest₁⟩ := Eff.bind_eq_ok.mp h
  obtain ⟨_, lab₂, hlinks, hrest₂⟩ := Eff.bind_eq_ok.mp hrest₁
  obtain ⟨_, lab₃, hbridges, hrest₃⟩ := Eff.bind_eq_ok.mp hrest₂
  obtain ⟨_, lab₄, hstart, hrest₄⟩ := Eff.bind_eq_ok.mp hrest₃
  obtain ⟨_, lab₅, htaps, hrest₅⟩ := Eff.bind_eq_ok.mp hrest₄
  obtain ⟨_, lab₆, hup, hrest₆⟩ := Eff.bind_eq_ok.mp hrest₅
  obtain ⟨_, lab₇, hroutes, hpure⟩ := Eff.bind_eq_ok.mp hrest₆
  obtain ⟨-, rfl⟩ := Prod.mk.inj hpure
  -- the host grows
  obtain ⟨hg₁, hlo⟩ := ensureNamespaces_eq_ok hnamespaces
  obtain ⟨he₁, hgrows₁⟩ := hg₁.2 he
  obtain ⟨hg₂, hsettled⟩ := each_ensureLink_eq_ok hacceptable.endpointKeys_nodup he₁ hlinks
  obtain ⟨he₂, hgrows₂⟩ := hg₂.2 he₁
  have hg₃ : lab₂.Grows lab₃ := ensureBridges_grows _ _ _ hbridges
  obtain ⟨he₃, hgrows₃⟩ := hg₃.2 he₂
  have hgrows : start.host.Grows lab₃.host := (hgrows₁.trans hgrows₂).trans hgrows₃
  have hdatapath : lab₃.datapath = start.datapath := hg₃.1.trans (hg₂.1.trans hg₁.1)
  -- the datapath and what comes after it
  have hwithout := withoutDatapath_without he₃
  obtain ⟨hfree, hfree', hhost₄⟩ := startDatapath_eq_ok hin hout hstart
  obtain ⟨hbridge, hkind₅, haddress₅, hmaster₅⟩ := reconcileTaps_eq_ok hin hout htaps
  have hshape₆ : lab₆.host.shape = lab₅.host.shape := bringLinkEndpointsUp_shape _ _ _ hup
  obtain ⟨hlinks₇, -, hlast⟩ := each_replaceRoute_eq_ok hroutes
  have hshape : lab₇.host.shape = lab₅.host.shape := by
    rw [← hshape₆]
    funext key
    rw [Host.shape, Host.shape, hlinks₇]
  have hkind : lab₇.host.kindOf = lab₄.host.kindOf := (Host.kindOf_shape hshape).trans hkind₅
  have hne : ∀ link ∈ v.topology.links, ∀ side ∈ link.sides, ∀ name, v.topology.NamesPort name →
      endpointKey side.1 ≠ (some v.requestedDpdkConfig.netns.1, name) := by
    intro link hlink side hside name hname
    rw [hdpdkd]
    exact hacceptable.endpointKey_ne hlink hside hname
  have hveth : ∀ link ∈ v.topology.links, ∀ side ∈ link.sides, ∀ peer,
      lab₇.host.kindOf (endpointKey side.1) = some (.veth peer) ↔
        lab₃.host.kindOf (endpointKey side.1) = some (.veth peer) := by
    intro link hlink side hside peer
    rw [hkind, hhost₄]
    exact kindOf_veth_iff hwithout (hne link hlink side hside _ hports.1) (hne link hlink side hside _ hports.2)
  have hpair : ∀ link ∈ v.topology.links,
      lab₇.host.VethPair (endpointKey link.a.1) (endpointKey link.b.1) ↔
        lab₃.host.VethPair (endpointKey link.a.1) (endpointKey link.b.1) := fun link hlink =>
    and_congr (hveth link hlink (link.a.1, link.ipA) (by simp [LinkModel.sides]) _)
      (hveth link hlink (link.b.1, link.ipB) (by simp [LinkModel.sides]) _)
  refine ⟨fun link hlink => ?_, fun link hlink hends side hside ip hip => ?_, fun bridge hbridge' => ?_,
    fun x bridge hbridge' => ?_, hlast⟩
  · obtain ⟨⟨ha, hb⟩, hiff⟩ := (hsettled link hlink).vethPair_iff he₁ hgrows₁ hlo hgrows₂
    rw [hpair link hlink, ← hiff]
    unfold Host.VethPair
    rw [hgrows₃.kindOf ha, hgrows₃.kindOf hb]
  · have haddress := hgrows₃.hasAddress ((hsettled link hlink).addresses side hside ip hip)
    have hkind₃ : ∃ peer, lab₃.host.kindOf (endpointKey side.1) = some (.veth peer) := by
      obtain ⟨ha, hb⟩ := (hpair link hlink).mp hends
      simp only [LinkModel.sides, List.mem_cons, List.not_mem_nil, or_false] at hside
      rcases hside with rfl | rfl
      · exact ⟨_, ha⟩
      · exact ⟨_, hb⟩
    obtain ⟨peer, hkind₃⟩ := hkind₃
    refine Host.hasAddress_shape hshape (haddress₅ _ _ ?_)
    rw [hhost₄]
    exact hasAddress_of_taps hwithout (hne link hlink side hside _ hports.1) (hne link hlink side hside _ hports.2)
      hkind₃ haddress
  · rw [hkind]
    exact hbridge bridge hbridge'
  · have hbridge₃ : lab₃.host.kindOf (some v.requestedDpdkConfig.netns.1, bridge) = some .bridge := by
      have hkind₄ := hbridge bridge hbridge'
      rw [hhost₄] at hkind₄
      exact kindOf_bridge_of_taps hwithout hkind₄
    have hkept : lab₃.host.masterOf (some v.requestedDpdkConfig.netns.1, x) = some bridge ∧
        ¬ lab₃.OwnsTap (some v.requestedDpdkConfig.netns.1, x) ↔
        start.host.masterOf (some v.requestedDpdkConfig.netns.1, x) = some bridge ∧
          ¬ start.OwnsTap (some v.requestedDpdkConfig.netns.1, x) := by
      unfold Lab.OwnsTap
      rw [hgrows.masterOf, hgrows.tap_iff, hdatapath]
    rw [← hkept]
    have hkey : ∀ y, ((some v.requestedDpdkConfig.netns.1, x) : LinkKey) = (some v.requestedDpdkConfig.netns.1, y) ↔
        x = y := by simp
    rw [Host.masterOf_shape hshape, hmaster₅]
    simp only [Function.update_apply, hkey, attachedTo]
    split_ifs with hx hegress hingress hx'
    · simp
    · simp
    · simp
    · simp
    · simp only [true_and, false_or]
      rw [hhost₄, Host.masterOf, Host.setLink_links_of_ne _ (by simpa using hegress),
        Host.setLink_links_of_ne _ (by simpa using hingress)]
      refine (hwithout.masterOf_iff ?_)
      rw [hbridge₃]
      simp

/-- **When an `apply` that returns has built the declared lab**: when nothing
was in its way. -/
theorem apply_builds_iff {r : Manager.OperationResult} (hv : m.loadValidated configPath = .ok v)
    (he : lab.host.Equipped) (h : m.apply configPath lab = (.ok r, lab')) :
    Built m.kernel v lab'.host ↔ Buildable m.kernel v (m.clearCurrent lab).2 := by
  obtain ⟨hacceptable, hdpdkd⟩ := acceptable_of_loadValidated hv
  obtain ⟨running, lab₁, hclear, hbuild, hhost⟩ := apply_eq_ok hv h
  obtain ⟨ingress, hin, hingress⟩ := hacceptable.portNameForRole .ingress
  obtain ⟨egress, hout, hegress⟩ := hacceptable.portNameForRole .egress
  have hport : ∀ x, v.topology.NamesPort x ↔ x = ingress ∨ x = egress := fun x => by
    rw [namesPort_iff, hingress, hegress]
  have hne : ingress ≠ egress := by
    rintro rfl
    obtain ⟨port, hport, hrole, hname⟩ := (hingress ingress).mpr rfl
    obtain ⟨port', hport', hrole', hname'⟩ := (hegress ingress).mpr rfl
    have hsame := List.inj_on_of_nodup_map hacceptable.portNames hport hport' (hname.trans hname'.symm)
    rw [← hsame, hrole] at hrole'
    cases hrole'
  have hstart := (clearCurrent_equipped m).ok he hclear
  obtain ⟨hpairs, haddresses, hbridges, hmembers, hroutes⟩ := build_outcome hacceptable hdpdkd hin hout
    ⟨(hport _).mpr (.inl rfl), (hport _).mpr (.inr rfl)⟩ hstart hbuild
  have hiff := members_iff hne (P := fun x bridge =>
    (m.clearCurrent lab).2.host.masterOf (some v.requestedDpdkConfig.netns.1, x) = some bridge ∧
      ¬ (m.clearCurrent lab).2.OwnsTap (some v.requestedDpdkConfig.netns.1, x))
  rw [hhost]
  constructor
  · rintro ⟨hp, -, hi, ho, -, hr⟩
    obtain ⟨hleft, hin', hout'⟩ := hiff.mp
      ⟨fun x => by rw [← hmembers x _ (by simp), hi, hingress], fun x => by rw [← hmembers x _ (by simp), ho, hegress]⟩
    refine ⟨fun link hlink => (hpairs link hlink).mp (hp link hlink), fun x bridge hbridge hmaster => ?_,
      ⟨?_, ?_⟩, fun route hroute other hother hns hdst => ?_⟩
    · by_cases htap : (m.clearCurrent lab).2.OwnsTap (some v.requestedDpdkConfig.netns.1, x)
      · exact .inr (.inr htap)
      · exact (hleft x bridge hbridge ⟨hmaster, htap⟩).imp_right fun hx => .inl ((hport x).mpr hx)
    · rw [hegress]
      exact hin'.symm
    · rw [hingress]
      exact hout'.symm
    · have hvia := hr route hroute
      have hvia' := hr other hother
      rw [hns, hdst, hvia'] at hvia
      exact (Option.some.inj hvia).symm
  · rintro ⟨hp, hm, ⟨hin', hout'⟩, hr⟩
    rw [hegress] at hin'
    rw [hingress] at hout'
    obtain ⟨hi, ho⟩ := hiff.mpr ⟨fun x bridge hbridge hleft => (hm x bridge hbridge hleft.1).imp_right fun hx =>
      (hport x).mp (hx.resolve_right hleft.2), Ne.symm hin', Ne.symm hout'⟩
    have hpair : ∀ link ∈ v.topology.links,
        lab₁.host.VethPair (endpointKey link.a.1) (endpointKey link.b.1) := fun link hlink =>
      (hpairs link hlink).mpr (hp link hlink)
    refine ⟨hpair, hbridges, fun x => ?_, fun x => ?_, fun link hlink => haddresses link hlink (hpair link hlink),
      fun route hroute => ?_⟩
    · rw [hmembers x _ (by simp), hi x, hingress]
    · rw [hmembers x _ (by simp), ho x, hegress]
    · obtain ⟨other, hother, hkey, hvia⟩ := hroutes route hroute
      obtain ⟨hns, hdst⟩ := Prod.mk.inj hkey
      exact hvia.trans (congrArg some (hr other hother route hroute (Option.some.inj hns) hdst))

end Outcome

/-! ### Runs on a bare host -/

theorem bareHost_equipped : bareHost.Equipped := ⟨bareHost_closed, fun ns hns => absurd hns (Finset.notMem_empty ns)⟩

theorem loadValidated_reading {m : Manager} {config : TopologyConfigModel} {v : ValidatedTopologyConfig}
    (hv : validateTopologyConfig m.interpreter config = .ok v) (configPath : String) :
    (m.reading (.ok config)).loadValidated configPath = .ok v := by
  simp only [Manager.loadValidated, Manager.reading, hv]

/-- On a bare host nothing is in the way of the plain lab. -/
theorem bareHost_builds_plain : ∃ r lab',
    (obligingManager.reading (.ok plainLab)).apply "lab.yaml" (Lab.initial bareHost) = (.ok r, lab') ∧
      Built obligingManager.kernel plainValidated lab'.host := by
  have hreturns : (returned ((obligingManager.reading (.ok plainLab)).apply "lab.yaml"
      (Lab.initial bareHost))).isSome = true := by decide +kernel
  obtain ⟨lab', hsome⟩ := Option.isSome_iff_exists.mp hreturns
  obtain ⟨r, happly⟩ := returned_eq_some.mp hsome
  have hloaded := loadValidated_reading (m := obligingManager) plainLab_valid "lab.yaml"
  refine ⟨r, lab', happly, (apply_builds_iff hloaded bareHost_equipped happly).mpr ?_⟩
  obtain ⟨effective, -, hplain⟩ := validateTopologyConfig_eq_ok.mp plainLab_valid
  have htopology : plainValidated.topology = plainLab := congrArg ValidatedTopologyConfig.topology hplain
  have hnone : ∀ ns x, bareHost.links (some ns, x) = none := fun _ _ => rfl
  refine ⟨fun link hlink hpresent => ?_, fun x bridge _ hmaster => ?_, ?_, ?_⟩
  · rw [htopology] at hlink
    have hnames : ∀ link ∈ plainLab.links, (endpointKey link.a.1).2 ≠ "lo" := by decide
    exact absurd hpresent (not_or.mpr ⟨not_not.mpr (hnone _ _), hnames link hlink⟩)
  · have hbare : bareHost.masterOf (some plainValidated.requestedDpdkConfig.netns.1, x) = none := rfl
    rw [show (((obligingManager.reading (.ok plainLab)).clearCurrent (Lab.initial bareHost)).2).host = bareHost from
      rfl, hbare] at hmaster
    cases hmaster
  · rw [htopology]
    unfold TopologyConfigModel.NamesRole
    decide
  · rw [htopology]
    intro route hroute
    cases hroute

/-- The plain lab with its egress port called `veth-in-k`, and the link to the
source host ending in `up0`. -/
def crossedLab : TopologyConfigModel :=
  { plainLab.renamePort .egress ⟨INGRESS_BRIDGE_KERNEL_INTERFACE, ingressSide_ne⟩ with links := unlinkedLab.links }

/-- `apply` attaches the egress port to both bridges, the second time for good. -/
theorem egress_port_leaves_ingress_bridge :
    ¬ ∀ (m : Manager) (configPath : String) (v : ValidatedTopologyConfig) (lab lab' : Lab)
      (r : Manager.OperationResult), m.loadValidated configPath = .ok v → lab.host.Equipped →
      m.apply configPath lab = (.ok r, lab') → Built m.kernel v lab'.host := by
  intro h
  have haccepted : (validateTopologyConfig asciiInterpreter crossedLab).toBool = true := by decide +kernel
  have hmoved : (returned ((obligingManager.reading (.ok crossedLab)).apply "lab.yaml" (Lab.initial bareHost))).map
      (fun lab => lab.host.masterOf (some "dp", INGRESS_BRIDGE_KERNEL_INTERFACE)) =
        some (some EGRESS_BRIDGE_NAME) := by decide +kernel
  obtain ⟨v, hv⟩ := exists_of_toBool haccepted
  obtain ⟨lab', hreturned, hmaster⟩ := Option.map_eq_some_iff.mp hmoved
  obtain ⟨r, happly⟩ := returned_eq_some.mp hreturned
  have hloaded := loadValidated_reading (m := obligingManager) hv "lab.yaml"
  have hbuilt := h _ _ v _ lab' r hloaded bareHost_equipped happly
  obtain ⟨effective, -, rfl⟩ := validateTopologyConfig_eq_ok.mp hv
  have hingress : lab'.host.masterOf (some "dp", INGRESS_BRIDGE_KERNEL_INTERFACE) = some INGRESS_BRIDGE_NAME :=
    (hbuilt.ingress INGRESS_BRIDGE_KERNEL_INTERFACE).mpr (.inl rfl)
  rw [hmaster] at hingress
  exact absurd hingress (by decide)

end Ctrld
end Pktlab
