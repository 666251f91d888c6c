/-
# What holds of every host

Nothing is in a namespace that does not exist, a veth has a peer that points
back, and every namespace has its loopback device. Every command of `ip` keeps
this (`exec_equipped`), and so does a datapath that ends: a TAP interface has
no peer, so it goes alone (`deleteTap_links`).

Key definitions: `Host.Equipped`.
Key theorems: `exec_equipped`, `deleteTap_links`, `clearCurrent_equipped`.
-/
import Pktlab.Ctrld.TopologyRuns

namespace Pktlab
namespace Ctrld

open Python Effect

namespace Host

/-- A host as there can be one. -/
structure Equipped (h : Host) : Prop extends h.Closed where
  loopbacks : ∀ ns ∈ h.namespaces, (h.links (some ns, "lo")).map Link.kind = some .loopback

variable {h : Host} {key : LinkKey} {link : Link}

theorem hasNs_some {ns : String} : h.hasNs (some ns) ↔ ns ∈ h.namespaces := by simp [hasNs]

/-- A veth is selected with its peer, everything else for itself. -/
theorem selects_veth (sel : LinkKey → Bool) {peer : LinkKey} (hl : h.links key = some link)
    (hk : link.kind = .veth peer) : h.selects sel key = (sel key || sel peer) := by
  obtain ⟨kind, master, addresses, up⟩ := link
  simp only at hk
  subst hk
  simp [selects, hl]

theorem selects_other (sel : LinkKey → Bool) (hk : ∀ link, h.links key = some link → ∀ peer, link.kind ≠ .veth peer) :
    h.selects sel key = sel key := by
  unfold selects
  split
  · rename_i peer _ _ _ hl
    exact absurd rfl (hk _ hl peer)
  · exact Bool.or_false _

/-- An interface that stays is as it was, up to its master. -/
theorem dropLinks_links_stays {gone : LinkKey → Bool} (hgone : gone key = false) (hl : h.links key = some link) :
    ∃ link', (h.dropLinks gone).links key = some link' ∧ link'.kind = link.kind := by
  refine ⟨{ link with master := link.master.filter fun bridge => !gone (key.1, bridge) }, ?_, rfl⟩
  simp only [Host.dropLinks, hgone, hl, Bool.false_eq_true, if_false, Option.map_some]

/-- Interfaces can be taken out with their peers, except for loopback devices. -/
theorem Equipped.dropLinks (he : h.Equipped) {gone : LinkKey → Bool}
    (hpeers : ∀ key link peer, h.links key = some link → link.kind = .veth peer → gone key = gone peer)
    (hlo : ∀ ns ∈ h.namespaces, gone (some ns, "lo") = false) : (h.dropLinks gone).Equipped where
  links key hns := by simp [Host.dropLinks, he.links key hns]
  routes key hns := by simp [Host.dropLinks, he.routes key hns]
  peers key link peer hl hk := by
    have hgone : gone key = false := by
      by_contra hgone
      simp [Host.dropLinks, hgone] at hl
    obtain ⟨old, hold, hkind⟩ := dropLinks_links_some hl
    obtain ⟨other, hother, hback⟩ := he.peers key old peer hold (hkind ▸ hk)
    have hpeer : gone peer = false := by
      rw [← hpeers key old peer hold (hkind ▸ hk)]
      exact hgone
    obtain ⟨other', hother', hkind'⟩ := dropLinks_links_stays hpeer hother
    exact ⟨other', hother', hkind'.trans hback⟩
  loopbacks ns hns := by
    have hkind := he.loopbacks ns hns
    simp only [Host.dropLinks, hlo ns hns, Bool.false_eq_true, if_false, Option.map_map]
    rw [← hkind]
    rfl

/-- What a choice takes along it takes with its peers. -/
theorem Closed.selects_peers (hc : h.Closed) (sel : LinkKey → Bool) {peer : LinkKey} (hl : h.links key = some link)
    (hk : link.kind = .veth peer) : h.selects sel key = h.selects sel peer := by
  obtain ⟨other, hother, hback⟩ := hc.peers key link peer hl hk
  rw [selects_veth sel hl hk, selects_veth sel hother hback, Bool.or_comm]

theorem Equipped.selects_loopback (he : h.Equipped) (sel : LinkKey → Bool) {ns : String} (hns : ns ∈ h.namespaces) :
    h.selects sel (some ns, "lo") = sel (some ns, "lo") := by
  refine selects_other sel fun link hl peer hk => ?_
  have hlo := he.loopbacks ns hns
  simp [hl, hk] at hlo

theorem Equipped.deleteLink (he : h.Equipped) (hl : h.links key = some link) (hdel : link.kind.deletable = true) :
    (h.deleteLink key).Equipped := by
  refine he.dropLinks (fun key link peer => he.selects_peers _) fun ns hns => ?_
  rw [he.selects_loopback _ hns, decide_eq_false_iff_not]
  rintro rfl
  have hlo := he.loopbacks ns hns
  rw [hl, Option.map_some, Option.some.injEq] at hlo
  rw [hlo] at hdel
  cases hdel

theorem Equipped.deleteNamespace (he : h.Equipped) (ns : String) : (h.deleteNamespace ns).Equipped := by
  have hother : ∀ n ∈ (h.deleteNamespace ns).namespaces, n ≠ ns ∧ n ∈ h.namespaces := fun n hn =>
    Finset.mem_erase.mp hn
  have hgone : ∀ x, (h.deleteNamespace ns).links (some ns, x) = none := by
    intro x
    simp [Host.deleteNamespace, Host.dropLinks, selects]
  -- the loopback of `ns` goes too, so the host without the namespace is taken first
  have hrest : ∀ n ∈ h.namespaces, n ≠ ns → h.selects (fun k => decide (k.1 = some ns)) (some n, "lo") = false := by
    intro n hn hne
    rw [he.selects_loopback _ hn, decide_eq_false_iff_not]
    exact fun heq => hne (Option.some.inj heq)
  refine ⟨⟨fun key hns => ?_, fun key hns => ?_, fun key link peer hl hk => ?_⟩, fun n hn => ?_⟩
  · by_cases heq : key.1 = some ns
    · rw [show key = (some ns, key.2) from Prod.ext heq rfl]
      exact hgone key.2
    · have hnone : h.links key = none := he.links key fun hmem => hns fun n hn =>
        Finset.mem_erase.mpr ⟨fun hne => heq (hn.trans (congrArg some hne)), hmem n hn⟩
      simp [Host.deleteNamespace, Host.dropLinks, hnone]
  · by_cases heq : key.1 = some ns
    · simp [Host.deleteNamespace, heq]
    · have hnone : h.routes key = none := he.routes key fun hmem => hns fun n hn =>
        Finset.mem_erase.mpr ⟨fun hne => heq (hn.trans (congrArg some hne)), hmem n hn⟩
      simp [Host.deleteNamespace, Host.dropLinks, hnone]
  · have hsel : h.selects (fun k => decide (k.1 = some ns)) key = false := by
      by_contra hsel
      simp [Host.deleteNamespace, Host.dropLinks, hsel] at hl
    obtain ⟨old, hold, hkind⟩ := dropLinks_links_some hl
    obtain ⟨other, hother', hback⟩ := he.peers key old peer hold (hkind ▸ hk)
    have hpeer : h.selects (fun k => decide (k.1 = some ns)) peer = false := by
      rw [← he.selects_peers _ hold (hkind ▸ hk)]
      exact hsel
    obtain ⟨link', hlink', hkind'⟩ := dropLinks_links_stays hpeer hother'
    exact ⟨link', hlink', hkind'.trans hback⟩
  · obtain ⟨hne, hmem⟩ := hother n hn
    have hkind := he.loopbacks n hmem
    simp only [Host.deleteNamespace, Host.dropLinks, hrest n hmem hne, Bool.false_eq_true, if_false,
      Option.map_map]
    rw [← hkind]
    rfl

/-- Change an interface without changing its kind. -/
theorem Equipped.edit (he : h.Equipped) {old : Link} (hold : h.links key = some old) (hkind : link.kind = old.kind) :
    (h.setLink key link).Equipped := by
  have hkinds : ∀ key', ((h.setLink key link).links key').map Link.kind = (h.links key').map Link.kind := by
    intro key'
    by_cases heq : key' = key
    · rw [heq, setLink_links_self, hold, Option.map_some, Option.map_some, hkind]
    · rw [setLink_links_of_ne h heq]
  refine ⟨⟨fun key' hns => ?_, he.routes, fun key' link' peer hl hk => ?_⟩, fun ns hns => ?_⟩
  · have hnone := hkinds key'
    rw [he.links key' hns, Option.map_none, Option.map_eq_none_iff] at hnone
    exact hnone
  · have hveth := hkinds key'
    rw [hl, Option.map_some, hk] at hveth
    obtain ⟨old', hold', hk'⟩ := Option.map_eq_some_iff.mp hveth.symm
    obtain ⟨other, hother, hback⟩ := he.peers key' old' peer hold' hk'
    have hnow := hkinds peer
    rw [hother, Option.map_some, hback] at hnow
    exact Option.map_eq_some_iff.mp hnow
  · rw [hkinds]
    exact he.loopbacks ns hns

/-- A new interface that is no veth. -/
theorem Equipped.add (he : h.Equipped) (hnew : h.links key = none) (hns : h.hasNs key.1)
    (hkind : ∀ peer, link.kind ≠ .veth peer) : (h.setLink key link).Equipped := by
  refine ⟨⟨fun key' hns' => ?_, he.routes, fun key' link' peer hl hk => ?_⟩, fun ns hns' => ?_⟩
  · have hne : key' ≠ key := fun heq => hns' (heq ▸ hns)
    rw [setLink_links_of_ne h hne]
    exact he.links key' hns'
  · have hne : key' ≠ key := by
      rintro rfl
      rw [setLink_links_self, Option.some.injEq] at hl
      exact hkind peer (hl ▸ hk)
    rw [setLink_links_of_ne h hne] at hl
    obtain ⟨other, hother, hback⟩ := he.peers key' link' peer hl hk
    have hne' : peer ≠ key := by
      rintro rfl
      rw [hnew] at hother
      cases hother
    exact ⟨other, by rw [setLink_links_of_ne h hne']; exact hother, hback⟩
  · have hlo := he.loopbacks ns hns'
    have hne : (some ns, "lo") ≠ key := by
      rintro rfl
      simp [hnew] at hlo
    rw [setLink_links_of_ne h hne]
    exact hlo

/-- A new veth pair. -/
theorem Equipped.addPair (he : h.Equipped) {a b : LinkKey} (hne : a ≠ b) (ha : h.links a = none)
    (hb : h.links b = none) (hnsa : h.hasNs a.1) (hnsb : h.hasNs b.1) :
    ((h.setLink a (Link.fresh (.veth b))).setLink b (Link.fresh (.veth a))).Equipped := by
  refine ⟨⟨fun key hns => ?_, he.routes, fun key link peer hl hk => ?_⟩, fun ns hns => ?_⟩
  · have hna : key ≠ a := fun heq => hns (heq ▸ hnsa)
    have hnb : key ≠ b := fun heq => hns (heq ▸ hnsb)
    rw [setLink_links_of_ne _ hnb, setLink_links_of_ne _ hna]
    exact he.links key hns
  · by_cases hkb : key = b
    · rw [hkb, setLink_links_self, Option.some.injEq] at hl
      rw [← hl] at hk
      cases hk
      exact ⟨_, by rw [setLink_links_of_ne _ hne, setLink_links_self], by rw [hkb]; rfl⟩
    rw [setLink_links_of_ne _ hkb] at hl
    by_cases hka : key = a
    · rw [hka, setLink_links_self, Option.some.injEq] at hl
      rw [← hl] at hk
      cases hk
      exact ⟨_, setLink_links_self _ _ _, by rw [hka]; rfl⟩
    rw [setLink_links_of_ne _ hka] at hl
    obtain ⟨other, hother, hback⟩ := he.peers key link peer hl hk
    have hpa : peer ≠ a := by
      rintro rfl
      rw [ha] at hother
      cases hother
    have hpb : peer ≠ b := by
      rintro rfl
      rw [hb] at hother
      cases hother
    exact ⟨other, by rw [setLink_links_of_ne _ hpb, setLink_links_of_ne _ hpa]; exact hother, hback⟩
  · have hlo := he.loopbacks ns hns
    have hna : (some ns, "lo") ≠ a := by
      rintro rfl
      simp [ha] at hlo
    have hnb : (some ns, "lo") ≠ b := by
      rintro rfl
      simp [hb] at hlo
    rw [setLink_links_of_ne _ hnb, setLink_links_of_ne _ hna]
    exact hlo

theorem Equipped.addNamespace (he : h.Equipped) {ns : String} (hns : ns ∉ h.namespaces) :
    (h.addNamespace ns).Equipped := by
  have hnone : ∀ x, h.links (some ns, x) = none := fun x => he.links _ (by simpa [hasNs] using hns)
  refine ⟨⟨fun key hns' => ?_, fun key hns' => ?_, fun key link peer hl hk => ?_⟩, fun n hn => ?_⟩
  · have hne : key ≠ (some ns, "lo") := by
      rintro rfl
      exact hns' (by simp [hasNs, Host.addNamespace])
    rw [Host.addNamespace, setLink_links_of_ne _ hne]
    exact he.links key fun hmem => hns' fun n hn => Finset.mem_insert_of_mem (hmem n hn)
  · exact he.routes key fun hmem => hns' fun n hn => Finset.mem_insert_of_mem (hmem n hn)
  · have hne : key ≠ (some ns, "lo") := by
      rintro rfl
      rw [Host.addNamespace, setLink_links_self, Option.some.injEq] at hl
      rw [← hl] at hk
      cases hk
    rw [Host.addNamespace, setLink_links_of_ne _ hne] at hl
    obtain ⟨other, hother, hback⟩ := he.peers key link peer hl hk
    have hne' : peer ≠ (some ns, "lo") := by
      rintro rfl
      rw [hnone] at hother
      cases hother
    exact ⟨other, by rw [Host.addNamespace, setLink_links_of_ne _ hne']; exact hother, hback⟩
  · by_cases heq : n = ns
    · rw [heq, Host.addNamespace, setLink_links_self]
      rfl
    · have hne : ((some n, "lo") : LinkKey) ≠ (some ns, "lo") := fun h => heq (Option.some.inj (Prod.mk.inj h).1)
      rw [Host.addNamespace, setLink_links_of_ne _ hne]
      exact he.loopbacks n ((Finset.mem_insert.mp hn).resolve_left heq)

end Host

section Commands

variable {k : Kernel} {h h' : Host}

theorem editLink_equipped {ns interface : String} {edit : Link → Option Link} (he : h.Equipped)
    (hkind : ∀ old link, edit old = some link → link.kind = old.kind) (hrun : editLink h ns interface edit = .ok h') :
    h'.Equipped := by
  obtain ⟨-, old, link, hold, hedit, rfl⟩ := editLink_eq_ok hrun
  exact he.edit hold (hkind old link hedit)

/-- **Every command keeps it.** -/
theorem exec_equipped {c : IpCommand} (he : h.Equipped) (hrun : exec k h c = .ok h') : h'.Equipped := by
  cases c with
  | netnsAdd ns =>
    simp only [exec] at hrun
    split at hrun
    · cases hrun
    · rename_i hcond
      cases hrun
      exact he.addNamespace (not_or.mp hcond).1
  | netnsDel ns =>
    simp only [exec] at hrun
    split at hrun
    · cases hrun
    · cases hrun
      exact he.deleteNamespace ns
  | linkShow ns interface =>
    simp only [exec] at hrun
    split at hrun
    · cases hrun
    · split at hrun
      · cases hrun
      · cases hrun
        exact he
  | vethAdd nsA interfaceA nsB interfaceB =>
    simp only [exec] at hrun
    split at hrun
    · cases hrun
    · rename_i hcond
      simp only [not_or, not_not] at hcond
      obtain ⟨hA, hB, -, hne, ha, hb⟩ := hcond
      cases hrun
      refine he.addPair (fun heq => hne ?_) ha hb (Host.hasNs_some.mpr hA) (Host.hasNs_some.mpr hB)
      exact Prod.ext (Option.some.inj (Prod.mk.inj heq).1) (Prod.mk.inj heq).2
  | bridgeAdd ns bridge =>
    simp only [exec] at hrun
    split at hrun
    · cases hrun
    · rename_i hns
      split at hrun
      · cases hrun
      · rename_i hcond
        cases hrun
        refine he.add (not_not.mp (not_or.mp hcond).1) (Host.hasNs_some.mpr (not_not.mp hns)) fun peer hk => ?_
        cases hk
  | linkDel ns interface =>
    simp only [exec] at hrun
    split at hrun
    · cases hrun
    · split at hrun
      · cases hrun
      · rename_i link hl
        split at hrun
        · rename_i hdel
          cases hrun
          exact he.deleteLink hl hdel
        · cases hrun
  | addressReplace ns interface cidr =>
    refine editLink_equipped he (fun old link hedit => ?_) hrun
    split at hedit
    · cases hedit
      rfl
    · cases hedit
  | routeReplace ns dst via =>
    simp only [exec] at hrun
    split at hrun
    · cases hrun
    · rename_i hns
      split at hrun
      · cases hrun
      · cases hrun
        refine ⟨⟨he.links, fun key hkey => ?_, he.peers⟩, he.loopbacks⟩
        have hne : key ≠ (some ns, k.destination dst) := by
          rintro rfl
          exact hkey (Host.hasNs_some.mpr (not_not.mp hns))
        simp only [Function.update_of_ne hne]
        exact he.routes key hkey
  | setMaster ns interface bridge =>
    refine editLink_equipped he (fun old link hedit => ?_) hrun
    split at hedit
    · cases hedit
      rfl
    · cases hedit
  | setUp ns interface =>
    refine editLink_equipped he (fun old link hedit => ?_) hrun
    split at hedit
    · cases hedit
      rfl
    · cases hedit

/-- A TAP interface goes alone, and is no one's bridge any more. -/
theorem deleteTap_links (hc : h.Closed) (tap key : LinkKey) :
    (h.deleteTap tap).links key =
      if (h.links tap).map Link.kind = some .tap then
        if key = tap then none
        else (h.links key).map fun link =>
          { link with master := link.master.filter fun bridge => !decide ((key.1, bridge) = tap) }
      else h.links key := by
  unfold Host.deleteTap
  split
  · rename_i htap
    obtain ⟨link, hl, hk⟩ := Option.map_eq_some_iff.mp htap
    have hsel : ∀ key, h.selects (fun k => decide (k = tap)) key = decide (key = tap) := by
      intro key
      by_cases hveth : ∃ link peer, h.links key = some link ∧ link.kind = .veth peer
      · obtain ⟨link', peer, hl', hk'⟩ := hveth
        obtain ⟨other, hother, hback⟩ := hc.peers key link' peer hl' hk'
        have hne : peer ≠ tap := by
          rintro rfl
          rw [hl, Option.some.injEq] at hother
          rw [← hother, hk] at hback
          cases hback
        rw [Host.selects_veth _ hl' hk', decide_eq_false hne, Bool.or_false]
      · refine Host.selects_other _ fun link' hl' peer hk' => hveth ⟨link', peer, hl', hk'⟩
    simp only [Host.deleteLink, Host.dropLinks, hsel, decide_eq_true_eq]
  · rfl

theorem deleteTap_equipped (he : h.Equipped) (tap : LinkKey) : (h.deleteTap tap).Equipped := by
  unfold Host.deleteTap
  split
  · rename_i htap
    obtain ⟨link, hl, hk⟩ := Option.map_eq_some_iff.mp htap
    exact he.deleteLink hl (by rw [hk]; rfl)
  · exact he

theorem withoutDatapath_equipped {lab : Lab} (he : lab.host.Equipped) : lab.withoutDatapath.host.Equipped := by
  unfold Lab.withoutDatapath
  cases lab.datapath with
  | none => exact he
  | some taps => exact deleteTap_equipped (deleteTap_equipped he _) _

theorem stable_equipped (k : Kernel) : Stable k (fun _ => True) fun lab => lab.host.Equipped where
  fault _ he := he
  exec _ _ _ _ hrun he := exec_equipped he hrun
  stop _ he := withoutDatapath_equipped he

/-- Tearing down what is applied keeps it. -/
theorem clearCurrent_equipped (m : Manager) : Preserves (fun lab => lab.host.Equipped) m.clearCurrent := by
  intro lab he
  unfold Manager.clearCurrent
  rw [Eff.bind_apply]
  simp only [Eff.get]
  cases lab.current with
  | none => exact he
  | some current =>
    have hwithin : Within (fun _ => True) current.validated :=
      ⟨fun _ _ => trivial, fun _ _ => ⟨trivial, trivial⟩, trivial, fun _ _ => trivial⟩
    refine preserves_bind (destroyLocked_preserves (stable_equipped m.kernel) hwithin) (fun _ => ?_) lab he
    exact fun _ he' => he'

end Commands

end Ctrld
end Pktlab
