/-
# Destroying again after a failure

What the next `destroy` does after attempts that failed part-way and after
namespaces were removed from outside. `_destroy_locked` deletes the interfaces
before the namespaces, and `link_exists` raises when the namespace of an
interface is gone, so a teardown that got as far as one of these namespaces
cannot be repeated (`half_destroyed_stays`). `retry_clears_iff` says when it
can: the namespaces of the interfaces that are deleted one by one have to be
there, these interfaces have to be of a kind that can be deleted, and the
listing has to show the declared namespaces as they are.

Key definitions: `Incident`, `Manager.suffer`, `Manager.DestroyClears`,
`linkTargets`, `Thinned`, `Retryable`.
Key theorems: `destroyLocked_returns`, `destroyLinksAndBridges_returns`,
`destroyNamespaces_clears_iff`, `retry_clears_iff`.
-/
import Pktlab.Ctrld.TopologyRuns

namespace Pktlab
namespace Ctrld

open Python Effect

/-! ### Histories -/

/-- What can happen while a topology is applied: a `destroy` that fails, with
the calls that failed in it, or the removal of a declared namespace from
outside. -/
inductive Incident
  | failedDestroy (faults : List (Option Fault)) (stopRaises : Option TopologyError)
  | removed (ns : String)

namespace Manager

variable (m : Manager)

/-- The lab after an incident. -/
def suffer (lab : Lab) : Incident → Option Lab
  | .failedDestroy faults stopRaises =>
    match m.destroy { lab with faults := faults, stopRaises := stopRaises } with
    | (.ok _, _) => none
    | (.error _, lab') => some lab'
  | .removed ns =>
    match lab.current with
    | none => none
    | some a =>
      if ns ∈ a.validated.namespaceNames ∧ ns ∈ lab.host.namespaces then
        some { lab with host := lab.host.deleteNamespace ns }
      else none

/-- The next `destroy` returns, leaves none of the namespaces of `v` and takes
it off the record. -/
def DestroyClears (v : ValidatedTopologyConfig) (lab : Lab) : Prop :=
  ∃ r lab', m.destroy lab = (.ok r, lab') ∧ (∀ n ∈ v.namespaceNames, n ∉ lab'.host.namespaces) ∧
    lab'.current = none

end Manager

/-- Nothing fails on its own any more. -/
def Lab.recovered (lab : Lab) : Lab := { lab with faults := [], stopRaises := none }

/-! ### The record stays -/

/-- No call touches the record of the applied topology. -/
theorem stable_current (k : Kernel) (c : Option AppliedTopology) :
    Stable k (fun _ => True) fun lab => lab.current = c where
  fault _ h := h
  exec _ _ _ _ _ h := h
  stop lab h := by
    unfold Lab.withoutDatapath
    cases lab.datapath with
    | none => exact h
    | some taps => exact h

theorem within_any (v : ValidatedTopologyConfig) : Within (fun _ => True) v :=
  ⟨fun _ _ => trivial, fun _ _ => ⟨trivial, trivial⟩, trivial, fun _ _ => trivial⟩

/-- A `destroy` that raises keeps the record. -/
theorem destroy_raises {m : Manager} {lab lab' : Lab} {e : TopologyError} (h : m.destroy lab = (.error e, lab')) :
    lab'.current = lab.current := by
  unfold Manager.destroy at h
  rw [Eff.bind_apply] at h
  simp only [Eff.get] at h
  cases ha : lab.current with
  | none =>
    rw [ha] at h
    cases h
  | some a =>
    rw [ha] at h
    have hraise : m.destroyLocked a.validated lab = (.error e, lab') := by
      simp only [Manager.clearCurrent, Eff.bind_apply, Eff.get, ha] at h
      rcases hrun : m.destroyLocked a.validated lab with ⟨e' | u, lab₁⟩
      · rw [hrun] at h
        cases h
        rfl
      · rw [hrun] at h
        cases h
    exact (destroyLocked_preserves (stable_current m.kernel (some a)) (within_any a.validated)).error ha hraise

/-! ### The teardown as three parts that all return -/

/-- It returns exactly when no part reported an error. -/
theorem destroyLocked_returns {m : Manager} {v : ValidatedTopologyConfig} {lab lab' : Lab}
    (hstop : lab.stopRaises = none) :
    m.destroyLocked v lab = (.ok (), lab') ↔
      ∃ lab₁, destroyLinksAndBridges m.kernel v lab.withoutDatapath = (.ok (), lab₁) ∧
        destroyNamespaces m.kernel v lab₁ = (.ok (), lab') := by
  have hstopped : ∀ lab₁, stopDatapath lab = (.ok (), lab₁) ↔ lab.withoutDatapath = lab₁ := by
    intro lab₁
    simp [stopDatapath, hstop]
  unfold Manager.destroyLocked
  simp only [Eff.bind_eq_ok]
  refine ⟨?_, ?_⟩
  · rintro ⟨errors₁, lab₁, h₁, errors₂, lab₂, h₂, errors₃, lab₃, h₃, hend⟩
    have hnil : errors₃ = [] ∧ lab₃ = lab' := by
      by_cases hnil : errors₃ = []
      · rw [if_pos hnil] at hend
        cases hend
        exact ⟨hnil, rfl⟩
      · rw [if_neg hnil] at hend
        cases hend
    obtain ⟨rfl, rfl⟩ := hnil
    obtain ⟨rfl, hspaces⟩ := collect_eq_nil.mp h₃
    obtain ⟨rfl, hlinks⟩ := collect_eq_nil.mp h₂
    obtain rfl := (hstopped lab₁).mp (collect_eq_nil.mp h₁).2
    exact ⟨lab₂, hlinks, hspaces⟩
  · rintro ⟨lab₁, hlinks, hspaces⟩
    refine ⟨[], lab.withoutDatapath, collect_eq_nil.mpr ⟨rfl, (hstopped _).mpr rfl⟩, [], lab₁,
      collect_eq_nil.mpr ⟨rfl, hlinks⟩, [], lab', collect_eq_nil.mpr ⟨rfl, hspaces⟩, ?_⟩
    rfl

theorem destroy_returns {m : Manager} {a : AppliedTopology} {lab lab' : Lab} (ha : lab.current = some a) :
    (∃ r, m.destroy lab = (.ok r, lab')) ↔
      ∃ lab₁, m.destroyLocked a.validated lab = (.ok (), lab₁) ∧ lab' = { lab₁ with current := none } := by
  unfold Manager.destroy Manager.clearCurrent
  simp only [Eff.bind_apply, Eff.get, ha]
  rcases m.destroyLocked a.validated lab with ⟨e | u, lab₁⟩
  · simp
  · simp [Manager.setCurrent, Eff.modify, Eff.pure_apply, eq_comm]

/-! ### Deleting interfaces -/

/-- Some interfaces that can be deleted have been; namespaces and kinds are as
they were. -/
structure Thinned (h h' : Host) : Prop where
  namespaces : h'.namespaces = h.namespaces
  sub : ∀ key link', h'.links key = some link' → ∃ link, h.links key = some link ∧ link'.kind = link.kind
  fixed : ∀ key link, h.links key = some link → link.kind.deletable = false →
    ∃ link', h'.links key = some link' ∧ link'.kind = link.kind

theorem Thinned.refl (h : Host) : Thinned h h :=
  ⟨rfl, fun _ link' hl => ⟨link', hl, rfl⟩, fun _ link hl _ => ⟨link, hl, rfl⟩⟩

theorem Thinned.trans {h h' h'' : Host} (h₁ : Thinned h h') (h₂ : Thinned h' h'') : Thinned h h'' := by
  refine ⟨h₂.namespaces.trans h₁.namespaces, fun key link'' hl => ?_, fun key link hl hd => ?_⟩
  · obtain ⟨link', hl', hk'⟩ := h₂.sub key link'' hl
    obtain ⟨link, hl, hk⟩ := h₁.sub key link' hl'
    exact ⟨link, hl, hk'.trans hk⟩
  · obtain ⟨link', hl', hk'⟩ := h₁.fixed key link hl hd
    obtain ⟨link'', hl'', hk''⟩ := h₂.fixed key link' hl' (hk' ▸ hd)
    exact ⟨link'', hl'', hk''.trans hk'⟩

theorem thinned_deleteLink {h : Host} {key : LinkKey} {link : Link} (hl : h.links key = some link)
    (hd : link.kind.deletable = true) : Thinned h (h.deleteLink key) := by
  refine ⟨rfl, fun key' link' hl' => Host.dropLinks_links_some hl', fun key' link' hl' hd' => ?_⟩
  have hstays : h.selects (fun k => k = key) key' = false := by
    unfold Host.selects
    rw [hl']
    have hne : key' ≠ key := by
      rintro rfl
      rw [hl, Option.some.injEq] at hl'
      rw [hl', hd'] at hd
      cases hd
    rcases link' with ⟨kind, master, addresses, up⟩
    cases kind with
    | veth peer => cases hd'
    | loopback => simp [hne]
    | physical => simp [hne]
    | bridge => simp [hne]
    | tap => simp [hne]
  simp only [Host.deleteLink, Host.dropLinks, hstays, hl', Option.map_some]
  exact ⟨_, rfl, rfl⟩

theorem thinned_deleteTap (h : Host) (key : LinkKey) : Thinned h (h.deleteTap key) := by
  unfold Host.deleteTap
  split
  · rename_i htap
    obtain ⟨link, hl, hk⟩ := Option.map_eq_some_iff.mp htap
    exact thinned_deleteLink hl (by rw [hk]; rfl)
  · exact Thinned.refl h

theorem thinned_withoutDatapath (lab : Lab) : Thinned lab.host lab.withoutDatapath.host := by
  unfold Lab.withoutDatapath
  cases lab.datapath with
  | none => exact Thinned.refl _
  | some taps => exact (thinned_deleteTap _ _).trans (thinned_deleteTap _ _)

/-- The namespace is there, and the interface, if it is, can be deleted. -/
def Removable (h : Host) (target : String × String) : Prop :=
  target.1 ∈ h.namespaces ∧ ∀ link, h.links (some target.1, target.2) = some link → link.kind.deletable = true

theorem Thinned.removable {h h' : Host} (ht : Thinned h h') (target : String × String) :
    Removable h' target ↔ Removable h target := by
  unfold Removable
  rw [ht.namespaces]
  refine and_congr_right fun _ => ⟨fun hd link hl => ?_, fun hd link' hl' => ?_⟩
  · by_contra hfixed
    rw [Bool.not_eq_true] at hfixed
    obtain ⟨link', hl', hk⟩ := ht.fixed _ link hl hfixed
    have := hd link' hl'
    rw [hk, hfixed] at this
    cases this
  · obtain ⟨link, hl, hk⟩ := ht.sub _ link' hl'
    rw [hk]
    exact hd link hl

theorem deleteLink_returns {k : Kernel} {lab : Lab} (hq : lab.faults = []) (target : String × String) :
    (Removable lab.host target → ∃ host', Thinned lab.host host' ∧
      deleteLink k target.1 target.2 lab = (.ok (), { lab with host := host' })) ∧
    (¬ Removable lab.host target → ∃ e, deleteLink k target.1 target.2 lab = (.error e, lab)) := by
  rw [deleteLink_quiet hq]
  by_cases hns : target.1 ∈ lab.host.namespaces
  · rw [if_neg (not_not.mpr hns)]
    cases hl : lab.host.links (some target.1, target.2) with
    | none =>
      refine ⟨fun _ => ⟨lab.host, Thinned.refl _, rfl⟩, fun hnot => absurd ⟨hns, fun link hlink => ?_⟩ hnot⟩
      rw [hl] at hlink
      cases hlink
    | some link =>
      by_cases hd : link.kind.deletable = true
      · simp only [hd, if_true]
        refine ⟨fun _ => ⟨_, thinned_deleteLink hl hd, rfl⟩, fun hnot => absurd ⟨hns, fun link' hlink => ?_⟩ hnot⟩
        rw [hl, Option.some.injEq] at hlink
        exact hlink ▸ hd
      · simp only [hd]
        exact ⟨fun hr => absurd (hr.2 link hl) hd, fun _ => ⟨processError, rfl⟩⟩
  · rw [if_pos hns]
    exact ⟨fun hr => absurd hr.1 hns, fun _ => ⟨processError, rfl⟩⟩

/-- The interfaces that `destroy_links_and_bridges` deletes, in its order. -/
def linkTargets (v : ValidatedTopologyConfig) : List (String × String) :=
  (v.requestedDpdkConfig.netns.1, EGRESS_BRIDGE_NAME) :: (v.requestedDpdkConfig.netns.1, INGRESS_BRIDGE_NAME) ::
    v.topology.links.reverse.map fun link => splitRef link.a.1

theorem destroyLinksAndBridges_eq (k : Kernel) (v : ValidatedTopologyConfig) :
    destroyLinksAndBridges k v = Eff.each (fun t => deleteLink k t.1 t.2) (linkTargets v) := by
  simp only [linkTargets, Eff.each, Eff.each_map]
  rfl

/-- A loop over interfaces returns exactly when each of them can be removed. -/
theorem each_deleteLink_returns {k : Kernel} : ∀ (targets : List (String × String)) {lab : Lab}, lab.faults = [] →
    ((∀ t ∈ targets, Removable lab.host t) → ∃ host', Thinned lab.host host' ∧
      Eff.each (fun t => deleteLink k t.1 t.2) targets lab = (.ok (), { lab with host := host' })) ∧
    ((∃ lab', Eff.each (fun t => deleteLink k t.1 t.2) targets lab = (.ok (), lab')) →
      ∀ t ∈ targets, Removable lab.host t)
  | [], lab, _ => ⟨fun _ => ⟨lab.host, Thinned.refl _, rfl⟩, by simp⟩
  | t :: targets, lab, hq => by
    obtain ⟨hyes, hno⟩ := deleteLink_returns (k := k) hq t
    refine ⟨fun hall => ?_, ?_⟩
    · obtain ⟨ht, htargets⟩ := List.forall_mem_cons.mp hall
      obtain ⟨host₁, hthin, hdel⟩ := hyes ht
      have hq₁ : ({ lab with host := host₁ } : Lab).faults = [] := hq
      obtain ⟨host₂, hthin', hrest⟩ := (each_deleteLink_returns targets hq₁).1 fun t' ht' =>
        (hthin.removable t').mpr (htargets t' ht')
      exact ⟨host₂, hthin.trans hthin', Eff.each_cons_eq_ok.mpr ⟨_, hdel, hrest⟩⟩
    · rintro ⟨lab', hrun⟩
      obtain ⟨lab₁, hdel, hrest⟩ := Eff.each_cons_eq_ok.mp hrun
      have ht : Removable lab.host t := by
        by_contra hnot
        obtain ⟨e, he⟩ := hno hnot
        rw [he] at hdel
        cases hdel
      obtain ⟨host₁, hthin, hdel'⟩ := hyes ht
      rw [hdel'] at hdel
      cases hdel
      have hq₁ : ({ lab with host := host₁ } : Lab).faults = [] := hq
      have htargets := (each_deleteLink_returns targets hq₁).2 ⟨lab', hrest⟩
      exact List.forall_mem_cons.mpr ⟨ht, fun t' ht' => (hthin.removable t').mp (htargets t' ht')⟩

/-! ### Deleting namespaces -/

/-- The listing shows the namespace exactly when it is there. -/
def ListedExactly (h : Host) (name : String) : Prop := name ∈ h.listed ↔ name ∈ h.namespaces

theorem plain_of_listed {h : Host} {name : String} (hmem : name ∈ h.listed) : Plain name := by
  obtain ⟨other, -, htoken⟩ := Finset.mem_biUnion.mp hmem
  rw [List.mem_toFinset, nameTokens, List.mem_filterMap] at htoken
  obtain ⟨line, -, hword⟩ := htoken
  obtain ⟨word, hfirst, rfl⟩ := Option.map_eq_some_iff.mp hword
  unfold Plain
  rw [String.toList_ofList]
  exact noSpace_of_firstWord hfirst

/-- Deleting a namespace that the listing shows takes only itself off it. -/
theorem mem_listed_deleteNamespace {h : Host} {name other : String} (hlisted : name ∈ h.listed)
    (hne : name ≠ "") (hother : other ≠ name) :
    other ∈ (h.deleteNamespace name).listed ↔ other ∈ h.listed := by
  have hself : nameTokens name = [name] := nameTokens_of_plain (plain_of_listed hlisted) hne
  unfold Host.listed
  rw [Finset.mem_biUnion, Finset.mem_biUnion]
  refine ⟨fun ⟨line, hline, htoken⟩ => ⟨line, Finset.mem_of_mem_erase hline, htoken⟩, ?_⟩
  rintro ⟨line, hline, htoken⟩
  refine ⟨line, Finset.mem_erase.mpr ⟨?_, hline⟩, htoken⟩
  rintro rfl
  rw [hself, List.mem_toFinset, List.mem_singleton] at htoken
  exact hother htoken

theorem listedExactly_deleteNamespace {h : Host} {name other : String} (hlisted : name ∈ h.listed)
    (hne : name ≠ "") (hother : other ≠ name) :
    ListedExactly (h.deleteNamespace name) other ↔ ListedExactly h other := by
  have hns : other ∈ (h.deleteNamespace name).namespaces ↔ other ∈ h.namespaces := by
    simp [Host.deleteNamespace, hother]
  unfold ListedExactly
  rw [mem_listed_deleteNamespace hlisted hne hother, hns]

/-- A loop over other names leaves a namespace alone. -/
theorem each_deleteNamespace_other {k : Kernel} {name : String} : ∀ {names : List String} {lab lab' : Lab},
    name ∉ names → lab.faults = [] → Eff.each (deleteNamespace k) names lab = (.ok (), lab') →
      (name ∈ lab'.host.namespaces ↔ name ∈ lab.host.namespaces)
  | [], _, _, _, _, hrun => by
    cases hrun
    exact Iff.rfl
  | n :: names, lab, lab', hnot, hq, hrun => by
    rw [List.mem_cons, not_or] at hnot
    obtain ⟨lab₁, hdel, hrest⟩ := Eff.each_cons_eq_ok.mp hrun
    rw [deleteNamespace_quiet hq] at hdel
    split_ifs at hdel with hlisted hmem
    · cases hdel
      have hq₁ : ({ lab with host := lab.host.deleteNamespace n } : Lab).faults = [] := hq
      rw [each_deleteNamespace_other hnot.2 hq₁ hrest]
      simp [Host.deleteNamespace, hnot.1]
    · cases hdel
    · cases hdel
      exact each_deleteNamespace_other hnot.2 hq hrest

/-- **When a loop over the namespaces clears them all.** -/
theorem each_deleteNamespace_clears {k : Kernel} : ∀ {names : List String} {lab : Lab},
    names.Nodup → (∀ n ∈ names, n ≠ "") → lab.faults = [] →
    ((∃ lab', Eff.each (deleteNamespace k) names lab = (.ok (), lab') ∧
        ∀ n ∈ names, n ∉ lab'.host.namespaces) ↔
      ∀ n ∈ names, ListedExactly lab.host n)
  | [], lab, _, _, _ => by simp [Eff.each, Eff.pure_apply]
  | n :: names, lab, hnodup, hne, hq => by
    obtain ⟨hnot, hnodup⟩ := List.nodup_cons.mp hnodup
    obtain ⟨hn, hne⟩ := List.forall_mem_cons.mp hne
    simp only [List.forall_mem_cons]
    -- what the first round does decides where the others start
    have hfirst := deleteNamespace_quiet (k := k) hq n
    by_cases hlisted : n ∈ lab.host.listed
    · rw [if_neg (not_not.mpr hlisted)] at hfirst
      by_cases hmem : n ∈ lab.host.namespaces
      · rw [if_pos hmem] at hfirst
        have hq₁ : ({ lab with host := lab.host.deleteNamespace n } : Lab).faults = [] := hq
        have hrest := each_deleteNamespace_clears (k := k) hnodup hne hq₁
        have hexact : ListedExactly lab.host n := iff_of_true hlisted hmem
        have hsame : (∀ n' ∈ names, ListedExactly (lab.host.deleteNamespace n) n') ↔
            ∀ n' ∈ names, ListedExactly lab.host n' := by
          refine forall₂_congr fun n' hn' => listedExactly_deleteNamespace hlisted hn ?_
          rintro rfl
          exact hnot hn'
        rw [← hsame, ← hrest]
        refine ⟨?_, ?_⟩
        · rintro ⟨lab', hrun, -, hgone⟩
          obtain ⟨lab₁, hdel, hrun'⟩ := Eff.each_cons_eq_ok.mp hrun
          rw [hfirst] at hdel
          cases hdel
          exact ⟨hexact, lab', hrun', hgone⟩
        · rintro ⟨-, lab', hrun', hgone⟩
          refine ⟨lab', Eff.each_cons_eq_ok.mpr ⟨_, hfirst, hrun'⟩, ?_, hgone⟩
          rw [each_deleteNamespace_other hnot hq₁ hrun']
          exact Finset.notMem_erase n _
      · rw [if_neg hmem] at hfirst
        refine iff_of_false ?_ fun h => hmem (h.1.mp hlisted)
        rintro ⟨lab', hrun, -⟩
        obtain ⟨lab₁, hdel, -⟩ := Eff.each_cons_eq_ok.mp hrun
        rw [hfirst] at hdel
        cases hdel
    · rw [if_pos hlisted] at hfirst
      have hrest := each_deleteNamespace_clears (k := k) hnodup hne hq
      rw [← hrest]
      refine ⟨?_, ?_⟩
      · rintro ⟨lab', hrun, hgone, hgone'⟩
        obtain ⟨lab₁, hdel, hrun'⟩ := Eff.each_cons_eq_ok.mp hrun
        rw [hfirst] at hdel
        cases hdel
        rw [each_deleteNamespace_other hnot hq hrun'] at hgone
        exact ⟨iff_of_false hlisted hgone, lab', hrun', hgone'⟩
      · rintro ⟨hexact, lab', hrun', hgone⟩
        refine ⟨lab', Eff.each_cons_eq_ok.mpr ⟨_, hfirst, hrun'⟩, ?_, hgone⟩
        rw [each_deleteNamespace_other hnot hq hrun']
        exact fun hmem => hlisted (hexact.mpr hmem)

/-! ### Which teardowns can be repeated -/

/-- The namespaces of the interfaces that are deleted one by one are there,
each such interface that is there is of a kind that can be deleted, and the
listing shows the declared namespaces as they are. -/
structure Retryable (v : ValidatedTopologyConfig) (h : Host) : Prop where
  dpdkd : v.requestedDpdkConfig.netns.1 ∈ h.namespaces
  sides : ∀ link ∈ v.topology.links, (splitRef link.a.1).1 ∈ h.namespaces
  deletable : ∀ t ∈ linkTargets v, ∀ link, h.links (some t.1, t.2) = some link → link.kind.deletable = true
  listed : ∀ n ∈ v.namespaceNames, ListedExactly h n

theorem retryable_iff {v : ValidatedTopologyConfig} {h : Host} :
    Retryable v h ↔ (∀ t ∈ linkTargets v, Removable h t) ∧ ∀ n ∈ v.namespaceNames, ListedExactly h n := by
  refine ⟨fun hr => ⟨fun t ht => ⟨?_, hr.deletable t ht⟩, hr.listed⟩, fun ⟨hr, hl⟩ => ?_⟩
  · simp only [linkTargets, List.mem_cons, List.mem_map, List.mem_reverse] at ht
    rcases ht with rfl | rfl | ⟨link, hlink, rfl⟩
    · exact hr.dpdkd
    · exact hr.dpdkd
    · exact hr.sides link hlink
  · refine ⟨(hr _ List.mem_cons_self).1, fun link hlink => ?_, fun t ht => (hr t ht).2, hl⟩
    refine (hr (splitRef link.a.1) ?_).1
    simp only [linkTargets, List.mem_cons, List.mem_map, List.mem_reverse]
    exact Or.inr (Or.inr ⟨link, hlink, rfl⟩)

theorem withoutDatapath_quiet {lab : Lab} (hq : lab.faults = []) : lab.withoutDatapath.faults = [] := by
  unfold Lab.withoutDatapath
  cases lab.datapath with
  | none => exact hq
  | some taps => exact hq

theorem listedExactly_congr {h h' : Host} (hns : h'.namespaces = h.namespaces) (n : String) :
    ListedExactly h' n ↔ ListedExactly h n := by
  unfold ListedExactly Host.listed
  rw [hns]

theorem nodup_of_loadValidated {m : Manager} {configPath : String} {v : ValidatedTopologyConfig}
    (h : m.loadValidated configPath = .ok v) : (v.topology.namespaces.map fun ns => ns.name.1).Nodup := by
  obtain ⟨config, hv⟩ := Manager.validated_of_loadValidated h
  obtain ⟨effective, hclean, rfl⟩ := validateTopologyConfig_eq_ok.mp hv
  exact duplicateNames_nil_iff.mp hclean.names

section Retry

variable {m : Manager} {configPath : String} {v : ValidatedTopologyConfig} {lab : Lab}

theorem destroyNamespaces_clears_iff {k : Kernel} (hv : m.loadValidated configPath = .ok v) (hq : lab.faults = []) :
    (∃ lab', destroyNamespaces k v lab = (.ok (), lab') ∧ ∀ n ∈ v.namespaceNames, n ∉ lab'.host.namespaces) ↔
      ∀ n ∈ v.namespaceNames, ListedExactly lab.host n := by
  have hmem : ∀ n, n ∈ (v.topology.namespaces.reverse.map fun ns => ns.name.1) ↔ n ∈ v.namespaceNames := by
    intro n
    rw [(Manager.declared_of_loadValidated hv).namespaces n]
    simp only [List.mem_map, List.mem_reverse]
  have hnodup : (v.topology.namespaces.reverse.map fun ns => ns.name.1).Nodup := by
    rw [List.map_reverse, List.nodup_reverse]
    exact nodup_of_loadValidated hv
  have hne : ∀ n ∈ (v.topology.namespaces.reverse.map fun ns => ns.name.1), n ≠ "" := by
    intro n hn
    obtain ⟨ns, -, rfl⟩ := List.mem_map.mp hn
    exact ns.name.2
  have heach := each_deleteNamespace_clears (k := k) hnodup hne hq
  simp only [hmem, Eff.each_map] at heach
  exact heach

/-- **When the teardown of `v` returns and leaves nothing of it.** -/
theorem destroyLocked_clears_iff (hv : m.loadValidated configPath = .ok v) (hq : lab.faults = [])
    (hstop : lab.stopRaises = none) :
    (∃ lab', m.destroyLocked v lab = (.ok (), lab') ∧ ∀ n ∈ v.namespaceNames, n ∉ lab'.host.namespaces) ↔
      Retryable v lab.host := by
  have hthin := thinned_withoutDatapath lab
  have hq₀ := withoutDatapath_quiet hq
  obtain ⟨hyes, hno⟩ := each_deleteLink_returns (k := m.kernel) (linkTargets v) hq₀
  rw [← destroyLinksAndBridges_eq] at hyes hno
  rw [retryable_iff]
  refine ⟨?_, fun ⟨hremovable, hlisted⟩ => ?_⟩
  · rintro ⟨lab', hdestroy, hgone⟩
    obtain ⟨lab₁, hlinks, hspaces⟩ := (destroyLocked_returns hstop).mp hdestroy
    have hremovable := hno ⟨lab₁, hlinks⟩
    obtain ⟨host₁, hthin₁, hlinks'⟩ := hyes hremovable
    rw [hlinks'] at hlinks
    cases hlinks
    have hq₁ : ({ lab.withoutDatapath with host := host₁ } : Lab).faults = [] := hq₀
    have hlisted := (destroyNamespaces_clears_iff hv hq₁).mp ⟨lab', hspaces, hgone⟩
    have hns := (hthin.trans hthin₁).namespaces
    exact ⟨fun t ht => (hthin.removable t).mp (hremovable t ht),
      fun n hn => (listedExactly_congr hns n).mp (hlisted n hn)⟩
  · obtain ⟨host₁, hthin₁, hlinks⟩ := hyes fun t ht => (hthin.removable t).mpr (hremovable t ht)
    have hq₁ : ({ lab.withoutDatapath with host := host₁ } : Lab).faults = [] := hq₀
    have hns := (hthin.trans hthin₁).namespaces
    obtain ⟨lab', hspaces, hgone⟩ := (destroyNamespaces_clears_iff hv hq₁).mpr fun n hn =>
      (listedExactly_congr hns n).mpr (hlisted n hn)
    exact ⟨lab', (destroyLocked_returns hstop).mpr ⟨_, hlinks, hspaces⟩, hgone⟩

/-- An `apply` that returns is on record. -/
theorem current_of_apply {before after : Lab} {r : Manager.OperationResult}
    (hv : m.loadValidated configPath = .ok v) (h : m.apply configPath before = (.ok r, after)) :
    after.current = some ⟨configPath, v⟩ := by
  unfold Manager.apply at h
  rw [hv] at h
  simp only [Eff.bind_eq_ok] at h
  obtain ⟨_, lab₁, -, running, lab₂, -, _, lab₃, hset, hend⟩ := h
  cases hset
  cases hend
  rfl

theorem suffer_current {lab' : Lab} {incident : Incident} (h : m.suffer lab incident = some lab') :
    lab'.current = lab.current := by
  cases incident with
  | failedDestroy faults stopRaises =>
    simp only [Manager.suffer] at h
    split at h
    · cases h
    · rename_i hdestroy
      cases h
      have hkept := destroy_raises hdestroy
      exact hkept
  | removed ns =>
    simp only [Manager.suffer] at h
    split at h
    · cases h
    · split at h
      · cases h
        rfl
      · cases h

/-- **Which histories leave a topology that the next `destroy` clears.** -/
theorem retry_clears_iff {before after : Lab} {r : Manager.OperationResult} {incidents : List Incident}
    (hv : m.loadValidated configPath = .ok v) (happly : m.apply configPath before = (.ok r, after))
    (hrun : Run.run m.suffer after incidents = some lab) :
    m.DestroyClears v lab.recovered ↔ Retryable v lab.host := by
  have hcurrent : lab.recovered.current = some ⟨configPath, v⟩ :=
    Run.run_induction (P := fun lab => lab.current = some ⟨configPath, v⟩)
      (fun _ _ _ h hstep => (suffer_current hstep).trans h) (current_of_apply hv happly) hrun
  have hq : lab.recovered.faults = [] := rfl
  have hclears := destroyLocked_clears_iff hv hq rfl
  refine Iff.trans ⟨?_, ?_⟩ hclears
  · rintro ⟨r', lab', hdestroy, hgone, -⟩
    obtain ⟨lab₁, hlocked, rfl⟩ := (destroy_returns hcurrent).mp ⟨r', hdestroy⟩
    exact ⟨lab₁, hlocked, hgone⟩
  · rintro ⟨lab₁, hlocked, hgone⟩
    obtain ⟨r', hdestroy⟩ := (destroy_returns hcurrent).mpr ⟨lab₁, hlocked, rfl⟩
    exact ⟨r', _, hdestroy, hgone, rfl⟩

end Retry

/-! ### Histories on a bare host -/

/-- A `destroy` of `plainLab` that fails on its first call and at the listing,
so that everything is still there. -/
def nothingDestroyed : Incident := .failedDestroy [some ⟨255, by decide⟩, some ⟨1, by decide⟩] none

/-- A `destroy` of `plainLab` that fails on its last call, `ip netns del src`,
with `dst` and `dp` gone. -/
def halfDestroyed : Incident := .failedDestroy (List.replicate 13 none ++ [some ⟨1, by decide⟩]) none

/-- The lab after `plainLab` was applied and an incident. -/
def afterIncident (incident : Incident) : Option Lab :=
  (returned (obligingManager.apply "lab.yaml" (Lab.initial bareHost))).bind fun after =>
    Run.run obligingManager.suffer after [incident]

theorem afterIncident_eq_some {incident : Incident} {lab : Lab} (h : afterIncident incident = some lab) :
    ∃ v r after, obligingManager.loadValidated "lab.yaml" = .ok v ∧
      obligingManager.apply "lab.yaml" (Lab.initial bareHost) = (.ok r, after) ∧
      Run.run obligingManager.suffer after [incident] = some lab := by
  obtain ⟨after, hafter, hrun⟩ := Option.bind_eq_some_iff.mp h
  obtain ⟨r, happly⟩ := returned_eq_some.mp hafter
  have haccepted : (obligingManager.loadValidated "lab.yaml").toBool = true := by decide +kernel
  obtain ⟨v, hv⟩ := exists_of_toBool haccepted
  exact ⟨v, r, after, hv, happly, hrun⟩

theorem retry_clears_nothingDestroyed :
    ∃ v r after lab, obligingManager.loadValidated "lab.yaml" = .ok v ∧
      obligingManager.apply "lab.yaml" (Lab.initial bareHost) = (.ok r, after) ∧
      Run.run obligingManager.suffer after [nothingDestroyed] = some lab ∧
      (obligingManager.DestroyClears v lab.recovered ↔ Retryable v lab.host) := by
  have hsome : (afterIncident nothingDestroyed).isSome = true := by decide +kernel
  obtain ⟨lab, hlab⟩ := Option.isSome_iff_exists.mp hsome
  obtain ⟨v, r, after, hv, happly, hrun⟩ := afterIncident_eq_some hlab
  exact ⟨v, r, after, lab, hv, happly, hrun, retry_clears_iff hv happly hrun⟩

/-- With the namespace of the bridges gone, every further `destroy` raises. -/
theorem half_destroyed_stays :
    ¬ ∀ (m : Manager) (configPath : String) (v : ValidatedTopologyConfig) (before after lab : Lab)
      (r : Manager.OperationResult) (incidents : List Incident), m.loadValidated configPath = .ok v →
      m.apply configPath before = (.ok r, after) → Run.run m.suffer after incidents = some lab →
      m.DestroyClears v lab.recovered := by
  intro h
  have hraises : (afterIncident halfDestroyed).map (fun lab =>
      (returned (obligingManager.destroy lab.recovered)).isNone) = some true := by decide +kernel
  obtain ⟨lab, hlab, hnone⟩ := Option.map_eq_some_iff.mp hraises
  obtain ⟨v, r, after, hv, happly, hrun⟩ := afterIncident_eq_some hlab
  obtain ⟨r', lab', hdestroy, -⟩ := h _ _ v _ after lab r _ hv happly hrun
  rw [returned_eq_some.mpr ⟨r', hdestroy⟩] at hnone
  cases hnone

end Ctrld
end Pktlab
