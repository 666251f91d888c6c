/-
# What the steps of the manager keep

Each step of `apply` and `destroy` is made of a few calls: `ip` commands that
name namespaces of the topology, starting and stopping the datapath. So what
these calls keep, each step keeps, whether it returns or raises
(`build_preserves`, `destroyLocked_preserves`). A teardown that returns has
deleted the namespaces that the listing shows as they are
(`destroyLocked_returns_clear`).

Key definitions: `Declared`, `Within`, `Stable`, `Plain`.
Key theorems: `declared_of_validated`, `build_preserves`,
`destroyLocked_preserves`, `destroyLocked_returns_clear`.
-/
import Pktlab.Ctrld.Acceptance
import Pktlab.Ctrld.Topology

namespace Pktlab
namespace Ctrld

open Python Effect

/-! ### What validation says about namespaces -/

/-- A topology names only the namespaces `N`, and declares all of them. -/
structure Declared (N : Finset String) (v : ValidatedTopologyConfig) : Prop where
  namespaces : ∀ n, n ∈ N ↔ ∃ ns ∈ v.topology.namespaces, ns.name.1 = n
  links : ∀ link ∈ v.topology.links, (splitRef link.a.1).1 ∈ N ∧ (splitRef link.b.1).1 ∈ N
  dpdkd : v.requestedDpdkConfig.netns.1 ∈ N
  routes : ∀ route ∈ v.topology.routes, route.netns.1 ∈ N

/-- `_split_ref` reads an endpoint as validation does. -/
theorem IsEndpoint.splitRef_eq {value ns interface : String} (h : IsEndpoint value ns interface) :
    splitRef value = (ns, interface) := by
  unfold splitRef
  rw [h.splitFirst]
  simp

theorem acceptable_of_validated {py : Interpreter} {config : TopologyConfigModel} {v : ValidatedTopologyConfig}
    (h : validateTopologyConfig py config = .ok v) : Acceptable py config := (accepted_iff py config).mp ⟨v, h⟩

theorem declared_of_validated {py : Interpreter} {config : TopologyConfigModel} {v : ValidatedTopologyConfig}
    (h : validateTopologyConfig py config = .ok v) : Declared v.namespaceNames v := by
  have hacceptable := acceptable_of_validated h
  have hside : ∀ link ∈ config.links, ∀ side ∈ link.sides, (splitRef side.1).1 ∈ config.namespaceNames := by
    intro link hlink side hside
    obtain ⟨ns, interface, hendpoint, hmem⟩ := hacceptable.endpoints side.1
      (List.mem_flatMap.mpr ⟨link, hlink, List.mem_map_of_mem hside⟩)
    rw [hendpoint.splitRef_eq]
    exact hmem
  obtain ⟨effective, hclean, rfl⟩ := validateTopologyConfig_eq_ok.mp h
  refine ⟨fun n => ?_, fun link hlink => ⟨?_, ?_⟩, hclean.dpdkNamespace,
    fun route hroute => (hacceptable.routes route hroute).1⟩
  · simp [TopologyConfigModel.namespaceNames]
  · exact hside link hlink (link.a.1, link.ipA) (by simp [LinkModel.sides])
  · exact hside link hlink (link.b.1, link.ipB) (by simp [LinkModel.sides])

/-! ### What each call keeps -/

/-- The topology names only namespaces with `A`. -/
structure Within (A : String → Prop) (v : ValidatedTopologyConfig) : Prop where
  namespaces : ∀ ns ∈ v.topology.namespaces, A ns.name.1
  links : ∀ link ∈ v.topology.links, A (splitRef link.a.1).1 ∧ A (splitRef link.b.1).1
  dpdkd : A v.requestedDpdkConfig.netns.1
  routes : ∀ route ∈ v.topology.routes, A route.netns.1

theorem Declared.within {N : Finset String} {v : ValidatedTopologyConfig} (hv : Declared N v) :
    Within (fun n => n ∈ N) v :=
  ⟨fun ns hns => (hv.namespaces _).mpr ⟨ns, hns, rfl⟩, hv.links, hv.dpdkd, hv.routes⟩

/-- `P` is kept by the calls that name namespaces with `A`, failing or not. -/
structure Stable (k : Kernel) (A : String → Prop) (P : Lab → Prop) : Prop where
  fault : ∀ lab, P lab → P { lab with faults := lab.faults.tail }
  exec : ∀ lab c host, (∀ n ∈ c.namespaces, A n) → exec k lab.host c = .ok host → P lab →
    P { lab with host := host }
  stop : ∀ lab, P lab → P lab.withoutDatapath

/-- `P` is kept when a datapath gets ready in a namespace with `A`. -/
def StableTaps (A : String → Prop) (P : Lab → Prop) : Prop :=
  ∀ lab taps, A taps.ns → taps.ns ∈ lab.host.namespaces → P lab → P (createTaps taps lab).2

section Preserved

variable {A : String → Prop} {P : Lab → Prop} {k : Kernel} {v : ValidatedTopologyConfig}

theorem answer_preserves (status : ℕ) (allowed : List ℕ) : Preserves P (answer status allowed : Op ℕ) := by
  intro lab h
  unfold answer
  by_cases hmem : status ∈ allowed
  · rw [if_pos hmem]
    exact h
  · rw [if_neg hmem]
    exact h

theorem exec_answers (k : Kernel) (c : IpCommand) (allowed : List ℕ) (lab : Lab) (faults : List (Option Fault)) :
    ∃ status host,
      (match exec k lab.host c with
        | .ok host => answer 0 allowed { lab with host := host, faults := faults }
        | .error status => answer status allowed { lab with faults := faults }) =
      answer status allowed { lab with host := host, faults := faults } ∧
      (status = 0 ∧ exec k lab.host c = .ok host ∨ status ≠ 0 ∧ host = lab.host) := by
  cases he : exec k lab.host c with
  | ok host => exact ⟨0, host, rfl, .inl ⟨rfl, rfl⟩⟩
  | error status => exact ⟨status, lab.host, rfl, .inr ⟨exec_status he, rfl⟩⟩

/-- **A call of `ip`.** It does what `exec` does, or nothing when it fails. -/
theorem runIp_answers (c : IpCommand) (allowed : List ℕ) (lab : Lab) : ∃ status host,
    runIp k c allowed lab = answer status allowed { lab with host := host, faults := lab.faults.tail } ∧
      (status = 0 ∧ exec k lab.host c = .ok host ∨ status ≠ 0 ∧ host = lab.host) := by
  unfold runIp
  rcases lab.faults with _ | ⟨_ | fault, faults⟩
  · exact exec_answers k c allowed lab []
  · exact exec_answers k c allowed lab faults
  · exact ⟨fault.1, lab.host, rfl, .inr ⟨fault.2, rfl⟩⟩

theorem runIp_preserves (hP : Stable k A P) {c : IpCommand} (hc : ∀ n ∈ c.namespaces, A n) (allowed : List ℕ) :
    Preserves P (runIp k c allowed) := by
  intro lab h
  have hfault := hP.fault lab h
  obtain ⟨status, host, hrun, ⟨-, he⟩ | ⟨-, rfl⟩⟩ := runIp_answers (k := k) c allowed lab
  · rw [hrun]
    exact answer_preserves status allowed _ (hP.exec { lab with faults := lab.faults.tail } c host hc he hfault)
  · rw [hrun]
    exact answer_preserves status allowed _ hfault

theorem callIp_preserves (hP : Stable k A P) {c : IpCommand} (hc : ∀ n ∈ c.namespaces, A n) :
    Preserves P (callIp k c) :=
  preserves_bind (runIp_preserves hP hc [0]) fun _ => preserves_pure ()

theorem namespaceExists_preserves (hP : Stable k A P) (ns : String) : Preserves P (namespaceExists ns) := by
  refine preserves_bind (fun lab h => ?_) fun names => preserves_pure _
  have hfault := hP.fault lab h
  unfold listNamespaces
  rcases hfaults : lab.faults with _ | ⟨_ | fault, faults⟩
  · rw [hfaults] at hfault
    exact hfault
  · rw [hfaults] at hfault
    exact hfault
  · rw [hfaults] at hfault
    exact hfault

theorem linkExists_preserves (hP : Stable k A P) {ns : String} (hn : A ns) (interface : String) :
    Preserves P (linkExists k ns interface) :=
  preserves_bind (runIp_preserves hP (by simpa [IpCommand.namespaces] using hn) _) fun _ => preserves_pure _

theorem ensureNamespace_preserves (hP : Stable k A P) {ns : String} (hn : A ns) :
    Preserves P (ensureNamespace k ns) := by
  refine preserves_bind (namespaceExists_preserves hP ns) fun found => ?_
  split
  · exact preserves_pure ()
  · exact callIp_preserves hP (by simpa [IpCommand.namespaces] using hn)

theorem deleteNamespace_preserves (hP : Stable k A P) {ns : String} (hn : A ns) :
    Preserves P (deleteNamespace k ns) := by
  refine preserves_bind (namespaceExists_preserves hP ns) fun found => ?_
  split
  · exact callIp_preserves hP (by simpa [IpCommand.namespaces] using hn)
  · exact preserves_pure ()

theorem deleteLink_preserves (hP : Stable k A P) {ns : String} (hn : A ns) (interface : String) :
    Preserves P (deleteLink k ns interface) := by
  refine preserves_bind (linkExists_preserves hP hn interface) fun found => ?_
  split
  · exact callIp_preserves hP (by simpa [IpCommand.namespaces] using hn)
  · exact preserves_pure ()

theorem ensureBridge_preserves (hP : Stable k A P) {ns : String} (hn : A ns) (bridge : String) :
    Preserves P (ensureBridge k ns bridge) := by
  refine preserves_bind (linkExists_preserves hP hn bridge) fun found => ?_
  split
  · exact preserves_pure ()
  · exact callIp_preserves hP (by simpa [IpCommand.namespaces] using hn)

theorem bothLinksExist_preserves (hP : Stable k A P) {nsA nsB : String} (hA : A nsA) (hB : A nsB)
    (interfaceA interfaceB : String) : Preserves P (bothLinksExist k nsA interfaceA nsB interfaceB) := by
  refine preserves_bind (linkExists_preserves hP hA interfaceA) fun foundA => ?_
  split
  · exact linkExists_preserves hP hB interfaceB
  · exact preserves_pure false

theorem addressIfGiven_preserves (hP : Stable k A P) {ns : String} (hn : A ns) (interface : String)
    (ip : Option String) : Preserves P (addressIfGiven k ns interface ip) := by
  cases ip with
  | none => exact preserves_pure ()
  | some ip => exact callIp_preserves hP (by simpa [IpCommand.namespaces] using hn)

theorem ensureLink_preserves (hP : Stable k A P) {link : LinkModel} (hA : A (splitRef link.a.1).1)
    (hB : A (splitRef link.b.1).1) : Preserves P (ensureLink k link) := by
  refine preserves_bind (preserves_bind (bothLinksExist_preserves hP hA hB _ _) fun found => ?_) fun _ =>
    preserves_bind (addressIfGiven_preserves hP hA _ _) fun _ => addressIfGiven_preserves hP hB _ _
  split
  · exact preserves_pure ()
  · exact callIp_preserves hP (by simpa [IpCommand.namespaces] using ⟨hA, hB⟩)

theorem waitUntil_preserves {predicate : Op Bool} (h : Preserves P predicate) (description : String) :
    ∀ polls, Preserves P (waitUntil predicate description polls)
  | 0 => preserves_throw _
  | polls + 1 => by
    refine preserves_bind h fun done => ?_
    split
    · exact preserves_pure ()
    · exact waitUntil_preserves h description polls

theorem liftExc_preserves {α : Type} (x : Except Exc α) : Preserves P (liftExc x) := by
  cases x with
  | ok a => exact preserves_pure a
  | error e => exact preserves_throw _

theorem reconcileTaps_preserves (hP : Stable k A P) (hv : Within A v) (polls : ℕ) :
    Preserves P (reconcileTaps k v polls) := by
  have hcall : ∀ c : IpCommand, c.namespaces = [v.requestedDpdkConfig.netns.1] → Preserves P (callIp k c) := by
    intro c hc
    refine callIp_preserves hP fun n hn => ?_
    rw [hc, List.mem_singleton] at hn
    rw [hn]
    exact hv.dpdkd
  refine preserves_bind (liftExc_preserves _) fun ingress => preserves_bind (liftExc_preserves _) fun egress => ?_
  refine preserves_bind (waitUntil_preserves (linkExists_preserves hP hv.dpdkd _) _ _) fun _ => ?_
  refine preserves_bind (waitUntil_preserves (linkExists_preserves hP hv.dpdkd _) _ _) fun _ => ?_
  refine preserves_bind (hcall _ rfl) fun _ => preserves_bind (hcall _ rfl) fun _ =>
    preserves_bind (hcall _ rfl) fun _ => preserves_bind (hcall _ rfl) fun _ =>
    preserves_each fun interface _ => hcall _ rfl

theorem stopDatapath_preserves (hP : Stable k A P) : Preserves P stopDatapath := by
  intro lab h
  unfold stopDatapath
  cases lab.stopRaises with
  | some e => exact h
  | none => exact hP.stop lab h

/-! ### Building and taking down -/

variable {m : Manager}

theorem startDatapath_preserves (hP : Stable m.kernel A P) (htaps : StableTaps A P) (hv : Within A v) :
    Preserves P (m.startDatapath v) := by
  refine preserves_bind (stopDatapath_preserves hP) fun _ => ?_
  refine preserves_bind (liftExc_preserves _) fun ingress => preserves_bind (liftExc_preserves _) fun egress => ?_
  intro lab h
  simp only [Eff.bind_apply, Eff.get]
  split_ifs with hready
  · exact htaps lab ⟨v.requestedDpdkConfig.netns.1, ingress, egress⟩ hv.dpdkd hready.2.1 h
  · exact h

/-- **Building a topology keeps what its calls keep.** -/
theorem build_preserves (hP : Stable m.kernel A P) (htaps : StableTaps A P) (hv : Within A v) :
    Preserves P (m.build v) := by
  refine preserves_bind (preserves_each fun ns hns => ensureNamespace_preserves hP (hv.namespaces ns hns)) fun _ => ?_
  refine preserves_bind (preserves_each fun link hlink => ?_) fun _ => ?_
  · exact ensureLink_preserves hP (hv.links link hlink).1 (hv.links link hlink).2
  refine preserves_bind (preserves_bind (ensureBridge_preserves hP hv.dpdkd _) fun _ =>
    ensureBridge_preserves hP hv.dpdkd _) fun _ => ?_
  refine preserves_bind (startDatapath_preserves hP htaps hv) fun running => ?_
  refine preserves_bind (reconcileTaps_preserves hP hv m.polls) fun _ => ?_
  refine preserves_bind (preserves_each fun link hlink => ?_) fun _ => ?_
  · refine preserves_bind (callIp_preserves hP ?_) fun _ => callIp_preserves hP ?_
    · simpa [IpCommand.namespaces] using (hv.links link hlink).1
    · simpa [IpCommand.namespaces] using (hv.links link hlink).2
  refine preserves_bind (preserves_each fun route hroute => ?_) fun _ => preserves_pure running
  exact callIp_preserves hP (by simpa [IpCommand.namespaces] using hv.routes route hroute)

theorem destroyLinksAndBridges_preserves (hP : Stable k A P) (hv : Within A v) :
    Preserves P (destroyLinksAndBridges k v) := by
  refine preserves_bind (deleteLink_preserves hP hv.dpdkd _) fun _ =>
    preserves_bind (deleteLink_preserves hP hv.dpdkd _) fun _ => ?_
  refine preserves_each fun link hlink => deleteLink_preserves hP (hv.links link ?_).1 _
  exact List.mem_reverse.mp hlink

theorem destroyNamespaces_preserves (hP : Stable k A P) (hv : Within A v) :
    Preserves P (destroyNamespaces k v) :=
  preserves_each fun ns hns => deleteNamespace_preserves hP (hv.namespaces ns (List.mem_reverse.mp hns))

theorem collect_preserves {op : Op Unit} (h : Preserves P op) (errors : List TopologyError) :
    Preserves P (Manager.collect op errors) := by
  refine preserves_tryCatch (preserves_bind h fun _ => preserves_pure errors) fun e => ?_
  cases e with
  | pktlab code message inner => exact preserves_pure _
  | other detail => exact preserves_throw _

/-- **Taking a topology down keeps what its calls keep.** -/
theorem destroyLocked_preserves (hP : Stable m.kernel A P) (hv : Within A v) : Preserves P (m.destroyLocked v) := by
  refine preserves_bind (collect_preserves (stopDatapath_preserves hP) []) fun errors => ?_
  refine preserves_bind (collect_preserves (destroyLinksAndBridges_preserves hP hv) errors) fun errors => ?_
  refine preserves_bind (collect_preserves (destroyNamespaces_preserves hP hv) errors) fun errors => ?_
  split
  · exact preserves_pure ()
  · exact preserves_throw _

end Preserved

/-! ### What a teardown that returns has deleted -/

/-- A name without white space. -/
def Plain (name : String) : Prop := ∀ c ∈ name.toList, isSpace c = false

instance (name : String) : Decidable (Plain name) := inferInstanceAs (Decidable (∀ c ∈ name.toList, _))

theorem nameTokens_of_plain {name : String} (h : Plain name) (hne : name ≠ "") : nameTokens name = [name] := by
  have hlist : name.toList ≠ [] := by simpa using hne
  simp [nameTokens, splitLines_of_noSpace h, firstWord_of_noSpace h hlist]

theorem mem_listed_of_plain {h : Host} {name : String} (hmem : name ∈ h.namespaces) (hp : Plain name)
    (hne : name ≠ "") : name ∈ h.listed := by
  refine Finset.mem_biUnion.mpr ⟨name, hmem, ?_⟩
  rw [nameTokens_of_plain hp hne]
  exact List.mem_toFinset.mpr List.mem_cons_self

section Clears

variable {k : Kernel} {lab lab' : Lab} {ns : String}

theorem callIp_eq_ok {c : IpCommand} (h : callIp k c lab = (.ok (), lab')) :
    ∃ host, exec k lab.host c = .ok host ∧ lab' = { lab with host := host, faults := lab.faults.tail } := by
  unfold callIp at h
  rw [Eff.bind_apply] at h
  obtain ⟨status, host, hrun, ⟨rfl, he⟩ | ⟨hne, rfl⟩⟩ := runIp_answers (k := k) c [0] lab
  · rw [hrun] at h
    cases h
    exact ⟨host, he, rfl⟩
  · rw [hrun] at h
    simp only [answer, List.mem_singleton, hne, if_false] at h
    cases h

theorem namespaceExists_eq_ok {found : Bool} (h : namespaceExists ns lab = (.ok found, lab')) :
    found = decide (ns ∈ lab.host.listed) ∧ lab' = { lab with faults := lab.faults.tail } := by
  unfold namespaceExists at h
  rw [Eff.bind_apply] at h
  rcases hfaults : lab.faults with _ | ⟨_ | fault, faults⟩
  · simp only [listNamespaces, hfaults, List.tail_nil] at h
    cases h
    exact ⟨rfl, rfl⟩
  · simp only [listNamespaces, hfaults, List.tail_cons] at h
    cases h
    exact ⟨rfl, rfl⟩
  · simp only [listNamespaces, hfaults] at h
    cases h

/-- A deletion that returns trusted the listing, or deleted. -/
theorem deleteNamespace_eq_ok (h : deleteNamespace k ns lab = (.ok (), lab')) :
    ns ∉ lab.host.listed ∧ lab'.host = lab.host ∨ lab'.host = lab.host.deleteNamespace ns := by
  unfold deleteNamespace at h
  obtain ⟨found, lab₁, hfound, hrest⟩ := Eff.bind_eq_ok.mp h
  obtain ⟨rfl, rfl⟩ := namespaceExists_eq_ok hfound
  by_cases hlisted : ns ∈ lab.host.listed
  · simp only [hlisted, decide_true, if_true] at hrest
    obtain ⟨host, he, rfl⟩ := callIp_eq_ok hrest
    simp only [exec] at he
    split at he
    · cases he
    · cases he
      exact .inr rfl
  · simp only [hlisted, decide_false, Bool.false_eq_true, if_false] at hrest
    cases hrest
    exact .inl ⟨hlisted, rfl⟩

/-- A namespace that is found again is gone after its deletion. -/
theorem deleteNamespace_gone (hp : Plain ns) (hne : ns ≠ "") (h : deleteNamespace k ns lab = (.ok (), lab')) :
    ns ∉ lab'.host.namespaces := by
  rcases deleteNamespace_eq_ok h with ⟨hlisted, hhost⟩ | hhost
  · rw [hhost]
    exact fun hmem => hlisted (mem_listed_of_plain hmem hp hne)
  · rw [hhost]
    exact Finset.notMem_erase ns _

/-- Deleting a namespace brings no other one back. -/
theorem deleteNamespace_stays_gone {other : String} (hgone : other ∉ lab.host.namespaces)
    (h : deleteNamespace k ns lab = (.ok (), lab')) : other ∉ lab'.host.namespaces := by
  rcases deleteNamespace_eq_ok h with ⟨-, hhost⟩ | hhost
  · rw [hhost]
    exact hgone
  · rw [hhost]
    exact fun hother => hgone (Finset.mem_of_mem_erase hother)

variable {A : String → Prop} {P Q : Lab → Prop} {v : ValidatedTopologyConfig}

theorem destroyNamespaces_returns_clear (hP : Stable k A P) (hv : Within A v) :
    Triple P (destroyNamespaces k v)
      (fun _ lab => P lab ∧ ∀ ns ∈ v.topology.namespaces, Plain ns.name.1 → ns.name.1 ∉ lab.host.namespaces)
      fun _ _ => True := by
  have hkeep : ∀ ns ∈ v.topology.namespaces.reverse, Preserves P (deleteNamespace k ns.name.1) := fun ns hns =>
    deleteNamespace_preserves hP (hv.namespaces ns (List.mem_reverse.mp hns))
  refine triple_mono (triple_each_done (D := fun ns lab => Plain ns.name.1 → ns.name.1 ∉ lab.host.namespaces)
    (fun ns hns lab h => ?_) (fun ns hns other lab h => ?_)) (fun _ h => h)
    (fun _ lab h => ⟨h.1, fun ns hns => h.2 ns (List.mem_reverse.mpr hns)⟩) fun _ _ h => h
  · rcases hrun : deleteNamespace k ns.name.1 lab with ⟨e | u, lab'⟩
    · trivial
    · exact ⟨(hkeep ns hns).ok h hrun, fun hp => deleteNamespace_gone hp ns.name.2 hrun⟩
  · rcases hrun : deleteNamespace k ns.name.1 lab with ⟨e | u, lab'⟩
    · trivial
    · exact ⟨(hkeep ns hns).ok h.1 hrun, fun hp => deleteNamespace_stays_gone (h.2 hp) hrun⟩

theorem collect_eq_nil {op : Op Unit} {errors : List TopologyError} :
    Manager.collect op errors lab = (.ok [], lab') ↔ errors = [] ∧ op lab = (.ok (), lab') := by
  unfold Manager.collect Eff.tryCatch
  rw [Eff.bind_apply]
  rcases op lab with ⟨⟨code, message, inner⟩ | detail | u, lab₁⟩
  · refine iff_of_false (fun h => ?_) fun h => by cases h.2
    have hnil : errors ++ [TopologyError.pktlab code message inner] = [] :=
      Except.ok.inj (congrArg Prod.fst h : (Except.ok (ε := TopologyError) _) = .ok [])
    simp at hnil
  · refine iff_of_false (fun h => ?_) fun h => by cases h.2
    cases h
  · simp [Eff.pure_apply]

/-- What is collected is empty only when the step returned. -/
theorem collect_spec {op : Op Unit} (h : Triple P op (fun _ => Q) fun _ _ => True) (errors : List TopologyError) :
    Triple (fun lab => errors = [] → P lab) (Manager.collect op errors) (fun errors' lab => errors' = [] → Q lab)
      fun _ _ => True := by
  intro lab hP
  rcases hrun : Manager.collect op errors lab with ⟨e | errors', lab'⟩
  · trivial
  · rintro rfl
    obtain ⟨hnil, hop⟩ := collect_eq_nil.mp hrun
    have hpost := h lab (hP hnil)
    rw [hop] at hpost
    exact hpost

/-- **A teardown that returns has deleted the namespaces.** Whatever fails in
it, what stopping the datapath establishes is kept. -/
theorem destroyLocked_returns_clear {m : Manager} (hstop : Triple P stopDatapath (fun _ => Q) fun _ _ => True)
    (hQ : Stable m.kernel A Q) (hv : Within A v) :
    Triple P (m.destroyLocked v)
      (fun _ lab => Q lab ∧ ∀ ns ∈ v.topology.namespaces, Plain ns.name.1 → ns.name.1 ∉ lab.host.namespaces)
      fun _ _ => True := by
  refine triple_bind (triple_mono (collect_spec hstop []) (fun _ h _ => h) (fun _ _ h => h)
    fun _ _ h => h) fun errors => ?_
  refine triple_bind (collect_spec (destroyLinksAndBridges_preserves hQ hv).returns errors) fun errors => ?_
  refine triple_bind (collect_spec (destroyNamespaces_returns_clear hQ hv) errors) fun errors => ?_
  intro lab h
  by_cases hnil : errors = []
  · rw [if_pos hnil]
    exact h hnil
  · rw [if_neg hnil]
    trivial

end Clears

end Ctrld
end Pktlab
