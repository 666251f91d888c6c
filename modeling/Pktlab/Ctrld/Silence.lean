/-
# When the loops over links, ports, routes and capture points are silent

Each loop of `validate_topology_config` is described by when it reports
nothing and by what its dictionaries hold afterwards, for any dictionaries it
starts from. The indices in them are only there for the messages: what counts
is which endpoints and which interfaces have been met (`LinkTables.Linked`).

Key definitions: `LinkTables.Sees`, `LinkTables.Linked`, `LinkModel.Ends`,
`LinkModel.WellFormed`.
Key theorems: `linkIssues_silent`, `linkLoop_silent`, `portLoop_silent`,
`routeIssues_silent`.
-/
import Pktlab.Ctrld.Acceptable

namespace Pktlab
namespace Ctrld

open Python

/-! ### Links -/

namespace LinkTables

/-- An endpoint that the loop has met. -/
def Sees (t : LinkTables) (ref : String × String) : Prop := ∃ p ∈ t.seenInterfaces, p.1 = ref

/-- The tables with one more endpoint. -/
def add (t : LinkTables) (ref : String × String) (index : ℕ) : LinkTables :=
  { t with
    seenInterfaces := (ref, index) :: t.seenInterfaces
    interfaceNames := insert ref t.interfaceNames }

theorem sees_add {t : LinkTables} {ref ref' : String × String} {index : ℕ} :
    (t.add ref index).Sees ref' ↔ ref = ref' ∨ t.Sees ref' := by
  unfold Sees add
  rw [List.exists_mem_cons_iff]

/-- The tables `t'` are `t` with `links`. -/
structure Linked (py : Interpreter) (links : List LinkModel) (t t' : LinkTables) : Prop where
  sees : ∀ ns interface, t'.Sees (ns, interface) ↔
    t.Sees (ns, interface) ∨ ∃ link ∈ links, link.HasEndpoint ns interface
  names : ∀ ns interface, (ns, interface) ∈ t'.interfaceNames ↔
    (ns, interface) ∈ t.interfaceNames ∨ ∃ link ∈ links, link.HasEndpoint ns interface
  networks : ∀ ns network, (ns, network) ∈ t'.connectedNetworks ↔
    (ns, network) ∈ t.connectedNetworks ∨ ∃ link ∈ links, link.Connects py ns network

theorem Linked.nil {py : Interpreter} {t : LinkTables} : Linked py [] t t := by
  constructor
  all_goals simp

theorem Linked.cons {py : Interpreter} {link : LinkModel} {links : List LinkModel} {t t₁ t₂ : LinkTables}
    (h : Linked py [link] t t₁) (h' : Linked py links t₁ t₂) : Linked py (link :: links) t t₂ := by
  constructor
  · intro ns interface
    rw [h'.sees, h.sees, List.exists_mem_cons_iff]
    simp [or_assoc]
  · intro ns interface
    rw [h'.names, h.names, List.exists_mem_cons_iff]
    simp [or_assoc]
  · intro ns network
    rw [h'.networks, h.networks, List.exists_mem_cons_iff]
    simp [or_assoc]

end LinkTables

/-- An endpoint that no other link has is not reported, and joins the tables. -/
theorem linkEndpoint_silent (N : Finset String) {index : ℕ} (path ns interface : String) {t : LinkTables}
    (hold : ∀ p ∈ t.seenInterfaces, p.1 = (ns, interface) → p.2 ≠ index) :
    ((linkEndpoint N index path (some (ns, interface)) t).1 = [] ↔ ns ∈ N ∧ ¬ t.Sees (ns, interface)) ∧
      (ns ∈ N → ¬ t.Sees (ns, interface) →
        (linkEndpoint N index path (some (ns, interface)) t).2 = t.add (ns, interface) index) := by
  unfold linkEndpoint
  by_cases hmem : ns ∈ N
  · rcases setdefault_cases t.seenInterfaces (ns, interface) index with ⟨w, hw, hset⟩ | ⟨hnew, hset⟩
    · have hsees : t.Sees (ns, interface) := ⟨_, hw, rfl⟩
      have hne : w ≠ index := hold _ hw rfl
      simp [hmem, hset, hne, hsees]
    · have hsees : ¬ t.Sees (ns, interface) := fun ⟨p, hp, heq⟩ => hnew p hp heq
      simp [hmem, hset, hsees, LinkTables.add]
  · simp [hmem]

theorem LinkModel.connects_iff {py : Interpreter} {link : LinkModel} {nsA interfaceA nsB interfaceB ipA ipB : String}
    {a b : IPv4Interface} (hA : IsEndpoint link.a.1 nsA interfaceA) (hB : IsEndpoint link.b.1 nsB interfaceB)
    (hipA : link.ipA = some ipA) (hipB : link.ipB = some ipB) (ha : py.ipInterface ipA = .v4 a)
    (hb : py.ipInterface ipB = .v4 b) (ns : String) (network : IPv4Network) :
    link.Connects py ns network ↔ ns = nsA ∧ network = a.network ∨ ns = nsB ∧ network = b.network := by
  have hnsA : (∃ interface, IsEndpoint link.a.1 ns interface) ↔ ns = nsA := by
    refine ⟨fun ⟨interface, h⟩ => (h.unique hA).1, ?_⟩
    rintro rfl
    exact ⟨_, hA⟩
  have hnsB : (∃ interface, IsEndpoint link.b.1 ns interface) ↔ ns = nsB := by
    refine ⟨fun ⟨interface, h⟩ => (h.unique hB).1, ?_⟩
    rintro rfl
    exact ⟨_, hB⟩
  simp [LinkModel.Connects, LinkModel.sides, hnsA, hnsB, hipA, hipB, ha, hb, eq_comm (b := network)]

theorem linkAddressing_silent (py : Interpreter) {N : Finset String} (index : ℕ) {link : LinkModel}
    {nsA interfaceA nsB interfaceB : String} (t : LinkTables) (hA : IsEndpoint link.a.1 nsA interfaceA)
    (hB : IsEndpoint link.b.1 nsB interfaceB) (hmemA : nsA ∈ N) (hmemB : nsB ∈ N) :
    ((linkAddressing py N index link (some (nsA, interfaceA)) (some (nsB, interfaceB)) t).1 = [] ↔
        link.Addressed py) ∧
      (link.Addressed py → ∃ networks,
        (linkAddressing py N index link (some (nsA, interfaceA)) (some (nsB, interfaceB)) t).2 =
          { t with connectedNetworks := t.connectedNetworks ++ networks } ∧
        ∀ ns network, (ns, network) ∈ networks ↔ link.Connects py ns network) := by
  unfold linkAddressing
  cases hipA : link.ipA with
  | none =>
    cases hipB : link.ipB with
    | none =>
      refine ⟨by simp [LinkModel.Addressed, hipA, hipB], fun _ => ⟨[], by simp, fun ns network => ?_⟩⟩
      simp [LinkModel.Connects, LinkModel.sides, hipA, hipB]
    | some ipB => simp [LinkModel.Addressed, hipA, hipB]
  | some ipA =>
    cases hipB : link.ipB with
    | none => simp [LinkModel.Addressed, hipA, hipB]
    | some ipB =>
      have haddressed : link.Addressed py ↔ ∃ a b, py.ipInterface ipA = .v4 a ∧ py.ipInterface ipB = .v4 b ∧
          a.network = b.network := by
        simp [LinkModel.Addressed, hipA, hipB]
      rw [haddressed]
      simp only [parseInterfaceAddress]
      rcases parseIp_cases py.ipInterface "invalid_ipv4_interface" "IPv4 interface with prefix length"
        "IPv4 addresses" ipA s!"links[{index}].ip_a" with ⟨a, ha, hreadA⟩ | ⟨hnotA, issueA, hreadA⟩
      · rcases parseIp_cases py.ipInterface "invalid_ipv4_interface" "IPv4 interface with prefix length"
          "IPv4 addresses" ipB s!"links[{index}].ip_b" with ⟨b, hb, hreadB⟩ | ⟨hnotB, issueB, hreadB⟩
        · rw [hreadA, hreadB]
          by_cases hnetwork : a.network = b.network
          · refine ⟨iff_of_true (by simp [hnetwork]) ⟨a, b, ha, hb, hnetwork⟩,
              fun _ => ⟨[(nsA, a.network), (nsB, b.network)], ?_, fun ns network => ?_⟩⟩
            · simp [hnetwork, connectNetwork, hmemA, hmemB]
            · rw [LinkModel.connects_iff hA hB hipA hipB ha hb]
              simp
          · simp [hnetwork, ha, hb]
        · have hnot : ¬ ∃ a b, py.ipInterface ipA = .v4 a ∧ py.ipInterface ipB = .v4 b ∧ a.network = b.network :=
            fun ⟨_, b, _, hb, _⟩ => hnotB ⟨b, hb⟩
          rw [hreadA, hreadB]
          exact ⟨iff_of_false (by simp) hnot, fun h => absurd h hnot⟩
      · have hnot : ¬ ∃ a b, py.ipInterface ipA = .v4 a ∧ py.ipInterface ipB = .v4 b ∧ a.network = b.network :=
          fun ⟨a, _, ha, _⟩ => hnotA ⟨a, ha⟩
        rw [hreadA]
        exact ⟨iff_of_false (by simp) hnot, fun h => absurd h hnot⟩

/-- What the two texts of a link name. -/
structure LinkModel.Ends (link : LinkModel) (refA refB : String × String) : Prop where
  a : IsEndpoint link.a.1 refA.1 refA.2
  b : IsEndpoint link.b.1 refB.1 refB.2

/-- What a link has to be for the collector to be silent about it. -/
def LinkModel.WellFormed (link : LinkModel) (py : Interpreter) (N : Finset String) : Prop :=
  (∀ side ∈ link.sides, ∃ ns interface, IsEndpoint side.1 ns interface ∧ ns ∈ N) ∧ link.Addressed py

section Ends

variable {link : LinkModel} {refA refB : String × String}

theorem IsEndpoint.eq_iff {value ns interface : String} {ref : String × String} (h : IsEndpoint value ref.1 ref.2) :
    IsEndpoint value ns interface ↔ ref = (ns, interface) := by
  constructor
  · intro h'
    obtain ⟨hns, hinterface⟩ := h.unique h'
    exact Prod.ext hns hinterface
  · intro heq
    rw [heq] at h
    exact h

theorem LinkModel.Ends.hasEndpoint (h : link.Ends refA refB) {ns interface : String} :
    link.HasEndpoint ns interface ↔ refA = (ns, interface) ∨ refB = (ns, interface) := by
  simp [LinkModel.HasEndpoint, LinkModel.sides, h.a.eq_iff, h.b.eq_iff]

theorem LinkModel.Ends.fresh (h : link.Ends refA refB) {t : LinkTables} :
    (∀ ns interface, link.HasEndpoint ns interface → ¬ t.Sees (ns, interface)) ↔ ¬ t.Sees refA ∧ ¬ t.Sees refB := by
  constructor
  · exact fun hnew => ⟨hnew _ _ (h.hasEndpoint.mpr (Or.inl rfl)), hnew _ _ (h.hasEndpoint.mpr (Or.inr rfl))⟩
  · rintro ⟨hA, hB⟩ ns interface hendpoint
    rcases h.hasEndpoint.mp hendpoint with heq | heq
    · rw [← heq]
      exact hA
    · rw [← heq]
      exact hB

theorem LinkModel.Ends.ne_iff (h : link.Ends refA refB) : link.a.1 ≠ link.b.1 ↔ refA ≠ refB := by
  refine not_congr ⟨fun heq => ?_, fun heq => ?_⟩
  · exact h.a.eq_iff.mp (heq ▸ h.b)
  · rw [heq] at h
    exact h.a.text_unique h.b

theorem LinkModel.Ends.wellFormed (h : link.Ends refA refB) {py : Interpreter} {N : Finset String} :
    link.WellFormed py N ↔ refA.1 ∈ N ∧ refB.1 ∈ N ∧ link.Addressed py := by
  have hside : ∀ {value : String} {ref : String × String}, IsEndpoint value ref.1 ref.2 →
      ((∃ ns interface, IsEndpoint value ns interface ∧ ns ∈ N) ↔ ref.1 ∈ N) := by
    intro value ref href
    constructor
    · rintro ⟨ns, interface, h', hmem⟩
      rw [(href.unique h').1]
      exact hmem
    · exact fun hmem => ⟨ref.1, ref.2, href, hmem⟩
  simp only [LinkModel.WellFormed, LinkModel.sides, List.forall_mem_cons, List.not_mem_nil, false_implies,
    implies_true, and_true, hside h.a, hside h.b, and_assoc]

theorem LinkModel.Ends.linked (h : link.Ends refA refB) {py : Interpreter} {t : LinkTables} {index : ℕ}
    {networks : List (String × IPv4Network)}
    (hnetworks : ∀ ns network, (ns, network) ∈ networks ↔ link.Connects py ns network) :
    LinkTables.Linked py [link] t
      { (t.add refA index).add refB index with connectedNetworks := t.connectedNetworks ++ networks } := by
  constructor
  · intro ns interface
    show (∃ p ∈ (refB, index) :: (refA, index) :: t.seenInterfaces, p.1 = (ns, interface)) ↔ _
    rw [List.exists_mem_cons_iff, List.exists_mem_cons_iff, or_left_comm, ← or_assoc, or_comm]
    simp only [List.mem_singleton, exists_eq_left, h.hasEndpoint, LinkTables.Sees]
  · intro ns interface
    show (ns, interface) ∈ insert refB (insert refA t.interfaceNames) ↔ _
    rw [Finset.mem_insert, Finset.mem_insert, eq_comm, eq_comm (b := refA), or_left_comm, ← or_assoc, or_comm]
    simp only [List.mem_singleton, exists_eq_left, h.hasEndpoint]
  · intro ns network
    rw [List.mem_append, hnetworks]
    simp only [List.mem_singleton, exists_eq_left]

end Ends

theorem linkIssues_texts {py : Interpreter} {N : Finset String} {index : ℕ} {link : LinkModel} {t : LinkTables}
    (h : (linkIssues py N index link t).1 = []) :
    (parseInterfaceRef link.a.1 s!"links[{index}].a").1 = [] ∧
      (parseInterfaceRef link.b.1 s!"links[{index}].b").1 = [] := by
  simp only [linkIssues, List.append_eq_nil_iff] at h
  obtain ⟨⟨⟨⟨⟨ha, hb⟩, -⟩, -⟩, -⟩, -⟩ := h
  exact ⟨ha, hb⟩

/-- A link whose texts are read goes through the endpoints and the addresses. -/
theorem linkIssues_of_read (py : Interpreter) (N : Finset String) {index : ℕ} {link : LinkModel} (t : LinkTables)
    {refA refB : String × String} (hA : parseInterfaceRef link.a.1 s!"links[{index}].a" = ([], some refA))
    (hB : parseInterfaceRef link.b.1 s!"links[{index}].b" = ([], some refB)) :
    ∃ tA tB, tA = linkEndpoint N index s!"links[{index}].a" (some refA) t ∧
      tB = linkEndpoint N index s!"links[{index}].b" (some refB) tA.2 ∧
      (linkIssues py N index link t).2 = (linkAddressing py N index link (some refA) (some refB) tB.2).2 ∧
      ((linkIssues py N index link t).1 = [] ↔ refA ≠ refB ∧ tA.1 = [] ∧ tB.1 = [] ∧
        (linkAddressing py N index link (some refA) (some refB) tB.2).1 = []) := by
  refine ⟨_, _, rfl, rfl, ?_, ?_⟩
  · unfold linkIssues
    rw [hA, hB]
  · unfold linkIssues
    rw [hA, hB]
    simp only [List.append_eq_nil_iff, true_and, Option.isSome_some, Option.some.injEq, and_assoc,
      ite_eq_right_iff, List.cons_ne_nil, imp_false, ne_eq]

/-- What is reported of a link whose texts are read, and the tables after it. -/
theorem linkIssues_read (py : Interpreter) (N : Finset String) {index : ℕ} {link : LinkModel} {t : LinkTables}
    {refA refB : String × String} (hold : ∀ p ∈ t.seenInterfaces, p.2 < index)
    (hreadA : parseInterfaceRef link.a.1 s!"links[{index}].a" = ([], some refA))
    (hreadB : parseInterfaceRef link.b.1 s!"links[{index}].b" = ([], some refB))
    (hends : link.Ends refA refB) :
    ((linkIssues py N index link t).1 = [] ↔
        refA ≠ refB ∧ (refA.1 ∈ N ∧ ¬ t.Sees refA) ∧ (refB.1 ∈ N ∧ ¬ t.Sees refB) ∧ link.Addressed py) ∧
      ((linkIssues py N index link t).1 = [] → ∃ networks,
        (linkIssues py N index link t).2 =
          { (t.add refA index).add refB index with connectedNetworks := t.connectedNetworks ++ networks } ∧
        ∀ ns network, (ns, network) ∈ networks ↔ link.Connects py ns network) := by
  obtain ⟨tA, tB, htA, htB, htables, hsilent⟩ := linkIssues_of_read py N t hreadA hreadB
  have hnever : ∀ p ∈ t.seenInterfaces, p.2 ≠ index := fun p hp => Nat.ne_of_lt (hold p hp)
  obtain ⟨hnilA, haddA⟩ := linkEndpoint_silent N s!"links[{index}].a" refA.1 refA.2 fun p hp _ => hnever p hp
  rw [← htA] at hnilA haddA
  rw [htables, hsilent]
  by_cases hokA : refA ≠ refB ∧ refA.1 ∈ N ∧ ¬ t.Sees refA
  · obtain ⟨hself, hmemA, hnewA⟩ := hokA
    rw [haddA hmemA hnewA] at htB
    have hnewB : (t.add refA index).Sees refB ↔ t.Sees refB := by
      rw [LinkTables.sees_add]
      exact or_iff_right hself
    have holdB : ∀ p ∈ (t.add refA index).seenInterfaces, p.1 = (refB.1, refB.2) → p.2 ≠ index := by
      intro p hp heq
      rcases List.mem_cons.mp hp with rfl | hp
      · exact absurd heq hself
      · exact hnever p hp
    obtain ⟨hnilB, haddB⟩ := linkEndpoint_silent N s!"links[{index}].b" refB.1 refB.2 holdB
    rw [← htB, hnewB] at hnilB haddB
    rw [hnilA, hnilB]
    by_cases hokB : refB.1 ∈ N ∧ ¬ t.Sees refB
    · obtain ⟨haddressing, hnetworks⟩ := linkAddressing_silent py index ((t.add refA index).add refB index)
        hends.a hends.b hmemA hokB.1
      rw [haddB hokB.1 hokB.2, haddressing]
      exact ⟨Iff.rfl, fun h => hnetworks h.2.2.2⟩
    · exact ⟨iff_of_false (fun h => hokB h.2.2.1) fun h => hokB h.2.2.1, fun h => absurd h.2.2.1 hokB⟩
  · rw [hnilA]
    exact ⟨iff_of_false (fun h => hokA ⟨h.1, h.2.1⟩) fun h => hokA ⟨h.1, h.2.1⟩,
      fun h => absurd ⟨h.1, h.2.1⟩ hokA⟩

/-- **One link.** Nothing is reported when its endpoints and addresses are in
order and its endpoints are new. -/
theorem linkIssues_silent (py : Interpreter) (N : Finset String) {index : ℕ} (link : LinkModel) {t : LinkTables}
    (hold : ∀ p ∈ t.seenInterfaces, p.2 < index) :
    ((linkIssues py N index link t).1 = [] ↔ link.WellFormed py N ∧ link.a.1 ≠ link.b.1 ∧
      ∀ ns interface, link.HasEndpoint ns interface → ¬ t.Sees (ns, interface)) ∧
    ((linkIssues py N index link t).1 = [] →
      (∀ p ∈ (linkIssues py N index link t).2.seenInterfaces, p.2 < index + 1) ∧
        LinkTables.Linked py [link] t (linkIssues py N index link t).2) := by
  rcases parseInterfaceRef_cases link.a.1 s!"links[{index}].a" with ⟨nsA, interfaceA, hA, hreadA⟩ | ⟨hnot, hissue⟩
  · rcases parseInterfaceRef_cases link.b.1 s!"links[{index}].b" with
      ⟨nsB, interfaceB, hB, hreadB⟩ | ⟨hnot, hissue⟩
    · have hends : link.Ends (nsA, interfaceA) (nsB, interfaceB) := ⟨hA, hB⟩
      obtain ⟨hsilent, htables⟩ := linkIssues_read py N hold hreadA hreadB hends
      refine ⟨?_, fun h => ?_⟩
      · rw [hsilent, hends.wellFormed, hends.ne_iff, hends.fresh]
        constructor
        · rintro ⟨hne, ⟨hmemA, hnewA⟩, ⟨hmemB, hnewB⟩, haddressed⟩
          exact ⟨⟨hmemA, hmemB, haddressed⟩, hne, hnewA, hnewB⟩
        · rintro ⟨⟨hmemA, hmemB, haddressed⟩, hne, hnewA, hnewB⟩
          exact ⟨hne, ⟨hmemA, hnewA⟩, ⟨hmemB, hnewB⟩, haddressed⟩
      · obtain ⟨networks, heq, hnetworks⟩ := htables h
        rw [heq]
        refine ⟨fun p hp => ?_, hends.linked hnetworks⟩
        rcases List.mem_cons.mp hp with rfl | hp
        · exact Nat.lt_succ_self index
        · rcases List.mem_cons.mp hp with rfl | hp
          · exact Nat.lt_succ_self index
          · exact Nat.lt_succ_of_lt (hold p hp)
    · have hissue' : (linkIssues py N index link t).1 ≠ [] := fun h => hissue (linkIssues_texts h).2
      refine ⟨iff_of_false hissue' fun h => ?_, fun h => absurd h hissue'⟩
      obtain ⟨ns, interface, h', -⟩ := h.1.1 (link.b.1, link.ipB) (by simp [LinkModel.sides])
      exact hnot ns interface h'
  · have hissue' : (linkIssues py N index link t).1 ≠ [] := fun h => hissue (linkIssues_texts h).1
    refine ⟨iff_of_false hissue' fun h => ?_, fun h => absurd h hissue'⟩
    obtain ⟨ns, interface, h', -⟩ := h.1.1 (link.a.1, link.ipA) (by simp [LinkModel.sides])
    exact hnot ns interface h'

/-- The texts of a link in front of other texts. -/
theorem LinkModel.nodup_sides {link : LinkModel} {values : List String} :
    (link.sides.map Prod.fst ++ values).Nodup ↔
      link.a.1 ≠ link.b.1 ∧ values.Nodup ∧ ∀ side ∈ link.sides, side.1 ∉ values := by
  have hall : (∀ side ∈ link.sides, side.1 ∉ values) ↔ link.a.1 ∉ values ∧ link.b.1 ∉ values := by
    simp [LinkModel.sides]
  have htexts : link.sides.map Prod.fst ++ values = link.a.1 :: link.b.1 :: values := rfl
  rw [htexts, hall, List.nodup_cons, List.nodup_cons, List.mem_cons, not_or]
  constructor
  · rintro ⟨⟨hne, ha⟩, hb, hnodup⟩
    exact ⟨hne, hnodup, ha, hb⟩
  · rintro ⟨hne, hnodup, ha, hb⟩
    exact ⟨⟨hne, ha⟩, hb, hnodup⟩

/-- The endpoints of a link are new when its texts are. -/
theorem LinkModel.WellFormed.disjoint {link : LinkModel} {links : List LinkModel} {py : Interpreter}
    {N : Finset String} (h : link.WellFormed py N) :
    (∀ link' ∈ links, ∀ ns interface, link'.HasEndpoint ns interface → ¬ link.HasEndpoint ns interface) ↔
      ∀ side ∈ link.sides, side.1 ∉ links.flatMap fun link => link.sides.map Prod.fst := by
  constructor
  · intro hnew side hside hmem
    obtain ⟨link', hlink', hmem⟩ := List.mem_flatMap.mp hmem
    obtain ⟨side', hside', heq⟩ := List.mem_map.mp hmem
    obtain ⟨ns, interface, hendpoint, -⟩ := h.1 side hside
    exact hnew link' hlink' ns interface ⟨side', hside', heq ▸ hendpoint⟩ ⟨side, hside, hendpoint⟩
  · rintro hnew link' hlink' ns interface ⟨side', hside', h'⟩ ⟨side, hside, hendpoint⟩
    refine hnew side hside (List.mem_flatMap.mpr ⟨link', hlink', ?_⟩)
    rw [hendpoint.text_unique h']
    exact List.mem_map_of_mem hside'

/-- **The loop over the links** is silent when every link is in order and the
texts are distinct, from each other and from what has been met. -/
theorem linkLoop_silent (py : Interpreter) (N : Finset String) :
    ∀ (links : List LinkModel) (index : ℕ) (t : LinkTables), (∀ p ∈ t.seenInterfaces, p.2 < index) →
      ((linkLoop py N index links t).1 = [] ↔ (∀ link ∈ links, link.WellFormed py N) ∧
        (links.flatMap fun link => link.sides.map Prod.fst).Nodup ∧
        ∀ link ∈ links, ∀ ns interface, link.HasEndpoint ns interface → ¬ t.Sees (ns, interface)) ∧
      ((linkLoop py N index links t).1 = [] → LinkTables.Linked py links t (linkLoop py N index links t).2)
  | [], _, _, _ => by
    refine ⟨iff_of_true rfl (by simp), fun _ => .nil⟩
  | link :: links, index, t, hold => by
    obtain ⟨hsilent, htables⟩ := linkIssues_silent py N link hold
    rw [linkLoop, List.flatMap_cons, LinkModel.nodup_sides]
    simp only [List.append_eq_nil_iff, List.forall_mem_cons]
    by_cases hlink : (linkIssues py N index link t).1 = []
    · obtain ⟨hold', hlinked⟩ := htables hlink
      obtain ⟨hrest, hlinks⟩ := linkLoop_silent py N links _ _ hold'
      refine ⟨?_, fun h => hlinked.cons (hlinks h.2)⟩
      obtain ⟨hwell, hne, hnew⟩ := hsilent.mp hlink
      have hboth : (∀ link' ∈ links, ∀ ns interface, link'.HasEndpoint ns interface →
            ¬ (linkIssues py N index link t).2.Sees (ns, interface)) ↔
          (∀ side ∈ link.sides, side.1 ∉ links.flatMap fun link => link.sides.map Prod.fst) ∧
            ∀ link' ∈ links, ∀ ns interface, link'.HasEndpoint ns interface → ¬ t.Sees (ns, interface) := by
        rw [← hwell.disjoint]
        simp only [hlinked.sees, List.mem_singleton, exists_eq_left, not_or]
        exact ⟨fun h => ⟨fun l hl ns i hi => (h l hl ns i hi).2, fun l hl ns i hi => (h l hl ns i hi).1⟩,
          fun h l hl ns i hi => ⟨h.2 l hl ns i hi, h.1 l hl ns i hi⟩⟩
      rw [hrest, hboth]
      constructor
      · rintro ⟨-, hlinks, hnodup, hdistinct, hfresh⟩
        exact ⟨⟨hwell, hlinks⟩, ⟨hne, hnodup, hdistinct⟩, hnew, hfresh⟩
      · rintro ⟨⟨-, hlinks⟩, ⟨-, hnodup, hdistinct⟩, -, hfresh⟩
        exact ⟨hlink, hlinks, hnodup, hdistinct, hfresh⟩
    · have hnot : ¬ (link.WellFormed py N ∧ link.a.1 ≠ link.b.1 ∧
          ∀ ns interface, link.HasEndpoint ns interface → ¬ t.Sees (ns, interface)) := fun h => hlink (hsilent.mpr h)
      exact ⟨iff_of_false (fun h => hlink h.1) fun h => hnot ⟨h.1.1, h.2.1.1, h.2.2.1⟩, fun h => absurd h.1 hlink⟩

/-! ### Ports, routes and capture points -/

/-- A port that is in order takes its name. -/
theorem portIssues_silent (N : Finset String) (dpdkNamespace : String) (index : ℕ) (port : DpdkPortModel)
    (interfaces : Finset (String × String)) :
    ((portIssues N dpdkNamespace index port interfaces).1 = [] ↔ port.netns.1 ∈ N ∧
        port.netns.1 = dpdkNamespace ∧ (port.netns.1, port.name.1) ∉ interfaces) ∧
      ((portIssues N dpdkNamespace index port interfaces).1 = [] →
        (portIssues N dpdkNamespace index port interfaces).2 = insert (port.netns.1, port.name.1) interfaces) := by
  unfold portIssues
  by_cases hmem : port.netns.1 ∈ N
  · by_cases hused : (port.netns.1, port.name.1) ∈ interfaces
    · simp [hmem, hused]
    · simp [hmem, hused]
  · simp [hmem]

/-- **The loop over the ports.** -/
theorem portLoop_silent (N : Finset String) (dpdkNamespace : String) :
    ∀ (ports : List DpdkPortModel) (index : ℕ) (interfaces : Finset (String × String)),
      ((portLoop N dpdkNamespace index ports interfaces).1 = [] ↔
          (∀ port ∈ ports, port.netns.1 ∈ N ∧ port.netns.1 = dpdkNamespace ∧
            (port.netns.1, port.name.1) ∉ interfaces) ∧
          (ports.map fun port => (port.netns.1, port.name.1)).Nodup) ∧
        ((portLoop N dpdkNamespace index ports interfaces).1 = [] → ∀ ref,
          ref ∈ (portLoop N dpdkNamespace index ports interfaces).2 ↔
            ref ∈ interfaces ∨ ∃ port ∈ ports, (port.netns.1, port.name.1) = ref)
  | [], _, _ => by simp [portLoop]
  | port :: ports, index, interfaces => by
    obtain ⟨hsilent, hinsert⟩ := portIssues_silent N dpdkNamespace index port interfaces
    rw [portLoop, List.map_cons, List.nodup_cons]
    simp only [List.append_eq_nil_iff, List.forall_mem_cons]
    by_cases hport : (portIssues N dpdkNamespace index port interfaces).1 = []
    · rw [hinsert hport]
      obtain ⟨hrest, hmem⟩ :=
        portLoop_silent N dpdkNamespace ports (index + 1) (insert (port.netns.1, port.name.1) interfaces)
      refine ⟨?_, fun h ref => ?_⟩
      · rw [hrest]
        simp only [Finset.mem_insert, not_or, List.mem_map, not_exists, not_and]
        constructor
        · rintro ⟨-, hports, hnodup⟩
          refine ⟨⟨hsilent.mp hport, fun p hp => ?_⟩, fun p hp => (hports p hp).2.2.1, hnodup⟩
          obtain ⟨hmem, hns, -, hnew⟩ := hports p hp
          exact ⟨hmem, hns, hnew⟩
        · rintro ⟨⟨-, hports⟩, hdistinct, hnodup⟩
          refine ⟨hport, fun p hp => ?_, hnodup⟩
          obtain ⟨hmem, hns, hnew⟩ := hports p hp
          exact ⟨hmem, hns, hdistinct p hp, hnew⟩
      · rw [hmem h.2, Finset.mem_insert, List.exists_mem_cons_iff, eq_comm, or_left_comm, or_assoc]
    · exact ⟨iff_of_false (fun h => hport h.1) fun h => hport (hsilent.mpr h.1.1), fun h => absurd h.1 hport⟩

theorem routeIssues_silent (py : Interpreter) (N : Finset String) (networks : List (String × IPv4Network))
    (index : ℕ) (route : RouteModel) :
    routeIssues py N networks index route = [] ↔ route.netns.1 ∈ N ∧ IsV4 py.ipNetwork route.dst.1 ∧
      ∃ via, py.ipAddress route.via.1 = .v4 via ∧
        ∃ network, (route.netns.1, network) ∈ networks ∧ network.contains via = true := by
  unfold routeIssues
  by_cases hmem : route.netns.1 ∈ N
  · rw [if_neg (not_not.mpr hmem)]
    simp only [parseNetwork, parseAddress, List.append_eq_nil_iff]
    rcases parseIp_cases py.ipAddress "invalid_ipv4_address" "IPv4 address" "IPv4 addresses" route.via.1
      s!"routes[{index}].via" with ⟨via, hvia, hread⟩ | ⟨hnot, issue, hread⟩
    · rw [hread, parseIp_eq_nil]
      simp only [hvia, IpResult.v4.injEq, exists_eq_left', true_and, hmem, and_assoc]
      refine and_congr_right fun _ => ?_
      have hany : (((networks.filter fun p => p.1 = route.netns.1).map Prod.snd).any fun network =>
          network.contains via) = true ↔
          ∃ network, (route.netns.1, network) ∈ networks ∧ network.contains via = true := by
        simp
      rw [← hany]
      by_cases hnone : (networks.filter fun p => p.1 = route.netns.1).map Prod.snd = []
      · simp [hnone]
      · simp [hnone]
    · rw [hread]
      exact iff_of_false (fun h => List.cons_ne_nil _ _ h.1.2) fun h => hnot ⟨h.2.2.choose, h.2.2.choose_spec.1⟩
  · rw [if_pos hmem]
    exact iff_of_false (List.cons_ne_nil _ _) fun h => hmem h.1

theorem capturePointIssues_silent (N : Finset String) (interfaces : Finset (String × String)) (index : ℕ)
    (point : CapturePointModel) :
    capturePointIssues N interfaces index point = [] ↔
      point.netns.1 ∈ N ∧ (point.netns.1, point.interface.1) ∈ interfaces := by
  unfold capturePointIssues
  by_cases hmem : point.netns.1 ∈ N
  · by_cases hknown : (point.netns.1, point.interface.1) ∈ interfaces
    · simp [hmem, hknown]
    · simp [hmem, hknown]
  · simp [hmem]

/-- A collector that goes over a list is silent when it is about each element. -/
theorem zipIdx_flatMap_eq_nil {α : Type} {items : List α} {f : ℕ → α → List ValidationIssue} {p : α → Prop}
    (h : ∀ index item, f index item = [] ↔ p item) :
    (items.zipIdx.flatMap fun q => f q.2 q.1) = [] ↔ ∀ item ∈ items, p item := by
  rw [List.flatMap_eq_nil_iff]
  constructor
  · intro hall item hitem
    obtain ⟨index, hindex, hget⟩ := List.mem_iff_getElem.mp hitem
    have hpair : (item, index) ∈ items.zipIdx := by
      rw [List.mem_zipIdx_iff_getElem?]
      simp only
      rw [List.getElem?_eq_getElem hindex, hget]
    exact (h index item).mp (hall _ hpair)
  · intro hall q hq
    exact (h q.2 q.1).mpr (hall q.1 (List.fst_mem_of_mem_zipIdx hq))

end Ctrld
end Pktlab
