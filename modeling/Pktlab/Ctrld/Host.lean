/-
# The network of the host and the `ip` command

The state that the topology manager changes: the named network namespaces,
the interfaces with their kind, bridge, addresses and up flag, and the static
routes. `exec` is one call of `ip` in the forms in which `NetnsRunner`
(`pktlab_ctrld/util/netns.py`) issues it: the state afterwards, or the exit
status when the command fails and changes nothing. What else a kernel can
refuse, and the device it picks for a gateway, is the `Kernel` the command
runs on.

A command that names only namespaces of a set `N` leaves everything outside
`N` alone (`exec_framed`), as long as no interface inside is the veth peer of
one outside.

Key definitions: `Host`, `IpCommand`, `Kernel`, `exec`, `Host.Closed`,
`Framed`.
Key theorems: `exec_framed`, `Framed.restored`.
-/
import Mathlib.Data.Finset.Basic
import Mathlib.Logic.Function.Basic
import Mathlib.Data.Nat.Notation

namespace Pktlab
namespace Ctrld

/-- A network namespace: the one without a name, or a named one. -/
abbrev NsId := Option String

/-- An interface is found by its namespace and name. -/
abbrev LinkKey := NsId × String

inductive LinkKind
  | loopback
  | physical
  | veth (peer : LinkKey)
  | bridge
  | tap
  deriving DecidableEq

/-- `ip link del` refuses the loopback device and physical devices. -/
def LinkKind.deletable : LinkKind → Bool
  | loopback | physical => false
  | veth _ | bridge | tap => true

structure Link where
  kind : LinkKind
  master : Option String
  addresses : Finset String
  up : Bool
  deriving DecidableEq

/-- An interface as it is created. -/
def Link.fresh (kind : LinkKind) : Link := ⟨kind, none, ∅, false⟩

structure Route where
  via : String
  dev : String
  deriving DecidableEq

@[ext] structure Host where
  namespaces : Finset String
  links : LinkKey → Option Link
  /-- by namespace and destination -/
  routes : NsId × String → Option Route

namespace Host

variable (h : Host)

/-- There is such a namespace; the one without a name always exists. -/
def hasNs (ns : NsId) : Prop := ∀ n ∈ ns, n ∈ h.namespaces

instance (ns : NsId) : Decidable (h.hasNs ns) :=
  match ns with
  | none => isTrue (by simp [hasNs])
  | some n => decidable_of_iff (n ∈ h.namespaces) (by simp [hasNs])

/-- Nothing is in a namespace that does not exist, and a veth has a peer that
points back. -/
structure Closed : Prop where
  links : ∀ key, ¬ h.hasNs key.1 → h.links key = none
  routes : ∀ key, ¬ h.hasNs key.1 → h.routes key = none
  peers : ∀ key link peer, h.links key = some link → link.kind = .veth peer →
    ∃ other, h.links peer = some other ∧ other.kind = .veth key

/-- Put an interface in place. -/
def setLink (key : LinkKey) (link : Link) : Host :=
  { h with links := Function.update h.links key (some link) }

/-- Take the interfaces out that `gone` selects, with the routes through them;
the ports of a bridge that goes lose their master. -/
def dropLinks (gone : LinkKey → Bool) : Host where
  namespaces := h.namespaces
  links key := if gone key then none else (h.links key).map fun link =>
    { link with master := link.master.filter fun bridge => !gone (key.1, bridge) }
  routes key := (h.routes key).filter fun route => !gone (key.1, route.dev)

/-- `key` is an interface that is selected, or the veth peer of one. -/
def selects (sel : LinkKey → Bool) (key : LinkKey) : Bool :=
  sel key || match h.links key with
    | some ⟨.veth peer, _, _, _⟩ => sel peer
    | _ => false

/-- Delete an interface; a veth goes with its peer. -/
def deleteLink (key : LinkKey) : Host := h.dropLinks (h.selects fun k => k = key)

/-- Delete a namespace: everything in it goes, with the veth peers outside. -/
def deleteNamespace (ns : String) : Host :=
  let h' := h.dropLinks (h.selects fun k => k.1 = some ns)
  { h' with
    namespaces := h.namespaces.erase ns
    routes := fun key => if key.1 = some ns then none else h'.routes key }

/-- A new namespace has a loopback device. -/
def addNamespace (ns : String) : Host :=
  { h with namespaces := insert ns h.namespaces }.setLink (some ns, "lo") (Link.fresh .loopback)

@[simp] theorem setLink_namespaces (key : LinkKey) (link : Link) :
    (h.setLink key link).namespaces = h.namespaces := rfl

@[simp] theorem setLink_routes (key : LinkKey) (link : Link) : (h.setLink key link).routes = h.routes := rfl

theorem setLink_links_self (key : LinkKey) (link : Link) : (h.setLink key link).links key = some link := by
  simp [setLink]

theorem setLink_links_of_ne {key key' : LinkKey} (hne : key' ≠ key) (link : Link) :
    (h.setLink key link).links key' = h.links key' := by
  simp [setLink, hne]

end Host

/-- The calls of `ip` that can change the host, and `ip link show`. -/
inductive IpCommand
  | netnsAdd (ns : String)
  | netnsDel (ns : String)
  | linkShow (ns interface : String)
  | vethAdd (nsA interfaceA nsB interfaceB : String)
  | bridgeAdd (ns bridge : String)
  | linkDel (ns interface : String)
  | addressReplace (ns interface cidr : String)
  | routeReplace (ns dst via : String)
  | setMaster (ns interface bridge : String)
  | setUp (ns interface : String)
  deriving DecidableEq, Repr

/-- What a kernel decides beyond the conditions of `exec`. -/
structure Kernel where
  /-- whether it carries out a command that creates or configures something -/
  admits : Host → IpCommand → Bool
  /-- the device through which it reaches a gateway -/
  routeDev : Host → String → String → Option String
  /-- the network it reads in the destination of a route, as it prints it -/
  destination : String → String

namespace IpCommand

/-- The namespaces a command names. -/
def namespaces : IpCommand → List String
  | netnsAdd ns | netnsDel ns | linkShow ns _ | bridgeAdd ns _ | linkDel ns _ => [ns]
  | addressReplace ns _ _ | routeReplace ns _ _ | setMaster ns _ _ | setUp ns _ => [ns]
  | vethAdd nsA _ nsB _ => [nsA, nsB]

end IpCommand

/-- `ip -n NS` for a namespace that does not exist. -/
def missingNamespace : ℕ := 255

/-- `ip netns add` and `ip netns del` that fail, and `ip link show` without
such a device. -/
def notFound : ℕ := 1

/-- An answer of the kernel with an error. -/
def refused : ℕ := 2

/-- Change an interface that has to be there. -/
def editLink (h : Host) (ns interface : String) (edit : Link → Option Link) : Except ℕ Host :=
  if ns ∉ h.namespaces then .error missingNamespace
  else
    match (h.links (some ns, interface)).bind edit with
    | none => .error refused
    | some link => .ok (h.setLink (some ns, interface) link)

/-- One call of `ip`. -/
def exec (k : Kernel) (h : Host) (c : IpCommand) : Except ℕ Host :=
  match c with
  | .netnsAdd ns =>
    if ns ∈ h.namespaces ∨ ¬ k.admits h c then .error notFound else .ok (h.addNamespace ns)
  | .netnsDel ns => if ns ∉ h.namespaces then .error notFound else .ok (h.deleteNamespace ns)
  | .linkShow ns interface =>
    if ns ∉ h.namespaces then .error missingNamespace
    else if h.links (some ns, interface) = none then .error notFound
    else .ok h
  | .vethAdd nsA interfaceA nsB interfaceB =>
    if nsA ∉ h.namespaces ∨ nsB ∉ h.namespaces ∨ ¬ k.admits h c ∨ (nsA, interfaceA) = (nsB, interfaceB) ∨
        h.links (some nsA, interfaceA) ≠ none ∨ h.links (some nsB, interfaceB) ≠ none then
      .error refused
    else
      .ok ((h.setLink (some nsA, interfaceA) (Link.fresh (.veth (some nsB, interfaceB)))).setLink
        (some nsB, interfaceB) (Link.fresh (.veth (some nsA, interfaceA))))
  | .bridgeAdd ns bridge =>
    if ns ∉ h.namespaces then .error missingNamespace
    else if h.links (some ns, bridge) ≠ none ∨ ¬ k.admits h c then .error refused
    else .ok (h.setLink (some ns, bridge) (Link.fresh .bridge))
  | .linkDel ns interface =>
    if ns ∉ h.namespaces then .error missingNamespace
    else
      match h.links (some ns, interface) with
      | none => .error notFound
      | some link => if link.kind.deletable then .ok (h.deleteLink (some ns, interface)) else .error refused
  | .addressReplace ns interface cidr =>
    editLink h ns interface fun link =>
      if k.admits h c then some { link with addresses := insert cidr link.addresses } else none
  | .routeReplace ns dst via =>
    if ns ∉ h.namespaces then .error missingNamespace
    else
      match k.routeDev h ns via with
      | none => .error refused
      | some dev =>
        .ok { h with routes := Function.update h.routes (some ns, k.destination dst) (some ⟨via, dev⟩) }
  | .setMaster ns interface bridge =>
    editLink h ns interface fun link =>
      if k.admits h c ∧ link.kind ≠ .bridge ∧ (h.links (some ns, bridge)).map Link.kind = some .bridge then
        some { link with master := some bridge }
      else none
  | .setUp ns interface =>
    editLink h ns interface fun link => if k.admits h c then some { link with up := true } else none

/-! ### The frame of a set of namespaces -/

/-- A namespace that is none of `N`. -/
def Outside (N : Finset String) (ns : NsId) : Prop := ∀ n ∈ ns, n ∉ N

/-- `h` differs from `h0` at most in the namespaces `N`, and no veth crosses
their border. -/
structure Framed (N : Finset String) (h0 h : Host) : Prop where
  namespaces : ∀ n ∉ N, n ∈ h.namespaces ↔ n ∈ h0.namespaces
  links : ∀ key, Outside N key.1 → h.links key = h0.links key
  routes : ∀ key, Outside N key.1 → h.routes key = h0.routes key
  noLinks : ∀ n ∈ N, n ∉ h.namespaces → ∀ x, h.links (some n, x) = none
  noRoutes : ∀ n ∈ N, n ∉ h.namespaces → ∀ x, h.routes (some n, x) = none
  inner : ∀ n ∈ N, ∀ x link peer, h.links (some n, x) = some link → link.kind = .veth peer →
    ¬ Outside N peer.1
  outer : ∀ key link peer, Outside N key.1 → h0.links key = some link → link.kind = .veth peer →
    Outside N peer.1

section Frame

variable {N : Finset String} {h0 h : Host}

theorem outside_some {n : String} : Outside N (some n) ↔ n ∉ N := by simp [Outside]

theorem not_outside {ns : NsId} : ¬ Outside N ns ↔ ∃ n ∈ N, ns = some n := by
  cases ns with
  | none => simp [Outside]
  | some n => simp [Outside]

/-- A host without the namespaces `N` is its own frame. -/
theorem Host.Closed.framed (hc : h0.Closed) (hfresh : ∀ n ∈ N, n ∉ h0.namespaces) : Framed N h0 h0 where
  namespaces _ _ := Iff.rfl
  links _ _ := rfl
  routes _ _ := rfl
  noLinks n hn _ x := hc.links (some n, x) (by simpa [Host.hasNs] using hfresh n hn)
  noRoutes n hn _ x := hc.routes (some n, x) (by simpa [Host.hasNs] using hfresh n hn)
  inner n hn x link peer hl _ := by
    rw [hc.links (some n, x) (by simpa [Host.hasNs] using hfresh n hn)] at hl
    cases hl
  outer key link peer _ hl hk := by
    obtain ⟨other, hother, -⟩ := hc.peers key link peer hl hk
    intro n hn hmem
    have hnone := hc.links peer fun hns => hfresh n hmem (hns n hn)
    rw [hnone] at hother
    cases hother

/-- **Without its namespaces the frame is all there is.** -/
theorem Framed.restored (hf : Framed N h0 h) (hc : h0.Closed) (hfresh : ∀ n ∈ N, n ∉ h0.namespaces)
    (hgone : ∀ n ∈ N, n ∉ h.namespaces) : h = h0 := by
  have hns : ∀ n ∈ N, ¬ h0.hasNs (some n) := fun n hn => by simpa [Host.hasNs] using hfresh n hn
  refine Host.ext (Finset.ext fun n => ?_) (funext fun key => ?_) (funext fun key => ?_)
  · by_cases hn : n ∈ N
    · exact iff_of_false (hgone n hn) (hfresh n hn)
    · exact hf.namespaces n hn
  · by_cases hout : Outside N key.1
    · exact hf.links key hout
    · obtain ⟨n, hn, hkey⟩ := not_outside.mp hout
      obtain ⟨ns, x⟩ := key
      simp only at hkey
      rw [hkey, hf.noLinks n hn (hgone n hn) x, hc.links _ (hns n hn)]
  · by_cases hout : Outside N key.1
    · exact hf.routes key hout
    · obtain ⟨n, hn, hkey⟩ := not_outside.mp hout
      obtain ⟨ns, x⟩ := key
      simp only at hkey
      rw [hkey, hf.noRoutes n hn (hgone n hn) x, hc.routes _ (hns n hn)]

/-- An interface in an existing namespace of the frame can be put in place; a
veth needs its peer inside. -/
theorem Framed.setLink (hf : Framed N h0 h) {n x : String} {link : Link} (hn : n ∈ N) (hns : n ∈ h.namespaces)
    (hpeer : ∀ peer, link.kind = .veth peer → ¬ Outside N peer.1) : Framed N h0 (h.setLink (some n, x) link) where
  namespaces := hf.namespaces
  links key hout := by
    have hne : key ≠ (some n, x) := by
      rintro rfl
      exact outside_some.mp hout hn
    rw [h.setLink_links_of_ne hne]
    exact hf.links key hout
  routes := hf.routes
  noLinks m hm hmns y := by
    have hne : (some m, y) ≠ ((some n, x) : LinkKey) := by
      intro heq
      have hmn : m = n := Option.some.inj (Prod.mk.inj heq).1
      exact hmns (hmn ▸ hns)
    rw [h.setLink_links_of_ne hne]
    exact hf.noLinks m hm hmns y
  noRoutes := hf.noRoutes
  inner m hm y l peer hl hk := by
    by_cases heq : (some m, y) = ((some n, x) : LinkKey)
    · rw [heq, h.setLink_links_self, Option.some.injEq] at hl
      exact hpeer peer (hl ▸ hk)
    · rw [h.setLink_links_of_ne heq] at hl
      exact hf.inner m hm y l peer hl hk
  outer := hf.outer

/-- Outside the frame nothing is selected by a choice inside it. -/
theorem Framed.selects_outside (hf : Framed N h0 h) {sel : LinkKey → Bool}
    (hsel : ∀ key, Outside N key.1 → sel key = false) (key : LinkKey) (hout : Outside N key.1) :
    h.selects sel key = false := by
  unfold Host.selects
  rw [hsel key hout, Bool.false_or]
  split
  · rename_i peer _ _ _ hl
    rw [hf.links key hout] at hl
    exact hsel peer (hf.outer key _ peer hout hl rfl)
  · rfl

theorem Host.dropLinks_links_some {gone : LinkKey → Bool} {key : LinkKey} {link : Link}
    (hl : (h.dropLinks gone).links key = some link) : ∃ old, h.links key = some old ∧ link.kind = old.kind := by
  simp only [Host.dropLinks] at hl
  split at hl
  · cases hl
  · obtain ⟨old, hold, heq⟩ := Option.map_eq_some_iff.mp hl
    exact ⟨old, hold, by rw [← heq]⟩

theorem filter_const_true {α : Type} (o : Option α) : (o.filter fun _ => true) = o := by
  cases o with
  | none => rfl
  | some a => rfl

/-- Taking interfaces out inside the frame keeps it. -/
theorem Framed.dropLinks (hf : Framed N h0 h) {gone : LinkKey → Bool}
    (hgone : ∀ key, Outside N key.1 → gone key = false) : Framed N h0 (h.dropLinks gone) where
  namespaces := hf.namespaces
  links key hout := by
    have hmaster : ∀ b, gone (key.1, b) = false := fun b => hgone (key.1, b) hout
    simp only [Host.dropLinks, hgone key hout, hmaster, Bool.false_eq_true, if_false, Bool.not_false,
      filter_const_true, Option.map_id']
    exact hf.links key hout
  routes key hout := by
    have hdev : ∀ d, gone (key.1, d) = false := fun d => hgone (key.1, d) hout
    simp only [Host.dropLinks, hdev, Bool.not_false, filter_const_true]
    exact hf.routes key hout
  noLinks n hn hns x := by
    simp [Host.dropLinks, hf.noLinks n hn hns x]
  noRoutes n hn hns x := by
    simp [Host.dropLinks, hf.noRoutes n hn hns x]
  inner n hn x link peer hl hk := by
    obtain ⟨old, hold, hkind⟩ := Host.dropLinks_links_some hl
    exact hf.inner n hn x old peer hold (hkind ▸ hk)
  outer := hf.outer

theorem Framed.deleteLink (hf : Framed N h0 h) {n x : String} (hn : n ∈ N) :
    Framed N h0 (h.deleteLink (some n, x)) := by
  refine hf.dropLinks (hf.selects_outside fun key hout => ?_)
  rw [decide_eq_false_iff_not]
  rintro rfl
  exact outside_some.mp hout hn

theorem Framed.deleteNamespace (hf : Framed N h0 h) {n : String} (hn : n ∈ N) :
    Framed N h0 (h.deleteNamespace n) := by
  have hsel : ∀ key : LinkKey, Outside N key.1 → decide (key.1 = some n) = false := by
    intro key hout
    rw [decide_eq_false_iff_not]
    intro heq
    rw [heq] at hout
    exact outside_some.mp hout hn
  have hdrop := hf.dropLinks (hf.selects_outside hsel)
  refine ⟨fun m hm => ?_, hdrop.links, fun key hout => ?_, fun m hm hmns x => ?_, fun m hm hmns x => ?_,
    hdrop.inner, hf.outer⟩
  · rw [← hf.namespaces m hm]
    simp only [Host.deleteNamespace, Finset.mem_erase, and_iff_right_iff_imp]
    rintro - rfl
    exact hm hn
  · have hne := hsel key hout
    rw [decide_eq_false_iff_not] at hne
    simp only [Host.deleteNamespace, hne, if_false]
    exact hdrop.routes key hout
  · by_cases heq : m = n
    · subst heq
      simp [Host.deleteNamespace, Host.dropLinks, Host.selects]
    · refine hdrop.noLinks m hm (fun hmem => hmns ?_) x
      exact Finset.mem_erase.mpr ⟨heq, hmem⟩
  · by_cases heq : m = n
    · subst heq
      simp [Host.deleteNamespace]
    · have hne : ((some m, x) : LinkKey).1 ≠ some n := fun h => heq (Option.some.inj h)
      simp only [Host.deleteNamespace, hne, if_false]
      exact hdrop.noRoutes m hm (fun hmem => hmns (Finset.mem_erase.mpr ⟨heq, hmem⟩)) x

theorem Framed.addNamespace (hf : Framed N h0 h) {n : String} (hn : n ∈ N) :
    Framed N h0 (h.addNamespace n) := by
  have hins : Framed N h0 { h with namespaces := insert n h.namespaces } := by
    refine ⟨fun m hm => ?_, hf.links, hf.routes, fun m hm hmns => ?_, fun m hm hmns => ?_, hf.inner, hf.outer⟩
    · have hne : m ≠ n := fun heq => hm (heq ▸ hn)
      rw [← hf.namespaces m hm]
      simp [hne]
    · exact hf.noLinks m hm fun h => hmns (Finset.mem_insert_of_mem h)
    · exact hf.noRoutes m hm fun h => hmns (Finset.mem_insert_of_mem h)
  exact hins.setLink hn (Finset.mem_insert_self n _) fun peer hk => by cases hk

theorem editLink_eq_ok {ns interface : String} {edit : Link → Option Link} {h' : Host}
    (he : editLink h ns interface edit = .ok h') :
    ns ∈ h.namespaces ∧ ∃ old link, h.links (some ns, interface) = some old ∧ edit old = some link ∧
      h' = h.setLink (some ns, interface) link := by
  unfold editLink at he
  split at he
  · cases he
  · rename_i hns
    split at he
    · cases he
    · rename_i link hl
      obtain ⟨old, hold, hedit⟩ := Option.bind_eq_some_iff.mp hl
      cases he
      exact ⟨not_not.mp hns, old, link, hold, hedit, rfl⟩

/-- Changing an interface without changing its kind keeps the frame. -/
theorem Framed.editLink (hf : Framed N h0 h) {ns interface : String} {edit : Link → Option Link} {h' : Host}
    (hn : ns ∈ N) (hkind : ∀ old link, edit old = some link → link.kind = old.kind)
    (he : editLink h ns interface edit = .ok h') : Framed N h0 h' := by
  obtain ⟨hns, old, link, hold, hedit, rfl⟩ := editLink_eq_ok he
  refine hf.setLink hn hns fun peer hk => ?_
  rw [hkind old link hedit] at hk
  exact hf.inner ns hn interface old peer hold hk

/-- **A command stays inside the namespaces it names.** -/
theorem exec_framed {k : Kernel} {c : IpCommand} {h' : Host} (hf : Framed N h0 h)
    (hlocal : ∀ n ∈ c.namespaces, n ∈ N) (he : exec k h c = .ok h') : Framed N h0 h' := by
  cases c with
  | netnsAdd ns =>
    simp only [exec] at he
    split at he
    · cases he
    · cases he
      exact hf.addNamespace (hlocal ns (by simp [IpCommand.namespaces]))
  | netnsDel ns =>
    simp only [exec] at he
    split at he
    · cases he
    · cases he
      exact hf.deleteNamespace (hlocal ns (by simp [IpCommand.namespaces]))
  | linkShow ns interface =>
    simp only [exec] at he
    split at he
    · cases he
    · split at he
      · cases he
      · cases he
        exact hf
  | vethAdd nsA interfaceA nsB interfaceB =>
    have hA : nsA ∈ N := hlocal nsA (by simp [IpCommand.namespaces])
    have hB : nsB ∈ N := hlocal nsB (by simp [IpCommand.namespaces])
    simp only [exec] at he
    split at he
    · cases he
    · rename_i hcond
      simp only [not_or, not_not] at hcond
      cases he
      refine (hf.setLink hA hcond.1 fun peer hk => ?_).setLink hB hcond.2.1 fun peer hk => ?_
      · cases hk
        exact fun hout => outside_some.mp hout hB
      · cases hk
        exact fun hout => outside_some.mp hout hA
  | bridgeAdd ns bridge =>
    simp only [exec] at he
    split at he
    · cases he
    · rename_i hns
      split at he
      · cases he
      · cases he
        exact hf.setLink (hlocal ns (by simp [IpCommand.namespaces])) (not_not.mp hns) fun peer hk => by cases hk
  | linkDel ns interface =>
    simp only [exec] at he
    split at he
    · cases he
    · split at he
      · cases he
      · split at he
        · cases he
          exact hf.deleteLink (hlocal ns (by simp [IpCommand.namespaces]))
        · cases he
  | addressReplace ns interface cidr =>
    refine hf.editLink (hlocal ns (by simp [IpCommand.namespaces])) (fun old link hedit => ?_) he
    split at hedit
    · cases hedit
      rfl
    · cases hedit
  | routeReplace ns dst via =>
    have hn : ns ∈ N := hlocal ns (by simp [IpCommand.namespaces])
    simp only [exec] at he
    split at he
    · cases he
    · rename_i hns
      split at he
      · cases he
      · cases he
        refine ⟨hf.namespaces, hf.links, fun key hout => ?_, hf.noLinks, fun m hm hmns x => ?_, hf.inner,
          hf.outer⟩
        · have hne : key ≠ (some ns, k.destination dst) := by
            rintro rfl
            exact outside_some.mp hout hn
          simp only [Function.update_of_ne hne]
          exact hf.routes key hout
        · have hne : (some m, x) ≠ ((some ns, k.destination dst) : NsId × String) := by
            intro heq
            have hmn : m = ns := Option.some.inj (Prod.mk.inj heq).1
            exact hns (hmn ▸ hmns)
          simp only [Function.update_of_ne hne]
          exact hf.noRoutes m hm hmns x
  | setMaster ns interface bridge =>
    refine hf.editLink (hlocal ns (by simp [IpCommand.namespaces])) (fun old link hedit => ?_) he
    split at hedit
    · cases hedit
      rfl
    · cases hedit
  | setUp ns interface =>
    refine hf.editLink (hlocal ns (by simp [IpCommand.namespaces])) (fun old link hedit => ?_) he
    split at hedit
    · cases hedit
      rfl
    · cases hedit

end Frame

/-! ### What a command can answer -/

section Answers

variable {k : Kernel} {h h' : Host} {c : IpCommand} {status : ℕ}

theorem editLink_status {ns interface : String} {edit : Link → Option Link}
    (he : editLink h ns interface edit = .error status) : status ≠ 0 := by
  unfold editLink at he
  split at he
  · cases he
    decide
  · split at he
    · cases he
      decide
    · cases he

/-- A command that fails has another exit status than 0. -/
theorem exec_status (he : exec k h c = .error status) : status ≠ 0 := by
  cases c with
  | netnsAdd ns =>
    simp only [exec] at he
    split at he
    · cases he
      decide
    · cases he
  | netnsDel ns =>
    simp only [exec] at he
    split at he
    · cases he
      decide
    · cases he
  | linkShow ns interface =>
    simp only [exec] at he
    split at he
    · cases he
      decide
    · split at he
      · cases he
        decide
      · cases he
  | vethAdd nsA interfaceA nsB interfaceB =>
    simp only [exec] at he
    split at he
    · cases he
      decide
    · cases he
  | bridgeAdd ns bridge =>
    simp only [exec] at he
    split at he
    · cases he
      decide
    · split at he
      · cases he
        decide
      · cases he
  | linkDel ns interface =>
    simp only [exec] at he
    split at he
    · cases he
      decide
    · split at he
      · cases he
        decide
      · split at he
        · cases he
        · cases he
          decide
  | routeReplace ns dst via =>
    simp only [exec] at he
    split at he
    · cases he
      decide
    · split at he
      · cases he
        decide
      · cases he
  | addressReplace ns interface cidr => exact editLink_status he
  | setMaster ns interface bridge => exact editLink_status he
  | setUp ns interface => exact editLink_status he

theorem editLink_namespaces {ns interface : String} {edit : Link → Option Link}
    (he : editLink h ns interface edit = .ok h') : h'.namespaces = h.namespaces := by
  obtain ⟨-, old, link, -, -, rfl⟩ := editLink_eq_ok he
  rfl

/-- Only `netns add` and `netns del` change the namespaces, each the one it
names. -/
theorem exec_namespaces (he : exec k h c = .ok h') :
    h'.namespaces = h.namespaces ∨ ∃ ns ∈ c.namespaces, ∀ n, n ≠ ns → (n ∈ h'.namespaces ↔ n ∈ h.namespaces) := by
  cases c with
  | netnsAdd ns =>
    simp only [exec] at he
    split at he
    · cases he
    · cases he
      refine .inr ⟨ns, by simp [IpCommand.namespaces], fun n hne => ?_⟩
      simp [Host.addNamespace, hne]
  | netnsDel ns =>
    simp only [exec] at he
    split at he
    · cases he
    · cases he
      refine .inr ⟨ns, by simp [IpCommand.namespaces], fun n hne => ?_⟩
      simp [Host.deleteNamespace, hne]
  | linkShow ns interface =>
    simp only [exec] at he
    split at he
    · cases he
    · split at he
      · cases he
      · cases he
        exact .inl rfl
  | vethAdd nsA interfaceA nsB interfaceB =>
    simp only [exec] at he
    split at he
    · cases he
    · cases he
      exact .inl rfl
  | bridgeAdd ns bridge =>
    simp only [exec] at he
    split at he
    · cases he
    · split at he
      · cases he
      · cases he
        exact .inl rfl
  | linkDel ns interface =>
    simp only [exec] at he
    split at he
    · cases he
    · split at he
      · cases he
      · split at he
        · cases he
          exact .inl rfl
        · cases he
  | routeReplace ns dst via =>
    simp only [exec] at he
    split at he
    · cases he
    · split at he
      · cases he
      · cases he
        exact .inl rfl
  | addressReplace ns interface cidr => exact .inl (editLink_namespaces he)
  | setMaster ns interface bridge => exact .inl (editLink_namespaces he)
  | setUp ns interface => exact .inl (editLink_namespaces he)

end Answers

end Ctrld
end Pktlab
