/-
# Whole runs of the topology manager

What a sequence of `apply` and `destroy` calls that all return leaves on the
host. A topology only names namespaces it declares, so every step of `apply`
and `destroy` keeps the host framed outside them (`stable_framed`); a `destroy`
that returns has deleted them all, which leaves the host as it was
(`clearCurrent_restores`). So the last call alone decides
(`calls_reflect_last`).

`delete_namespace` asks `list_namespaces`, which keeps the first word of a
line: a namespace with white space in its name is never found again
(`spaced_namespace_stays`), and the theorem is about names without.

Key definitions: `LabFramed`, `Call`, `Manager.step`, `Manager.Reflects`.
Key theorems: `build_framed`, `destroyLocked_clears`, `clearCurrent_restores`,
`calls_reflect_last`.
-/
import Pktlab.Ctrld.TopologySteps
import Pktlab.Lib.Run

namespace Pktlab
namespace Ctrld

open Python Effect

/-! ### Calls when nothing fails on its own -/

section Quiet

variable {k : Kernel} {lab : Lab}

theorem runIp_quiet (h : lab.faults = []) (c : IpCommand) (allowed : List ℕ) : runIp k c allowed lab =
    match exec k lab.host c with
    | .ok host => answer 0 allowed { lab with host := host }
    | .error status => answer status allowed lab := by
  obtain ⟨host, datapath, current, faults, stopRaises⟩ := lab
  simp only at h
  subst h
  rfl

theorem callIp_quiet (h : lab.faults = []) (c : IpCommand) : callIp k c lab =
    match exec k lab.host c with
    | .ok host => (.ok (), { lab with host := host })
    | .error 0 => (.ok (), lab)
    | .error (_ + 1) => (.error processError, lab) := by
  unfold callIp
  rw [Eff.bind_apply, runIp_quiet h]
  rcases exec k lab.host c with (_ | status) | host
  · rfl
  · rfl
  · rfl

theorem namespaceExists_quiet (h : lab.faults = []) (ns : String) :
    namespaceExists ns lab = (.ok (decide (ns ∈ lab.host.listed)), lab) := by
  obtain ⟨host, datapath, current, faults, stopRaises⟩ := lab
  simp only at h
  subst h
  rfl

/-- `delete_namespace` trusts the listing. -/
theorem deleteNamespace_quiet (h : lab.faults = []) (ns : String) : deleteNamespace k ns lab =
    if ns ∉ lab.host.listed then (.ok (), lab)
    else if ns ∈ lab.host.namespaces then (.ok (), { lab with host := lab.host.deleteNamespace ns })
    else (.error processError, lab) := by
  unfold deleteNamespace
  rw [Eff.bind_apply, namespaceExists_quiet h]
  by_cases hlisted : ns ∈ lab.host.listed
  · rw [if_neg (not_not.mpr hlisted)]
    simp only [hlisted, decide_true, if_true]
    rw [callIp_quiet h]
    by_cases hns : ns ∈ lab.host.namespaces
    · simp only [exec, hns, not_true_eq_false, if_false, if_true]
    · simp only [exec, hns, not_false_eq_true, if_true, if_false, notFound]
  · rw [if_pos hlisted]
    simp only [hlisted, decide_false, Bool.false_eq_true, if_false]
    rfl

theorem linkExists_quiet (h : lab.faults = []) (ns interface : String) : linkExists k ns interface lab =
    if ns ∉ lab.host.namespaces then (.error processError, lab)
    else (.ok (lab.host.links (some ns, interface)).isSome, lab) := by
  unfold linkExists
  rw [Eff.bind_apply, runIp_quiet h]
  by_cases hns : ns ∈ lab.host.namespaces
  · cases hl : lab.host.links (some ns, interface) with
    | none =>
      simp only [exec, hns, hl, not_true_eq_false, if_false, if_true]
      rfl
    | some link =>
      simp only [exec, hns, hl, not_true_eq_false, if_false, reduceCtorEq]
      rfl
  · simp only [exec, hns, not_false_eq_true, if_true]
    rfl

/-- `delete_link` fails without its namespace. -/
theorem deleteLink_quiet (h : lab.faults = []) (ns interface : String) : deleteLink k ns interface lab =
    if ns ∉ lab.host.namespaces then (.error processError, lab)
    else
      match lab.host.links (some ns, interface) with
      | none => (.ok (), lab)
      | some link =>
        if link.kind.deletable then (.ok (), { lab with host := lab.host.deleteLink (some ns, interface) })
        else (.error processError, lab) := by
  unfold deleteLink
  rw [Eff.bind_apply, linkExists_quiet h]
  by_cases hns : ns ∈ lab.host.namespaces
  · rw [if_neg (not_not.mpr hns), if_neg (not_not.mpr hns)]
    cases hl : lab.host.links (some ns, interface) with
    | none => rfl
    | some link =>
      simp only [Option.isSome_some, if_true]
      rw [callIp_quiet h]
      by_cases hdel : link.kind.deletable = true
      · simp only [exec, hns, hl, hdel, not_true_eq_false, if_false, if_true]
      · simp only [exec, hns, hl, hdel, not_true_eq_false, if_false, refused]
        rfl
  · rw [if_pos hns, if_pos hns]

end Quiet

/-! ### The frame of a topology -/

/-- The host is framed outside `N`, a datapath runs at most in `D`, and nothing
fails on its own. -/
structure LabFramed (N D : Finset String) (h0 : Host) (lab : Lab) : Prop where
  host : Framed N h0 lab.host
  datapath : ∀ taps ∈ lab.datapath, taps.ns ∈ D
  faults : lab.faults = []
  stops : lab.stopRaises = none

section Framed

variable {N D : Finset String} {h0 : Host} {k : Kernel} {v : ValidatedTopologyConfig}

theorem deleteTap_framed {h : Host} (hf : Framed N h0 h) {ns : String} (hn : ns ∈ N) (interface : String) :
    Framed N h0 (h.deleteTap (some ns, interface)) := by
  unfold Host.deleteTap
  split
  · exact hf.deleteLink hn
  · exact hf

/-- Without its datapath the lab is framed as well, and no datapath runs. -/
theorem LabFramed.withoutDatapath {lab : Lab} (h : LabFramed N D h0 lab) (hD : D ⊆ N) :
    LabFramed N ∅ h0 lab.withoutDatapath := by
  unfold Lab.withoutDatapath
  cases hd : lab.datapath with
  | none => exact ⟨h.host, by simp [hd], h.faults, h.stops⟩
  | some taps =>
    have hn : taps.ns ∈ N := hD (h.datapath taps hd)
    exact ⟨deleteTap_framed (deleteTap_framed h.host hn _) hn _, by simp, h.faults, h.stops⟩

/-- The frame is kept by every call that stays inside. -/
theorem stable_framed (hD : D ⊆ N) : Stable k (fun n => n ∈ N) (LabFramed N D h0) where
  fault lab h := ⟨h.host, h.datapath, by simp [h.faults], h.stops⟩
  exec _ _ _ hc he h := ⟨exec_framed h.host hc he, h.datapath, h.faults, h.stops⟩
  stop lab h := by
    obtain ⟨hhost, hdatapath, hfaults, hstops⟩ := h.withoutDatapath hD
    exact ⟨hhost, fun taps ht => absurd (hdatapath taps ht) (Finset.notMem_empty _), hfaults, hstops⟩

theorem stableTaps_framed : StableTaps (fun n => n ∈ N) (LabFramed N N h0) := by
  intro lab taps hn hns h
  have hnoPeer : ∀ peer, (Link.fresh .tap).kind = .veth peer → ¬ Outside N peer.1 := fun peer hk => by cases hk
  have htaps := (h.host.setLink (x := taps.ingress) hn hns hnoPeer).setLink (x := taps.egress) hn hns hnoPeer
  refine ⟨htaps, fun taps' htaps' => ?_, h.faults, h.stops⟩
  cases htaps'
  exact hn

/-- Stopping the datapath leaves none. -/
theorem stopDatapath_framed :
    Triple (LabFramed N N h0) stopDatapath (fun _ => LabFramed N ∅ h0) fun _ _ => True := by
  intro lab h
  simp only [stopDatapath, h.stops]
  exact h.withoutDatapath (Finset.Subset.refl N)

/-- **Building a topology keeps the frame.** -/
theorem build_framed {m : Manager} (hv : Declared N v) : Preserves (LabFramed N N h0) (m.build v) :=
  build_preserves (stable_framed (Finset.Subset.refl N)) stableTaps_framed hv.within

/-- **A teardown that returns is complete.** -/
theorem destroyLocked_clears {m : Manager} (hv : Declared N v) (hplain : ∀ n ∈ N, Plain n) :
    Triple (LabFramed N N h0) (m.destroyLocked v)
      (fun _ lab => LabFramed N ∅ h0 lab ∧ ∀ n ∈ N, n ∉ lab.host.namespaces) fun _ _ => True := by
  refine triple_mono (destroyLocked_returns_clear stopDatapath_framed (stable_framed (Finset.empty_subset N))
    hv.within) (fun _ h => h) (fun _ lab h => ⟨h.1, fun n hn => ?_⟩) fun _ _ h => h
  obtain ⟨ns, hns, rfl⟩ := (hv.namespaces n).mp hn
  exact h.2 ns hns (hplain _ hn)

end Framed

/-! ### Sequences of calls -/

/-- The manager before its first call. -/
def Lab.initial (h0 : Host) : Lab := ⟨h0, none, none, [], none⟩

/-- A call of the manager; an `apply` comes with what its path holds then. -/
inductive Call
  | apply (configPath : String) (loaded : Except TopologyError TopologyConfigModel)
  | destroy

/-- The lab after a computation that returned. -/
def returned {α : Type} : Except TopologyError α × Lab → Option Lab
  | (.ok _, lab) => some lab
  | (.error _, _) => none

theorem returned_eq_some {α : Type} {r : Except TopologyError α × Lab} {lab : Lab} :
    returned r = some lab ↔ ∃ a, r = (.ok a, lab) := by
  rcases r with ⟨e | a, lab'⟩
  · simp [returned]
  · simp [returned]

namespace Manager

variable (m : Manager) (h0 : Host)

/-- The manager while a path holds `loaded`. -/
def reading (loaded : Except TopologyError TopologyConfigModel) : Manager := { m with load := fun _ => loaded }

/-- A call that returns normally. -/
def step (lab : Lab) : Call → Option Lab
  | .apply configPath loaded => returned ((m.reading loaded).apply configPath lab)
  | .destroy => returned (m.destroy lab)

/-- The namespaces that an `apply` would declare, when it gets that far. -/
def declares (c : Call) (n : String) : Prop :=
  ∃ configPath loaded v, c = .apply configPath loaded ∧ (m.reading loaded).loadValidated configPath = .ok v ∧
    n ∈ v.namespaceNames

/-- What the lab is after a call, whatever came before: after an `apply` what
that call alone makes of the initial lab, with its path and configuration on
record; after a `destroy` the initial lab. -/
def Shows (lab : Lab) : Call → Prop
  | .apply configPath loaded =>
    ∃ v, (m.reading loaded).loadValidated configPath = .ok v ∧ lab.current = some ⟨configPath, v⟩ ∧
      m.step (Lab.initial h0) (.apply configPath loaded) = some lab
  | .destroy => lab = Lab.initial h0

/-- The last call alone decides. -/
def Reflects (calls : List Call) (lab : Lab) : Prop :=
  match calls.getLast? with
  | some c => m.Shows h0 lab c
  | none => lab = Lab.initial h0

/-- Either nothing is applied and the lab is as it was, or the lab is framed
by the topology that is. -/
structure Tracks (h0 : Host) (lab : Lab) : Prop where
  idle : lab.current = none → lab = Lab.initial h0
  declared : ∀ a ∈ lab.current, Declared a.validated.namespaceNames a.validated
  names : ∀ a ∈ lab.current, ∀ n ∈ a.validated.namespaceNames, n ∉ h0.namespaces ∧ Plain n
  framed : ∀ a ∈ lab.current, LabFramed a.validated.namespaceNames a.validated.namespaceNames h0 lab

variable {m h0}

theorem tracks_initial : Tracks h0 (Lab.initial h0) := ⟨fun _ => rfl, by simp [Lab.initial], by simp [Lab.initial],
  by simp [Lab.initial]⟩

/-- What is loaded has been validated. -/
theorem validated_of_loadValidated {configPath : String} {v : ValidatedTopologyConfig}
    (h : m.loadValidated configPath = .ok v) : ∃ config, validateTopologyConfig m.interpreter config = .ok v := by
  unfold loadValidated at h
  split at h
  · cases h
  · split at h
    · rename_i hv
      cases h
      exact ⟨_, hv⟩
    · cases h
    · cases h

theorem declared_of_loadValidated {configPath : String} {v : ValidatedTopologyConfig}
    (h : m.loadValidated configPath = .ok v) : Declared v.namespaceNames v := by
  obtain ⟨config, hv⟩ := validated_of_loadValidated h
  exact declared_of_validated hv

/-- **Tearing down what is applied restores the host.** -/
theorem clearCurrent_restores (hc : h0.Closed) :
    Triple (Tracks h0) m.clearCurrent (fun _ lab => lab = Lab.initial h0) fun _ _ => True := by
  intro lab h
  unfold clearCurrent
  rw [Eff.bind_apply]
  simp only [Eff.get]
  cases ha : lab.current with
  | none => exact h.idle ha
  | some a =>
    refine triple_bind (destroyLocked_clears (h.declared a ha) fun n hn => (h.names a ha n hn).2) (fun _ => ?_) lab
      (h.framed a ha)
    rintro ⟨host, datapath, current, faults, stopRaises⟩ ⟨hframed, hgone⟩
    have hhost : host = h0 := hframed.host.restored hc (fun n hn => (h.names a ha n hn).1) hgone
    have hdatapath : datapath = none := by
      refine Option.eq_none_iff_forall_not_mem.mpr fun taps htaps => ?_
      simpa using hframed.datapath taps htaps
    have hfaults : faults = [] := hframed.faults
    have hstops : stopRaises = none := hframed.stops
    subst hhost hdatapath hfaults hstops
    rfl

/-- An `apply` that returns does what it does on the initial lab. -/
theorem apply_forgets (hc : h0.Closed) {configPath : String} {lab lab' : Lab} {r : OperationResult}
    (h : Tracks h0 lab) (happly : m.apply configPath lab = (.ok r, lab')) :
    m.apply configPath (Lab.initial h0) = (.ok r, lab') := by
  unfold apply at happly ⊢
  cases hv : m.loadValidated configPath with
  | error e =>
    rw [hv] at happly
    cases happly
  | ok v =>
    rw [hv] at happly
    simp only at happly ⊢
    rw [Eff.bind_apply] at happly ⊢
    have hclear := clearCurrent_restores (m := m) hc lab h
    rcases hrun : m.clearCurrent lab with ⟨e | u, lab₁⟩
    · rw [hrun] at happly
      cases happly
    · rw [hrun] at happly hclear
      simp only at hclear happly
      subst hclear
      exact happly

/-- What an `apply` that returns leaves behind. -/
theorem apply_framed (hc : h0.Closed) {configPath : String}
    (hnames : ∀ v, m.loadValidated configPath = .ok v → ∀ n ∈ v.namespaceNames, n ∉ h0.namespaces) :
    Triple (fun lab => lab = Lab.initial h0) (m.apply configPath)
      (fun _ lab => ∃ v, m.loadValidated configPath = .ok v ∧ lab.current = some ⟨configPath, v⟩ ∧
        LabFramed v.namespaceNames v.namespaceNames h0 lab)
      fun _ _ => True := by
  unfold apply
  cases hv : m.loadValidated configPath with
  | error e => exact triple_throw e fun _ _ => trivial
  | ok v =>
    have hinit : LabFramed v.namespaceNames v.namespaceNames h0 (Lab.initial h0) :=
      ⟨hc.framed (hnames v hv), by simp [Lab.initial], rfl, rfl⟩
    refine triple_bind (R := fun _ lab => lab = Lab.initial h0) ?_ fun _ => ?_
    · rintro lab rfl
      rfl
    refine triple_bind (R := fun _ => LabFramed v.namespaceNames v.namespaceNames h0) ?_ fun running => ?_
    · refine triple_tryCatch (R := fun _ _ => True) ?_ fun e => ?_
      · rintro lab rfl
        exact (build_framed (declared_of_loadValidated hv)).returns _ hinit
      · refine triple_bind (R := fun _ _ => True) (fun lab _ => by split <;> trivial) fun cleanup => ?_
        cases e with
        | pktlab code message errors => exact triple_throw _ fun _ _ => trivial
        | other detail => exact triple_throw _ fun _ _ => trivial
    · intro lab h
      exact ⟨v, rfl, rfl, h.host, h.datapath, h.faults, h.stops⟩

/-- One call. -/
theorem step_shows (hc : h0.Closed) {lab lab' : Lab} {c : Call}
    (hnames : ∀ n, m.declares c n → n ∉ h0.namespaces ∧ Plain n) (h : Tracks h0 lab)
    (hstep : m.step lab c = some lab') : Tracks h0 lab' ∧ m.Shows h0 lab' c := by
  cases c with
  | apply configPath loaded =>
    obtain ⟨r, happly⟩ := returned_eq_some.mp hstep
    have hforgets := apply_forgets hc h happly
    have hdeclares : ∀ v, (m.reading loaded).loadValidated configPath = .ok v → ∀ n ∈ v.namespaceNames,
        n ∉ h0.namespaces ∧ Plain n := fun v hv n hn => hnames n ⟨configPath, loaded, v, rfl, hv, hn⟩
    have hframed := apply_framed hc (fun v hv n hn => (hdeclares v hv n hn).1) (Lab.initial h0) rfl
    rw [hforgets] at hframed
    obtain ⟨v, hv, hcurrent, hlab⟩ := hframed
    refine ⟨⟨fun hnone => ?_, fun a ha => ?_, fun a ha => ?_, fun a ha => ?_⟩, v, hv, hcurrent, ?_⟩
    · rw [hcurrent] at hnone
      cases hnone
    · rw [hcurrent] at ha
      cases ha
      exact declared_of_loadValidated hv
    · rw [hcurrent] at ha
      cases ha
      exact hdeclares v hv
    · rw [hcurrent] at ha
      cases ha
      exact hlab
    · exact returned_eq_some.mpr ⟨r, hforgets⟩
  | destroy =>
    obtain ⟨r, hdestroy⟩ := returned_eq_some.mp hstep
    have hlab : lab' = Lab.initial h0 := by
      unfold destroy at hdestroy
      rw [Eff.bind_apply] at hdestroy
      simp only [Eff.get] at hdestroy
      cases ha : lab.current with
      | none =>
        rw [ha] at hdestroy
        cases hdestroy
        exact h.idle ha
      | some a =>
        rw [ha] at hdestroy
        have hclear := clearCurrent_restores (m := m) hc lab h
        simp only at hdestroy
        rw [Eff.bind_apply] at hdestroy
        rcases hrun : m.clearCurrent lab with ⟨e | u, lab₁⟩
        · rw [hrun] at hdestroy
          cases hdestroy
        · rw [hrun] at hdestroy hclear
          cases hdestroy
          exact hclear
    exact ⟨hlab ▸ tracks_initial, hlab⟩

/-- **The last call alone decides.** On a host that has none of the namespaces
that the calls declare, and when none of their names has white space in it. -/
theorem calls_reflect_last (hc : h0.Closed) {calls : List Call} {lab : Lab}
    (hfresh : ∀ c ∈ calls, ∀ n, m.declares c n → n ∉ h0.namespaces)
    (hplain : ∀ c ∈ calls, ∀ n, m.declares c n → Plain n)
    (hrun : Run.run m.step (Lab.initial h0) calls = some lab) : m.Reflects h0 calls lab := by
  have hnames : ∀ c ∈ calls, ∀ n, m.declares c n → n ∉ h0.namespaces ∧ Plain n :=
    fun c hmem n hn => ⟨hfresh c hmem n hn, hplain c hmem n hn⟩
  rcases List.eq_nil_or_concat calls with rfl | ⟨before, c, rfl⟩
  · cases hrun
    rfl
  · rw [List.concat_eq_append] at *
    obtain ⟨lab₁, hbefore, hlast⟩ := Run.run_concat_eq_some.mp hrun
    have hkeep : ∀ s c s', Tracks h0 s → (∀ n, m.declares c n → n ∉ h0.namespaces ∧ Plain n) →
        m.step s c = some s' → Tracks h0 s' := fun s c s' h hn hstep => (step_shows hc hn h hstep).1
    have htracks : Tracks h0 lab₁ := Run.run_induction_of hkeep tracks_initial
      (Run.allSteps_of_forall fun c hmem => hnames c (List.mem_append_left _ hmem)) hbefore
    unfold Reflects
    rw [List.getLast?_concat]
    exact (step_shows hc (hnames c (by simp)) htracks hlast).2

end Manager

/-! ### Runs on a bare host -/

/-- Two hosts and the default ports. -/
def plainLab : TopologyConfigModel :=
  twoHostLab (hugepagesRequest 256 (by decide)) ⟨"dtap0", by decide⟩ ⟨"dtap1", by decide⟩

/-- The same with a namespace whose name has a blank in it. -/
def spacedLab : TopologyConfigModel :=
  { plainLab with namespaces := plainLab.namespaces ++ [⟨⟨"a b", by decide⟩⟩] }

/-- A manager whose kernel and daemon do what they are asked. -/
def obligingManager : Manager where
  kernel := ⟨fun _ _ => true, fun _ _ _ => none, id⟩
  interpreter := asciiInterpreter
  load _ := .ok plainLab
  starts _ _ := true
  polls := 1

/-- What the validator makes of `plainLab`. -/
def plainValidated : ValidatedTopologyConfig :=
  (validateTopologyConfig asciiInterpreter plainLab).toOption.get (by decide +kernel)

theorem plainLab_valid : validateTopologyConfig asciiInterpreter plainLab = .ok plainValidated := by
  have hget : ∀ (r : Except Raised ValidatedTopologyConfig) (h : r.toOption.isSome = true),
      r = .ok (r.toOption.get h) := by
    intro r h
    cases r with
    | error e => cases h
    | ok v => rfl
  unfold plainValidated
  exact hget _ _

/-- A host with its loopback device alone. -/
def bareHost : Host where
  namespaces := ∅
  links key := if key = (none, "lo") then some (Link.fresh .loopback) else none
  routes _ := none

theorem bareHost_closed : bareHost.Closed := by
  refine ⟨fun key hns => ?_, fun _ _ => rfl, fun key link peer hl hk => ?_⟩
  · have hne : key ≠ (none, "lo") := by
      rintro rfl
      exact hns (by simp [Host.hasNs])
    exact if_neg hne
  · simp only [bareHost] at hl
    split at hl
    · cases hl
      cases hk
    · cases hl

theorem names_of_loadValidated {m : Manager} {config : TopologyConfigModel} {configPath : String}
    {v : ValidatedTopologyConfig} (h : (m.reading (.ok config)).loadValidated configPath = .ok v) :
    v.namespaceNames = config.namespaceNames := by
  simp only [Manager.loadValidated, Manager.reading] at h
  split at h
  · rename_i v' hv
    cases h
    obtain ⟨effective, -, rfl⟩ := validateTopologyConfig_eq_ok.mp hv
    rfl
  · cases h
  · cases h

theorem reflects_reapplied_plainLab :
    ∃ lab, Run.run obligingManager.step (Lab.initial bareHost)
        [.apply "lab.yaml" (.ok plainLab), .destroy, .apply "lab.yaml" (.ok plainLab)] = some lab ∧
      obligingManager.Reflects bareHost
        [.apply "lab.yaml" (.ok plainLab), .destroy, .apply "lab.yaml" (.ok plainLab)] lab := by
  have hreturns : (Run.run obligingManager.step (Lab.initial bareHost)
      [.apply "lab.yaml" (.ok plainLab), .destroy, .apply "lab.yaml" (.ok plainLab)]).isSome = true := by
    decide +kernel
  obtain ⟨lab, hrun⟩ := Option.isSome_iff_exists.mp hreturns
  refine ⟨lab, hrun, Manager.calls_reflect_last bareHost_closed (fun c _ n _ => Finset.notMem_empty n) ?_ hrun⟩
  intro c hmem n hn
  obtain ⟨configPath, loaded, v, rfl, hv, hmem'⟩ := hn
  have hloaded : configPath = "lab.yaml" ∧ loaded = .ok plainLab := by simpa using hmem
  obtain ⟨rfl, rfl⟩ := hloaded
  rw [names_of_loadValidated hv] at hmem'
  have hall : ∀ n ∈ plainLab.namespaceNames, Plain n := by decide +kernel
  exact hall n hmem'

/-- `destroy` returns and leaves the namespace `a b` on the host. -/
theorem spaced_namespace_stays :
    ¬ ∀ (m : Manager) (h0 : Host) (calls : List Call) (lab : Lab), h0.Closed →
      (∀ c ∈ calls, ∀ n, m.declares c n → n ∉ h0.namespaces) →
      Run.run m.step (Lab.initial h0) calls = some lab → m.Reflects h0 calls lab := by
  intro h
  have hstays : (Run.run obligingManager.step (Lab.initial bareHost)
      [.apply "lab.yaml" (.ok spacedLab), .destroy]).map (fun lab => decide ("a b" ∈ lab.host.namespaces)) =
        some true := by
    decide +kernel
  obtain ⟨lab, hrun, hmem⟩ := Option.map_eq_some_iff.mp hstays
  have hlab : lab = Lab.initial bareHost :=
    h obligingManager bareHost _ lab bareHost_closed (fun c _ n _ => Finset.notMem_empty n) hrun
  rw [hlab, decide_eq_true_eq] at hmem
  exact Finset.notMem_empty _ hmem

end Ctrld
end Pktlab
