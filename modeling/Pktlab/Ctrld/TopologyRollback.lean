/-
# What a failed apply leaves on the host

`ensure_namespace` takes over a namespace that is already there, and the
cleanup of a failed `apply` deletes by the names that the topology declares. So
a namespace that was there before is deleted when the topology declares it
(`adopted_namespace_deleted`), and is as it was when it does not
(`failed_apply_frame`): this holds at every point of failure, since each call
of `build` and of the teardown names declared namespaces alone.

Key definitions: `Manager.CleansUp`.
Key theorems: `stable_namespaces`, `failed_apply_frame`.
-/
import Pktlab.Ctrld.TopologyRuns

namespace Pktlab
namespace Ctrld

open Python Effect

/-! ### Namespaces that the topology does not declare -/

/-- The namespaces outside `N` are those of `h0`. -/
def NamespacesFramed (N : Finset String) (h0 : Host) (lab : Lab) : Prop :=
  ∀ n ∉ N, n ∈ lab.host.namespaces ↔ n ∈ h0.namespaces

section Frame

variable {N : Finset String} {h0 : Host}

theorem deleteTap_namespaces (h : Host) (key : LinkKey) : (h.deleteTap key).namespaces = h.namespaces := by
  unfold Host.deleteTap
  split
  · rfl
  · rfl

theorem withoutDatapath_namespaces (lab : Lab) : lab.withoutDatapath.host.namespaces = lab.host.namespaces := by
  unfold Lab.withoutDatapath
  cases lab.datapath with
  | none => rfl
  | some taps => exact (deleteTap_namespaces _ _).trans (deleteTap_namespaces _ _)

theorem stable_namespaces (k : Kernel) (N : Finset String) (h0 : Host) :
    Stable k (fun n => n ∈ N) (NamespacesFramed N h0) where
  fault _ h := h
  exec lab c host hc he h := by
    intro n hn
    rcases exec_namespaces he with hsame | ⟨ns, hns, hother⟩
    · show n ∈ host.namespaces ↔ _
      rw [hsame]
      exact h n hn
    · have hne : n ≠ ns := fun heq => hn (heq ▸ hc ns hns)
      exact (hother n hne).trans (h n hn)
  stop lab h := by
    intro n hn
    rw [withoutDatapath_namespaces]
    exact h n hn

theorem stableTaps_namespaces (N : Finset String) (h0 : Host) :
    StableTaps (fun n => n ∈ N) (NamespacesFramed N h0) := fun _ _ _ _ h => h

end Frame

/-! ### Failing and cleaning up -/

namespace Manager

variable {m : Manager} {v : ValidatedTopologyConfig} {configPath : String} {lab lab' : Lab} {e : TopologyError}

/-- The cleanup after the steps of `apply` fail reports no error. -/
def CleansUp (m : Manager) (v : ValidatedTopologyConfig) (lab : Lab) : Prop :=
  ∀ e lab₁, m.build v lab = (.error e, lab₁) → ∃ lab₂, m.cleanupFailedApply v lab₁ = (.ok [], lab₂)

/-- With nothing applied, `apply` is its steps, the cleanup, and the record. -/
theorem apply_idle (hv : m.loadValidated configPath = .ok v) (hidle : lab.current = none) :
    m.apply configPath lab = (do
      let running ← Eff.tryCatch (m.build v) (m.failApply v)
      setCurrent (some ⟨configPath, v⟩)
      pure (result "apply" v configPath true running "topology applied") : Op OperationResult) lab := by
  have hclear : m.clearCurrent lab = (.ok (), lab) := by
    simp only [clearCurrent, Eff.bind_apply, Eff.get, hidle]
    rfl
  unfold apply
  rw [hv]
  dsimp only
  rw [Eff.bind_apply, hclear]

/-- Steps that raise and a cleanup without errors: `apply` raises, and the lab
is the one that the cleanup left. -/
theorem apply_cleaned {e₁ : TopologyError} {lab₁ lab₂ : Lab} (hv : m.loadValidated configPath = .ok v)
    (hidle : lab.current = none) (hbuild : m.build v lab = (.error e₁, lab₁))
    (hcleanup : m.cleanupFailedApply v lab₁ = (.ok [], lab₂)) :
    ∃ e, m.apply configPath lab = (.error e, lab₂) := by
  have hfail : ∃ e₂, m.failApply v e₁ lab₁ = (.error e₂, lab₂) := by
    unfold failApply
    rw [Eff.bind_apply, hcleanup]
    cases e₁ with
    | pktlab code message errors => exact ⟨_, rfl⟩
    | other detail => exact ⟨_, rfl⟩
  obtain ⟨e₂, hfail⟩ := hfail
  refine ⟨e₂, ?_⟩
  rw [apply_idle hv hidle, Eff.bind_apply, Eff.tryCatch_apply, hbuild]
  dsimp only
  rw [hfail]

/-- An `apply` that fails with nothing applied failed in its steps. -/
theorem apply_eq_error (hv : m.loadValidated configPath = .ok v) (hidle : lab.current = none)
    (hclean : m.CleansUp v lab) (h : m.apply configPath lab = (.error e, lab')) :
    ∃ e₁ lab₁, m.build v lab = (.error e₁, lab₁) ∧ m.destroyLocked v lab₁ = (.ok (), lab') := by
  rcases hbuild : m.build v lab with ⟨e₁ | running, lab₁⟩
  · obtain ⟨lab₂, hcleanup⟩ := hclean e₁ lab₁ hbuild
    obtain ⟨e₂, happly⟩ := apply_cleaned hv hidle hbuild hcleanup
    rw [h] at happly
    cases happly
    exact ⟨e₁, lab₁, rfl, (collect_eq_nil.mp hcleanup).2⟩
  · rw [apply_idle hv hidle, Eff.bind_apply, Eff.tryCatch_apply, hbuild] at h
    cases h

/-- **A failed `apply` touches only what it declares.** With nothing applied
before and a cleanup that succeeds, the namespaces that the topology does not
declare are as they were, and none that it declares is left behind (when the
listing shows it as it is). -/
theorem failed_apply_frame (hv : m.loadValidated configPath = .ok v) (hidle : lab.current = none)
    (hclean : m.CleansUp v lab) (hfail : m.apply configPath lab = (.error e, lab')) :
    (∀ n ∉ v.namespaceNames, n ∈ lab'.host.namespaces ↔ n ∈ lab.host.namespaces) ∧
      ∀ n ∈ v.namespaceNames, Plain n → n ∉ lab'.host.namespaces := by
  obtain ⟨e₁, lab₁, hbuild, hdestroy⟩ := apply_eq_error hv hidle hclean hfail
  have hdeclared := declared_of_loadValidated hv
  have hstable := stable_namespaces m.kernel v.namespaceNames lab.host
  have hstart : NamespacesFramed v.namespaceNames lab.host lab := fun _ _ => Iff.rfl
  have hbuilt : NamespacesFramed v.namespaceNames lab.host lab₁ :=
    (build_preserves hstable (stableTaps_namespaces _ _) hdeclared.within).error hstart hbuild
  have hdown := destroyLocked_returns_clear (stopDatapath_preserves hstable).returns hstable hdeclared.within
    lab₁ hbuilt
  rw [hdestroy] at hdown
  refine ⟨hdown.1, fun n hn hp => ?_⟩
  obtain ⟨ns, hns, rfl⟩ := (hdeclared.namespaces n).mp hn
  exact hdown.2 ns hns hp

end Manager

/-! ### A daemon that does not get ready -/

/-- The daemon of this manager never gets ready. -/
def stuckManager : Manager := { obligingManager with starts := fun _ _ => false }

/-- A host with the namespace `ns` and nothing in it. -/
def occupiedLab (ns : String) : Lab := Lab.initial (bareHost.addNamespace ns)

theorem stuck_loaded : stuckManager.loadValidated "lab.yaml" = .ok plainValidated := by
  unfold Manager.loadValidated
  simp only [stuckManager, obligingManager, plainLab_valid]

/-- The steps of `apply` fail there, the cleanup succeeds, and whether `n` is
left. -/
def stuckLeaves (ns n : String) : Option Bool :=
  match stuckManager.build plainValidated (occupiedLab ns) with
  | (.ok _, _) => none
  | (.error _, lab₁) =>
    match stuckManager.cleanupFailedApply plainValidated lab₁ with
    | (.ok [], lab₂) => some (decide (n ∈ lab₂.host.namespaces))
    | _ => none

theorem stuckLeaves_eq_some {ns n : String} {left : Bool} (h : stuckLeaves ns n = some left) :
    stuckManager.CleansUp plainValidated (occupiedLab ns) ∧
      ∃ e lab', stuckManager.apply "lab.yaml" (occupiedLab ns) = (.error e, lab') ∧
        left = decide (n ∈ lab'.host.namespaces) := by
  unfold stuckLeaves at h
  split at h
  · cases h
  · rename_i e₁ lab₁ hbuild
    split at h
    · rename_i lab₂ hcleanup
      cases h
      refine ⟨fun e₂ lab₃ hbuild₂ => ?_, ?_⟩
      · rw [hbuild] at hbuild₂
        cases hbuild₂
        exact ⟨lab₂, hcleanup⟩
      · obtain ⟨e, happly⟩ := Manager.apply_cleaned stuck_loaded rfl hbuild hcleanup
        exact ⟨e, lab₂, happly, rfl⟩
    · cases h

theorem failed_apply_spares_mgmt : ∃ e lab', stuckManager.apply "lab.yaml" (occupiedLab "mgmt") = (.error e, lab') ∧
    "mgmt" ∈ lab'.host.namespaces ∧ ∀ n ∈ plainValidated.namespaceNames, Plain n → n ∉ lab'.host.namespaces := by
  have hleft : stuckLeaves "mgmt" "mgmt" = some true := by decide +kernel
  obtain ⟨hclean, e, lab', happly, -⟩ := stuckLeaves_eq_some hleft
  obtain ⟨hothers, hgone⟩ := Manager.failed_apply_frame stuck_loaded rfl hclean happly
  have hundeclared : "mgmt" ∉ plainValidated.namespaceNames := by decide +kernel
  have hbefore : "mgmt" ∈ (occupiedLab "mgmt").host.namespaces := by decide +kernel
  exact ⟨e, lab', happly, (hothers "mgmt" hundeclared).mpr hbefore, hgone⟩

/-- The plain lab does not start on a host that has its namespace `src`
already, and the cleanup deletes it. -/
theorem adopted_namespace_deleted :
    ¬ ∀ (m : Manager) (configPath : String) (v : ValidatedTopologyConfig) (lab lab' : Lab) (e : TopologyError),
      m.loadValidated configPath = .ok v → lab.current = none → m.CleansUp v lab →
      m.apply configPath lab = (.error e, lab') →
      (∀ n ∈ lab.host.namespaces, n ∈ lab'.host.namespaces) ∧
        ∀ n ∈ v.namespaceNames, n ∉ lab.host.namespaces → n ∉ lab'.host.namespaces := by
  intro h
  have hleft : stuckLeaves "src" "src" = some false := by decide +kernel
  obtain ⟨hclean, e, lab', happly, hgone⟩ := stuckLeaves_eq_some hleft
  have hbefore : "src" ∈ (occupiedLab "src").host.namespaces := by decide +kernel
  have hkept := (h stuckManager "lab.yaml" plainValidated (occupiedLab "src") lab' e stuck_loaded rfl hclean
    happly).1 "src" hbefore
  exact of_decide_eq_false hgone.symm hkept

end Ctrld
end Pktlab
