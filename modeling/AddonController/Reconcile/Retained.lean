import AddonController.Reconcile.Lifecycle

/-!
# What stays deployed short of deletion

`deployKyverno` and `deployPrometheus` return nil at once when the spec does not configure their
feature, and only `reconcileDelete` undeploys. So a normal pass never takes anything off the
workload cluster. A feature once deployed stays there through every pass, every change of the
spec and every new CAPI cluster, until deletion is requested or the cluster itself is deleted.
A feature dropped from the spec stays deployed until then.
-/

namespace AddonController

open ClusterSummaryReconciler

/-- The ClusterSummary, if the API server has it, is not marked for deletion. -/
def World.NotDeleting (w : World) : Prop :=
  ∀ clusterSummary, w.persisted = some clusterSummary → clusterSummary.deletionTimestamp = none

section Pass

variable (o : Outcomes) (p : Pass)

theorem reconcileNormal_deletionTimestamp :
    (reconcileNormal o p).1.clusterSummary.deletionTimestamp =
      p.clusterSummary.deletionTimestamp := by
  rcases reconcileNormal_cases o p with ⟨-, -, heq⟩ | ⟨p₁, -, hp₁, heq⟩
  · simp [heq, ClusterSummaryScope.patchObject]
  · rw [heq, deploy_clusterSummary]
    rcases hp₁ with rfl | ⟨-, rfl⟩ <;> simp [ClusterSummaryScope.patchObject]

/-- A pass on a ClusterSummary not marked for deletion is a normal pass: it leaves the object
unmarked and keeps every deployed feature deployed. -/
theorem reconcile_notDeleting {w : World} (hw : w.NotDeleting) :
    (reconcile o w).1.NotDeleting ∧
      ∀ f, w.workload.deployed f = true → (reconcile o w).1.workload.deployed f = true := by
  rcases reconcile_cases o w with ⟨hworld, -⟩ | ⟨c, hpers, hworld, -⟩
  · rw [hworld]; exact ⟨hw, fun _ => id⟩
  · have hts : c.deletionTimestamp = none := hw c hpers
    rw [hworld, if_neg (by simp [hts])]
    refine ⟨Pass.write_persisted_of _ _ ?_ fun c' hc' => ?_, fun f hf => ?_⟩
    · rw [reconcileNormal_deletionTimestamp]; exact hts
    · rcases reconcileNormal_persisted_eq o ⟨w, c, []⟩ with h | h
      · exact hw c' (h ▸ hc')
      · obtain rfl := Option.some.inj (h.symm.trans hc')
        simpa using hts
    · simpa [ClusterSummaryScope.close] using reconcileNormal_deployed_of o ⟨w, c, []⟩ hf

end Pass

namespace World

/-- Every step but a deletion request and the deletion of the cluster keeps a ClusterSummary
unmarked and its deployed features deployed. -/
theorem step_notDeleting {w : World} {s : Step}
    (hs : (∀ time, s ≠ .requestDeletion time) ∧ s ≠ .deleteCluster) (hw : w.NotDeleting) :
    (w.step s).1.NotDeleting ∧
      ∀ f, w.workload.deployed f = true → (w.step s).1.workload.deployed f = true := by
  cases s with
  | reconcile o => exact reconcile_notDeleting o hw
  | create spec =>
    simp only [step]
    split
    · refine ⟨fun c hc => ?_, fun _ => id⟩
      cases hc; rfl
    · exact ⟨hw, fun _ => id⟩
  | updateSpec features =>
    refine ⟨fun c hc => ?_, fun _ => id⟩
    obtain ⟨c', hc', rfl⟩ := Option.map_eq_some'.mp hc
    exact hw c' hc'
  | requestDeletion time => exact absurd rfl (hs.1 time)
  | createCluster => exact ⟨hw, fun _ => id⟩
  | deleteCluster => exact absurd rfl hs.2

end World

/-- Short of deletion, nothing is undeployed: from a ClusterSummary not marked for deletion,
every run without a deletion request or the deletion of the cluster keeps every deployed feature
deployed, whatever the spec becomes and whatever the calls return. A feature dropped from the
spec stays on the cluster until the ClusterSummary is deleted. -/
theorem World.deployed_retained {w : World} (hw : w.NotDeleting) {steps : List Step}
    (hsteps : ∀ s ∈ steps, (∀ time, s ≠ .requestDeletion time) ∧ s ≠ .deleteCluster)
    {f : FeatureID} (hf : w.workload.deployed f = true) :
    (w.run steps).1.workload.deployed f = true :=
  (run_safe (fun w => w.NotDeleting ∧ w.workload.deployed f = true)
    (fun s => (∀ time, s ≠ .requestDeletion time) ∧ s ≠ .deleteCluster) (fun _ => True)
    (fun _ _ hs hw => ⟨⟨(World.step_notDeleting hs hw.1).1,
      (World.step_notDeleting hs hw.1).2 f hw.2⟩, fun _ _ => trivial⟩)
    ⟨hw, hf⟩ steps hsteps).1.2

/-- The spec of `summary` configuring the roles and Kyverno. -/
def kyvernoSpec : ClusterSummarySpec :=
  ⟨"default", "workload", ⟨[], some ⟨[]⟩, none⟩⟩

/-- The registered `summary` with the roles and Kyverno deployed on an existing cluster. -/
def kyvernoWorld : World :=
  ⟨"summary", some ⟨"summary", [ClusterSummaryFinalizer], none, kyvernoSpec, ⟨"csaaaaaaaaaa"⟩⟩,
    .empty, { Workload.idle with deployed := fun feature => feature != .prometheus }⟩

/-- Kyverno is dropped from the spec, then a pass in which every call succeeds. -/
def dropKyverno : List Step :=
  [.updateSpec rolesOnlySpec.clusterFeatureSpec, .reconcile (.succeeding "bbbbbbbbbb")]

/-- After Kyverno is dropped from the spec and a pass succeeds, Kyverno is still deployed. -/
theorem World.deployed_retained_dropKyverno :
    kyvernoWorld.NotDeleting ∧
    (∀ s ∈ dropKyverno, (∀ time, s ≠ .requestDeletion time) ∧ s ≠ .deleteCluster) ∧
    kyvernoWorld.workload.deployed .kyverno = true ∧
    (kyvernoWorld.run dropKyverno).1.persisted.map (·.configures .kyverno) = some false ∧
    (kyvernoWorld.run dropKyverno).1.workload.deployed .kyverno = true := by
  have hw : kyvernoWorld.NotDeleting := fun _ h => by cases h; rfl
  have hsteps : ∀ s ∈ dropKyverno, (∀ time, s ≠ .requestDeletion time) ∧ s ≠ .deleteCluster := by
    simp [dropKyverno]
  exact ⟨hw, hsteps, rfl, by decide, World.deployed_retained hw hsteps rfl⟩

end AddonController
