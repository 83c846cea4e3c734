import AddonController.Reconcile.Lifecycle

/-!
# What one successful pass achieves

The lifecycle proves what a pass may never do; this file proves what a pass whose calls succeed
does achieve, whatever happened before it. On an object not marked for deletion, one pass
whose calls to the API server succeed registers the finalizer, persists a non-empty policy
prefix, records the object's references in the maps and attempts every configured feature on an
existing cluster, even when the deployments fail. Once deletion is requested, no step but a new
creation brings the finalizer back, and the first pass whose calls succeed releases the
ClusterSummary: failed passes before it only delay that.
-/

namespace AddonController

open ClusterSummaryReconciler

/-- The calls of a deleting pass all succeed: the fetches, the read of the CAPI cluster, every
undeploy and `Close`. -/
def Outcomes.DeleteSucceeds (o : Outcomes) : Prop :=
  o.getErr = none ∧ o.ownerErr = none ∧ o.scopeErr = none ∧ o.clusterGetErr = none ∧
    (∀ f, o.undeployErr f = none) ∧ o.closeErr = none

/-- The calls of a normal pass to the API server succeed: the fetches, the patch of
`addFinalizer` and `Close`. Deploys may fail. -/
def Outcomes.RegisterSucceeds (o : Outcomes) : Prop :=
  o.getErr = none ∧ o.ownerErr = none ∧ o.scopeErr = none ∧ o.patchErr = none ∧
    o.closeErr = none

/-- The ClusterSummary, if the API server still has it, is marked for deletion. -/
def World.Deleting (w : World) : Prop :=
  ∀ clusterSummary, w.persisted = some clusterSummary → clusterSummary.deletionTimestamp.isSome

section Pass

variable {o : Outcomes} {w : World} {clusterSummary : ClusterSummary}

/-- A pass whose fetches succeed handles the persisted object and closes the scope. -/
theorem reconcile_fst_of_fetched (hpers : w.persisted = some clusterSummary)
    (hget : o.getErr = none) (howner : o.ownerErr = none) (hscope : o.scopeErr = none) :
    (reconcile o w).1 = (ClusterSummaryScope.close o
      (if clusterSummary.deletionTimestamp.isSome then reconcileDelete o ⟨w, clusterSummary, []⟩
        else reconcileNormal o ⟨w, clusterSummary, []⟩).1).world := by
  simp only [reconcile, hpers, hget, howner, hscope]

/-- `generatePolicyNamePrefix` leaves a non-empty prefix. -/
theorem generatePolicyNamePrefix_policyPrefix_ne (o : Outcomes) (p : Pass) :
    (generatePolicyNamePrefix o p).clusterSummary.status.policyPrefix ≠ "" := by
  rw [generatePolicyNamePrefix_status]
  split
  · intro h
    have hlength : "cs".length = 0 ∧ o.randomString.length = 0 := by
      simpa using congrArg String.length h
    exact absurd hlength.1 (by decide)
  · assumption

/-- A normal pass whose patch succeeds deploys from a pass holding the fetched object with the
finalizer added, over the same maps and workload. -/
theorem reconcileNormal_of_patch (o : Outcomes) (p : Pass) (hpatch : o.patchErr = none) :
    ∃ p₁ : Pass,
      p₁.clusterSummary = controllerutil.addFinalizer p.clusterSummary ClusterSummaryFinalizer ∧
      p₁.world.maps = p.world.maps ∧ p₁.world.workload = p.world.workload ∧
      (reconcileNormal o p).1 = (deploy o (generatePolicyNamePrefix o p₁).updatesMaps).1 := by
  rcases reconcileNormal_cases o p with ⟨-, hsome, -⟩ | ⟨p₁, hF, hp₁, heq⟩
  · simp [hpatch] at hsome
  · refine ⟨p₁, ?_, ?_, (reconcileNormal_cases_frame o p hp₁).1, heq⟩ <;>
      rcases hp₁ with rfl | ⟨-, rfl⟩
    · simp [controllerutil.addFinalizer, hF]
    · rfl
    · simp [ClusterSummaryScope.patchObject]
    · simp [ClusterSummaryScope.patchObject]

/-- The object a deleting pass leaves in the scope keeps the deletion mark and has at most the
finalizers it had. -/
theorem reconcileDelete_clusterSummary (o : Outcomes) (p : Pass) :
    (reconcileDelete o p).1.clusterSummary.deletionTimestamp =
        p.clusterSummary.deletionTimestamp ∧
      ∀ g ∈ (reconcileDelete o p).1.clusterSummary.finalizers,
        g ∈ p.clusterSummary.finalizers := by
  rw [reconcileDelete_fst]
  split
  · exact ⟨rfl, fun g hg => (controllerutil.mem_removeFinalizer.mp hg).2⟩
  · exact ⟨rfl, fun _ => id⟩

/-- A pass on a ClusterSummary marked for deletion keeps it marked, and adds no finalizer. -/
theorem reconcile_deleting (hdel : w.Deleting) {c' : ClusterSummary}
    (h : (reconcile o w).1.persisted = some c') :
    c'.deletionTimestamp.isSome ∧
      ∀ g ∈ c'.finalizers, ∃ c, w.persisted = some c ∧ g ∈ c.finalizers := by
  rcases reconcile_cases o w with ⟨hworld, -⟩ | ⟨c, hpers, hworld, -⟩
  · rw [hworld] at h
    exact ⟨hdel c' h, fun g hg => ⟨c', h, hg⟩⟩
  · rw [hworld, if_pos (hdel c hpers)] at h
    simp only [ClusterSummaryScope.close, Pass.write_persisted] at h
    split at h
    · obtain rfl := eq_of_persist_eq_some h
      obtain ⟨hts, hfin⟩ := reconcileDelete_clusterSummary o ⟨w, c, []⟩
      exact ⟨hts ▸ hdel c hpers, fun g hg => ⟨c, hpers, hfin g hg⟩⟩
    · simp only [reconcileDelete_persisted] at h
      exact ⟨hdel c' h, fun g hg => ⟨c', h, hg⟩⟩

/-- A pass whose calls succeed releases a ClusterSummary marked for deletion. -/
theorem reconcile_releases (hdel : w.Deleting) (ho : o.DeleteSucceeds) :
    ¬(reconcile o w).1.finalizerPersisted := by
  obtain ⟨hget, howner, hscope, hcluster, hundeploy, hclose⟩ := ho
  rintro ⟨c', h, hF⟩
  cases hpers : w.persisted with
  | none => simp [reconcile, hpers, hget] at h
  | some c =>
    have hnone : (undeploy o ⟨w, c, []⟩).2 = none :=
      (undeploy_snd_eq_none o _).mpr ⟨hcluster, fun _ => hundeploy⟩
    rw [reconcile_fst_of_fetched hpers hget howner hscope, if_pos (hdel c hpers)] at h
    simp only [ClusterSummaryScope.close, Pass.write_persisted, hclose, Option.isNone_none,
      if_true, reconcileDelete_fst, hnone] at h
    rw [eq_of_persist_eq_some h] at hF
    simp at hF

end Pass

namespace World

variable {w : World}

/-- A step other than a creation keeps a ClusterSummary marked for deletion marked, and adds no
finalizer to it. -/
theorem step_deleting {s : Step} (hs : ∀ spec, s ≠ .create spec) (hdel : w.Deleting)
    {c' : ClusterSummary} (h : (w.step s).1.persisted = some c') :
    c'.deletionTimestamp.isSome ∧
      ∀ g ∈ c'.finalizers, ∃ c, w.persisted = some c ∧ g ∈ c.finalizers := by
  cases s with
  | reconcile o => exact reconcile_deleting hdel h
  | create spec => exact absurd rfl (hs spec)
  | updateSpec spec =>
    obtain ⟨c, hc, rfl⟩ := Option.map_eq_some'.mp h
    exact ⟨hdel c hc, fun g hg => ⟨c, hc, hg⟩⟩
  | requestDeletion time =>
    obtain ⟨c, hc, hpersist⟩ := Option.bind_eq_some.mp h
    obtain rfl := eq_of_persist_eq_some hpersist
    exact ⟨rfl, fun g hg => ⟨c, hc, hg⟩⟩
  | createCluster | deleteCluster => exact ⟨hdel c' h, fun g hg => ⟨c', h, hg⟩⟩

/-- A ClusterSummary marked for deletion and released stays so through every step but a
creation. -/
theorem step_released {s : Step} (hs : ∀ spec, s ≠ .create spec) (hdel : w.Deleting)
    (hrel : ¬w.finalizerPersisted) :
    (w.step s).1.Deleting ∧ ¬(w.step s).1.finalizerPersisted :=
  ⟨fun _ h => (step_deleting hs hdel h).1, fun ⟨_, h, hF⟩ =>
    let ⟨c, hc, hcF⟩ := (step_deleting hs hdel h).2 _ hF
    hrel ⟨c, hc, hcF⟩⟩

theorem run_append (w : World) (steps steps' : List Step) :
    (w.run (steps ++ steps')).1 = ((w.run steps).1.run steps').1 := by
  induction steps generalizing w with
  | nil => rfl
  | cons s steps ih => exact ih _

theorem run_deleting {steps : List Step} (hsteps : ∀ spec, Step.create spec ∉ steps)
    (hdel : w.Deleting) : (w.run steps).1.Deleting :=
  (run_safe Deleting (fun s => ∀ spec, s ≠ .create spec) (fun _ => True)
    (fun _ _ hs hw => ⟨fun _ h => (step_deleting hs hw h).1, fun _ _ => trivial⟩) hdel steps
    fun _ hs spec hcreate => hsteps spec (hcreate ▸ hs)).1

theorem run_released {steps : List Step} (hsteps : ∀ spec, Step.create spec ∉ steps)
    (hdel : w.Deleting) (hrel : ¬w.finalizerPersisted) : ¬(w.run steps).1.finalizerPersisted :=
  (run_safe (fun w => w.Deleting ∧ ¬w.finalizerPersisted)
    (fun s => ∀ spec, s ≠ .create spec) (fun _ => True)
    (fun _ _ hs hw => ⟨step_released hs hw.1 hw.2, fun _ _ => trivial⟩) ⟨hdel, hrel⟩ steps
    fun _ hs spec hcreate => hsteps spec (hcreate ▸ hs)).1.2

/-- Once the deletion of a ClusterSummary is requested, a run that does not create it anew and
has one pass whose calls all succeed ends with its finalizer released. -/
theorem released_run (hdel : w.Deleting) {steps : List Step}
    (hsteps : ∀ spec, Step.create spec ∉ steps) {o : Outcomes} (ho : o.DeleteSucceeds)
    (hgood : Step.reconcile o ∈ steps) : ¬(w.run steps).1.finalizerPersisted := by
  obtain ⟨before, after, rfl⟩ := List.append_of_mem hgood
  have hno (spec) : Step.create spec ∉ before ∧ Step.create spec ∉ after := by
    simpa using hsteps spec
  have hbefore := run_deleting (fun spec => (hno spec).1) hdel
  rw [run_append]
  show ¬(((w.run before).1.step (.reconcile o)).1.run after).1.finalizerPersisted
  exact run_released (fun spec => (hno spec).2)
    (fun _ h => (step_deleting (by intro _ h; cases h) hbefore h).1)
    (reconcile_releases hbefore ho)

theorem Protected.run (hw : w.Protected) (steps : List Step) : (w.run steps).1.Protected :=
  (run_safe Protected (fun _ => True) (fun _ => True)
    (fun _ s _ h => ⟨step_protected s h, fun _ _ => trivial⟩) hw _ fun _ _ => trivial).1

/-- Where the features are protected, a released ClusterSummary has nothing but Prometheus
deployed, and that on an existing cluster. -/
theorem Protected.released (hw : w.Protected) (hrel : ¬w.finalizerPersisted) {f : FeatureID}
    (hf : w.workload.deployed f = true) : f = .prometheus ∧ w.workload.clusterExists = true :=
  ⟨by_contra fun hne => hrel ((hw f hf).2 hne), (hw f hf).1⟩

end World

/-- Once the deletion of a ClusterSummary is requested, every run that does not create it anew
and has one pass whose calls all succeed releases it: its finalizer is gone after the run, and
from a world whose deployed features are protected, nothing but Prometheus, which
`unDeployPrometheus` leaves in place, stays deployed for it, and that on an existing cluster.
Passes failing before the good one only delay the release. -/
theorem World.deletion_completes {w : World} (hw : w.Protected) (hdel : w.Deleting)
    {steps : List Step} (hsteps : ∀ spec, Step.create spec ∉ steps)
    {o : Outcomes} (ho : o.DeleteSucceeds) (hgood : Step.reconcile o ∈ steps) :
    ¬(w.run steps).1.finalizerPersisted ∧
      ∀ f, (w.run steps).1.workload.deployed f = true →
        f = .prometheus ∧ (w.run steps).1.workload.clusterExists = true :=
  have hgone := World.released_run hdel hsteps ho hgood
  ⟨hgone, fun _ => (hw.run steps).released hgone⟩

/-- The registered ClusterSummary of `deleteRun`, its deletion requested while its roles are
deployed on an existing cluster. -/
def deletingWorld : World :=
  ⟨"summary", some ⟨"summary", [ClusterSummaryFinalizer], some 1, rolesOnlySpec, ⟨"csaaaaaaaaaa"⟩⟩,
    .empty, { Workload.idle with deployed := fun feature => feature == .role }⟩

/-- A pass whose undeploys time out, then a pass whose calls all succeed. -/
def retriedDeletion : List Step :=
  [.reconcile { Outcomes.succeeding "bbbbbbbbbb" with undeployErr := fun _ => some "timeout" },
    .reconcile (.succeeding "cccccccccc")]

/-- The deletion retried after failed undeploys completes. -/
theorem World.deletion_completes_retried :
    deletingWorld.Protected ∧ deletingWorld.Deleting ∧
    (∀ spec, Step.create spec ∉ retriedDeletion) ∧
    (Outcomes.succeeding "cccccccccc").DeleteSucceeds ∧
    Step.reconcile (.succeeding "cccccccccc") ∈ retriedDeletion ∧
    ¬(deletingWorld.run retriedDeletion).1.finalizerPersisted ∧
    ∀ f, (deletingWorld.run retriedDeletion).1.workload.deployed f = true →
      f = .prometheus ∧ (deletingWorld.run retriedDeletion).1.workload.clusterExists = true := by
  have hw : deletingWorld.Protected := fun _ _ =>
    ⟨rfl, fun _ => ⟨_, rfl, List.mem_singleton_self _⟩⟩
  have hdel : deletingWorld.Deleting := fun _ h => by cases h; rfl
  have hsteps : ∀ spec, Step.create spec ∉ retriedDeletion := by
    intro spec h; simp [retriedDeletion] at h
  have ho : (Outcomes.succeeding "cccccccccc").DeleteSucceeds :=
    ⟨rfl, rfl, rfl, rfl, fun _ => rfl, rfl⟩
  have hgood : Step.reconcile (.succeeding "cccccccccc") ∈ retriedDeletion :=
    List.mem_cons_of_mem _ (List.mem_singleton_self _)
  exact ⟨hw, hdel, hsteps, ho, hgood, World.deletion_completes hw hdel hsteps ho hgood⟩

/-- On an object not marked for deletion, one pass whose calls to the API server succeed
registers the ClusterSummary, whatever its deploys return: the persisted object is the fetched
one with the finalizer and a non-empty prefix, the maps record its references, and every feature
it configures is attempted on an existing cluster. -/
theorem reconcile_registers {w : World} {clusterSummary : ClusterSummary}
    (hpers : w.persisted = some clusterSummary) (hdel : clusterSummary.deletionTimestamp = none)
    {o : Outcomes} (ho : o.RegisterSucceeds) :
    ∃ registered : ClusterSummary, (reconcile o w).1.persisted = some registered ∧
      ClusterSummaryFinalizer ∈ registered.finalizers ∧
      registered.status.policyPrefix ≠ "" ∧ registered.name = clusterSummary.name ∧
      registered.spec = clusterSummary.spec ∧
      (reconcile o w).1.maps = w.maps.updatesMaps registered ∧
      ∀ f, registered.configures f = true → w.workload.clusterExists = true →
        (reconcile o w).1.workload.deployed f = true := by
  obtain ⟨hget, howner, hscope, hpatch, hclose⟩ := ho
  obtain ⟨p₁, hcs, hmaps, hwork, heq⟩ :=
    reconcileNormal_of_patch o ⟨w, clusterSummary, []⟩ hpatch
  have hF :
      ClusterSummaryFinalizer ∈ (generatePolicyNamePrefix o p₁).clusterSummary.finalizers := by
    simp [hcs]
  rw [reconcile_fst_of_fetched hpers hget howner hscope, if_neg (by simp [hdel]), heq]
  refine ⟨(generatePolicyNamePrefix o p₁).clusterSummary, ?_, hF,
    generatePolicyNamePrefix_policyPrefix_ne o p₁, by simp [hcs], by simp [hcs], ?_,
    fun f hf hex => ?_⟩
  · simp [ClusterSummaryScope.close, Pass.write_persisted, hclose, persist_of_mem hF]
  · simp [ClusterSummaryScope.close, hmaps]
  · simp only [ClusterSummaryScope.close, Pass.write_workload]
    exact (deploy_deployed o _ f).mpr (.inr ⟨by simpa using hf, by simpa [hwork] using hex⟩)

/-- Outcomes in which the API server answers every call and the deployer fails every feature. -/
def Outcomes.deployerDown : Outcomes :=
  { Outcomes.succeeding "aaaaaaaaaa" with deployErr := fun _ => some "unreachable" }

/-- The ClusterSummary of `deleteRun` just created, on the cluster of `World.initial`. -/
def createdWorld : World := (World.initial.step (.create rolesOnlySpec.clusterFeatureSpec)).1

/-- The first pass on a new ClusterSummary registers it although every deploy fails. -/
theorem reconcile_registers_deployerDown :
    createdWorld.persisted = some ⟨"summary", [], none, rolesOnlySpec, ⟨""⟩⟩ ∧
    Outcomes.deployerDown.RegisterSucceeds ∧
    ∃ registered : ClusterSummary,
      (reconcile .deployerDown createdWorld).1.persisted = some registered ∧
      ClusterSummaryFinalizer ∈ registered.finalizers ∧
      registered.status.policyPrefix ≠ "" ∧ registered.name = "summary" ∧
      registered.spec = rolesOnlySpec ∧
      (reconcile .deployerDown createdWorld).1.maps = createdWorld.maps.updatesMaps registered ∧
      ∀ f, registered.configures f = true → createdWorld.workload.clusterExists = true →
        (reconcile .deployerDown createdWorld).1.workload.deployed f = true := by
  have hpers : createdWorld.persisted = some ⟨"summary", [], none, rolesOnlySpec, ⟨""⟩⟩ :=
    rfl
  have ho : Outcomes.deployerDown.RegisterSucceeds := ⟨rfl, rfl, rfl, rfl, rfl⟩
  exact ⟨hpers, ho, reconcile_registers hpers rfl ho⟩

end AddonController
