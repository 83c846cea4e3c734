import AddonController.Reconcile.Pass

/-!
# What each step of a pass changes

One lemma per function of `Reconcile` and per field it may change: the persisted object, the
workload, the maps, the scope's object and the events. The lifecycle proofs use these lemmas
and never unfold a pass.
-/

namespace AddonController

/-- The features `deploy` attempts: the roles always, the others when configured. -/
def ClusterSummary.configures (clusterSummary : ClusterSummary) : FeatureID → Bool
  | .role => true
  | .kyverno => clusterSummary.spec.clusterFeatureSpec.kyvernoConfiguration.isSome
  | .prometheus => clusterSummary.spec.clusterFeatureSpec.prometheusConfiguration.isSome

@[simp] theorem Workload.deployAttempted_clusterExists (w : Workload) (feature : FeatureID) :
    (w.deployAttempted feature).clusterExists = w.clusterExists := rfl

@[simp] theorem Workload.deployAttempted_deployed (w : Workload) (feature f : FeatureID) :
    (w.deployAttempted feature).deployed f =
      if f = feature then w.deployed f || w.clusterExists else w.deployed f := by
  by_cases h : f = feature
  · subst h; simp [deployAttempted]
  · simp [deployAttempted, h]

@[simp] theorem Workload.deployAttempted_cluster (w : Workload) (feature : FeatureID) :
    (w.deployAttempted feature).cluster = w.cluster := rfl

@[simp] theorem Workload.undeployed_clusterExists (w : Workload) (feature : FeatureID) :
    (w.undeployed feature).clusterExists = w.clusterExists := rfl

@[simp] theorem Workload.undeployed_cluster (w : Workload) (feature : FeatureID) :
    (w.undeployed feature).cluster = w.cluster := rfl

@[simp] theorem Workload.undeployed_deployed (w : Workload) (feature f : FeatureID) :
    (w.undeployed feature).deployed f = if f = feature then false else w.deployed f := by
  by_cases h : f = feature
  · subst h; simp [undeployed]
  · simp [undeployed, h]

section Write

variable (p : Pass) (err : Option String) (event : Event)

@[simp] theorem Pass.write_clusterSummary :
    (p.write err event).clusterSummary = p.clusterSummary := rfl

@[simp] theorem Pass.write_events : (p.write err event).events = p.events ++ [event] := rfl

@[simp] theorem Pass.write_workload : (p.write err event).world.workload = p.world.workload := by
  unfold Pass.write; split <;> rfl

@[simp] theorem Pass.write_maps : (p.write err event).world.maps = p.world.maps := by
  unfold Pass.write; split <;> rfl

@[simp] theorem Pass.write_name : (p.write err event).world.name = p.world.name := by
  unfold Pass.write; split <;> rfl

theorem Pass.write_persisted :
    (p.write err event).world.persisted =
      if err.isNone then persist p.clusterSummary else p.world.persisted := by
  unfold Pass.write; split <;> rfl

@[simp] theorem Pass.updatesMaps_clusterSummary :
    p.updatesMaps.clusterSummary = p.clusterSummary := rfl

@[simp] theorem Pass.updatesMaps_events : p.updatesMaps.events = p.events := rfl

@[simp] theorem Pass.updatesMaps_name : p.updatesMaps.world.name = p.world.name := rfl

@[simp] theorem Pass.updatesMaps_persisted :
    p.updatesMaps.world.persisted = p.world.persisted := rfl

@[simp] theorem Pass.updatesMaps_workload : p.updatesMaps.world.workload = p.world.workload := rfl

@[simp] theorem Pass.updatesMaps_maps :
    p.updatesMaps.world.maps = p.world.maps.updatesMaps p.clusterSummary := rfl

end Write

/-- The finalizer is persisted. -/
def World.finalizerPersisted (w : World) : Prop :=
  ∃ clusterSummary, w.persisted = some clusterSummary ∧
    ClusterSummaryFinalizer ∈ clusterSummary.finalizers

/-- A written object that carries a finalizer is kept. -/
theorem persist_of_mem {clusterSummary : ClusterSummary} {finalizer : String}
    (h : finalizer ∈ clusterSummary.finalizers) : persist clusterSummary = some clusterSummary := by
  have hne : clusterSummary.finalizers.isEmpty = false := by
    cases hf : clusterSummary.finalizers with
    | nil => simp [hf] at h
    | cons _ _ => rfl
  simp [persist, hne]

/-- An object patched with a finalizer is kept. -/
@[simp] theorem persist_addFinalizer (clusterSummary : ClusterSummary) (finalizer : String) :
    persist (controllerutil.addFinalizer clusterSummary finalizer) =
      some (controllerutil.addFinalizer clusterSummary finalizer) :=
  persist_of_mem (controllerutil.mem_addFinalizer.mpr (.inl rfl))

theorem eq_of_persist_eq_some {clusterSummary c : ClusterSummary}
    (h : persist clusterSummary = some c) : c = clusterSummary := by
  unfold persist at h
  split at h
  · cases h
  · exact (Option.some.inj h).symm

/-- A write persists the scope's object or nothing, so a property of persisted objects that the
scope's object has survives it. -/
theorem Pass.write_persisted_of {Q : ClusterSummary → Prop} {p : Pass} (err : Option String)
    (event : Event) (h : Q p.clusterSummary) (hw : ∀ c, p.world.persisted = some c → Q c) :
    ∀ c, (p.write err event).world.persisted = some c → Q c := by
  intro c hc
  rw [Pass.write_persisted] at hc
  split at hc
  · rw [eq_of_persist_eq_some hc]; exact h
  · exact hw c hc

/-- Writing an object that carries the finalizer keeps the finalizer persisted. -/
theorem Pass.write_finalizerPersisted {p : Pass} (err : Option String) (event : Event)
    (h : ClusterSummaryFinalizer ∈ p.clusterSummary.finalizers) (hp : p.world.finalizerPersisted) :
    (p.write err event).world.finalizerPersisted := by
  unfold Pass.write
  split
  · exact ⟨_, persist_of_mem h, h⟩
  · exact hp

namespace ClusterSummaryReconciler

variable (o : Outcomes) (p : Pass)

/-! ### Deploying -/

section Deploy

variable (feature : FeatureID) (configured : Bool)

@[simp] theorem deployFeature_clusterSummary :
    (deployFeature o feature p).1.clusterSummary = p.clusterSummary := rfl

@[simp] theorem deployFeature_persisted :
    (deployFeature o feature p).1.world.persisted = p.world.persisted := rfl

@[simp] theorem deployFeature_maps : (deployFeature o feature p).1.world.maps = p.world.maps := rfl

@[simp] theorem deployFeature_name : (deployFeature o feature p).1.world.name = p.world.name := rfl

@[simp] theorem deployFeature_workload :
    (deployFeature o feature p).1.world.workload = p.world.workload.deployAttempted feature := rfl

@[simp] theorem deployFeature_events :
    (deployFeature o feature p).1.events =
      p.events ++ [.deployFeature feature (o.deployErr feature)] :=
  rfl

@[simp] theorem deployFeature_snd : (deployFeature o feature p).2 = o.deployErr feature := rfl

@[simp] theorem deployIfConfigured_clusterSummary :
    (deployIfConfigured o configured feature p).1.clusterSummary = p.clusterSummary := by
  cases configured <;> rfl

@[simp] theorem deployIfConfigured_persisted :
    (deployIfConfigured o configured feature p).1.world.persisted = p.world.persisted := by
  cases configured <;> rfl

@[simp] theorem deployIfConfigured_maps :
    (deployIfConfigured o configured feature p).1.world.maps = p.world.maps := by
  cases configured <;> rfl

@[simp] theorem deployIfConfigured_name :
    (deployIfConfigured o configured feature p).1.world.name = p.world.name := by
  cases configured <;> rfl

@[simp] theorem deployIfConfigured_workload :
    (deployIfConfigured o configured feature p).1.world.workload =
      if configured then p.world.workload.deployAttempted feature else p.world.workload := by
  cases configured <;> rfl

@[simp] theorem deployIfConfigured_events :
    (deployIfConfigured o configured feature p).1.events =
      p.events ++ if configured then [.deployFeature feature (o.deployErr feature)] else [] := by
  cases configured <;> simp [deployIfConfigured]

@[simp] theorem deployIfConfigured_snd :
    (deployIfConfigured o configured feature p).2 =
      if configured then o.deployErr feature else none := by
  cases configured <;> rfl

end Deploy

/-- The events of the features `deploy` attempts. -/
def deployFeatureEvents (clusterSummary : ClusterSummary) : List Event :=
  .deployFeature .role (o.deployErr .role) ::
    ((if clusterSummary.configures .kyverno then [.deployFeature .kyverno (o.deployErr .kyverno)]
      else []) ++
    (if clusterSummary.configures .prometheus then
      [.deployFeature .prometheus (o.deployErr .prometheus)] else []))

@[simp] theorem deploy_clusterSummary : (deploy o p).1.clusterSummary = p.clusterSummary := by
  simp [deploy, deployRoles, deployKyverno, deployPrometheus]

@[simp] theorem deploy_persisted : (deploy o p).1.world.persisted = p.world.persisted := by
  simp [deploy, deployRoles, deployKyverno, deployPrometheus]

@[simp] theorem deploy_maps : (deploy o p).1.world.maps = p.world.maps := by
  simp [deploy, deployRoles, deployKyverno, deployPrometheus]

@[simp] theorem deploy_name : (deploy o p).1.world.name = p.world.name := by
  simp [deploy, deployRoles, deployKyverno, deployPrometheus]

/-- `deploy` changes only what is deployed on the workload cluster. -/
theorem deploy_workload :
    (deploy o p).1.world.workload =
      { p.world.workload with deployed := (deploy o p).1.world.workload.deployed } := by
  simp only [deploy, deployRoles, deployKyverno, deployPrometheus, deployIfConfigured_workload,
    deployFeature_workload]
  split <;> split <;> rfl

@[simp] theorem deploy_clusterExists :
    (deploy o p).1.world.workload.clusterExists = p.world.workload.clusterExists := by
  rw [deploy_workload]

@[simp] theorem deploy_cluster :
    (deploy o p).1.world.workload.cluster = p.world.workload.cluster := by
  rw [deploy_workload]

/-- `deploy` may leave resources of exactly the attempted features, and only on an existing
cluster. -/
theorem deploy_deployed (f : FeatureID) :
    (deploy o p).1.world.workload.deployed f = true ↔
      p.world.workload.deployed f = true ∨
        (p.clusterSummary.configures f = true ∧ p.world.workload.clusterExists = true) := by
  simp only [deploy, deployRoles, deployKyverno, deployPrometheus, deployIfConfigured_workload,
    deployFeature_workload, deployIfConfigured_clusterSummary, deployFeature_clusterSummary]
  cases f <;> split <;> split <;> simp_all [ClusterSummary.configures]

theorem deploy_events :
    (deploy o p).1.events =
      p.events ++ .deploy p.clusterSummary :: deployFeatureEvents o p.clusterSummary := by
  simp [deploy, deployRoles, deployKyverno, deployPrometheus, deployFeatureEvents,
    ClusterSummary.configures]

/-! ### Undeploying -/

section Undeploy

variable (feature : FeatureID) (undeployFunction : Workload → Workload)

@[simp] theorem undeployFeature_clusterSummary :
    (undeployFeature o feature undeployFunction p).1.clusterSummary = p.clusterSummary := rfl

@[simp] theorem undeployFeature_name :
    (undeployFeature o feature undeployFunction p).1.world.name = p.world.name := by
  unfold undeployFeature; dsimp only; split <;> rfl

@[simp] theorem undeployFeature_persisted :
    (undeployFeature o feature undeployFunction p).1.world.persisted = p.world.persisted := by
  unfold undeployFeature; dsimp only; split <;> rfl

@[simp] theorem undeployFeature_maps :
    (undeployFeature o feature undeployFunction p).1.world.maps = p.world.maps := by
  unfold undeployFeature; dsimp only; split <;> rfl

@[simp] theorem undeployFeature_workload :
    (undeployFeature o feature undeployFunction p).1.world.workload =
      if (o.undeployErr feature).isNone then undeployFunction p.world.workload
      else p.world.workload := by
  unfold undeployFeature; dsimp only; split <;> rfl

@[simp] theorem undeployFeature_events :
    (undeployFeature o feature undeployFunction p).1.events =
      p.events ++ [.undeployFeature feature (o.undeployErr feature)] := rfl

@[simp] theorem undeployFeature_snd :
    (undeployFeature o feature undeployFunction p).2 = o.undeployErr feature := rfl

end Undeploy

/-- Whether `undeploy` reaches the features: the CAPI cluster was read and exists. -/
def undeployReachesFeatures (p : Pass) : Bool :=
  o.clusterGetErr.isNone && p.world.workload.clusterExists

theorem undeploy_eq : undeploy o p =
    if undeployReachesFeatures o p then
      let roles := undeployFeature o .role unDeployWorkloadRoles p
      let kyverno := undeployFeature o .kyverno unDeployKyverno roles.1
      let prometheus := undeployFeature o .prometheus unDeployPrometheus kyverno.1
      (prometheus.1, roles.2 <|> kyverno.2 <|> prometheus.2)
    else (p, o.clusterGetErr) := by
  unfold undeploy undeployReachesFeatures
  cases o.clusterGetErr <;> cases p.world.workload.clusterExists <;> rfl

@[simp] theorem undeploy_clusterSummary : (undeploy o p).1.clusterSummary = p.clusterSummary := by
  rw [undeploy_eq]; split <;> simp

@[simp] theorem undeploy_name : (undeploy o p).1.world.name = p.world.name := by
  rw [undeploy_eq]; split <;> simp

@[simp] theorem undeploy_persisted : (undeploy o p).1.world.persisted = p.world.persisted := by
  rw [undeploy_eq]; split <;> simp

@[simp] theorem undeploy_maps : (undeploy o p).1.world.maps = p.world.maps := by
  rw [undeploy_eq]; split <;> simp

/-- `undeploy` changes only what is deployed on the workload cluster. -/
theorem undeploy_workload :
    (undeploy o p).1.world.workload =
      { p.world.workload with deployed := (undeploy o p).1.world.workload.deployed } := by
  rw [undeploy_eq]
  split
  · simp only [undeployFeature_workload, unDeployWorkloadRoles, unDeployKyverno,
      unDeployPrometheus, ite_self]
    split <;> split <;> rfl
  · rfl

@[simp] theorem undeploy_clusterExists :
    (undeploy o p).1.world.workload.clusterExists = p.world.workload.clusterExists := by
  rw [undeploy_workload]

@[simp] theorem undeploy_cluster :
    (undeploy o p).1.world.workload.cluster = p.world.workload.cluster := by
  rw [undeploy_workload]

/-- A feature stays deployed through `undeploy` unless its undeploy was reached and returned
nil and its undeploy function removes it: any feature but Prometheus. -/
theorem undeploy_deployed (f : FeatureID) :
    (undeploy o p).1.world.workload.deployed f = true ↔
      p.world.workload.deployed f = true ∧
        ¬(undeployReachesFeatures o p = true ∧ o.undeployErr f = none ∧ f ≠ .prometheus) := by
  rw [undeploy_eq]
  split
  · simp only [undeployFeature_workload, unDeployWorkloadRoles, unDeployKyverno,
      unDeployPrometheus, ite_self]
    cases f <;> split <;> split <;> simp_all [Option.isNone_iff_eq_none]
  · simp_all

/-- `undeploy` returns nil exactly when the CAPI cluster is not found, or every feature's
undeploy returns nil. -/
theorem undeploy_snd_eq_none :
    (undeploy o p).2 = none ↔
      o.clusterGetErr = none ∧
        (p.world.workload.clusterExists = true → ∀ f, o.undeployErr f = none) := by
  rw [undeploy_eq]
  unfold undeployReachesFeatures
  split
  · rename_i hreach
    simp only [Bool.and_eq_true, Option.isNone_iff_eq_none] at hreach
    simp only [undeployFeature_snd, Option.orElse_eq_none, hreach, true_implies, true_and]
    constructor
    · rintro ⟨hr, hk, hp⟩ f; cases f <;> assumption
    · intro h; exact ⟨h _, h _, h _⟩
  · cases h : o.clusterGetErr <;> simp_all

theorem undeploy_events :
    (undeploy o p).1.events =
      p.events ++ if undeployReachesFeatures o p then
        [.undeployFeature .role (o.undeployErr .role),
          .undeployFeature .kyverno (o.undeployErr .kyverno),
          .undeployFeature .prometheus (o.undeployErr .prometheus)]
      else [] := by
  rw [undeploy_eq]; split <;> simp

/-! ### The policy prefix -/

@[simp] theorem generatePolicyNamePrefix_world :
    (generatePolicyNamePrefix o p).world = p.world := by
  unfold generatePolicyNamePrefix; split <;> rfl

@[simp] theorem generatePolicyNamePrefix_events :
    (generatePolicyNamePrefix o p).events = p.events := by
  unfold generatePolicyNamePrefix; split <;> rfl

@[simp] theorem generatePolicyNamePrefix_finalizers :
    (generatePolicyNamePrefix o p).clusterSummary.finalizers = p.clusterSummary.finalizers := by
  unfold generatePolicyNamePrefix; split <;> rfl

@[simp] theorem generatePolicyNamePrefix_spec :
    (generatePolicyNamePrefix o p).clusterSummary.spec = p.clusterSummary.spec := by
  unfold generatePolicyNamePrefix; split <;> rfl

@[simp] theorem generatePolicyNamePrefix_name :
    (generatePolicyNamePrefix o p).clusterSummary.name = p.clusterSummary.name := by
  unfold generatePolicyNamePrefix; split <;> rfl

@[simp] theorem generatePolicyNamePrefix_deletionTimestamp :
    (generatePolicyNamePrefix o p).clusterSummary.deletionTimestamp =
      p.clusterSummary.deletionTimestamp := by
  unfold generatePolicyNamePrefix; split <;> rfl

/-- The status after `generatePolicyNamePrefix`: the old one, or a new prefix when there was
none. -/
theorem generatePolicyNamePrefix_status :
    (generatePolicyNamePrefix o p).clusterSummary.status =
      if p.clusterSummary.status.policyPrefix = "" then ⟨"cs" ++ o.randomString⟩
      else p.clusterSummary.status := by
  unfold generatePolicyNamePrefix; split <;> rfl

/-! ### `reconcileNormal` and `reconcileDelete` -/

/-- The scope's object with the finalizer added, as `addFinalizer` patches it. -/
def withFinalizer (p : Pass) : Pass :=
  { p with clusterSummary := controllerutil.addFinalizer p.clusterSummary ClusterSummaryFinalizer }

@[simp] theorem withFinalizer_world : (withFinalizer p).world = p.world := rfl

@[simp] theorem withFinalizer_events : (withFinalizer p).events = p.events := rfl

@[simp] theorem withFinalizer_clusterSummary :
    (withFinalizer p).clusterSummary =
      controllerutil.addFinalizer p.clusterSummary ClusterSummaryFinalizer := rfl

/-- What `reconcileNormal` does: either registering the finalizer fails and it stops there, or
it deploys from a pass whose object carries the finalizer, the pass itself or the patched one. -/
theorem reconcileNormal_cases :
    (ClusterSummaryFinalizer ∉ p.clusterSummary.finalizers ∧ o.patchErr.isSome ∧
      (reconcileNormal o p).1 = ClusterSummaryScope.patchObject o (withFinalizer p)) ∨
    ∃ p₁ : Pass, ClusterSummaryFinalizer ∈ p₁.clusterSummary.finalizers ∧
      (p₁ = p ∨ (o.patchErr = none ∧ p₁ = ClusterSummaryScope.patchObject o (withFinalizer p))) ∧
      (reconcileNormal o p).1 = (deploy o (generatePolicyNamePrefix o p₁).updatesMaps).1 := by
  by_cases hF : ClusterSummaryFinalizer ∈ p.clusterSummary.finalizers
  · refine .inr ⟨p, hF, .inl rfl, ?_⟩
    simp only [reconcileNormal, controllerutil.containsFinalizer, decide_eq_true hF, Bool.not_true,
      Bool.false_eq_true, if_false]
    split <;> rfl
  · cases hpatch : o.patchErr with
    | some err =>
      refine .inl ⟨hF, by simp [hpatch], ?_⟩
      simp [reconcileNormal, hF, controllerutil.containsFinalizer, addFinalizer, hpatch,
        withFinalizer]
    | none =>
      refine .inr ⟨_, by simp [ClusterSummaryScope.patchObject, withFinalizer], .inr ⟨rfl, rfl⟩, ?_⟩
      simp only [reconcileNormal, controllerutil.containsFinalizer, decide_eq_false hF,
        Bool.not_false, if_true, addFinalizer, hpatch, Option.map_none', withFinalizer]
      split <;> rfl

/-- What `reconcileDelete` does to the pass: it undeploys, logs the result, and drops the
finalizer from the scope's object exactly when undeploy returned nil. -/
theorem reconcileDelete_fst :
    (reconcileDelete o p).1 =
      { (undeploy o p).1 with
        clusterSummary :=
          if (undeploy o p).2.isNone then
            (controllerutil.removeFinalizer p.clusterSummary ClusterSummaryFinalizer).1
          else p.clusterSummary
        events := (undeploy o p).1.events ++ [.undeploy (undeploy o p).2] } := by
  cases h : (undeploy o p).2 with
  | some err => simp [reconcileDelete, h]
  | none =>
    by_cases hF : ClusterSummaryFinalizer ∈ p.clusterSummary.finalizers
    · simp [reconcileDelete, h, hF, controllerutil.removeFinalizer]
    · have hkeep : p.clusterSummary.finalizers.filter (· != ClusterSummaryFinalizer) =
          p.clusterSummary.finalizers :=
        List.filter_eq_self.mpr fun g hg => by
          simp only [bne_iff_ne, ne_eq]; rintro rfl; exact hF hg
      simp [reconcileDelete, h, hF, controllerutil.removeFinalizer, hkeep]

@[simp] theorem reconcileDelete_persisted :
    (reconcileDelete o p).1.world.persisted = p.world.persisted := by
  simp [reconcileDelete_fst]

@[simp] theorem reconcileDelete_maps : (reconcileDelete o p).1.world.maps = p.world.maps := by
  simp [reconcileDelete_fst]

@[simp] theorem reconcileDelete_spec :
    (reconcileDelete o p).1.clusterSummary.spec = p.clusterSummary.spec := by
  rw [reconcileDelete_fst]; split <;> rfl

@[simp] theorem reconcileDelete_status :
    (reconcileDelete o p).1.clusterSummary.status = p.clusterSummary.status := by
  rw [reconcileDelete_fst]; split <;> rfl

/-- `reconcileDelete` never deploys. -/
theorem deploy_mem_reconcileDelete {x : ClusterSummary}
    (h : Event.deploy x ∈ (reconcileDelete o p).1.events) : Event.deploy x ∈ p.events := by
  rw [reconcileDelete_fst, undeploy_events] at h
  simp only [List.mem_append, List.mem_singleton, reduceCtorEq, or_false] at h
  split at h <;> simpa using h

/-- `reconcileDelete` never fails: it requeues after `deleteRequeueAfter` exactly when undeploy
failed. The finalizer it removes is present, so `RemoveFinalizer` always reports an update. -/
theorem reconcileDelete_snd :
    (reconcileDelete o p).2 =
      (if (undeploy o p).2.isSome then ⟨true, deleteRequeueAfter⟩ else {}, none) := by
  cases h : (undeploy o p).2 with
  | some err => simp [reconcileDelete, h]
  | none =>
    by_cases hF : ClusterSummaryFinalizer ∈ p.clusterSummary.finalizers <;>
      simp [reconcileDelete, h, hF, controllerutil.removeFinalizer]

/-- The object `reconcileNormal` leaves in the scope carries the finalizer. -/
theorem reconcileNormal_finalizer_mem :
    ClusterSummaryFinalizer ∈ (reconcileNormal o p).1.clusterSummary.finalizers := by
  rcases reconcileNormal_cases o p with ⟨-, -, heq⟩ | ⟨p₁, hF, -, heq⟩
  · simp [heq, ClusterSummaryScope.patchObject]
  · simp [heq, hF]

/-- The pass `reconcileNormal` deploys from keeps the workload and the status of its input, and
adds at most the successful patch to its events. -/
theorem reconcileNormal_cases_frame {p₁ : Pass}
    (hp₁ : p₁ = p ∨
      (o.patchErr = none ∧ p₁ = ClusterSummaryScope.patchObject o (withFinalizer p))) :
    p₁.world.workload = p.world.workload ∧ p₁.clusterSummary.status = p.clusterSummary.status ∧
      p₁.events ⊆ p.events ++ [.patchObject none] := by
  rcases hp₁ with rfl | ⟨hpatch, rfl⟩
  · simp
  · simp [ClusterSummaryScope.patchObject, hpatch]

@[simp] theorem reconcileNormal_clusterExists :
    (reconcileNormal o p).1.world.workload.clusterExists = p.world.workload.clusterExists := by
  rcases reconcileNormal_cases o p with ⟨-, -, heq⟩ | ⟨p₁, -, hp₁, heq⟩
  · simp [heq, ClusterSummaryScope.patchObject]
  · simp [heq, (reconcileNormal_cases_frame o p hp₁).1]

@[simp] theorem reconcileNormal_cluster :
    (reconcileNormal o p).1.world.workload.cluster = p.world.workload.cluster := by
  rcases reconcileNormal_cases o p with ⟨-, -, heq⟩ | ⟨p₁, -, hp₁, heq⟩
  · simp [heq, ClusterSummaryScope.patchObject]
  · simp [heq, (reconcileNormal_cases_frame o p hp₁).1]

@[simp] theorem reconcileNormal_spec :
    (reconcileNormal o p).1.clusterSummary.spec = p.clusterSummary.spec := by
  rcases reconcileNormal_cases o p with ⟨-, -, heq⟩ | ⟨p₁, -, hp₁, heq⟩
  · simp [heq, ClusterSummaryScope.patchObject]
  · rcases hp₁ with rfl | ⟨-, rfl⟩ <;> simp [heq, ClusterSummaryScope.patchObject]

@[simp] theorem reconcileNormal_name : (reconcileNormal o p).1.world.name = p.world.name := by
  rcases reconcileNormal_cases o p with ⟨-, -, heq⟩ | ⟨p₁, -, hp₁, heq⟩
  · simp [heq, ClusterSummaryScope.patchObject]
  · rcases hp₁ with rfl | ⟨-, rfl⟩ <;> simp [heq, ClusterSummaryScope.patchObject]

/-- `reconcileNormal` leaves resources of a feature only on an existing cluster. -/
theorem reconcileNormal_deployed {f : FeatureID}
    (h : (reconcileNormal o p).1.world.workload.deployed f = true) :
    p.world.workload.deployed f = true ∨ p.world.workload.clusterExists = true := by
  rcases reconcileNormal_cases o p with ⟨-, -, heq⟩ | ⟨p₁, -, hp₁, heq⟩
  · simp only [heq, ClusterSummaryScope.patchObject, Pass.write_workload, withFinalizer_world] at h
    exact .inl h
  · have hwork := (reconcileNormal_cases_frame o p hp₁).1
    rw [heq, deploy_deployed] at h
    simp only [Pass.updatesMaps_workload, generatePolicyNamePrefix_world, hwork] at h
    exact h.imp id And.right

/-- A normal pass keeps every deployed feature deployed. -/
theorem reconcileNormal_deployed_of {f : FeatureID} (hf : p.world.workload.deployed f = true) :
    (reconcileNormal o p).1.world.workload.deployed f = true := by
  rcases reconcileNormal_cases o p with ⟨-, -, heq⟩ | ⟨p₁, -, hp₁, heq⟩
  · simpa [heq, ClusterSummaryScope.patchObject] using hf
  · rw [heq, deploy_deployed]
    simpa [(reconcileNormal_cases_frame o p hp₁).1] using Or.inl hf

/-- Either `reconcileNormal` changed neither the persisted object nor the workload, or the
finalizer is persisted after it. -/
theorem reconcileNormal_persisted (hp : p.world.persisted = some p.clusterSummary) :
    ((reconcileNormal o p).1.world.persisted = p.world.persisted ∧
      (reconcileNormal o p).1.world.workload = p.world.workload) ∨
    (reconcileNormal o p).1.world.finalizerPersisted := by
  rcases reconcileNormal_cases o p with ⟨-, hpatch, heq⟩ | ⟨p₁, hF, hp₁, heq⟩
  · left
    simp [heq, ClusterSummaryScope.patchObject, Pass.write_persisted,
      Option.isSome_iff_ne_none.mp hpatch]
  · refine .inr ⟨p₁.clusterSummary, ?_, hF⟩
    rcases hp₁ with rfl | ⟨hpatch, rfl⟩
    · simpa [heq] using hp
    · simp [heq, ClusterSummaryScope.patchObject, Pass.write_persisted, hpatch]

/-- `reconcileNormal` persists at most the fetched object with the finalizer added. -/
theorem reconcileNormal_persisted_eq :
    (reconcileNormal o p).1.world.persisted = p.world.persisted ∨
      (reconcileNormal o p).1.world.persisted =
        some (controllerutil.addFinalizer p.clusterSummary ClusterSummaryFinalizer) := by
  rcases reconcileNormal_cases o p with ⟨-, hpatch, heq⟩ | ⟨p₁, -, hp₁, heq⟩
  · simp [heq, ClusterSummaryScope.patchObject, Pass.write_persisted,
      Option.isSome_iff_ne_none.mp hpatch]
  · rcases hp₁ with rfl | ⟨hpatch, rfl⟩
    · simp [heq]
    · simp [heq, ClusterSummaryScope.patchObject, Pass.write_persisted, hpatch]

/-- The status `reconcileNormal` leaves in the scope: the fetched one, or the one
`generatePolicyNamePrefix` gives it. -/
theorem reconcileNormal_status :
    (reconcileNormal o p).1.clusterSummary.status = p.clusterSummary.status ∨
      (reconcileNormal o p).1.clusterSummary.status =
        (generatePolicyNamePrefix o p).clusterSummary.status := by
  rcases reconcileNormal_cases o p with ⟨-, -, heq⟩ | ⟨p₁, -, hp₁, heq⟩
  · simp [heq, ClusterSummaryScope.patchObject]
  · simp [heq, generatePolicyNamePrefix_status, (reconcileNormal_cases_frame o p hp₁).2.1]

/-- `reconcileNormal` updates the maps, if at all, for the object it leaves in the scope. -/
theorem reconcileNormal_maps :
    (reconcileNormal o p).1.world.maps = p.world.maps ∨
      (reconcileNormal o p).1.world.maps =
        p.world.maps.updatesMaps (reconcileNormal o p).1.clusterSummary := by
  rcases reconcileNormal_cases o p with ⟨-, -, heq⟩ | ⟨p₁, -, hp₁, heq⟩
  · simp [heq, ClusterSummaryScope.patchObject]
  · right
    rcases hp₁ with rfl | ⟨-, rfl⟩ <;> simp [heq, ClusterSummaryScope.patchObject]

/-- A deploy of `reconcileNormal` sees the finalizer persisted, in the fetched object or by the
patch of `addFinalizer` in the same pass, and the status the pass leaves in the scope, whose
prefix `generatePolicyNamePrefix` fixed. -/
theorem mem_reconcileNormal_deploy {x : ClusterSummary}
    (h : Event.deploy x ∈ (reconcileNormal o p).1.events) :
    Event.deploy x ∈ p.events ∨
      ((ClusterSummaryFinalizer ∈ p.clusterSummary.finalizers ∨
          Event.patchObject none ∈ (reconcileNormal o p).1.events) ∧
        x.status = (generatePolicyNamePrefix o p).clusterSummary.status ∧
        (reconcileNormal o p).1.clusterSummary.status = x.status) := by
  rcases reconcileNormal_cases o p with ⟨-, -, heq⟩ | ⟨p₁, hF, hp₁, heq⟩
  · simp only [heq, ClusterSummaryScope.patchObject, Pass.write_events, withFinalizer_events,
      List.mem_append, List.mem_singleton, reduceCtorEq, or_false] at h
    exact .inl h
  · obtain ⟨-, hstatus, hevents⟩ := reconcileNormal_cases_frame o p hp₁
    rw [heq, deploy_events] at h ⊢
    simp only [Pass.updatesMaps_events, generatePolicyNamePrefix_events,
      Pass.updatesMaps_clusterSummary, List.mem_append, List.mem_cons, Event.deploy.injEq] at h ⊢
    rcases h with h | rfl | h
    · rcases List.mem_append.mp (hevents h) with h | h
      · exact .inl h
      · simp at h
    · refine .inr ⟨?_, by simp [generatePolicyNamePrefix_status, hstatus], by simp⟩
      rcases hp₁ with rfl | ⟨hpatch, rfl⟩
      · exact .inl hF
      · simp [ClusterSummaryScope.patchObject, hpatch]
    · simp [deployFeatureEvents] at h

/-! ### `Reconcile` -/

/-- What a `Reconcile` pass does: it stops before acting, or it handles the fetched object, the
persisted one, by `reconcileDelete` or `reconcileNormal`, and closes the scope. -/
theorem reconcile_cases (w : World) :
    ((reconcile o w).1 = w ∧ (reconcile o w).2.1 = []) ∨
    ∃ clusterSummary, w.persisted = some clusterSummary ∧
      (reconcile o w).1 = (ClusterSummaryScope.close o
        (if clusterSummary.deletionTimestamp.isSome then reconcileDelete o ⟨w, clusterSummary, []⟩
          else reconcileNormal o ⟨w, clusterSummary, []⟩).1).world ∧
      (reconcile o w).2.1 = (ClusterSummaryScope.close o
        (if clusterSummary.deletionTimestamp.isSome then reconcileDelete o ⟨w, clusterSummary, []⟩
          else reconcileNormal o ⟨w, clusterSummary, []⟩).1).events := by
  unfold reconcile
  split
  · exact .inl ⟨rfl, rfl⟩
  · exact .inl ⟨rfl, rfl⟩
  · rename_i clusterSummary _ hpersisted
    split
    · exact .inl ⟨rfl, rfl⟩
    · exact .inl ⟨rfl, rfl⟩
    · exact .inr ⟨clusterSummary, hpersisted, rfl, rfl⟩

/-- A `Reconcile` pass keeps the request it serves. -/
@[simp] theorem reconcile_name (w : World) : (reconcile o w).1.name = w.name := by
  rcases reconcile_cases o w with ⟨hworld, -⟩ | ⟨clusterSummary, -, hworld, -⟩
  · rw [hworld]
  · simp only [hworld, ClusterSummaryScope.close, Pass.write_name]
    split <;> simp [reconcileDelete_fst]

/-- A `Reconcile` pass changes the maps by at most one `updatesMaps` call. -/
theorem reconcile_maps (w : World) :
    (reconcile o w).1.maps = w.maps ∨
      ∃ clusterSummary, (reconcile o w).1.maps = w.maps.updatesMaps clusterSummary := by
  rcases reconcile_cases o w with ⟨hworld, -⟩ | ⟨clusterSummary, -, hworld, -⟩
  · exact .inl (by rw [hworld])
  · simp only [hworld, ClusterSummaryScope.close, Pass.write_maps]
    split
    · exact .inl (by simp)
    · exact (reconcileNormal_maps o _).imp id fun h => ⟨_, h⟩

/-- A pass that deploys handled an object not marked for deletion with `reconcileNormal`. -/
theorem reconcile_cases_of_deploy {w : World} {x : ClusterSummary}
    (h : Event.deploy x ∈ (reconcile o w).2.1) :
    ∃ clusterSummary, w.persisted = some clusterSummary ∧ clusterSummary.deletionTimestamp = none ∧
      Event.deploy x ∈ (reconcileNormal o ⟨w, clusterSummary, []⟩).1.events ∧
      (reconcile o w).1 =
        (ClusterSummaryScope.close o (reconcileNormal o ⟨w, clusterSummary, []⟩).1).world ∧
      (reconcile o w).2.1 =
        (ClusterSummaryScope.close o (reconcileNormal o ⟨w, clusterSummary, []⟩).1).events := by
  rcases reconcile_cases o w with ⟨-, hev⟩ | ⟨clusterSummary, hpers, hworld, hev⟩
  · simp [hev] at h
  · have hclose {q : Pass} (hq : Event.deploy x ∈ (ClusterSummaryScope.close o q).events) :
        Event.deploy x ∈ q.events := by
      simpa [ClusterSummaryScope.close] using hq
    rw [hev] at h
    split at h
    · simpa using deploy_mem_reconcileDelete o _ (hclose h)
    · rename_i hdel
      rw [if_neg hdel] at hworld hev
      exact ⟨clusterSummary, hpers, by simpa using hdel, hclose h, hworld, hev⟩

end ClusterSummaryReconciler

end AddonController
