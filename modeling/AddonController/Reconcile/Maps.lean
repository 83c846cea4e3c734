import AddonController.Reconcile.Lifecycle

/-!
# What a pass does to the maps

`updatesMaps` is the only function of `Reconcile` that touches the reconciler's maps, and
`reconcileNormal` calls it right before `deploy`, for the object deploy is handed. So a pass
changes the maps exactly by one `updatesMaps` call per deploy, in order. Nor does a pass read
the maps: on two worlds that differ only in the maps it persists the same object, leaves the
same workload, logs the same events and returns the same result and error. Passes on different
ClusterSummaries can therefore share the maps and take effect one at a time.
-/

namespace AddonController

open ClusterSummaryReconciler

/-- The object a `deploy` event hands to the features: `updatesMaps` ran on it just before. -/
def Event.deployed : Event → Option ClusterSummary
  | .deploy clusterSummary => some clusterSummary
  | _ => none

/-! ### A pass updates the maps for the objects it deploys -/

/-- The maps of the pass are `maps` updated, in order, for each object its deploys were
handed. -/
def Pass.IndexedFrom (p : Pass) (maps : ClusterSummaryReconciler) : Prop :=
  p.world.maps =
    (p.events.filterMap Event.deployed).foldl ClusterSummaryReconciler.updatesMaps maps

section Indexed

variable (o : Outcomes) {p : Pass} {maps : ClusterSummaryReconciler}

/-- A write that logs no deploy keeps the maps following the deploys. -/
theorem Pass.write_indexedFrom (err : Option String) {event : Event}
    (hevent : event.deployed = none) (h : p.IndexedFrom maps) :
    (p.write err event).IndexedFrom maps := by
  simpa [Pass.IndexedFrom, hevent] using h

theorem deployFeatureEvents_deployed (clusterSummary : ClusterSummary) :
    (deployFeatureEvents o clusterSummary).filterMap Event.deployed = [] := by
  unfold deployFeatureEvents; split <;> split <;> rfl

/-- `updatesMaps` right before `deploy`, as `reconcileNormal` calls them, records the object
deploy is handed. -/
theorem deploy_updatesMaps_indexedFrom (h : p.IndexedFrom maps) :
    (deploy o p.updatesMaps).1.IndexedFrom maps := by
  simp only [Pass.IndexedFrom] at h ⊢
  simp [deploy_events, Event.deployed, deployFeatureEvents_deployed, h]

theorem reconcileNormal_indexedFrom (h : p.IndexedFrom maps) :
    (reconcileNormal o p).1.IndexedFrom maps := by
  have hpatch : (ClusterSummaryScope.patchObject o (withFinalizer p)).IndexedFrom maps :=
    Pass.write_indexedFrom _ (by rfl) h
  rcases reconcileNormal_cases o p with ⟨-, -, heq⟩ | ⟨p₁, -, hp₁, heq⟩
  · rwa [heq]
  · have h₁ : p₁.IndexedFrom maps := by
      rcases hp₁ with rfl | ⟨-, rfl⟩
      exacts [h, hpatch]
    rw [heq]
    exact deploy_updatesMaps_indexedFrom o (by simpa [Pass.IndexedFrom] using h₁)

theorem reconcileDelete_indexedFrom (h : p.IndexedFrom maps) :
    (reconcileDelete o p).1.IndexedFrom maps := by
  rw [Pass.IndexedFrom, reconcileDelete_fst]
  by_cases hreach : undeployReachesFeatures o p <;>
    simpa [undeploy_events, Event.deployed, hreach] using h

/-- A `Reconcile` pass updates the maps for each object its deploys were handed, in order. -/
theorem reconcile_maps_eq_foldl (w : World) :
    (reconcile o w).1.maps =
      ((reconcile o w).2.1.filterMap Event.deployed).foldl updatesMaps w.maps := by
  rcases reconcile_cases o w with ⟨hworld, hev⟩ | ⟨clusterSummary, -, hworld, hev⟩
  · rw [hworld, hev]; rfl
  · rw [hworld, hev]
    refine Pass.write_indexedFrom _ (by rfl) ?_
    split
    · exact reconcileDelete_indexedFrom o rfl
    · exact reconcileNormal_indexedFrom o rfl

end Indexed

/-- Every step updates the maps for each object its deploys were handed, in order. -/
theorem World.step_maps_eq_foldl (w : World) (s : Step) :
    (w.step s).1.maps = ((w.step s).2.filterMap Event.deployed).foldl updatesMaps w.maps := by
  cases s with
  | reconcile o => exact reconcile_maps_eq_foldl o w
  | create spec => simp only [World.step]; split <;> rfl
  | _ => rfl

/-! ### A pass never reads the maps -/

/-- The pass with the reconciler's maps replaced by `maps`. -/
def Pass.setMaps (p : Pass) (maps : ClusterSummaryReconciler) : Pass :=
  { p with world := { p.world with maps := maps } }

section SetMaps

variable (o : Outcomes) (p : Pass) (maps : ClusterSummaryReconciler)

@[simp] theorem Pass.setMaps_clusterSummary :
    (p.setMaps maps).clusterSummary = p.clusterSummary := rfl

theorem Pass.write_setMaps (err : Option String) (event : Event) :
    (p.setMaps maps).write err event = (p.write err event).setMaps maps := by
  unfold Pass.write Pass.setMaps; split <;> rfl

theorem deploy_setMaps :
    deploy o (p.setMaps maps) = ((deploy o p).1.setMaps maps, (deploy o p).2) := by
  by_cases hk : p.clusterSummary.spec.clusterFeatureSpec.kyvernoConfiguration.isSome <;>
    by_cases hp : p.clusterSummary.spec.clusterFeatureSpec.prometheusConfiguration.isSome <;>
    simp only [deploy, deployRoles, deployKyverno,
      ClusterSummaryReconciler.deployPrometheus, deployIfConfigured,
      deployFeature_clusterSummary, Pass.setMaps_clusterSummary, hk, hp, if_true, if_false,
      Bool.false_eq_true] <;> rfl

theorem undeployFeature_setMaps (feature : FeatureID) (undeployFunction : Workload → Workload) :
    undeployFeature o feature undeployFunction (p.setMaps maps) =
      ((undeployFeature o feature undeployFunction p).1.setMaps maps,
        (undeployFeature o feature undeployFunction p).2) := by
  simp only [undeployFeature]
  cases o.undeployErr feature <;> rfl

theorem undeploy_setMaps :
    undeploy o (p.setMaps maps) = ((undeploy o p).1.setMaps maps, (undeploy o p).2) := by
  have hreach : undeployReachesFeatures o (p.setMaps maps) = undeployReachesFeatures o p := rfl
  rw [undeploy_eq, undeploy_eq, hreach]
  split <;> simp only [undeployFeature_setMaps]

theorem reconcileDelete_setMaps :
    reconcileDelete o (p.setMaps maps) =
      ((reconcileDelete o p).1.setMaps maps, (reconcileDelete o p).2) := by
  refine Prod.ext ?_ ?_
  · rw [reconcileDelete_fst, reconcileDelete_fst, undeploy_setMaps]; rfl
  · rw [reconcileDelete_snd, reconcileDelete_snd, undeploy_setMaps]

theorem generatePolicyNamePrefix_setMaps :
    generatePolicyNamePrefix o (p.setMaps maps) = (generatePolicyNamePrefix o p).setMaps maps := by
  unfold generatePolicyNamePrefix Pass.setMaps; split <;> rfl

theorem addFinalizer_setMaps :
    addFinalizer o (p.setMaps maps) = ((addFinalizer o p).1.setMaps maps, (addFinalizer o p).2) :=
  Prod.ext (Pass.write_setMaps (withFinalizer p) maps o.patchErr (.patchObject o.patchErr)) rfl

theorem Pass.updatesMaps_setMaps :
    (p.setMaps maps).updatesMaps = p.updatesMaps.setMaps (maps.updatesMaps p.clusterSummary) := rfl

theorem reconcileNormal_setMaps :
    ∃ maps', reconcileNormal o (p.setMaps maps) =
      ((reconcileNormal o p).1.setMaps maps', (reconcileNormal o p).2) := by
  by_cases hF : ClusterSummaryFinalizer ∈ p.clusterSummary.finalizers
  · simp only [reconcileNormal, Pass.setMaps_clusterSummary, controllerutil.containsFinalizer,
      decide_eq_true hF, Bool.not_true, Bool.false_eq_true, if_false,
      generatePolicyNamePrefix_setMaps, Pass.updatesMaps_setMaps, deploy_setMaps]
    exact ⟨_, by split <;> rfl⟩
  · simp only [reconcileNormal, Pass.setMaps_clusterSummary, controllerutil.containsFinalizer,
      decide_eq_false hF, Bool.not_false, if_true, addFinalizer_setMaps]
    cases hpatch : o.patchErr with
    | some err => exact ⟨maps, by simp only [addFinalizer, hpatch, Option.map_some']⟩
    | none =>
      simp only [addFinalizer, hpatch, Option.map_none', generatePolicyNamePrefix_setMaps,
        Pass.updatesMaps_setMaps, deploy_setMaps]
      exact ⟨_, by split <;> rfl⟩

end SetMaps

theorem close_setMaps (o : Outcomes) (p : Pass) (maps : ClusterSummaryReconciler) :
    (ClusterSummaryScope.close o (p.setMaps maps)).world =
      { (ClusterSummaryScope.close o p).world with maps := maps } := by
  simp only [ClusterSummaryScope.close, Pass.write_setMaps]; rfl

/-- `Reconcile` on a world whose maps are replaced does the same, but for the maps. -/
theorem reconcile_setMaps (o : Outcomes) (w : World) (maps : ClusterSummaryReconciler) :
    ∃ maps', reconcile o { w with maps := maps } =
      ({ (reconcile o w).1 with maps := maps' }, (reconcile o w).2) := by
  obtain ⟨name, persisted, r, workload⟩ := w
  cases persisted with
  | none => simp only [reconcile]; cases o.getErr <;> exact ⟨maps, rfl⟩
  | some c =>
    have hpass : (⟨⟨name, some c, maps, workload⟩, c, []⟩ : Pass) =
        (⟨⟨name, some c, r, workload⟩, c, []⟩ : Pass).setMaps maps := rfl
    simp only [reconcile]
    cases o.getErr <;> cases o.ownerErr <;> cases o.scopeErr <;> try exact ⟨maps, rfl⟩
    simp only [hpass]
    by_cases hdel : c.deletionTimestamp.isSome = true
    · simp only [hdel, if_true, reconcileDelete_setMaps, close_setMaps]
      exact ⟨maps, rfl⟩
    · obtain ⟨maps', h⟩ := reconcileNormal_setMaps o ⟨⟨name, some c, r, workload⟩, c, []⟩ maps
      simp only [hdel, Bool.false_eq_true, if_false, h, close_setMaps]
      exact ⟨maps', rfl⟩

/-- A pass on a world whose maps are replaced does the same, and updates the replaced maps by the
same `updatesMaps` calls. -/
theorem reconcile_setMaps_eq (o : Outcomes) (w : World) (maps : ClusterSummaryReconciler) :
    reconcile o { w with maps := maps } =
      ({ (reconcile o w).1 with
          maps := ((reconcile o w).2.1.filterMap Event.deployed).foldl updatesMaps maps },
        (reconcile o w).2) := by
  obtain ⟨maps', h⟩ := reconcile_setMaps o w maps
  have hmaps := reconcile_maps_eq_foldl o { w with maps := maps }
  rw [h] at hmaps ⊢
  rw [← hmaps]

theorem World.step_setMaps (w : World) (s : Step) (maps : ClusterSummaryReconciler) :
    ({ w with maps := maps } : World).step s =
      ({ (w.step s).1 with
          maps := ((w.step s).2.filterMap Event.deployed).foldl updatesMaps maps },
        (w.step s).2) := by
  cases s with
  | reconcile o => simp only [World.step, reconcile_setMaps_eq]
  | create spec => simp only [World.step]; split <;> rfl
  | _ => rfl

/-- A run never reads the maps: on other maps it does the same, and records its deploys on
them. -/
theorem World.run_setMaps (w : World) (steps : List Step) (maps : ClusterSummaryReconciler) :
    ({ w with maps := maps } : World).run steps =
      ({ (w.run steps).1 with
          maps := ((w.run steps).2.filterMap Event.deployed).foldl updatesMaps maps },
        (w.run steps).2) := by
  induction steps generalizing w maps with
  | nil => rfl
  | cons s steps ih =>
    simp only [World.run, World.step_setMaps]
    rw [ih (w.step s).1]
    simp only [List.filterMap_append, List.foldl_append]

/-- A pass never reads the reference index: from two worlds of the same request that agree on
the ClusterSummary and the workload, whatever their maps hold, a pass persists the same object,
leaves the same workload, logs the same events and returns the same result and error. -/
theorem reconcile_noninterference (o : Outcomes) {w₁ w₂ : World} (hname : w₁.name = w₂.name)
    (hpersisted : w₁.persisted = w₂.persisted) (hworkload : w₁.workload = w₂.workload) :
    (reconcile o w₁).1.persisted = (reconcile o w₂).1.persisted ∧
      (reconcile o w₁).1.workload = (reconcile o w₂).1.workload ∧
      (reconcile o w₁).2 = (reconcile o w₂).2 := by
  have hw₂ : w₂ = { w₁ with maps := w₂.maps } := by
    obtain ⟨_, _, _, _⟩ := w₁; obtain ⟨_, _, _, _⟩ := w₂; simp_all
  rw [hw₂, reconcile_setMaps_eq o w₁ w₂.maps]
  exact ⟨rfl, rfl, rfl⟩

/-- The registered ClusterSummary of `registeredWorld` with its references recorded. -/
def recordedWorld : World :=
  { registeredWorld "" with
    maps := ClusterSummaryReconciler.empty.updatesMaps
      ⟨"summary", [ClusterSummaryFinalizer], none, rolesOnlySpec, ⟨""⟩⟩ }

/-- A pass acts alike on the registered ClusterSummary with and without its references
recorded. -/
theorem reconcile_noninterference_recorded :
    (registeredWorld "").name = recordedWorld.name ∧
    (registeredWorld "").persisted = recordedWorld.persisted ∧
    (registeredWorld "").workload = recordedWorld.workload ∧
    (reconcile (.succeeding "aaaaaaaaaa") (registeredWorld "")).1.persisted =
      (reconcile (.succeeding "aaaaaaaaaa") recordedWorld).1.persisted ∧
    (reconcile (.succeeding "aaaaaaaaaa") (registeredWorld "")).1.workload =
      (reconcile (.succeeding "aaaaaaaaaa") recordedWorld).1.workload ∧
    (reconcile (.succeeding "aaaaaaaaaa") (registeredWorld "")).2 =
      (reconcile (.succeeding "aaaaaaaaaa") recordedWorld).2 :=
  ⟨rfl, rfl, rfl, reconcile_noninterference (.succeeding "aaaaaaaaaa") rfl rfl rfl⟩

end AddonController
