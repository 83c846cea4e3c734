import AddonController.Reconcile.Effects

/-!
# The lifecycle of a ClusterSummary

A run interleaves `Reconcile` passes, each with outcomes of its own, with what other actors do:
the ClusterSummary is created, its spec changes, its deletion is requested, and its CAPI cluster
comes and goes. A pass fails only when a call to the API server fails, and requeues after a
fixed delay when deploy or undeploy fails. Over every run, deploy runs only once the finalizer
is persisted, and the finalizer goes only in a deleting pass whose undeploy returned nil; so a
ClusterSummary is never released while its roles or Kyverno may remain on an existing cluster.
`unDeployPrometheus` removes nothing: Prometheus stays on the cluster after the release. The
policy-name prefix is stable only from the first pass whose status write succeeded: after a
failed `Close` the next pass deploys under a new prefix.
-/

namespace AddonController

/-- What may happen between two observations of the ClusterSummary. -/
inductive Step
  /-- A `Reconcile` pass, with the outcomes of its calls. -/
  | reconcile (o : Outcomes)
  /-- The ClusterSummary of the world's name is created for the CAPI cluster of the world, with
  the features `clusterFeatureSpec`, without finalizer or status, unless it exists. -/
  | create (clusterFeatureSpec : ClusterFeatureSpec)
  /-- Its features change. The CAPI cluster its spec names, the one `undeploy` looks up, stays
  the one it was created for. -/
  | updateSpec (clusterFeatureSpec : ClusterFeatureSpec)
  /-- Its deletion is requested: the API server marks it, and removes it if no finalizer holds
  it. -/
  | requestDeletion (time : Nat)
  /-- The CAPI cluster is created. -/
  | createCluster
  /-- The CAPI cluster is deleted, and with it everything deployed there. -/
  | deleteCluster

namespace World

/-- One step: the new world, and the events of a `Reconcile` pass. -/
def step (w : World) : Step → World × List Event
  | .reconcile o =>
    ((ClusterSummaryReconciler.reconcile o w).1, (ClusterSummaryReconciler.reconcile o w).2.1)
  | .create clusterFeatureSpec =>
    (if w.persisted.isNone then
      { w with
        persisted := some ⟨w.name, [], none,
          ⟨w.workload.cluster.«namespace», w.workload.cluster.name, clusterFeatureSpec⟩, ⟨""⟩⟩ }
    else w, [])
  | .updateSpec clusterFeatureSpec =>
    ({ w with
        persisted := w.persisted.map fun clusterSummary =>
          { clusterSummary with
            spec := { clusterSummary.spec with clusterFeatureSpec := clusterFeatureSpec } } },
      [])
  | .requestDeletion time =>
    ({ w with
        persisted := w.persisted.bind fun clusterSummary =>
          persist { clusterSummary with
            deletionTimestamp := some (clusterSummary.deletionTimestamp.getD time) } },
      [])
  | .createCluster => ({ w with workload := { w.workload with clusterExists := true } }, [])
  | .deleteCluster =>
    ({ w with workload := { w.workload with clusterExists := false, deployed := fun _ => false } },
      [])

/-- A run: the last world and the events of every step, in order. -/
def run (w : World) : List Step → World × List Event
  | [] => (w, [])
  | s :: steps =>
    let rest := (w.step s).1.run steps
    (rest.1, (w.step s).2 ++ rest.2)

/-- A step keeps the request its world serves. -/
@[simp] theorem step_name (w : World) (s : Step) : (w.step s).1.name = w.name := by
  cases s with
  | reconcile o => exact ClusterSummaryReconciler.reconcile_name o w
  | create spec => simp only [step]; split <;> rfl
  | _ => rfl

/-- A property of worlds that every allowed step keeps, and a property of the events every
allowed step emits from such a world, hold over every run of allowed steps. -/
theorem run_safe (P : World → Prop) (allowed : Step → Prop) (Q : Event → Prop)
    (hstep : ∀ w s, allowed s → P w → P (w.step s).1 ∧ ∀ e ∈ (w.step s).2, Q e)
    {w : World} (hw : P w) (steps : List Step) (hsteps : ∀ s ∈ steps, allowed s) :
    P (w.run steps).1 ∧ ∀ e ∈ (w.run steps).2, Q e := by
  induction steps generalizing w with
  | nil => exact ⟨hw, by simp [run]⟩
  | cons s steps ih =>
    obtain ⟨hnext, hemits⟩ := hstep w s (hsteps s (List.mem_cons_self _ _)) hw
    obtain ⟨hlast, hlater⟩ := ih hnext fun s' hs' => hsteps s' (List.mem_cons_of_mem _ hs')
    refine ⟨hlast, fun e he => ?_⟩
    rcases List.mem_append.mp he with he | he
    · exact hemits e he
    · exact hlater e he

/-- A feature that may be deployed is on an existing cluster. Unless it is Prometheus, which
`undeploy` never removes, it also holds the ClusterSummary back by its persisted finalizer. -/
def Protected (w : World) : Prop :=
  ∀ f, w.workload.deployed f = true →
    w.workload.clusterExists = true ∧ (f ≠ .prometheus → w.finalizerPersisted)

end World

open ClusterSummaryReconciler

/-! ### One pass -/

section Pass

variable (o : Outcomes) {w : World} {clusterSummary : ClusterSummary}

/-- The `Close` of a normal pass keeps the finalizer persisted, unless the pass changed nothing
on the workload and the finalizer was not persisted before. -/
theorem close_reconcileNormal_finalizerPersisted (hpers : w.persisted = some clusterSummary)
    (h : w.finalizerPersisted ∨
      (reconcileNormal o ⟨w, clusterSummary, []⟩).1.world.workload ≠ w.workload) :
    (ClusterSummaryScope.close o
      (reconcileNormal o ⟨w, clusterSummary, []⟩).1).world.finalizerPersisted := by
  refine Pass.write_finalizerPersisted _ _ (reconcileNormal_finalizer_mem o _) ?_
  rcases reconcileNormal_persisted o ⟨w, clusterSummary, []⟩ hpers with ⟨hsame, hwork⟩ | hfin
  · rcases h with ⟨c, hc, hF⟩ | h
    · exact ⟨c, hsame.trans hc, hF⟩
    · exact absurd hwork h
  · exact hfin

/-- A normal pass keeps every deployed feature protected. -/
theorem reconcileNormal_protected (hpers : w.persisted = some clusterSummary) (hw : w.Protected) :
    (ClusterSummaryScope.close o
      (reconcileNormal o ⟨w, clusterSummary, []⟩).1).world.Protected := by
  intro f hf
  simp only [ClusterSummaryScope.close, Pass.write_workload] at hf ⊢
  have hexists : w.workload.clusterExists = true :=
    (reconcileNormal_deployed o _ hf).elim (fun h => (hw f h).1) id
  refine ⟨by simpa using hexists, fun hf' => close_reconcileNormal_finalizerPersisted o hpers ?_⟩
  by_cases hwork : (reconcileNormal o ⟨w, clusterSummary, []⟩).1.world.workload = w.workload
  · exact .inl ((hw f (hwork ▸ hf)).2 hf')
  · exact .inr hwork

/-- A deleting pass whose undeploy failed leaves its object, finalizer included, as it was. -/
theorem close_reconcileDelete_finalizerPersisted (hpers : w.persisted = some clusterSummary)
    (hfin : w.finalizerPersisted) (hundeploy : (undeploy o ⟨w, clusterSummary, []⟩).2 ≠ none) :
    (ClusterSummaryScope.close o
      (reconcileDelete o ⟨w, clusterSummary, []⟩).1).world.finalizerPersisted := by
  obtain ⟨c, hc, hF⟩ := hfin
  obtain rfl : c = clusterSummary := Option.some_injective _ (hc.symm.trans hpers)
  refine Pass.write_finalizerPersisted _ _ ?_ ⟨c, ?_, hF⟩
  · simpa [reconcileDelete_fst, Option.isNone_iff_eq_none, hundeploy] using hF
  · simpa using hpers

/-- A deleting pass keeps every deployed feature protected: undeploy returns nil only once the
features it removes are gone from an existing cluster. -/
theorem reconcileDelete_protected (hpers : w.persisted = some clusterSummary) (hw : w.Protected) :
    (ClusterSummaryScope.close o
      (reconcileDelete o ⟨w, clusterSummary, []⟩).1).world.Protected := by
  intro f hf
  simp only [ClusterSummaryScope.close, Pass.write_workload, reconcileDelete_fst] at hf ⊢
  obtain ⟨hbefore, hnot⟩ := (undeploy_deployed o _ f).mp hf
  obtain ⟨hexists, hfin⟩ := hw f hbefore
  refine ⟨by simpa using hexists, fun hf' => ?_⟩
  have hundeploy : (undeploy o ⟨w, clusterSummary, []⟩).2 ≠ none := by
    intro hnone
    obtain ⟨hget, hall⟩ := (undeploy_snd_eq_none o _).mp hnone
    exact hnot ⟨by simp [undeployReachesFeatures, hget, hexists], hall hexists f, hf'⟩
  simpa [ClusterSummaryScope.close, reconcileDelete_fst] using
    close_reconcileDelete_finalizerPersisted o hpers (hfin hf') hundeploy

/-- `unDeployPrometheus` removes nothing, so no pass takes Prometheus off the workload cluster. -/
theorem reconcile_prometheus_deployed (h : w.workload.deployed .prometheus = true) :
    (reconcile o w).1.workload.deployed .prometheus = true := by
  rcases reconcile_cases o w with ⟨hworld, -⟩ | ⟨clusterSummary, -, hworld, -⟩
  · rwa [hworld]
  · simp only [hworld, ClusterSummaryScope.close, Pass.write_workload]
    split
    · simpa [reconcileDelete_fst, undeploy_deployed] using h
    · exact reconcileNormal_deployed_of o _ h

/-- A `Reconcile` pass keeps every deployed feature protected. -/
theorem reconcile_protected (hw : w.Protected) : (reconcile o w).1.Protected := by
  rcases reconcile_cases o w with ⟨hworld, -⟩ | ⟨clusterSummary, hpers, hworld, -⟩
  · rwa [hworld]
  · rw [hworld]
    split
    · exact reconcileDelete_protected o hpers hw
    · exact reconcileNormal_protected o hpers hw

end Pass

/-! ### Deploy requires the finalizer; the finalizer requires undeploy -/

namespace World

/-- A step other than a `Reconcile` pass keeps the finalizer persisted. -/
theorem finalizerPersisted_step {w : World} {s : Step} (hs : ∀ o, s ≠ .reconcile o)
    (h : w.finalizerPersisted) : (w.step s).1.finalizerPersisted := by
  obtain ⟨c, hc, hF⟩ := h
  cases s with
  | reconcile o => exact absurd rfl (hs o)
  | create spec => exact ⟨c, by simp [step, hc], hF⟩
  | updateSpec features =>
    exact ⟨{ c with spec := { c.spec with clusterFeatureSpec := features } }, by simp [step, hc],
      hF⟩
  | requestDeletion time =>
    exact ⟨{ c with deletionTimestamp := some (c.deletionTimestamp.getD time) },
      by simp only [step, hc, Option.bind_some]; exact persist_of_mem hF, hF⟩
  | createCluster | deleteCluster => exact ⟨c, hc, hF⟩

/-- Every step keeps every deployed feature protected. -/
theorem step_protected {w : World} (s : Step) (hw : w.Protected) : (w.step s).1.Protected := by
  have hkeep (hs : ∀ o, s ≠ .reconcile o) (hwork : (w.step s).1.workload = w.workload) :
      (w.step s).1.Protected := fun f hf =>
    have hbefore := hw f (hwork ▸ hf)
    ⟨hwork ▸ hbefore.1, fun hf' => finalizerPersisted_step hs (hbefore.2 hf')⟩
  cases s with
  | reconcile o => exact reconcile_protected o hw
  | create spec => exact hkeep (fun _ h => nomatch h) (by simp only [step]; split <;> rfl)
  | updateSpec features => exact hkeep (fun _ h => nomatch h) rfl
  | requestDeletion time => exact hkeep (fun _ h => nomatch h) rfl
  | createCluster => exact fun f hf => ⟨rfl, (hw f hf).2⟩
  | deleteCluster => intro f hf; simp [step] at hf

/-- From a world where nothing is deployed, every run keeps every deployed feature protected. -/
theorem protected_run {w : World} (hw : ∀ f, w.workload.deployed f = false) (steps : List Step) :
    (w.run steps).1.Protected :=
  (run_safe Protected (fun _ => True) (fun _ => True)
    (fun _ s _ h => ⟨step_protected s h, fun _ _ => trivial⟩)
    (fun f hf => by simp [hw f] at hf) steps fun _ _ => trivial).1

/-- Once deployed, Prometheus stays on the workload cluster through every step but the deletion
of the cluster itself. -/
theorem step_prometheus_deployed {w : World} {s : Step} (hs : s ≠ .deleteCluster)
    (h : w.workload.deployed .prometheus = true) :
    (w.step s).1.workload.deployed .prometheus = true := by
  cases s with
  | reconcile o => exact reconcile_prometheus_deployed o h
  | create spec => simp only [step]; split <;> exact h
  | deleteCluster => exact absurd rfl hs
  | _ => exact h

/-- Once deployed, Prometheus stays on the workload cluster through every run that does not
delete the cluster, its ClusterSummary's deletion included. -/
theorem prometheus_deployed_run {w : World} (h : w.workload.deployed .prometheus = true)
    {steps : List Step} (hsteps : Step.deleteCluster ∉ steps) :
    (w.run steps).1.workload.deployed .prometheus = true :=
  (run_safe (fun w => w.workload.deployed .prometheus = true) (· ≠ .deleteCluster) (fun _ => True)
    (fun _ _ hs h => ⟨step_prometheus_deployed hs h, fun _ _ => trivial⟩) h steps
    fun _ hs heq => hsteps (heq ▸ hs)).1

/-- A deploy runs only in a `Reconcile` pass on an object not marked for deletion whose finalizer
is persisted: fetched with it, or patched in by `addFinalizer` in the same pass. -/
theorem deploy_mem_step {w : World} {s : Step} {x : ClusterSummary}
    (h : Event.deploy x ∈ (w.step s).2) :
    ∃ o clusterSummary, s = .reconcile o ∧ w.persisted = some clusterSummary ∧
      clusterSummary.deletionTimestamp = none ∧
      (ClusterSummaryFinalizer ∈ clusterSummary.finalizers ∨
        Event.patchObject none ∈ (w.step s).2) := by
  cases s with
  | reconcile o =>
    obtain ⟨clusterSummary, hpers, hdel, hx, -, hev⟩ := reconcile_cases_of_deploy o h
    rcases mem_reconcileNormal_deploy o _ hx with hx | ⟨hfin, -⟩
    · simp at hx
    · refine ⟨o, clusterSummary, rfl, hpers, hdel, hfin.imp id fun hpatch => ?_⟩
      simp [step, hev, ClusterSummaryScope.close, hpatch]
  | _ => simp [step] at h

/-- The finalizer leaves the persisted object only in a `Reconcile` pass on an object marked for
deletion whose undeploy returned nil: the CAPI cluster was not found, or the undeploys of the
roles, Kyverno and Prometheus all returned nil. -/
theorem finalizer_removed_step {w : World} {s : Step} (hfin : w.finalizerPersisted)
    (hgone : ¬(w.step s).1.finalizerPersisted) :
    ∃ o clusterSummary, s = .reconcile o ∧ w.persisted = some clusterSummary ∧
      clusterSummary.deletionTimestamp.isSome ∧ Event.undeploy none ∈ (w.step s).2 ∧
      o.clusterGetErr = none ∧ (w.workload.clusterExists = true → ∀ f, o.undeployErr f = none) := by
  cases s with
  | reconcile o =>
    rcases reconcile_cases o w with ⟨hworld, -⟩ | ⟨clusterSummary, hpers, hworld, hev⟩
    · exact absurd (by simpa [step, hworld] using hfin) hgone
    · simp only [step, hworld, hev] at hgone ⊢
      split at hgone
      · rename_i hdel
        have hundeploy : (undeploy o ⟨w, clusterSummary, []⟩).2 = none := by
          by_contra hne
          exact hgone (close_reconcileDelete_finalizerPersisted o hpers hfin hne)
        refine ⟨o, clusterSummary, rfl, hpers, hdel, ?_, (undeploy_snd_eq_none o _).mp hundeploy⟩
        simp [hdel, ClusterSummaryScope.close, reconcileDelete_fst, hundeploy]
      · exact absurd (close_reconcileNormal_finalizerPersisted o hpers (.inl hfin)) hgone
  | _ => exact (hgone (finalizerPersisted_step (fun _ h => nomatch h) hfin)).elim

end World

/-- Over every run: a deploy runs only in a pass on an object not marked for deletion whose
finalizer is persisted; the finalizer leaves the persisted object only in a pass on an object
marked for deletion whose undeploy returned nil; from a world where nothing is deployed, whatever
may be deployed is on an existing cluster, and the roles and Kyverno hold the ClusterSummary
back by its finalizer; and Prometheus, once deployed, stays on the cluster until the cluster is
deleted, after the ClusterSummary's release included. -/
theorem finalizer_guards_deployment :
    (∀ (w : World) (s : Step) (x : ClusterSummary), Event.deploy x ∈ (w.step s).2 →
      ∃ o clusterSummary, s = .reconcile o ∧ w.persisted = some clusterSummary ∧
        clusterSummary.deletionTimestamp = none ∧
        (ClusterSummaryFinalizer ∈ clusterSummary.finalizers ∨
          Event.patchObject none ∈ (w.step s).2)) ∧
    (∀ (w : World) (s : Step), w.finalizerPersisted → ¬(w.step s).1.finalizerPersisted →
      ∃ o clusterSummary, s = .reconcile o ∧ w.persisted = some clusterSummary ∧
        clusterSummary.deletionTimestamp.isSome ∧ Event.undeploy none ∈ (w.step s).2 ∧
        o.clusterGetErr = none ∧ (w.workload.clusterExists = true → ∀ f, o.undeployErr f = none)) ∧
    (∀ w : World, (∀ f, w.workload.deployed f = false) → ∀ steps, (w.run steps).1.Protected) ∧
    (∀ (w : World) (steps : List Step), w.workload.deployed .prometheus = true →
      Step.deleteCluster ∉ steps → (w.run steps).1.workload.deployed .prometheus = true) :=
  ⟨fun _ _ _ => World.deploy_mem_step, fun _ _ => World.finalizer_removed_step,
    fun _ => World.protected_run, fun _ _ h hs => World.prometheus_deployed_run h hs⟩

/-! ### Runs on one ClusterSummary -/

/-- The spec of the ClusterSummary of the runs below: the roles only, on `default/workload`. -/
def rolesOnlySpec : ClusterSummarySpec := ⟨"default", "workload", ⟨[], none, none⟩⟩

/-- The spec configuring the roles and Prometheus, in mode `KubePrometheus`. -/
def prometheusSpec : ClusterSummarySpec :=
  ⟨"default", "workload",
    ⟨[], none, some ⟨PrometheusInstallationModeKubePrometheus, none, none, []⟩⟩⟩

/-- Outcomes of a pass in which every call succeeds and `util.RandomString` returns
`randomString`. -/
def Outcomes.succeeding (randomString : String) : Outcomes :=
  ⟨none, none, none, none, randomString, fun _ => none, none, fun _ => none, none⟩

/-- The existing CAPI cluster `default/workload`, with nothing deployed. -/
def Workload.idle : Workload := ⟨⟨"default", "workload"⟩, true, fun _ => false⟩

/-- A world with no ClusterSummary `summary` yet and an existing CAPI cluster with nothing
deployed. -/
def World.initial : World := ⟨"summary", none, .empty, .idle⟩

/-- The ClusterSummary is created with `spec`, deployed, has its deletion requested and is
deleted, with every call succeeding. -/
def deleteRun (spec : ClusterSummarySpec) : List Step :=
  [.create spec.clusterFeatureSpec, .reconcile (.succeeding "aaaaaaaaaa"), .requestDeletion 1,
    .reconcile (.succeeding "bbbbbbbbbb")]

/-- On the run that creates, deploys and deletes the ClusterSummary with the roles and
Prometheus, the finalizer is persisted before the deleting pass and gone after it, only
Prometheus stays deployed, and it stays through the deletion. -/
theorem finalizer_guards_deployment_deleteRun :
    (World.initial.run ((deleteRun prometheusSpec).take 3)).1.finalizerPersisted ∧
    ¬((World.initial.run ((deleteRun prometheusSpec).take 3)).1.step
      (.reconcile (.succeeding "bbbbbbbbbb"))).1.finalizerPersisted ∧
    Event.undeploy none ∈ ((World.initial.run ((deleteRun prometheusSpec).take 3)).1.step
      (.reconcile (.succeeding "bbbbbbbbbb"))).2 ∧
    (∀ f, World.initial.workload.deployed f = false) ∧
      (World.initial.run (deleteRun prometheusSpec)).1.Protected ∧
    (World.initial.run ((deleteRun prometheusSpec).take 2)).1.workload.deployed .prometheus = true ∧
      Step.deleteCluster ∉ (deleteRun prometheusSpec).drop 2 ∧
      ((World.initial.run ((deleteRun prometheusSpec).take 2)).1.run
        ((deleteRun prometheusSpec).drop 2)).1.workload.deployed .prometheus = true := by
  have hfin : (World.initial.run ((deleteRun prometheusSpec).take 3)).1.finalizerPersisted :=
    ⟨_, rfl, List.mem_singleton_self _⟩
  have hgone : ¬((World.initial.run ((deleteRun prometheusSpec).take 3)).1.step
      (.reconcile (.succeeding "bbbbbbbbbb"))).1.finalizerPersisted := fun ⟨_, h, _⟩ => nomatch h
  obtain ⟨_, _, -, -, -, hundeploy, -⟩ :=
    finalizer_guards_deployment.2.1 _ (.reconcile (.succeeding "bbbbbbbbbb")) hfin hgone
  have hdeployed : (World.initial.run ((deleteRun prometheusSpec).take 2)).1.workload.deployed
      .prometheus = true := rfl
  have hsteps : Step.deleteCluster ∉ (deleteRun prometheusSpec).drop 2 := by simp [deleteRun]
  exact ⟨hfin, hgone, hundeploy, fun _ => rfl,
    finalizer_guards_deployment.2.2.1 World.initial (fun _ => rfl) _, hdeployed, hsteps,
    finalizer_guards_deployment.2.2.2 _ _ hdeployed hsteps⟩

/-- Prometheus outlives the ClusterSummary: created with Prometheus on an existing cluster where
nothing is deployed, deployed and deleted with every call succeeding, the ClusterSummary is gone
from the API server while Prometheus is still deployed on the cluster. -/
theorem prometheus_outlives_release :
    (∀ f, World.initial.workload.deployed f = false) ∧
    Event.undeploy none ∈ (World.initial.run (deleteRun prometheusSpec)).2 ∧
    (World.initial.run (deleteRun prometheusSpec)).1.persisted = none ∧
    (World.initial.run (deleteRun prometheusSpec)).1.workload.clusterExists = true ∧
    (World.initial.run (deleteRun prometheusSpec)).1.workload.deployed .prometheus = true :=
  ⟨fun _ => rfl, by decide, rfl, rfl, rfl⟩

/-! ### The policy prefix -/

namespace World

/-- The persisted ClusterSummary, if there is one, has prefix `policyPrefix`. -/
def PrefixIs (w : World) (policyPrefix : String) : Prop :=
  ∀ clusterSummary, w.persisted = some clusterSummary →
    clusterSummary.status.policyPrefix = policyPrefix

end World

/-- A write keeps the persisted prefix when the scope's object has it. -/
theorem Pass.write_prefixIs {p : Pass} {policyPrefix : String} (err : Option String) (event : Event)
    (h : p.clusterSummary.status.policyPrefix = policyPrefix) (hw : p.world.PrefixIs policyPrefix) :
    (p.write err event).world.PrefixIs policyPrefix := by
  intro c hc
  rw [Pass.write_persisted] at hc
  split at hc
  · rw [eq_of_persist_eq_some hc]; exact h
  · exact hw c hc

section Pass

variable (o : Outcomes) {w : World} {policyPrefix : String}

/-- A `Reconcile` pass keeps a non-empty persisted prefix. -/
theorem reconcile_prefixIs (hne : policyPrefix ≠ "") (hw : w.PrefixIs policyPrefix) :
    (reconcile o w).1.PrefixIs policyPrefix := by
  rcases reconcile_cases o w with ⟨hworld, -⟩ | ⟨clusterSummary, hpers, hworld, -⟩
  · rwa [hworld]
  · have hpfx := hw _ hpers
    rw [hworld]
    split
    · exact Pass.write_prefixIs _ _ (by simpa using hpfx) fun c hc => hw c (by simpa using hc)
    · refine Pass.write_prefixIs _ _ ?_ fun c hc => ?_
      · rcases reconcileNormal_status o ⟨w, clusterSummary, []⟩ with h | h <;>
          simp [h, generatePolicyNamePrefix_status, hpfx, hne]
      · rcases reconcileNormal_persisted_eq o ⟨w, clusterSummary, []⟩ with h | h
        · exact hw c (h ▸ hc)
        · obtain rfl := Option.some.inj (h.symm.trans hc)
          simpa using hpfx

/-- Every deploy of a `Reconcile` pass uses the non-empty prefix the fetched object has. -/
theorem policyPrefix_of_deploy_mem_reconcile (hne : policyPrefix ≠ "")
    (hw : w.PrefixIs policyPrefix)
    {x : ClusterSummary} (hx : Event.deploy x ∈ (reconcile o w).2.1) :
    x.status.policyPrefix = policyPrefix := by
  obtain ⟨clusterSummary, hpers, -, hx, -⟩ := reconcile_cases_of_deploy o hx
  rcases mem_reconcileNormal_deploy o _ hx with hx | ⟨-, hx, -⟩
  · simp at hx
  · simp [hx, generatePolicyNamePrefix_status, hw _ hpers, hne]

end Pass

namespace World

/-- Once a prefix is persisted, a step that creates no ClusterSummary keeps it, and every deploy
of the step uses it. -/
theorem step_prefixIs {w : World} {s : Step} {policyPrefix : String} (hne : policyPrefix ≠ "")
    (hs : ∀ spec, s ≠ .create spec) (hw : w.PrefixIs policyPrefix) :
    (w.step s).1.PrefixIs policyPrefix ∧
      ∀ x, Event.deploy x ∈ (w.step s).2 → x.status.policyPrefix = policyPrefix := by
  cases s with
  | reconcile o =>
    exact ⟨reconcile_prefixIs o hne hw,
      fun _ hx => policyPrefix_of_deploy_mem_reconcile o hne hw hx⟩
  | create spec => exact absurd rfl (hs spec)
  | updateSpec spec =>
    refine ⟨fun c hc => ?_, by simp [step]⟩
    obtain ⟨c', hc', rfl⟩ := Option.map_eq_some'.mp hc
    exact hw c' hc'
  | requestDeletion time =>
    refine ⟨fun c hc => ?_, by simp [step]⟩
    obtain ⟨c', hc', hpersist⟩ := Option.bind_eq_some.mp hc
    rw [eq_of_persist_eq_some hpersist]
    exact hw c' hc'
  | createCluster | deleteCluster => exact ⟨hw, by simp [step]⟩

end World

/-- Once a ClusterSummary has a non-empty prefix persisted, every run that does not re-create it
keeps that prefix persisted, and every deploy of the run uses it. -/
theorem policyPrefix_stable_once_persisted {w : World} {policyPrefix : String}
    (hne : policyPrefix ≠ "") (hw : w.PrefixIs policyPrefix) (steps : List Step)
    (hsteps : ∀ spec, Step.create spec ∉ steps) :
    (w.run steps).1.PrefixIs policyPrefix ∧
      ∀ x, Event.deploy x ∈ (w.run steps).2 → x.status.policyPrefix = policyPrefix := by
  have h := World.run_safe (World.PrefixIs · policyPrefix)
    (fun s => ∀ spec, s ≠ .create spec)
    (fun e => ∀ x, e = Event.deploy x → x.status.policyPrefix = policyPrefix)
    (fun _ _ hs hw => (World.step_prefixIs hne hs hw).imp id fun hd e he x hx => hd x (hx ▸ he))
    hw steps (fun s hs spec hcreate => hsteps spec (hcreate ▸ hs))
  exact ⟨h.1, fun x hx => h.2 _ hx x rfl⟩

/-- A ClusterSummary with the finalizer and prefix `policyPrefix` on the cluster of
`World.initial`. -/
def registeredWorld (policyPrefix : String) : World :=
  { World.initial with persisted := some ⟨"summary", [ClusterSummaryFinalizer], none, rolesOnlySpec,
      ⟨policyPrefix⟩⟩ }

/-- A persisted prefix survives a pass whose `Close` fails, and the deletion of the cluster. -/
theorem policyPrefix_stable_once_persisted_failedClose :
    "csaaaaaaaaaa" ≠ "" ∧ (registeredWorld "csaaaaaaaaaa").PrefixIs "csaaaaaaaaaa" ∧
    (∀ spec, Step.create spec ∉
      [.reconcile { Outcomes.succeeding "bbbbbbbbbb" with closeErr := some "conflict" },
        .deleteCluster, .reconcile (.succeeding "cccccccccc")]) ∧
    ((registeredWorld "csaaaaaaaaaa").run
      [.reconcile { Outcomes.succeeding "bbbbbbbbbb" with closeErr := some "conflict" },
        .deleteCluster, .reconcile (.succeeding "cccccccccc")]).1.PrefixIs "csaaaaaaaaaa" := by
  have hw : (registeredWorld "csaaaaaaaaaa").PrefixIs "csaaaaaaaaaa" := fun _ h => by cases h; rfl
  have hsteps : ∀ spec, Step.create spec ∉
      [.reconcile { Outcomes.succeeding "bbbbbbbbbb" with closeErr := some "conflict" },
        .deleteCluster, .reconcile (.succeeding "cccccccccc")] := by
    intro spec h; simp at h
  exact ⟨by decide, hw, hsteps, (policyPrefix_stable_once_persisted (by decide) hw _ hsteps).1⟩

/-- A run with a failed status write: the ClusterSummary is created, a pass deploys and fails
to write its status, and the next pass succeeds. -/
def failedCloseRun : List Step :=
  [.create rolesOnlySpec.clusterFeatureSpec,
    .reconcile { Outcomes.succeeding "aaaaaaaaaa" with closeErr := some "conflict" },
    .reconcile (.succeeding "bbbbbbbbbb")]

/-- After a `Close` that fails, the next pass generates a new prefix: the two deploys of the run
use different prefixes, and the second one is persisted. -/
theorem policyPrefix_regenerated_after_failed_close :
    Event.deploy ⟨"summary", [ClusterSummaryFinalizer], none, rolesOnlySpec, ⟨"csaaaaaaaaaa"⟩⟩ ∈
      (World.initial.run failedCloseRun).2 ∧
    Event.deploy ⟨"summary", [ClusterSummaryFinalizer], none, rolesOnlySpec, ⟨"csbbbbbbbbbb"⟩⟩ ∈
      (World.initial.run failedCloseRun).2 ∧
    (World.initial.run failedCloseRun).1.persisted =
      some ⟨"summary", [ClusterSummaryFinalizer], none, rolesOnlySpec, ⟨"csbbbbbbbbbb"⟩⟩ := by
  decide

/-! ### The reference index over runs -/

/-- Every run keeps the two maps of the reconciler consistent. -/
theorem World.maps_consistent_run {w : World} (hw : w.maps.Consistent) (steps : List Step) :
    (w.run steps).1.maps.Consistent := by
  refine (run_safe (·.maps.Consistent) (fun _ => True) (fun _ => True)
    (fun w s _ hw => ⟨?_, fun _ _ => trivial⟩) hw steps fun _ _ => trivial).1
  cases s with
  | reconcile o =>
    show (reconcile o w).1.maps.Consistent
    rcases reconcile_maps o w with h | ⟨_, h⟩ <;> rw [h]
    exacts [hw, hw.updatesMaps _]
  | create spec => simp only [step]; split <;> exact hw
  | _ => exact hw

/-- From the empty maps, the run with a failed `Close` keeps the maps consistent. -/
theorem World.maps_consistent_run_failedCloseRun :
    World.initial.maps.Consistent ∧ (World.initial.run failedCloseRun).1.maps.Consistent :=
  ⟨consistent_empty, World.maps_consistent_run consistent_empty failedCloseRun⟩

/-! ### The cluster `undeploy` looks up -/

end AddonController
