import AddonController.Reconcile.Maps
import AddonController.Reconcile.Progress

/-!
# Many ClusterSummaries and one reference index

The reconciler serves every ClusterSummary of the management cluster. Passes on different
ClusterSummaries run concurrently and share nothing but the reconciler's maps, which a pass
changes in one `updatesMaps` call under `Mux`, right before its deploy; so every interleaving
of their calls has the effect of whole passes taken one at a time. A fleet run interleaves the
steps of all ClusterSummaries, each on that ClusterSummary's own world, and allows each to see
its CAPI cluster come and go on its own. Since a pass never reads the maps, each ClusterSummary
runs as if it were alone, and steps of different ClusterSummaries commute. After any run the
maps are the fold of `updatesMaps` over the objects the run's deploys were handed, in order.
From the start of the reconciler they record, for each name, exactly the references of its
latest deploy. What they record for a name changes only by a deploy of that name, so passes on
other ClusterSummaries never disturb it, however they interleave, and a deleted ClusterSummary
stays recorded. The finalizer protects the roles and Kyverno of every ClusterSummary across every
interleaving, and a requested deletion completes at the first pass on it whose calls succeed,
leaving at most Prometheus deployed for it.
-/

namespace AddonController

open ClusterSummaryReconciler

/-! ### The fleet -/

/-- The ClusterSummaries the reconciler serves, by name, each with its workload cluster as its
passes see it, and the maps of the one reconciler. -/
structure Fleet where
  persisted : String → Option ClusterSummary
  maps : ClusterSummaryReconciler
  workload : String → Workload

/-- A world is its request, object, maps and workload. -/
theorem World.mk_eq {w : World} {name : String} (h : w.name = name) :
    (⟨name, w.persisted, w.maps, w.workload⟩ : World) = w := by
  subst h; rfl

namespace Fleet

/-- The world of the ClusterSummary `name`: the request for it, its object, the shared maps and
its workload. -/
def view (f : Fleet) (name : String) : World := ⟨name, f.persisted name, f.maps, f.workload name⟩

/-- A step of the ClusterSummary `name`, taken on its world; the others keep theirs. -/
def step (f : Fleet) (name : String) (s : Step) : Fleet × List Event :=
  let next := (f.view name).step s
  (⟨Function.update f.persisted name next.1.persisted, next.1.maps,
      Function.update f.workload name next.1.workload⟩, next.2)

/-- A run: steps of any ClusterSummaries, in any interleaving; the last fleet and the events of
every step, in order. -/
def run (f : Fleet) : List (String × Step) → Fleet × List Event
  | [] => (f, [])
  | (name, s) :: steps =>
    let rest := (f.step name s).1.run steps
    (rest.1, (f.step name s).2 ++ rest.2)

/-- The fleet as the reconciler process starts: whatever ClusterSummaries and workloads there
are, and maps with no key. -/
def start (persisted : String → Option ClusterSummary) (workload : String → Workload) : Fleet :=
  ⟨persisted, .empty, workload⟩

@[simp] theorem step_persisted (f : Fleet) (name : String) (s : Step) :
    (f.step name s).1.persisted =
      Function.update f.persisted name ((f.view name).step s).1.persisted := rfl

@[simp] theorem step_maps (f : Fleet) (name : String) (s : Step) :
    (f.step name s).1.maps = ((f.view name).step s).1.maps := rfl

@[simp] theorem step_workload (f : Fleet) (name : String) (s : Step) :
    (f.step name s).1.workload =
      Function.update f.workload name ((f.view name).step s).1.workload := rfl

@[simp] theorem step_events (f : Fleet) (name : String) (s : Step) :
    (f.step name s).2 = ((f.view name).step s).2 := rfl

/-- A step of one ClusterSummary changes the world of another only through the maps. -/
theorem view_step (f : Fleet) (name : String) (s : Step) (other : String) :
    (f.step name s).1.view other =
      if other = name then ((f.view name).step s).1
      else { f.view other with maps := ((f.view name).step s).1.maps } := by
  by_cases h : other = name
  · subst h
    simp only [view, step, Function.update_same, if_true]
    exact World.mk_eq (World.step_name _ s)
  · simp [view, step, h]

/-- A step of `m` after a step of another ClusterSummary `n` is the step `m` takes alone,
with its deploys recorded on the maps that `n`'s step left. -/
theorem view_step_of_ne (f : Fleet) {n m : String} (hnm : n ≠ m) (s t : Step) :
    ((f.step n s).1.view m).step t =
      ({ ((f.view m).step t).1 with
          maps := (((f.view m).step t).2.filterMap Event.deployed).foldl updatesMaps
            ((f.view n).step s).1.maps },
        ((f.view m).step t).2) := by
  rw [view_step, if_neg hnm.symm, World.step_setMaps]

/-- After any interleaving, the maps are those before, updated for each object the run's
deploys were handed, in order. -/
theorem maps_run (f : Fleet) (steps : List (String × Step)) :
    (f.run steps).1.maps =
      ((f.run steps).2.filterMap Event.deployed).foldl updatesMaps f.maps := by
  induction steps generalizing f with
  | nil => rfl
  | cons step steps ih =>
    obtain ⟨name, s⟩ := step
    simp only [run, List.filterMap_append, List.foldl_append]
    rw [ih, step_maps, World.step_maps_eq_foldl]
    rfl

/-- The steps of the ClusterSummary `name` in a run, in order. -/
def stepsOf (name : String) (steps : List (String × Step)) : List Step :=
  (steps.filter (·.1 == name)).map (·.2)

theorem view_run_eq (f : Fleet) (steps : List (String × Step)) (c : String) :
    (f.run steps).1.view c =
      { ((f.view c).run (stepsOf c steps)).1 with maps := (f.run steps).1.maps } := by
  induction steps generalizing f with
  | nil => rfl
  | cons step steps ih =>
    obtain ⟨n, s⟩ := step
    show ((f.step n s).1.run steps).1.view c = _
    rw [ih, view_step]
    by_cases h : c = n
    · subst h
      simp only [if_pos, stepsOf, List.filter_cons, beq_self_eq_true, if_true, List.map_cons]
      rfl
    · simp only [if_neg h, World.run_setMaps, stepsOf, List.filter_cons, beq_iff_eq, Ne.symm h,
        if_false]
      rfl

/-- Each ClusterSummary of a fleet runs as if it were alone: after any interleaving, its world
is the run of its own steps on its own world, but for the maps, which the whole run shares. -/
theorem view_run (f : Fleet) (steps : List (String × Step)) (c : String) :
    (f.run steps).1.view c =
      { ((f.view c).run (stepsOf c steps)).1 with maps := (f.run steps).1.maps } :=
  view_run_eq f steps c

end Fleet

/-! ### The reference index over a fleet -/

/-- Calls of `updatesMaps` for other names keep what the maps record for `c`. -/
theorem foldl_updatesMaps_frame (calls : List ClusterSummary) (r : ClusterSummaryReconciler)
    {c : String} (hc : ∀ x ∈ calls, x.name ≠ c) :
    (calls.foldl updatesMaps r).ClusterSummaryMap c = r.ClusterSummaryMap c ∧
      ∀ e, c ∈ (calls.foldl updatesMaps r).getReferenceMapForEntry e ↔
        c ∈ r.getReferenceMapForEntry e := by
  induction calls generalizing r with
  | nil => exact ⟨rfl, fun _ => .rfl⟩
  | cons x calls ih =>
    have hx : c ≠ x.name := (hc x (List.mem_cons_self _ _)).symm
    obtain ⟨hmap, hmem⟩ := ih (r.updatesMaps x) fun y hy => hc y (List.mem_cons_of_mem _ hy)
    refine ⟨by rw [List.foldl_cons, hmap, updatesMaps_ClusterSummaryMap,
      Function.update_noteq hx], fun e => ?_⟩
    rw [List.foldl_cons, hmem, mem_updatesMaps]
    simp [hx]

/-- From the start of the reconciler, after every interleaving of the steps of any
ClusterSummaries, whatever their calls returned: the two maps are inverse to each other,
`ClusterSummaryMap` holds the references of the latest object deployed under each name, and
`ReferenceMap[e]` holds exactly the names whose latest deployed object references `e`. -/
theorem Fleet.index_run (persisted : String → Option ClusterSummary)
    (workload : String → Workload) (steps : List (String × Step)) :
    let r := ((Fleet.start persisted workload).run steps).1.maps
    let deployed := ((Fleet.start persisted workload).run steps).2.filterMap Event.deployed
    (∀ c e, c ∈ r.getReferenceMapForEntry e ↔ e ∈ r.references c) ∧
    (∀ c, r.ClusterSummaryMap c = (latestCall deployed c).map getCurrentReferences) ∧
    (∀ c e, c ∈ r.getReferenceMapForEntry e ↔
      ∃ clusterSummary, latestCall deployed c = some clusterSummary ∧
        e ∈ getCurrentReferences clusterSummary) := by
  intro r deployed
  have hr : r = deployed.foldl updatesMaps .empty := Fleet.maps_run _ steps
  refine ⟨hr ▸ consistent_foldl_updatesMaps deployed,
    fun c => hr ▸ ClusterSummaryMap_foldl_updatesMaps deployed c, fun c e => ?_⟩
  rw [hr, consistent_foldl_updatesMaps deployed c e, references,
    ClusterSummaryMap_foldl_updatesMaps]
  cases latestCall deployed c <;> simp

/-- What the maps record for a name changes only by a deploy of an object of that name: a run
that deploys no such object, whatever it does to other ClusterSummaries and to this one (its
deletion included), keeps the references recorded for it and the entries that list it. -/
theorem Fleet.index_frame_run (f : Fleet) (steps : List (String × Step)) (c : String)
    (hc : ∀ x ∈ (f.run steps).2.filterMap Event.deployed, x.name ≠ c) :
    (f.run steps).1.maps.ClusterSummaryMap c = f.maps.ClusterSummaryMap c ∧
      ∀ e, c ∈ (f.run steps).1.maps.getReferenceMapForEntry e ↔
        c ∈ f.maps.getReferenceMapForEntry e := by
  rw [Fleet.maps_run]
  exact foldl_updatesMaps_frame _ _ hc

/-- The spec of the ClusterSummary below: the roles, referencing the WorkloadRole `admin`. -/
def adminRoleSpec : ClusterSummarySpec :=
  ⟨"default", "workload", ⟨[⟨"", "admin"⟩], none, none⟩⟩

/-- The ClusterSummary `summary`, registered with prefix `csaaaaaaaaaa`, its roles deployed on an
existing cluster and recorded in the maps, and no other ClusterSummary. -/
def recordedFleet : Fleet :=
  let clusterSummary : ClusterSummary :=
    ⟨"summary", [ClusterSummaryFinalizer], none, adminRoleSpec, ⟨"csaaaaaaaaaa"⟩⟩
  ⟨Function.update (fun _ => none) "summary" (some clusterSummary),
    ClusterSummaryReconciler.empty.updatesMaps clusterSummary,
    fun _ => { Workload.idle with deployed := fun feature => feature == .role }⟩

/-- The deletion of `summary` is requested, and a pass in which every call succeeds undeploys
it and removes its finalizer. -/
def deletion : List (String × Step) :=
  [("summary", .requestDeletion 1), ("summary", .reconcile (.succeeding "bbbbbbbbbb"))]

/-- Once the API server has removed `summary`, the maps still list it under the WorkloadRole
its last deploy referenced. -/
theorem Fleet.index_frame_run_deleted :
    (recordedFleet.run deletion).1.persisted "summary" = none ∧
    "summary" ∈ (recordedFleet.run deletion).1.maps.getReferenceMapForEntry
      (workloadRoleKey ⟨"", "admin"⟩) := by
  obtain ⟨-, hmem⟩ := Fleet.index_frame_run recordedFleet deletion "summary" (by decide)
  exact ⟨by decide, (hmem _).mpr (by decide)⟩

/-! ### Interleavings of different ClusterSummaries -/

/-- Steps of two different ClusterSummaries commute. In either order each ClusterSummary ends
with the same object and workload cluster and each step logs the same events as alone; the maps
take the `updatesMaps` calls of the two steps' deploys in the order the steps were taken. -/
theorem Fleet.step_comm (f : Fleet) {n m : String} (hnm : n ≠ m) (s t : Step) :
    let nm := (f.step n s).1.step m t
    let mn := (f.step m t).1.step n s
    nm.1.persisted = mn.1.persisted ∧ nm.1.workload = mn.1.workload ∧
      nm.2 = (f.step m t).2 ∧ mn.2 = (f.step n s).2 ∧
      nm.1.maps = (((f.step n s).2 ++ (f.step m t).2).filterMap Event.deployed).foldl
        updatesMaps f.maps ∧
      mn.1.maps = (((f.step m t).2 ++ (f.step n s).2).filterMap Event.deployed).foldl
        updatesMaps f.maps := by
  intro nm mn
  simp only [nm, mn, Fleet.step_persisted, Fleet.step_workload, Fleet.step_events,
    Fleet.step_maps, Fleet.view_step_of_ne f hnm, Fleet.view_step_of_ne f hnm.symm,
    World.step_maps_eq_foldl, List.filterMap_append, List.foldl_append]
  exact ⟨Function.update_comm hnm _ _ _, Function.update_comm hnm _ _ _, trivial, trivial, rfl,
    rfl⟩

/-- Two registered ClusterSummaries `a` and `b` on existing clusters, each with its roles. -/
def registeredPair : Fleet :=
  Fleet.start (fun name => some ⟨name, [ClusterSummaryFinalizer], none, adminRoleSpec,
    ⟨"csaaaaaaaaaa"⟩⟩) fun _ => .idle

/-- The passes on `a` and `b`, taken in either order, leave both objects as they are. -/
theorem Fleet.step_comm_registeredPair :
    let s := Step.reconcile (.succeeding "aaaaaaaaaa")
    let t := Step.reconcile (.succeeding "bbbbbbbbbb")
    "a" ≠ "b" ∧ ((registeredPair.step "a" s).1.step "b" t).1.persisted =
      ((registeredPair.step "b" t).1.step "a" s).1.persisted :=
  ⟨by decide, (Fleet.step_comm registeredPair (by decide) _ _).1⟩

/-- What the maps record for the name `c`: its references, and whether each entry lists it. -/
def ClusterSummaryReconciler.recordFor (r : ClusterSummaryReconciler) (c : String) :
    Option Set × (String → Bool) :=
  (r.ClusterSummaryMap c, fun e => decide (c ∈ r.getReferenceMapForEntry e))

/-- What `updatesMaps` records for a name depends only on what was recorded for it. -/
theorem recordFor_updatesMaps_congr {r₁ r₂ : ClusterSummaryReconciler} {c : String}
    (h : r₁.recordFor c = r₂.recordFor c) (x : ClusterSummary) :
    (r₁.updatesMaps x).recordFor c = (r₂.updatesMaps x).recordFor c := by
  simp only [recordFor, Prod.mk.injEq, funext_iff, decide_eq_decide] at h ⊢
  obtain ⟨hmap, hmem⟩ := h
  refine ⟨by simp only [updatesMaps_ClusterSummaryMap, Function.update_apply, hmap],
    fun e => ?_⟩
  rw [mem_updatesMaps, mem_updatesMaps, hmem e]
  by_cases hc : c = x.name
  · subst hc; simp only [references, hmap]
  · simp [hc]

/-- A call of `updatesMaps` for another name keeps what the maps record for `c`. -/
theorem recordFor_updatesMaps_of_ne (r : ClusterSummaryReconciler) {x : ClusterSummary}
    {c : String} (hx : x.name ≠ c) : (r.updatesMaps x).recordFor c = r.recordFor c := by
  simp [recordFor, updatesMaps_ClusterSummaryMap, Function.update_noteq (Ne.symm hx),
    mem_updatesMaps, Ne.symm hx]

theorem recordFor_foldl_congr {r₁ r₂ : ClusterSummaryReconciler} {c : String}
    (h : r₁.recordFor c = r₂.recordFor c) (calls : List ClusterSummary) :
    (calls.foldl updatesMaps r₁).recordFor c = (calls.foldl updatesMaps r₂).recordFor c := by
  induction calls generalizing r₁ r₂ with
  | nil => exact h
  | cons x calls ih => exact ih (recordFor_updatesMaps_congr h x)

/-- What the maps record for `c` after a sequence of `updatesMaps` calls is what they record
after the calls for `c` alone. -/
theorem recordFor_foldl_filter (calls : List ClusterSummary) (r : ClusterSummaryReconciler)
    (c : String) :
    (calls.foldl updatesMaps r).recordFor c =
      ((calls.filter (·.name == c)).foldl updatesMaps r).recordFor c := by
  induction calls generalizing r with
  | nil => rfl
  | cons x calls ih =>
    rw [List.foldl_cons, ih, List.filter_cons]
    by_cases hx : x.name = c
    · simp [hx]
    · simpa [hx] using recordFor_foldl_congr (recordFor_updatesMaps_of_ne r hx) _

/-- What the maps record for a name does not depend on how the passes of different
ClusterSummaries interleave, only on the objects deployed under that name: two runs from one
fleet that deploy the same objects of name `c`, in the same order, end with the same references
recorded for `c` and the same entries listing it. -/
theorem Fleet.index_interleaving (f : Fleet) (steps₁ steps₂ : List (String × Step)) (c : String)
    (h : ((f.run steps₁).2.filterMap Event.deployed).filter (·.name == c) =
      ((f.run steps₂).2.filterMap Event.deployed).filter (·.name == c)) :
    (f.run steps₁).1.maps.recordFor c = (f.run steps₂).1.maps.recordFor c := by
  rw [Fleet.maps_run, Fleet.maps_run, recordFor_foldl_filter, h, ← recordFor_foldl_filter]

/-- A pass on `a`, then a pass on `b`, every call succeeding. -/
def passesAB : List (String × Step) :=
  [("a", .reconcile (.succeeding "aaaaaaaaaa")), ("b", .reconcile (.succeeding "bbbbbbbbbb"))]

/-- The passes on `a` and `b`, taken in either order, record the same for `a`. -/
theorem Fleet.index_interleaving_swapped :
    ((registeredPair.run passesAB).2.filterMap Event.deployed).filter (·.name == "a") =
        ((registeredPair.run passesAB.reverse).2.filterMap Event.deployed).filter
          (·.name == "a") ∧
      (registeredPair.run passesAB).1.maps.recordFor "a" =
        (registeredPair.run passesAB.reverse).1.maps.recordFor "a" :=
  ⟨by decide, Fleet.index_interleaving _ _ _ _ (by decide)⟩

/-! ### The finalizer across interleavings -/

namespace Fleet

/-- The features of every ClusterSummary of the fleet are protected. -/
def Protected (f : Fleet) : Prop := ∀ name, (f.view name).Protected

theorem step_protected {f : Fleet} (name : String) (s : Step) (hf : f.Protected) :
    (f.step name s).1.Protected := by
  intro other
  rw [view_step]
  split
  · exact World.step_protected s (hf name)
  · exact hf other

theorem Protected.run {f : Fleet} (hf : f.Protected) (steps : List (String × Step)) :
    (f.run steps).1.Protected := by
  induction steps generalizing f with
  | nil => exact hf
  | cons step steps ih => exact ih (step_protected step.1 step.2 hf)

/-- From a fleet where nothing is deployed, every interleaving of the steps of any
ClusterSummaries keeps the features of each protected: whatever may be deployed for a
ClusterSummary is on an existing cluster and, unless it is Prometheus, holds it back by its
persisted finalizer, whatever the passes on the others did. -/
theorem protected_interleaving {f : Fleet}
    (hf : ∀ name feature, (f.workload name).deployed feature = false)
    (steps : List (String × Step)) (name : String) :
    ((f.run steps).1.view name).Protected :=
  Protected.run (fun name feature h => by simp [view, hf name feature] at h) steps name

/-- Two ClusterSummaries on one cluster: both are created and deployed, the cluster goes and
comes back, and the deletion of the first is requested while the second is reconciled. -/
def twoSummaries : List (String × Step) :=
  [("a", .create adminRoleSpec.clusterFeatureSpec),
    ("b", .create rolesOnlySpec.clusterFeatureSpec),
    ("a", .reconcile (.succeeding "aaaaaaaaaa")), ("b", .reconcile (.succeeding "bbbbbbbbbb")),
    ("a", .deleteCluster), ("b", .deleteCluster), ("a", .createCluster), ("b", .createCluster),
    ("a", .requestDeletion 1), ("b", .reconcile (.succeeding "cccccccccc")),
    ("a", .reconcile { Outcomes.succeeding "dddddddddd" with undeployErr := fun _ => some "x" })]

/-- On the run of two ClusterSummaries, the features of each stay protected. -/
theorem protected_interleaving_twoSummaries :
    (∀ name feature,
      ((start (fun _ => none) fun _ => .idle).workload name).deployed feature =
        false) ∧
    (((start (fun _ => none) fun _ => .idle).run twoSummaries).1.view
      "a").Protected :=
  ⟨fun _ _ => rfl, protected_interleaving (fun _ _ => rfl) twoSummaries "a"⟩

/-- Once the deletion of the ClusterSummary `c` is requested, every interleaving that does not
create `c` anew and has one pass on `c` whose calls all succeed releases it, and from a world
where its features are protected, leaves nothing but Prometheus deployed for it, and that on an
existing cluster: the passes on the others, which change the shared maps, neither block nor undo
its deletion. -/
theorem deletion_interleaving {f : Fleet} {c : String} (hw : (f.view c).Protected)
    (hdel : (f.view c).Deleting) {steps : List (String × Step)}
    (hsteps : ∀ spec, (c, Step.create spec) ∉ steps) {o : Outcomes}
    (ho : o.DeleteSucceeds) (hgood : (c, Step.reconcile o) ∈ steps) :
    ¬((f.run steps).1.view c).finalizerPersisted ∧
      ∀ feature, ((f.run steps).1.workload c).deployed feature = true →
        feature = .prometheus ∧ ((f.run steps).1.workload c).clusterExists = true := by
  have hown (s : Step) : s ∈ stepsOf c steps ↔ (c, s) ∈ steps := by simp [stepsOf]
  have hgone := World.released_run hdel (fun spec h => hsteps spec ((hown _).mp h)) ho
    ((hown _).mpr hgood)
  show ¬((f.run steps).1.view c).finalizerPersisted ∧
    ∀ feature, ((f.run steps).1.view c).workload.deployed feature = true →
      feature = .prometheus ∧ ((f.run steps).1.view c).workload.clusterExists = true
  rw [view_run_eq]
  exact ⟨hgone, fun _ => (hw.run _).released hgone⟩

/-- `summary` of `deletingWorld`, its roles deployed and its deletion requested, beside other
registered ClusterSummaries with nothing deployed. -/
def deletingFleet : Fleet :=
  ⟨Function.update (fun name => some ⟨name, [ClusterSummaryFinalizer], none, rolesOnlySpec,
      ⟨"csbbbbbbbbbb"⟩⟩) "summary" deletingWorld.persisted,
    .empty, Function.update (fun _ => .idle) "summary" deletingWorld.workload⟩

/-- Passes on `summary` and `other` interleaved: the first pass on `summary` fails its undeploys,
and the deletion of `other` is requested before the good pass on `summary`. -/
def interleavedDeletion : List (String × Step) :=
  [("summary", .reconcile
      { Outcomes.succeeding "bbbbbbbbbb" with undeployErr := fun _ => some "timeout" }),
    ("other", .reconcile (.succeeding "dddddddddd")), ("other", .requestDeletion 2),
    ("summary", .reconcile (.succeeding "cccccccccc"))]

/-- The deletion of `summary` completes among the passes on `other`. -/
theorem deletion_interleaving_deletingFleet :
    (deletingFleet.view "summary").Protected ∧ (deletingFleet.view "summary").Deleting ∧
    (∀ spec, ("summary", Step.create spec) ∉ interleavedDeletion) ∧
    (Outcomes.succeeding "cccccccccc").DeleteSucceeds ∧
    ("summary", Step.reconcile (.succeeding "cccccccccc")) ∈ interleavedDeletion ∧
    ¬((deletingFleet.run interleavedDeletion).1.view "summary").finalizerPersisted ∧
    ∀ feature, ((deletingFleet.run interleavedDeletion).1.workload "summary").deployed feature =
      true → feature = .prometheus ∧
        ((deletingFleet.run interleavedDeletion).1.workload "summary").clusterExists = true := by
  have hw : (deletingFleet.view "summary").Protected :=
    fun _ _ => ⟨rfl, fun _ => ⟨_, rfl, List.mem_singleton_self _⟩⟩
  have hdel : (deletingFleet.view "summary").Deleting := fun _ h => by cases h; rfl
  have hsteps : ∀ spec, ("summary", Step.create spec) ∉ interleavedDeletion := by
    intro spec h; simp [interleavedDeletion] at h
  have ho : (Outcomes.succeeding "cccccccccc").DeleteSucceeds :=
    ⟨rfl, rfl, rfl, rfl, fun _ => rfl, rfl⟩
  have hgood : ("summary", Step.reconcile (.succeeding "cccccccccc")) ∈ interleavedDeletion := by
    simp [interleavedDeletion]
  exact ⟨hw, hdel, hsteps, ho, hgood, deletion_interleaving hw hdel hsteps ho hgood⟩

end Fleet

end AddonController
