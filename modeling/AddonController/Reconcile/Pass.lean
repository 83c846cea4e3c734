import AddonController.ReferenceMaps

/-!
# One Reconcile pass

`Reconcile` fetches the ClusterSummary, deploys its features or, once deletion is requested,
undeploys them and removes the finalizer, and persists the scope's object in a deferred
`Close`. The calls it makes to the API server and to the deployer may fail in any way: a
pass reads their outcomes from `Outcomes`, and logs what it did as `Event`s.
-/

namespace AddonController

/-- `ctrl.Result`: whether to requeue, and after how many seconds. -/
structure Result where
  requeue : Bool := false
  requeueAfter : Nat := 0
  deriving DecidableEq, Repr

/-- `deleteRequeueAfter`, in seconds. -/
def deleteRequeueAfter : Nat := 20

/-- `normalRequeueAfter`, in seconds. -/
def normalRequeueAfter : Nat := 20

/-- The CAPI cluster a spec names, by the key `undeploy` gets it with:
`types.NamespacedName{Namespace: ClusterNamespace, Name: ClusterName}`. -/
def ClusterSummarySpec.cluster (spec : ClusterSummarySpec) : ObjectReference :=
  ⟨spec.clusterNamespace, spec.clusterName⟩

/-- The workload cluster as the lifecycle sees it: the CAPI cluster `cluster`, whether it
exists, and what is deployed there. `deployed f` says that feature `f` may have resources there
on behalf of the ClusterSummary: a deployment attempt on the existing cluster sets it; the
undeploy function of a feature that removes it, once it returned nil, or the cluster's deletion
clears it. -/
structure Workload where
  cluster : ObjectReference
  clusterExists : Bool
  deployed : FeatureID → Bool

/-- A deployment attempt of `feature`, which may leave resources on an existing cluster. -/
def Workload.deployAttempted (w : Workload) (feature : FeatureID) : Workload :=
  { w with deployed := Function.update w.deployed feature (w.deployed feature || w.clusterExists) }

/-- A successful undeploy of `feature`. -/
def Workload.undeployed (w : Workload) (feature : FeatureID) : Workload :=
  { w with deployed := Function.update w.deployed feature false }

/-- Modelled from the spec: `unDeployWorkloadRoles`, not under `src/`, the function the
deployer runs to undeploy the roles. It removes them. -/
def unDeployWorkloadRoles (w : Workload) : Workload := w.undeployed .role

/-- Modelled from the spec: `unDeployKyverno`, not under `src/`, the function the deployer runs
to undeploy Kyverno. It removes it. -/
def unDeployKyverno (w : Workload) : Workload := w.undeployed .kyverno

/-- `unDeployPrometheus`: nothing specific to do. It returns nil and removes nothing. -/
def unDeployPrometheus (w : Workload) : Workload := w

/-- What a pass acts on: the name of the request, which is the ClusterSummary's name; the
persisted ClusterSummary (`none` while the API server has none); the reconciler's maps; and
the workload cluster. -/
structure World where
  name : String
  persisted : Option ClusterSummary
  maps : ClusterSummaryReconciler
  workload : Workload

/-- The outcomes of the calls of one pass that the controller does not decide; an error is
`none` for nil. `getErr` and `clusterGetErr` are errors other than NotFound: NotFound comes
from the world. -/
structure Outcomes where
  getErr : Option String
  ownerErr : Option String
  scopeErr : Option String
  patchErr : Option String
  randomString : String
  deployErr : FeatureID → Option String
  clusterGetErr : Option String
  undeployErr : FeatureID → Option String
  closeErr : Option String

/-- What a pass did, in order. -/
inductive Event
  | patchObject (err : Option String)
  | deploy (clusterSummary : ClusterSummary)
  | deployFeature (feature : FeatureID) (err : Option String)
  | undeployFeature (feature : FeatureID) (err : Option String)
  | undeploy (err : Option String)
  | close (err : Option String)
  deriving DecidableEq, Repr

/-- A pass under way: the world, the scope's in-memory ClusterSummary and the events so far. -/
structure Pass where
  world : World
  clusterSummary : ClusterSummary
  events : List Event

/-- What the API server keeps of a written ClusterSummary: one being deleted is removed as
soon as it has no finalizer left. -/
def persist (clusterSummary : ClusterSummary) : Option ClusterSummary :=
  if clusterSummary.deletionTimestamp.isSome && clusterSummary.finalizers.isEmpty then none
  else some clusterSummary

/-- Write the scope's object unless the write fails, and log `event`. -/
def Pass.write (p : Pass) (err : Option String) (event : Event) : Pass :=
  { p with
    world := if err.isNone then { p.world with persisted := persist p.clusterSummary } else p.world
    events := p.events ++ [event] }

/-- `r.updatesMaps(clusterSummaryScope)`: update the reconciler's maps for the scope's object. -/
def Pass.updatesMaps (p : Pass) : Pass :=
  { p with world := { p.world with maps := p.world.maps.updatesMaps p.clusterSummary } }

namespace ClusterSummaryScope

variable (o : Outcomes)

/-- Modelled from the spec: `ClusterSummaryScope.PatchObject`, not under `src/`, patches the
ClusterSummary with the scope's object. -/
def patchObject (p : Pass) : Pass := p.write o.patchErr (.patchObject o.patchErr)

/-- Modelled from the spec: `ClusterSummaryScope.Close`, not under `src/`, is the same patch;
it is the only write of the finalizer `reconcileDelete` removes. -/
def close (p : Pass) : Pass := p.write o.closeErr (.close o.closeErr)

end ClusterSummaryScope

namespace ClusterSummaryReconciler

variable (o : Outcomes)

/-- `addFinalizer`: add the finalizer to the scope's object and register it at once. -/
def addFinalizer (p : Pass) : Pass × Option String :=
  let p := { p with
    clusterSummary := controllerutil.addFinalizer p.clusterSummary ClusterSummaryFinalizer }
  (ClusterSummaryScope.patchObject o p,
    o.patchErr.map fun err =>
      "Failed to add finalizer for " ++ p.clusterSummary.name ++ ": " ++ err)

/-- `generatePolicyNamePrefix`: `"cs"` and ten random characters, when there is no prefix. -/
def generatePolicyNamePrefix (p : Pass) : Pass :=
  if p.clusterSummary.status.policyPrefix = "" then
    { p with clusterSummary := { p.clusterSummary with status := ⟨"cs" ++ o.randomString⟩ } }
  else p

/-- Modelled from the spec: `deployFeature`, not under `src/`, hands a feature to the
deployer. Its error is the pass's outcome for the feature. -/
def deployFeature (feature : FeatureID) (p : Pass) : Pass × Option String :=
  ({ p with
      world := { p.world with workload := p.world.workload.deployAttempted feature }
      events := p.events ++ [.deployFeature feature (o.deployErr feature)] },
    o.deployErr feature)

/-- `deployRoles`: the roles are always deployed. -/
def deployRoles (p : Pass) : Pass × Option String := deployFeature o .role p

/-- `deployKyverno` and `deployPrometheus`: nothing to do for an unconfigured feature. -/
def deployIfConfigured (configured : Bool) (feature : FeatureID) (p : Pass) :
    Pass × Option String :=
  if configured then deployFeature o feature p else (p, none)

/-- `deployKyverno`. -/
def deployKyverno (p : Pass) : Pass × Option String :=
  deployIfConfigured o p.clusterSummary.spec.clusterFeatureSpec.kyvernoConfiguration.isSome
    .kyverno p

/-- `deployPrometheus`. -/
def deployPrometheus (p : Pass) : Pass × Option String :=
  deployIfConfigured o p.clusterSummary.spec.clusterFeatureSpec.prometheusConfiguration.isSome
    .prometheus p

/-- `deploy`: every feature is attempted; the first error is returned. -/
def deploy (p : Pass) : Pass × Option String :=
  let p := { p with events := p.events ++ [.deploy p.clusterSummary] }
  let roles := deployRoles o p
  let kyverno := deployKyverno o roles.1
  let prometheus := deployPrometheus o kyverno.1
  (prometheus.1, roles.2 <|> kyverno.2 <|> prometheus.2)

/-- Modelled from the spec: `undeployFeature`, not under `src/`, hands the deployer the
function `undeployFunction` of a feature. When the undeploy returns nil, what that function
removes is gone from the workload cluster. -/
def undeployFeature (feature : FeatureID) (undeployFunction : Workload → Workload) (p : Pass) :
    Pass × Option String :=
  let err := o.undeployErr feature
  ({ p with
      world := if err.isNone then { p.world with workload := undeployFunction p.world.workload }
        else p.world
      events := p.events ++ [.undeployFeature feature err] },
    err)

/-- `undeployRoles`. -/
def undeployRoles : Pass → Pass × Option String :=
  undeployFeature o .role unDeployWorkloadRoles

/-- `undeployKyverno`. -/
def undeployKyverno : Pass → Pass × Option String :=
  undeployFeature o .kyverno unDeployKyverno

/-- `undeployPrometheus`. -/
def undeployPrometheus : Pass → Pass × Option String :=
  undeployFeature o .prometheus unDeployPrometheus

/-- `undeploy`: nothing to clean up when the CAPI cluster is not found; otherwise every feature
is undeployed and the first error returned. The Get is of the cluster the spec names, which a
ClusterSummary created in the world names and no step changes: the workload's. -/
def undeploy (p : Pass) : Pass × Option String :=
  match o.clusterGetErr with
  | some err => (p, some err)
  | none =>
    if !p.world.workload.clusterExists then (p, none)
    else
      let roles := undeployRoles o p
      let kyverno := undeployKyverno o roles.1
      let prometheus := undeployPrometheus o kyverno.1
      (prometheus.1, roles.2 <|> kyverno.2 <|> prometheus.2)

/-- `reconcileDelete`: requeue while undeploy fails, then remove the finalizer. -/
def reconcileDelete (p : Pass) : Pass × Result × Option String :=
  let undeployed := undeploy o p
  let p := { undeployed.1 with events := undeployed.1.events ++ [.undeploy undeployed.2] }
  if undeployed.2.isSome then (p, ⟨true, deleteRequeueAfter⟩, none)
  else if controllerutil.containsFinalizer p.clusterSummary ClusterSummaryFinalizer then
    let removed := controllerutil.removeFinalizer p.clusterSummary ClusterSummaryFinalizer
    let p := { p with clusterSummary := removed.1 }
    if !removed.2 then (p, {}, some "failed to remove finalizer") else (p, {}, none)
  else (p, {}, none)

/-- `reconcileNormal`: register the finalizer, fix the policy prefix, update the reference
maps, and deploy; a failed deployment requeues. -/
def reconcileNormal (p : Pass) : Pass × Result × Option String :=
  let finalized : Pass × Option String :=
    if !controllerutil.containsFinalizer p.clusterSummary ClusterSummaryFinalizer then
      addFinalizer o p
    else (p, none)
  match finalized.2 with
  | some err => (finalized.1, {}, some err)
  | none =>
    let p := (generatePolicyNamePrefix o finalized.1).updatesMaps
    let deployed := deploy o p
    if deployed.2.isSome then (deployed.1, ⟨true, normalRequeueAfter⟩, none)
    else (deployed.1, {}, none)

/-- `Reconcile`: the new world, the events, the result and the error of one pass. -/
def reconcile (w : World) : World × List Event × Result × Option String :=
  let request := "/" ++ w.name
  match o.getErr, w.persisted with
  | some err, _ => (w, [], {}, some ("Failed to fetch clusterSummary " ++ request ++ ": " ++ err))
  | none, none => (w, [], {}, none)
  | none, some clusterSummary =>
    match o.ownerErr, o.scopeErr with
    | some err, _ =>
      (w, [], {}, some ("Failed to get owner clusterFeature for " ++ request ++ ": " ++ err))
    | none, some err =>
      (w, [], {}, some ("unable to create clusterfeature scope for " ++ request ++ ": " ++ err))
    | none, none =>
      let p : Pass := ⟨w, clusterSummary, []⟩
      let handled :=
        if clusterSummary.deletionTimestamp.isSome then reconcileDelete o p else reconcileNormal o p
      let closed := ClusterSummaryScope.close o handled.1
      (closed.world, closed.events, handled.2.1, o.closeErr <|> handled.2.2)

end ClusterSummaryReconciler

end AddonController
