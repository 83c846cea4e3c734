import AddonController.Api

/-!
# Calls to the workload cluster

`deployPrometheus` talks to the workload cluster through a controller-runtime client. A
`WorkloadCluster` answers each call, and its answer may depend on every call made before, so
any behaviour of the cluster, failures included, is one value of the type. `Remote` is the
monad of such computations; it logs every call together with the answer it got.
-/

namespace AddonController

/-- The Go packages whose `Namespace` and `Deployment` constants name a deployment the
controller checks: `prometheus` (the Prometheus operator) and `kubestatemetrics`. -/
inductive Component
  | prometheus
  | kubestatemetrics
  deriving DecidableEq, Repr

/-- The manifests `deployPrometheus` applies, named after their Go constants. The binding is
`PrometheusClusterRoleBindingTemplate` filled with `PrometheusServiceAccountName`. -/
inductive Manifest
  | prometheusClusterRole
  | prometheusClusterRoleBinding
  | prometheus
  | ksmServiceMonitor
  | prometheusYAML
  | kubeStateMetricsYAML
  | kubePrometheusYAML
  deriving DecidableEq, Repr

/-- `monitoringv1.StorageSpec`, reduced to the storage class and request of its volume claim. -/
structure StorageSpec where
  storageClassName : String
  storage : Quantity
  deriving DecidableEq, Repr

/-- `monitoringv1.Prometheus`, reduced to `Spec.Storage`. -/
structure PrometheusInstance where
  storage : Option StorageSpec
  deriving DecidableEq, Repr

/-- A call to the workload cluster with the answer it got; `err` is the Go error, `none` for nil. -/
inductive Call
  | isDeploymentReady (component : Component) (present ready : Bool) (err : Option String)
  | createNamespace (component : Component) (err : Option String)
  | deployDoc (manifest : Manifest) (err : Option String)
  | getPrometheusInstance (err : Option String)
  | update (prometheusInstance : PrometheusInstance) (err : Option String)
  deriving DecidableEq, Repr

/-- How the workload cluster answers each call, given the calls made so far. -/
structure WorkloadCluster where
  isDeploymentReady : List Call → Component → Bool × Bool × Option String
  createNamespace : List Call → Component → Option String
  deployDoc : List Call → Manifest → Option String
  getPrometheusInstance : List Call → Except String PrometheusInstance
  update : List Call → PrometheusInstance → Option String

/-- A computation against the workload cluster: from the cluster and the calls made so far,
its result and the calls made once it ends. -/
abbrev Remote (α : Type) : Type := WorkloadCluster → List Call → Except String α × List Call

namespace Remote

variable {α β : Type}

/-- Return a value, calling nothing. -/
protected def pure (a : α) : Remote α := fun _ calls => (.ok a, calls)

/-- Run `x`, then `f` on its value; an error of `x` is returned at once. -/
protected def bind (x : Remote α) (f : α → Remote β) : Remote β := fun w calls =>
  match x w calls with
  | (.ok a, calls) => f a w calls
  | (.error err, calls) => (.error err, calls)

instance : Monad Remote where
  pure := Remote.pure
  bind := Remote.bind

/-- `return err` for an error created by the controller itself. -/
def fail (err : String) : Remote α := fun _ calls => (.error err, calls)

/-- The Go `error` of `x` as a value, for a caller that checks `err != nil` itself. -/
def result (x : Remote α) : Remote (Except String α) := fun w calls =>
  ((.ok (x w calls).1), (x w calls).2)

/-- A Go `error` as the outcome of a call. -/
def ofErr : Option String → Except String Unit
  | none => .ok ()
  | some err => .error err

@[simp] theorem pure_apply (a : α) (w : WorkloadCluster) (calls : List Call) :
    (pure a : Remote α) w calls = (.ok a, calls) := rfl

@[simp] theorem bind_apply (x : Remote α) (f : α → Remote β) (w : WorkloadCluster)
    (calls : List Call) :
    (x >>= f) w calls = match x w calls with
      | (.ok a, calls) => f a w calls
      | (.error err, calls) => (.error err, calls) := rfl

@[simp] theorem fail_apply (err : String) (w : WorkloadCluster) (calls : List Call) :
    (fail err : Remote α) w calls = (.error err, calls) := rfl

@[simp] theorem result_apply (x : Remote α) (w : WorkloadCluster) (calls : List Call) :
    (result x) w calls = ((.ok (x w calls).1), (x w calls).2) := rfl

end Remote

/-! ### The client calls -/

/-- Not under `src/`: `isDeploymentReady`, whether a deployment is present and ready. -/
def isDeploymentReady (component : Component) : Remote (Bool × Bool) := fun w calls =>
  let (present, ready, err) := w.isDeploymentReady calls component
  ((Remote.ofErr err).map (fun _ => (present, ready)),
    calls ++ [.isDeploymentReady component present ready err])

/-- Not under `src/`: `createNamespace`. -/
def createNamespace (component : Component) : Remote Unit := fun w calls =>
  let err := w.createNamespace calls component
  (Remote.ofErr err, calls ++ [.createNamespace component err])

/-- Not under `src/`: `deployDoc`, apply a manifest. -/
def deployDoc (manifest : Manifest) : Remote Unit := fun w calls =>
  let err := w.deployDoc calls manifest
  (Remote.ofErr err, calls ++ [.deployDoc manifest err])

/-- `getPrometheusInstance`: `c.Get` of `kubeprometheus.PrometheusName` in
`prometheus.Namespace`. -/
def getPrometheusInstance : Remote PrometheusInstance := fun w calls =>
  match w.getPrometheusInstance calls with
  | .ok prometheusInstance => (.ok prometheusInstance, calls ++ [.getPrometheusInstance none])
  | .error err => (.error err, calls ++ [.getPrometheusInstance (some err)])

/-- `c.Update` of the Prometheus instance. -/
def update (prometheusInstance : PrometheusInstance) : Remote Unit := fun w calls =>
  let err := w.update calls prometheusInstance
  (Remote.ofErr err, calls ++ [.update prometheusInstance err])

end AddonController
