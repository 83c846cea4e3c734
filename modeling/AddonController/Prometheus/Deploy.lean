import AddonController.Prometheus.Remote

/-!
# Deploying the Prometheus feature

`deployPrometheus` installs the Prometheus operator, kube-state-metrics or the kube-prometheus
stack according to the installation mode, then adds the requested storage to the Prometheus
instance. Families of near-identical Go functions are one definition here, each member keeping
its Go name.
-/

namespace AddonController

/-- The installation mode of a configured Prometheus feature is `mode`. -/
def installationModeIs (clusterSummary : ClusterSummary) (mode : String) : Bool :=
  match clusterSummary.spec.clusterFeatureSpec.prometheusConfiguration with
  | some prometheusConfiguration => prometheusConfiguration.installationMode == mode
  | none => false

/-- `shouldInstallPrometheusOperator`: unless the kube-prometheus stack is deployed. Unlike its
two siblings it compares with `!=`. -/
def shouldInstallPrometheusOperator (clusterSummary : ClusterSummary) : Bool :=
  match clusterSummary.spec.clusterFeatureSpec.prometheusConfiguration with
  | some prometheusConfiguration =>
    prometheusConfiguration.installationMode != PrometheusInstallationModeKubePrometheus
  | none => false

/-- `shouldInstallKubeStateMetrics`. -/
def shouldInstallKubeStateMetrics (clusterSummary : ClusterSummary) : Bool :=
  installationModeIs clusterSummary PrometheusInstallationModeKubeStateMetrics

/-- `shouldInstallKubePrometheusStack`. -/
def shouldInstallKubePrometheusStack (clusterSummary : ClusterSummary) : Bool :=
  installationModeIs clusterSummary PrometheusInstallationModeKubePrometheus

/-- A configured Prometheus feature installs exactly one of the Prometheus operator and the
kube-prometheus stack: the `!=` of `shouldInstallPrometheusOperator` is the negation of its
sibling's `==`. -/
theorem shouldInstallPrometheusOperator_eq (clusterSummary : ClusterSummary) :
    shouldInstallPrometheusOperator clusterSummary =
      (clusterSummary.spec.clusterFeatureSpec.prometheusConfiguration.isSome &&
        !shouldInstallKubePrometheusStack clusterSummary) := by
  unfold shouldInstallPrometheusOperator shouldInstallKubePrometheusStack installationModeIs
  cases clusterSummary.spec.clusterFeatureSpec.prometheusConfiguration <;> simp [bne]

/-- `isPrometheusOperatorReady`. -/
def isPrometheusOperatorReady : Remote (Bool × Bool) := isDeploymentReady .prometheus

/-- `isKubeStateMetricsReady`. -/
def isKubeStateMetricsReady : Remote (Bool × Bool) := isDeploymentReady .kubestatemetrics

/-- The installers `deploy…InWorklaodCluster`: create the namespace, then apply the manifest. -/
def installInWorkloadCluster (component : Component) (manifest : Manifest) : Remote Unit := do
  createNamespace component
  deployDoc manifest

/-- `deployPrometheusOperatorInWorklaodCluster`. -/
def deployPrometheusOperatorInWorklaodCluster : Remote Unit :=
  installInWorkloadCluster .prometheus .prometheusYAML

/-- `deployKubeStateMetricsInWorklaodCluster`. -/
def deployKubeStateMetricsInWorklaodCluster : Remote Unit :=
  installInWorkloadCluster .kubestatemetrics .kubeStateMetricsYAML

/-- `deployKubePrometheusInWorklaodCluster`. -/
def deployKubePrometheusInWorklaodCluster : Remote Unit :=
  installInWorkloadCluster .prometheus .kubePrometheusYAML

/-- The common tail of the three deploy functions: check the deployment, install it when it is
absent, and fail while it is not ready. All three use the operator's error message. -/
def ensureReady (isReady : Remote (Bool × Bool)) (install : Remote Unit) : Remote Unit := do
  let (present, ready) ← isReady
  if !present then install
  if !ready then Remote.fail "prometheus operator deployment is not ready yet"

/-- `deployPrometheusOperator`. -/
def deployPrometheusOperator : Remote Unit :=
  ensureReady isPrometheusOperatorReady deployPrometheusOperatorInWorklaodCluster

/-- `deployKubePrometheusStack`. -/
def deployKubePrometheusStack : Remote Unit :=
  ensureReady isPrometheusOperatorReady deployKubePrometheusInWorklaodCluster

/-- `deployPrometheusClusterRole`: the ClusterRole, then its binding. -/
def deployPrometheusClusterRole : Remote Unit := do
  deployDoc .prometheusClusterRole
  deployDoc .prometheusClusterRoleBinding

/-- `if err := step; err != nil { return nil }`: a failed `step` ends the function with
success and skips `rest`. -/
def returnNilOnError (step rest : Remote Unit) : Remote Unit := do
  match ← Remote.result step with
  | .error _ => pure ()
  | .ok () => rest

/-- `deployKubeStateMetrics`: the ClusterRole, the Prometheus instance and the ServiceMonitor,
each of which ends the function with `return nil` when it fails, then kube-state-metrics. -/
def deployKubeStateMetrics : Remote Unit :=
  returnNilOnError deployPrometheusClusterRole <|
  returnNilOnError (deployDoc .prometheus) <|
  returnNilOnError (deployDoc .ksmServiceMonitor) <|
  ensureReady isKubeStateMetricsReady deployKubeStateMetricsInWorklaodCluster

/-- The storage request `addStorageConfig` uses when none is given: `40000000`, binary SI. -/
def defaultStorageQuantity : Quantity := ⟨40000000, .binarySI⟩

/-- `addStorageConfig`: with a non-empty storage class, give the Prometheus instance a volume
claim when it has none, and update the instance. -/
def addStorageConfig (clusterSummary : ClusterSummary) : Remote Unit :=
  match clusterSummary.spec.clusterFeatureSpec.prometheusConfiguration with
  | none => pure ()
  | some prometheusConfiguration =>
    match prometheusConfiguration.storageClassName with
    | none => pure ()
    | some storageClassName =>
      if storageClassName = "" then pure () else do
        let prometheusInstance ← getPrometheusInstance
        let prometheusInstance := match prometheusInstance.storage with
          | none => { storage := some ⟨storageClassName,
              prometheusConfiguration.storageQuantity.getD defaultStorageQuantity⟩ }
          | some _ => prometheusInstance
        update prometheusInstance

/-- A result of the management cluster as a computation that calls nothing. -/
def Remote.ofExcept {α : Type} (e : Except String α) : Remote α := fun _ calls => (e, calls)

@[simp] theorem Remote.ofExcept_ok_bind {α β : Type} (a : α) (f : α → Remote β) :
    Remote.ofExcept (.ok a) >>= f = f a := rfl

/-- `deployPrometheus`. `fetched` is what `getClusterSummaryAndCAPIClusterClient` returns, the
ClusterSummary read from the management cluster or an error. -/
def deployPrometheus (fetched : Except String ClusterSummary) : Remote Unit := do
  let clusterSummary ← Remote.ofExcept fetched
  (if shouldInstallPrometheusOperator clusterSummary then deployPrometheusOperator else pure ())
  (if shouldInstallKubeStateMetrics clusterSummary then deployKubeStateMetrics else pure ())
  (if shouldInstallKubePrometheusStack clusterSummary then deployKubePrometheusStack else pure ())
  addStorageConfig clusterSummary

end AddonController
