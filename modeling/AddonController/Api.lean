import Mathlib.Data.List.Basic

/-!
# ClusterSummary objects

The fields of `configv1alpha1.ClusterSummary` that the controller reads or writes, and the
finalizer helpers of `controllerutil`. The API package is not under `src/`; each type keeps
the fields the modelled functions use, under their Go names.
-/

namespace AddonController

/-- `corev1.ObjectReference`, reduced to the two fields the controller reads. -/
structure ObjectReference where
  «namespace» : String
  name : String
  deriving DecidableEq, Repr

/-- `resource.Format`: how a quantity is written. -/
inductive Format
  | decimalExponent
  | binarySI
  | decimalSI
  deriving DecidableEq, Repr

/-- `resource.Quantity`: an amount and the format it is written in. -/
structure Quantity where
  value : Int
  format : Format
  deriving DecidableEq, Repr

/-- `configv1alpha1.KyvernoConfiguration`: the ConfigMaps holding Kyverno policies. -/
structure KyvernoConfiguration where
  policyRefs : List ObjectReference
  deriving DecidableEq, Repr

/-- `configv1alpha1.PrometheusConfiguration`. -/
structure PrometheusConfiguration where
  installationMode : String
  storageClassName : Option String
  storageQuantity : Option Quantity
  policyRefs : List ObjectReference
  deriving DecidableEq, Repr

/-- `configv1alpha1.PrometheusInstallationModeKubePrometheus`, a constant of the API package,
which is not under `src/`. The code only compares modes, so only its difference from the other
mode matters. -/
def PrometheusInstallationModeKubePrometheus : String := "KubePrometheus"

/-- `configv1alpha1.PrometheusInstallationModeKubeStateMetrics`, a constant of the API package,
which is not under `src/`. -/
def PrometheusInstallationModeKubeStateMetrics : String := "KubeStateMetrics"

/-- `configv1alpha1.ClusterFeatureSpec`: the features a ClusterSummary asks for. -/
structure ClusterFeatureSpec where
  workloadRoleRefs : List ObjectReference
  kyvernoConfiguration : Option KyvernoConfiguration
  prometheusConfiguration : Option PrometheusConfiguration
  deriving DecidableEq, Repr

/-- `configv1alpha1.ClusterSummarySpec`: the target CAPI cluster and the features. -/
structure ClusterSummarySpec where
  clusterNamespace : String
  clusterName : String
  clusterFeatureSpec : ClusterFeatureSpec
  deriving DecidableEq, Repr

/-- `configv1alpha1.ClusterSummaryStatus`, reduced to the cached policy-name prefix. -/
structure ClusterSummaryStatus where
  policyPrefix : String
  deriving DecidableEq, Repr

/-- `configv1alpha1.ClusterSummary`. `deletionTimestamp` is the metadata field, a time when
deletion has been requested. -/
structure ClusterSummary where
  name : String
  finalizers : List String
  deletionTimestamp : Option Nat
  spec : ClusterSummarySpec
  status : ClusterSummaryStatus
  deriving DecidableEq, Repr

/-- `configv1alpha1.FeatureID`. -/
inductive FeatureID
  | role
  | kyverno
  | prometheus
  deriving DecidableEq, Repr

/-- `configv1alpha1.ClusterSummaryFinalizer`, a constant of the API package, which is not under
`src/`. The code only looks it up in the finalizer list, so only its identity matters. -/
def ClusterSummaryFinalizer : String := "clustersummaryfinalizer.projectsveltos.io"

/-! ### `controllerutil` -/

namespace controllerutil

/-- `controllerutil.ContainsFinalizer`. -/
def containsFinalizer (o : ClusterSummary) (finalizer : String) : Bool :=
  decide (finalizer ∈ o.finalizers)

/-- `controllerutil.AddFinalizer`: appended when absent. -/
def addFinalizer (o : ClusterSummary) (finalizer : String) : ClusterSummary :=
  if finalizer ∈ o.finalizers then o else { o with finalizers := o.finalizers ++ [finalizer] }

/-- `controllerutil.RemoveFinalizer`: every occurrence goes; the flag says whether any did. -/
def removeFinalizer (o : ClusterSummary) (finalizer : String) : ClusterSummary × Bool :=
  ({ o with finalizers := o.finalizers.filter (· != finalizer) },
    decide (finalizer ∈ o.finalizers))

@[simp] theorem containsFinalizer_eq_true {o : ClusterSummary} {f : String} :
    containsFinalizer o f = true ↔ f ∈ o.finalizers := decide_eq_true_iff

@[simp] theorem mem_addFinalizer {o : ClusterSummary} {f g : String} :
    g ∈ (addFinalizer o f).finalizers ↔ g = f ∨ g ∈ o.finalizers := by
  unfold addFinalizer
  split
  · constructor
    · exact Or.inr
    · rintro (rfl | h) <;> assumption
  · simp [or_comm]

@[simp] theorem mem_removeFinalizer {o : ClusterSummary} {f g : String} :
    g ∈ (removeFinalizer o f).1.finalizers ↔ g ≠ f ∧ g ∈ o.finalizers := by
  simp [removeFinalizer, and_comm]

/-- Adding a finalizer changes nothing but the finalizer list. -/
@[simp] theorem addFinalizer_status (o : ClusterSummary) (f : String) :
    (addFinalizer o f).status = o.status := by
  unfold addFinalizer; split <;> rfl

@[simp] theorem addFinalizer_spec (o : ClusterSummary) (f : String) :
    (addFinalizer o f).spec = o.spec := by
  unfold addFinalizer; split <;> rfl

@[simp] theorem addFinalizer_name (o : ClusterSummary) (f : String) :
    (addFinalizer o f).name = o.name := by
  unfold addFinalizer; split <;> rfl

@[simp] theorem addFinalizer_deletionTimestamp (o : ClusterSummary) (f : String) :
    (addFinalizer o f).deletionTimestamp = o.deletionTimestamp := by
  unfold addFinalizer; split <;> rfl

end controllerutil

end AddonController
