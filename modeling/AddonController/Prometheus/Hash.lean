import AddonController.Prometheus.Errors
import AddonController.ReferenceMaps

/-!
# The Prometheus hash

`prometheusHash` hashes the data of the ConfigMaps the Prometheus feature references: its loop
computes `prometheusHashSpec`, the renderings of those that exist, in order. A reconciliation
that finds the hash unchanged does not redeploy, so the hash should determine what a deployment
does. It does not: `deployPrometheus` reads the installation mode and the
storage settings, which the hash ignores. What the hash does guarantee is that it reads only
ConfigMaps indexed for the ClusterSummary, so a ConfigMap change that requeues no
ClusterSummary changes no hash.
-/

namespace AddonController

/-- The `Data` of a `corev1.ConfigMap`, a `map[string]string`. -/
structure ConfigMapData where
  data : List (String × String)
  deriving DecidableEq, Repr

/-- What `c.Get` of an object returns: the object, NotFound, or another error. -/
inductive GetResult (α : Type)
  | found (a : α)
  | notFound
  | failed (err : String)
  deriving DecidableEq, Repr

/-- The ConfigMaps of the management cluster, by namespace and name. -/
def ConfigMapStore : Type := String → String → GetResult ConfigMapData

section Hash

variable (asCode : ConfigMapData → String) (configMaps : ConfigMapStore)

/-- The loop of `prometheusHash`: append the rendering (`render.AsCode`, the parameter
`asCode`) of every referenced ConfigMap that exists; a ConfigMap not found yet is skipped and
any other error is returned. -/
def renderConfigMaps : List ObjectReference → String → Except String String
  | [], config => .ok config
  | ref :: refs, config =>
    match configMaps ref.«namespace» ref.name with
    | .notFound => renderConfigMaps refs config
    | .failed err => .error err
    | .found configMap => renderConfigMaps refs (config ++ asCode configMap)

/-- `prometheusHash`. The SHA-256 digest is represented by the text it hashes, which treats the
hash function as injective; an unconfigured feature hashes no text. -/
def prometheusHash (clusterSummary : ClusterSummary) : Except String String :=
  match clusterSummary.spec.clusterFeatureSpec.prometheusConfiguration with
  | none => .ok ""
  | some prometheusConfiguration =>
    renderConfigMaps asCode configMaps prometheusConfiguration.policyRefs ""

/-- The error of the Get of a referenced ConfigMap, other than NotFound. -/
def failedGet (ref : ObjectReference) : Option String :=
  match configMaps ref.«namespace» ref.name with
  | .failed err => some err
  | _ => none

/-- The rendering of a referenced ConfigMap that exists. -/
def foundRendering (ref : ObjectReference) : Option String :=
  match configMaps ref.«namespace» ref.name with
  | .found configMap => some (asCode configMap)
  | _ => none

/-- What `prometheusHash` hashes, in the words of its Go docstring: all the referenced
ConfigMaps, here their renderings in order, those not found skipped; the first other error of a
Get instead. -/
def prometheusHashSpec (clusterSummary : ClusterSummary) : Except String String :=
  match (getPrometheusRefs clusterSummary).findSome? (failedGet configMaps) with
  | some err => .error err
  | none =>
    .ok (((getPrometheusRefs clusterSummary).filterMap (foundRendering asCode configMaps)).foldr
      (· ++ ·) "")

/-- Accumulator form of the loop of `prometheusHash`. -/
theorem renderConfigMaps_eq (refs : List ObjectReference) (config : String) :
    renderConfigMaps asCode configMaps refs config =
      match refs.findSome? (failedGet configMaps) with
      | some err => .error err
      | none =>
        .ok (config ++ (refs.filterMap (foundRendering asCode configMaps)).foldr (· ++ ·) "") := by
  induction refs generalizing config with
  | nil => simp [renderConfigMaps]
  | cons ref refs ih =>
    rw [renderConfigMaps]
    cases h : configMaps ref.«namespace» ref.name <;>
      simp [h, ih, failedGet, foundRendering, List.findSome?_cons, String.append_assoc]

/-- `prometheusHash` computes `prometheusHashSpec`: the loop hashes the renderings of the
referenced ConfigMaps that exist, in order, unless a Get fails otherwise than with NotFound. -/
theorem prometheusHash_eq_spec (clusterSummary : ClusterSummary) :
    prometheusHash asCode configMaps clusterSummary =
      prometheusHashSpec asCode configMaps clusterSummary := by
  unfold prometheusHash prometheusHashSpec getPrometheusRefs
  cases clusterSummary.spec.clusterFeatureSpec.prometheusConfiguration <;>
    simp [renderConfigMaps_eq]

end Hash

/-- Two ClusterSummaries whose Prometheus features differ only in installation mode have the same
`prometheusHash` under every store, yet `deployPrometheus` makes different calls for them on the
healthy cluster. -/
theorem prometheusHash_eq_not_same_calls :
    ¬ ∀ (asCode : ConfigMapData → String) (configMaps : ConfigMapStore) (cs₁ cs₂ : ClusterSummary),
        cs₁.spec.clusterFeatureSpec.prometheusConfiguration.isSome →
        cs₂.spec.clusterFeatureSpec.prometheusConfiguration.isSome →
        prometheusHash asCode configMaps cs₁ = prometheusHash asCode configMaps cs₂ →
        ∀ w, (deployPrometheus (.ok cs₁) w []).2 = (deployPrometheus (.ok cs₂) w []).2 := by
  intro h
  have hsame := h (fun _ => "") (fun _ _ => .notFound)
    (prometheusSummary (modeOnly PrometheusInstallationModeKubePrometheus))
    (prometheusSummary (modeOnly PrometheusInstallationModeKubeStateMetrics)) rfl rfl rfl .healthy
  exact absurd hsame (by decide)

/-- `deployPrometheus` reads a configured Prometheus feature only through its installation mode,
storage class and storage quantity: two ClusterSummaries agreeing on these make the same calls,
with the same result, on every workload cluster. -/
theorem deployPrometheus_eq_of_same_settings {cs₁ cs₂ : ClusterSummary}
    {pc₁ pc₂ : PrometheusConfiguration}
    (h₁ : cs₁.spec.clusterFeatureSpec.prometheusConfiguration = some pc₁)
    (h₂ : cs₂.spec.clusterFeatureSpec.prometheusConfiguration = some pc₂)
    (hmode : pc₁.installationMode = pc₂.installationMode)
    (hclass : pc₁.storageClassName = pc₂.storageClassName)
    (hquantity : pc₁.storageQuantity = pc₂.storageQuantity)
    (w : WorkloadCluster) (calls : List Call) :
    deployPrometheus (.ok cs₁) w calls = deployPrometheus (.ok cs₂) w calls := by
  simp only [deployPrometheus, Remote.ofExcept_ok_bind, shouldInstallPrometheusOperator,
    shouldInstallKubeStateMetrics, shouldInstallKubePrometheusStack, installationModeIs,
    addStorageConfig, h₁, h₂, hmode, hclass, hquantity]

/-- Two ClusterSummaries with different ConfigMaps and the same Prometheus settings. -/
theorem deployPrometheus_eq_of_same_settings_example :
    (PrometheusInstallationModeKubeStateMetrics = PrometheusInstallationModeKubeStateMetrics ∧
      some "fast" = some "fast" ∧ (none : Option Quantity) = none) ∧
    deployPrometheus (.ok (prometheusSummary
        ⟨PrometheusInstallationModeKubeStateMetrics, some "fast", none, [⟨"monitoring", "rules"⟩]⟩))
        .healthy [] =
      deployPrometheus (.ok (prometheusSummary
        ⟨PrometheusInstallationModeKubeStateMetrics, some "fast", none, []⟩)) .healthy [] :=
  ⟨⟨rfl, rfl, rfl⟩, by apply deployPrometheus_eq_of_same_settings <;> rfl⟩

/-! ### The hash reads only indexed ConfigMaps -/

theorem renderConfigMaps_congr {asCode : ConfigMapData → String} {s₁ s₂ : ConfigMapStore}
    {refs : List ObjectReference}
    (h : ∀ ref ∈ refs, s₁ ref.«namespace» ref.name = s₂ ref.«namespace» ref.name)
    (config : String) :
    renderConfigMaps asCode s₁ refs config = renderConfigMaps asCode s₂ refs config := by
  induction refs generalizing config with
  | nil => rfl
  | cons ref refs ih =>
    have hrest := ih fun r hr => h r (List.mem_cons_of_mem _ hr)
    rw [renderConfigMaps, renderConfigMaps, h ref (List.mem_cons_self _ _)]
    split <;> simp only [hrest]

/-- `prometheusHash` reads only the ConfigMaps `getPrometheusRefs` names. -/
theorem prometheusHash_congr {asCode : ConfigMapData → String} {s₁ s₂ : ConfigMapStore}
    {clusterSummary : ClusterSummary}
    (h : ∀ ref ∈ getPrometheusRefs clusterSummary,
      s₁ ref.«namespace» ref.name = s₂ ref.«namespace» ref.name) :
    prometheusHash asCode s₁ clusterSummary = prometheusHash asCode s₂ clusterSummary := by
  unfold prometheusHash
  unfold getPrometheusRefs at h
  split
  · rfl
  · rename_i prometheusConfiguration hprometheus
    simp only [hprometheus] at h
    exact renderConfigMaps_congr h ""

/-- A ConfigMap change requeues every ClusterSummary whose Prometheus hash it may change. After
any sequence of `updatesMaps` calls whose latest call for a ClusterSummary had its current spec,
two ConfigMap stores that agree on every ConfigMap whose `ReferenceMap` entry lists the
ClusterSummary give it the same hash. -/
theorem prometheusHash_eq_of_not_requeued (calls : List ClusterSummary)
    (clusterSummary : ClusterSummary)
    (hlatest : latestCall calls clusterSummary.name = some clusterSummary)
    (asCode : ConfigMapData → String) (s₁ s₂ : ConfigMapStore)
    (hsame : ∀ «namespace» name, clusterSummary.name ∈
        (calls.foldl ClusterSummaryReconciler.updatesMaps .empty).getReferenceMapForEntry
          (getEntryKey ConfigMap «namespace» name) →
      s₁ «namespace» name = s₂ «namespace» name) :
    prometheusHash asCode s₁ clusterSummary = prometheusHash asCode s₂ clusterSummary := by
  refine prometheusHash_congr fun ref href => hsame _ _ ?_
  rw [consistent_foldl_updatesMaps, ClusterSummaryReconciler.references,
    ClusterSummaryMap_foldl_updatesMaps, hlatest]
  exact configMapKey_mem_getCurrentReferences href

/-- The ClusterSummary `summary` with Prometheus referencing the ConfigMap `monitoring/rules`. -/
def rulesSummary : ClusterSummary :=
  prometheusSummary ⟨PrometheusInstallationModeKubePrometheus, none, none,
    [⟨"monitoring", "rules"⟩]⟩

/-- A store holding the ConfigMap `monitoring/rules` only. -/
def rulesStore : ConfigMapStore := fun «namespace» name =>
  if «namespace» = "monitoring" ∧ name = "rules" then .found ⟨[("groups", "up")]⟩ else .notFound

/-- `rulesStore` once the ConfigMap `monitoring/other` is created. -/
def rulesStoreChanged : ConfigMapStore := fun «namespace» name =>
  if «namespace» = "monitoring" ∧ name = "other" then .found ⟨[("groups", "down")]⟩
  else rulesStore «namespace» name

/-- A rendering of ConfigMap data: its keys and values, in order. -/
def renderData (configMap : ConfigMapData) : String :=
  String.join (configMap.data.map fun entry => entry.1 ++ entry.2)

/-- Creating a ConfigMap that `summary` does not reference changes the store where its
`ReferenceMap` entry does not list `summary`, and leaves its hash, which renders the
referenced ConfigMap, unchanged. -/
theorem prometheusHash_eq_of_not_requeued_unreferenced :
    latestCall [rulesSummary] rulesSummary.name = some rulesSummary ∧
    (∀ «namespace» name, rulesSummary.name ∈
        ([rulesSummary].foldl ClusterSummaryReconciler.updatesMaps .empty).getReferenceMapForEntry
          (getEntryKey ConfigMap «namespace» name) →
      rulesStore «namespace» name = rulesStoreChanged «namespace» name) ∧
    rulesStore "monitoring" "other" ≠ rulesStoreChanged "monitoring" "other" ∧
    prometheusHash renderData rulesStore rulesSummary = .ok "groupsup" ∧
    prometheusHash renderData rulesStore rulesSummary =
      prometheusHash renderData rulesStoreChanged rulesSummary := by
  have hsame : ∀ «namespace» name, rulesSummary.name ∈
      ([rulesSummary].foldl ClusterSummaryReconciler.updatesMaps .empty).getReferenceMapForEntry
        (getEntryKey ConfigMap «namespace» name) →
      rulesStore «namespace» name = rulesStoreChanged «namespace» name := by
    intro «namespace» name hmem
    unfold rulesStoreChanged
    split
    · rename_i hother
      obtain ⟨rfl, rfl⟩ := hother
      exact absurd hmem (by decide)
    · rfl
  exact ⟨rfl, hsame, by decide, rfl,
    prometheusHash_eq_of_not_requeued [rulesSummary] rulesSummary rfl _ _ _ hsame⟩

end AddonController
