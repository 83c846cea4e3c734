import AddonController.Set
import AddonController.Api

/-!
# The objects a ClusterSummary references

`getCurrentReferences` collects the keys of every WorkloadRole and ConfigMap the features of a
ClusterSummary read. The reference index of `updatesMaps` is built from it, so it must name
exactly the references of the configured features.
-/

namespace AddonController

/-- The kind constant `WorkloadRole` of the controllers package, declared in a file not under
`src/`, that `getCurrentReferences` passes to `getEntryKey`. -/
def WorkloadRole : String := "WorkloadRole"

/-- The kind constant `ConfigMap` of the controllers package, declared in a file not under
`src/`, that `getCurrentReferences` passes to `getEntryKey`. -/
def ConfigMap : String := "ConfigMap"

/-- Modelled from the spec: `getEntryKey`, not under `src/`. The comment on `ReferenceMap`
gives its shape, `<kind>-<namespace>-<name>` or `<kind>-<name>`. -/
def getEntryKey (kind «namespace» name : String) : String :=
  if «namespace» = "" then kind ++ "-" ++ name else kind ++ "-" ++ «namespace» ++ "-" ++ name

/-- `getPrometheusRefs`: the ConfigMaps of the Prometheus feature, none when unconfigured. -/
def getPrometheusRefs (clusterSummary : ClusterSummary) : List ObjectReference :=
  match clusterSummary.spec.clusterFeatureSpec.prometheusConfiguration with
  | some prometheusConfiguration => prometheusConfiguration.policyRefs
  | none => []

/-- One loop of `getCurrentReferences`: insert the key of every reference. -/
def insertKeys (key : ObjectReference → String) (refs : List ObjectReference) (s : Set) : Set :=
  refs.foldl (fun s ref => s.insert (key ref)) s

/-- The key of a WorkloadRole reference; WorkloadRoles are cluster-wide. -/
def workloadRoleKey (ref : ObjectReference) : String := getEntryKey WorkloadRole "" ref.name

/-- The key of a ConfigMap reference. -/
def configMapKey (ref : ObjectReference) : String := getEntryKey ConfigMap ref.«namespace» ref.name

/-- `getCurrentReferences`: the WorkloadRoles, then the Kyverno ConfigMaps when Kyverno is
configured, then the Prometheus ConfigMaps when Prometheus is configured. -/
def getCurrentReferences (clusterSummary : ClusterSummary) : Set :=
  let spec := clusterSummary.spec.clusterFeatureSpec
  let currentReferences := insertKeys workloadRoleKey spec.workloadRoleRefs Set.empty
  let currentReferences := match spec.kyvernoConfiguration with
    | some kyvernoConfiguration =>
      insertKeys configMapKey kyvernoConfiguration.policyRefs currentReferences
    | none => currentReferences
  match spec.prometheusConfiguration with
  | some prometheusConfiguration =>
    insertKeys configMapKey prometheusConfiguration.policyRefs currentReferences
  | none => currentReferences

theorem mem_insertKeys {key : ObjectReference → String} {refs : List ObjectReference}
    {s : Set} {entry : String} :
    entry ∈ insertKeys key refs s ↔ entry ∈ s ∨ ∃ ref ∈ refs, entry = key ref := by
  induction refs generalizing s with
  | nil => simp [insertKeys]
  | cons ref refs ih =>
    simp only [insertKeys] at ih ⊢
    rw [List.foldl_cons, ih, Set.mem_insert]
    simp only [List.mem_cons, exists_eq_or_imp]
    tauto

/-- The ConfigMaps of a configured Prometheus feature are indexed. -/
theorem configMapKey_mem_getCurrentReferences {clusterSummary : ClusterSummary}
    {ref : ObjectReference}
    (href : ref ∈ getPrometheusRefs clusterSummary) :
    configMapKey ref ∈ getCurrentReferences clusterSummary := by
  unfold getPrometheusRefs at href
  unfold getCurrentReferences
  split at href
  · rename_i prometheusConfiguration hprometheus
    simp only [hprometheus]
    exact mem_insertKeys.mpr (.inr ⟨ref, href, rfl⟩)
  · simp at href

/-- `getCurrentReferences` indexes exactly the WorkloadRoles, the Kyverno ConfigMaps of a
configured Kyverno feature and the ConfigMaps `getPrometheusRefs` returns. -/
theorem mem_getCurrentReferences (clusterSummary : ClusterSummary) (entry : String) :
    entry ∈ getCurrentReferences clusterSummary ↔
      (∃ ref ∈ clusterSummary.spec.clusterFeatureSpec.workloadRoleRefs,
          entry = getEntryKey WorkloadRole "" ref.name) ∨
      (∃ kyvernoConfiguration,
          clusterSummary.spec.clusterFeatureSpec.kyvernoConfiguration = some kyvernoConfiguration ∧
          ∃ ref ∈ kyvernoConfiguration.policyRefs,
            entry = getEntryKey ConfigMap ref.«namespace» ref.name) ∨
      (∃ ref ∈ getPrometheusRefs clusterSummary,
        entry = getEntryKey ConfigMap ref.«namespace» ref.name) := by
  obtain ⟨_, _, _, ⟨_, _, ⟨_, kyverno, prometheus⟩⟩, _⟩ := clusterSummary
  cases kyverno <;> cases prometheus <;>
    simp [getCurrentReferences, getPrometheusRefs, mem_insertKeys, workloadRoleKey, configMapKey,
      or_assoc]

end AddonController
