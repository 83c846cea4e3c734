import AddonController.Api
import Mathlib.Logic.Function.Basic
import Mathlib.Data.List.Nodup

/-!
# The feature summaries of the status scope

`ClusterSummaryScope` keeps one summary per feature in the status of its ClusterSummary: the
feature's status and hash, the reason and message of its last failure, and the kinds it
deployed. Each of the scope's four mutators finds the first summary with the feature's ID and
changes one of its fields, or appends a new summary when there is none. The scope's file is not
under `src/`; `clustersummary_test.go` fixes what the mutators do. Over every sequence of
mutator calls, from any status, the mutators only ever append a feature that is not listed, so
one summary per feature stays one summary per feature. Read through the first summary of each
feature, the list is a map from feature to summary, and each call updates one point of it.
-/

namespace AddonController

/-- `schema.GroupVersionKind`. -/
structure GroupVersionKind where
  group : String
  version : String
  kind : String
  deriving DecidableEq, Repr

/-- Modelled from the spec: how `SetDeployedGroupVersionKind` records a kind, as
`Kind.Version.Group`. -/
def GroupVersionKind.toEntry (gvk : GroupVersionKind) : String :=
  gvk.kind ++ "." ++ gvk.version ++ "." ++ gvk.group

/-- Modelled from the spec: `configv1alpha1.FeatureSummary`. The status is the string of a
`FeatureStatus`, and the hash the bytes of the deployed configuration. -/
structure FeatureSummary where
  featureID : FeatureID
  status : String
  hash : List UInt8
  failureReason : Option String
  failureMessage : Option String
  deployedGroupVersionKind : List String
  deriving DecidableEq, Repr

/-- The summary of a feature as Go's zero value leaves it: no status, hash, failure or kind. -/
def FeatureSummary.empty (featureID : FeatureID) : FeatureSummary :=
  ⟨featureID, "", [], none, none, []⟩

/-- What a mutator does to a summary: it may set any field but the feature ID. -/
@[ext] structure SummaryUpdate where
  apply : FeatureSummary → FeatureSummary
  featureID_apply : ∀ summary, (apply summary).featureID = summary.featureID

namespace SummaryUpdate

/-- The update that does `u`, then `v`. -/
def comp (v u : SummaryUpdate) : SummaryUpdate :=
  ⟨v.apply ∘ u.apply, fun summary => by simp [v.featureID_apply, u.featureID_apply]⟩

/-- What `SetFeatureStatus` sets: the status and the hash. -/
def featureStatus (status : String) (hash : List UInt8) : SummaryUpdate :=
  ⟨fun summary => { summary with status := status, hash := hash }, fun _ => rfl⟩

/-- What `SetFailureMessage` sets. -/
def failureMessage (failureMessage : Option String) : SummaryUpdate :=
  ⟨fun summary => { summary with failureMessage := failureMessage }, fun _ => rfl⟩

/-- What `SetFailureReason` sets. -/
def failureReason (failureReason : Option String) : SummaryUpdate :=
  ⟨fun summary => { summary with failureReason := failureReason }, fun _ => rfl⟩

/-- What `SetDeployedGroupVersionKind` sets: the kinds, each as `Kind.Version.Group`. -/
def deployedGroupVersionKind (gvks : List GroupVersionKind) : SummaryUpdate :=
  ⟨fun summary => { summary with deployedGroupVersionKind := gvks.map GroupVersionKind.toEntry },
    fun _ => rfl⟩

end SummaryUpdate

namespace ClusterSummaryScope

/-- Modelled from the spec: the loop of every mutator of the scope. The first summary of
`featureID` is updated in place; when there is none, the update of an empty summary is
appended. -/
def updateFeatureSummary (featureID : FeatureID) (u : SummaryUpdate) :
    List FeatureSummary → List FeatureSummary
  | [] => [u.apply (.empty featureID)]
  | summary :: summaries =>
    if summary.featureID = featureID then u.apply summary :: summaries
    else summary :: updateFeatureSummary featureID u summaries

/-- Modelled from the spec: `SetFeatureStatus`. -/
def setFeatureStatus (featureID : FeatureID) (status : String) (hash : List UInt8) :
    List FeatureSummary → List FeatureSummary :=
  updateFeatureSummary featureID (.featureStatus status hash)

/-- Modelled from the spec: `SetFailureMessage`. -/
def setFailureMessage (featureID : FeatureID) (failureMessage : Option String) :
    List FeatureSummary → List FeatureSummary :=
  updateFeatureSummary featureID (.failureMessage failureMessage)

/-- Modelled from the spec: `SetFailureReason`. -/
def setFailureReason (featureID : FeatureID) (failureReason : Option String) :
    List FeatureSummary → List FeatureSummary :=
  updateFeatureSummary featureID (.failureReason failureReason)

/-- Modelled from the spec: `SetDeployedGroupVersionKind`. -/
def setDeployedGroupVersionKind (featureID : FeatureID) (gvks : List GroupVersionKind) :
    List FeatureSummary → List FeatureSummary :=
  updateFeatureSummary featureID (.deployedGroupVersionKind gvks)

/-- A call of one of the mutators. -/
inductive Call
  | setFeatureStatus (featureID : FeatureID) (status : String) (hash : List UInt8)
  | setFailureMessage (featureID : FeatureID) (failureMessage : Option String)
  | setFailureReason (featureID : FeatureID) (failureReason : Option String)
  | setDeployedGroupVersionKind (featureID : FeatureID) (gvks : List GroupVersionKind)
  deriving DecidableEq, Repr

/-- The mutator a call runs. -/
def Call.apply : Call → List FeatureSummary → List FeatureSummary
  | .setFeatureStatus featureID status hash =>
    ClusterSummaryScope.setFeatureStatus featureID status hash
  | .setFailureMessage featureID failureMessage =>
    ClusterSummaryScope.setFailureMessage featureID failureMessage
  | .setFailureReason featureID failureReason =>
    ClusterSummaryScope.setFailureReason featureID failureReason
  | .setDeployedGroupVersionKind featureID gvks =>
    ClusterSummaryScope.setDeployedGroupVersionKind featureID gvks

/-- The feature a call is about. -/
def Call.featureID : Call → FeatureID
  | .setFeatureStatus featureID .. | .setFailureMessage featureID ..
  | .setFailureReason featureID .. | .setDeployedGroupVersionKind featureID .. => featureID

/-- What a call sets in the summary of its feature. -/
def Call.update : Call → SummaryUpdate
  | .setFeatureStatus _ status hash => .featureStatus status hash
  | .setFailureMessage _ failureMessage => .failureMessage failureMessage
  | .setFailureReason _ failureReason => .failureReason failureReason
  | .setDeployedGroupVersionKind _ gvks => .deployedGroupVersionKind gvks

/-- The status after a sequence of calls, in order. -/
def run (calls : List Call) (summaries : List FeatureSummary) : List FeatureSummary :=
  calls.foldl (fun summaries call => call.apply summaries) summaries

theorem Call.apply_eq (call : Call) :
    call.apply = updateFeatureSummary call.featureID call.update := by
  cases call <;> rfl

/-! ### The features listed -/

/-- The feature IDs of the summaries, in order. -/
def featureIDs (summaries : List FeatureSummary) : List FeatureID := summaries.map (·.featureID)

/-- A feature joins the list at its end, unless it is listed. -/
def listFeature (featureIDs : List FeatureID) (featureID : FeatureID) : List FeatureID :=
  if featureID ∈ featureIDs then featureIDs else featureIDs ++ [featureID]

theorem featureIDs_updateFeatureSummary (featureID : FeatureID) (u : SummaryUpdate)
    (summaries : List FeatureSummary) :
    featureIDs (updateFeatureSummary featureID u summaries) =
      listFeature (featureIDs summaries) featureID := by
  induction summaries with
  | nil => simp [updateFeatureSummary, featureIDs, listFeature, u.featureID_apply,
      FeatureSummary.empty]
  | cons summary summaries ih =>
    by_cases h : summary.featureID = featureID
    · simp [updateFeatureSummary, featureIDs, listFeature, h, u.featureID_apply]
    · simp only [featureIDs, listFeature] at ih ⊢
      simp only [updateFeatureSummary, h, if_false, List.map_cons, ih, List.mem_cons, Ne.symm h,
        false_or]
      split <;> rfl

theorem nodup_listFeature {featureIDs : List FeatureID} (featureID : FeatureID)
    (h : featureIDs.Nodup) : (listFeature featureIDs featureID).Nodup := by
  unfold listFeature
  split
  · exact h
  · rename_i hnot
    exact List.nodup_append.mpr ⟨h, List.nodup_singleton _,
      fun a ha hb => hnot ((List.mem_singleton.mp hb) ▸ ha)⟩

theorem nodup_foldl_listFeature {featureIDs : List FeatureID} (added : List FeatureID)
    (h : featureIDs.Nodup) : (added.foldl listFeature featureIDs).Nodup := by
  induction added generalizing featureIDs with
  | nil => exact h
  | cons featureID added ih => exact ih (nodup_listFeature featureID h)

theorem featureIDs_run_eq_foldl (calls : List Call) (summaries : List FeatureSummary) :
    featureIDs (run calls summaries) =
      (calls.map Call.featureID).foldl listFeature (featureIDs summaries) := by
  induction calls generalizing summaries with
  | nil => rfl
  | cons call calls ih =>
    simp only [run, List.foldl_cons, List.map_cons] at ih ⊢
    rw [ih, Call.apply_eq, featureIDs_updateFeatureSummary]

/-- Over every sequence of mutator calls, from any status: the features listed after are those
listed before, in the same order, followed by each feature the calls set that was not listed,
once, in the order of its first call; so a status with one summary per feature keeps one
summary per feature. -/
theorem featureIDs_run (calls : List Call) (summaries : List FeatureSummary) :
    featureIDs (run calls summaries) =
        (calls.map Call.featureID).foldl listFeature (featureIDs summaries) ∧
      ((featureIDs summaries).Nodup → (featureIDs (run calls summaries)).Nodup) := by
  refine ⟨featureIDs_run_eq_foldl calls summaries, fun h => ?_⟩
  rw [featureIDs_run_eq_foldl]
  exact nodup_foldl_listFeature _ h

/-- A status with the Kyverno summary, provisioned. -/
def kyvernoProvisioned : List FeatureSummary :=
  [{ FeatureSummary.empty .kyverno with status := "Provisioned", hash := [0] }]

/-- A failure message for the roles, then a new status for Kyverno. -/
def roleFailureThenKyverno : List Call :=
  [.setFailureMessage .role (some "failed to deploy"),
    .setFeatureStatus .kyverno "Provisioning" [1]]

/-- The roles' summary is appended after the Kyverno one, which is updated in place. -/
theorem featureIDs_run_roleFailureThenKyverno :
    featureIDs (run roleFailureThenKyverno kyvernoProvisioned) = [.kyverno, .role] ∧
      (featureIDs kyvernoProvisioned).Nodup ∧
      (featureIDs (run roleFailureThenKyverno kyvernoProvisioned)).Nodup := by
  obtain ⟨hids, hnodup⟩ := featureIDs_run roleFailureThenKyverno kyvernoProvisioned
  have hbefore : (featureIDs kyvernoProvisioned).Nodup := by decide
  exact ⟨by rw [hids]; decide, hbefore, hnodup hbefore⟩

/-! ### The summaries as a map -/

/-- The summary of `featureID` the scope works on: the first one with that feature ID. -/
def featureSummary (summaries : List FeatureSummary) (featureID : FeatureID) :
    Option FeatureSummary :=
  summaries.find? (·.featureID == featureID)

/-- What an update of `featureID` does to a map from feature to summary: the point of
`featureID` gets the update of its summary, an empty one if there was none. -/
def updateMap (featureID : FeatureID) (u : SummaryUpdate)
    (m : FeatureID → Option FeatureSummary) : FeatureID → Option FeatureSummary :=
  Function.update m featureID (some (u.apply ((m featureID).getD (.empty featureID))))

/-- The map after a sequence of calls, each updating the point of its feature. -/
def runMap (calls : List Call) (m : FeatureID → Option FeatureSummary) :
    FeatureID → Option FeatureSummary :=
  calls.foldl (fun m call => updateMap call.featureID call.update m) m

@[simp] theorem featureSummary_nil (featureID : FeatureID) : featureSummary [] featureID = none :=
  rfl

theorem featureSummary_cons (summary : FeatureSummary) (summaries : List FeatureSummary)
    (featureID : FeatureID) :
    featureSummary (summary :: summaries) featureID =
      if summary.featureID = featureID then some summary
      else featureSummary summaries featureID := by
  by_cases h : summary.featureID = featureID <;> simp [featureSummary, h]

theorem updateMap_apply (featureID : FeatureID) (u : SummaryUpdate)
    (m : FeatureID → Option FeatureSummary) (other : FeatureID) :
    updateMap featureID u m other =
      if other = featureID then some (u.apply ((m featureID).getD (.empty featureID)))
      else m other := by
  by_cases h : other = featureID
  · subst h; simp [updateMap]
  · simp [updateMap, h]

/-- The summary an update of `featureID` leaves for it: the update of the first one. -/
theorem featureSummary_updateFeatureSummary_self (featureID : FeatureID) (u : SummaryUpdate)
    (summaries : List FeatureSummary) :
    featureSummary (updateFeatureSummary featureID u summaries) featureID =
      some (u.apply ((featureSummary summaries featureID).getD (.empty featureID))) := by
  induction summaries with
  | nil => simp [updateFeatureSummary, featureSummary_cons, u.featureID_apply, FeatureSummary.empty]
  | cons summary summaries ih =>
    by_cases h : summary.featureID = featureID <;>
      simp [updateFeatureSummary, featureSummary_cons, h, ih, u.featureID_apply]

/-- An update of `featureID` leaves the summary of every other feature as it was. -/
theorem featureSummary_updateFeatureSummary_of_ne {featureID other : FeatureID}
    (u : SummaryUpdate) (summaries : List FeatureSummary) (hne : other ≠ featureID) :
    featureSummary (updateFeatureSummary featureID u summaries) other =
      featureSummary summaries other := by
  induction summaries with
  | nil =>
    simp [updateFeatureSummary, featureSummary_cons, u.featureID_apply, FeatureSummary.empty,
      Ne.symm hne]
  | cons summary summaries ih =>
    by_cases h : summary.featureID = featureID
    · simp [updateFeatureSummary, featureSummary_cons, h, u.featureID_apply, Ne.symm hne]
    · simp [updateFeatureSummary, featureSummary_cons, h, ih]

theorem featureSummary_updateFeatureSummary (featureID : FeatureID) (u : SummaryUpdate)
    (summaries : List FeatureSummary) :
    featureSummary (updateFeatureSummary featureID u summaries) =
      updateMap featureID u (featureSummary summaries) := by
  funext other
  rw [updateMap_apply]
  split
  · subst other; exact featureSummary_updateFeatureSummary_self featureID u summaries
  · exact featureSummary_updateFeatureSummary_of_ne u summaries ‹_›

/-- Read through the first summary of each feature, every sequence of calls from any status
acts as a map from feature to summary in which each call updates the point of its feature, an
empty summary if there was none, and leaves every other feature's summary as it was. -/
theorem featureSummary_run (calls : List Call) (summaries : List FeatureSummary) :
    featureSummary (run calls summaries) = runMap calls (featureSummary summaries) := by
  induction calls generalizing summaries with
  | nil => rfl
  | cons call calls ih =>
    simp only [run, runMap, List.foldl_cons] at ih ⊢
    rw [ih, Call.apply_eq, featureSummary_updateFeatureSummary]

/-- A second update of a feature acts on the summary the first one wrote, in its place: the two
act as one update that does both. So of two status writes the last one wins, and setting a
field twice to the same value is setting it once. -/
theorem updateFeatureSummary_comp (featureID : FeatureID) (u v : SummaryUpdate)
    (summaries : List FeatureSummary) :
    updateFeatureSummary featureID v (updateFeatureSummary featureID u summaries) =
      updateFeatureSummary featureID (v.comp u) summaries := by
  induction summaries with
  | nil => simp [updateFeatureSummary, u.featureID_apply, FeatureSummary.empty, SummaryUpdate.comp]
  | cons summary summaries ih =>
    by_cases h : summary.featureID = featureID
    · simp [updateFeatureSummary, h, u.featureID_apply, SummaryUpdate.comp]
    · simp [updateFeatureSummary, h, ih]

end ClusterSummaryScope

end AddonController
