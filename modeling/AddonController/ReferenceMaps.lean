import AddonController.References
import Mathlib.Logic.Function.Basic

/-!
# The reference index of the reconciler

`ReferenceMap` sends a referenced object to the ClusterSummaries that use it and
`ClusterSummaryMap` sends a ClusterSummary to the objects it uses. `updatesMaps` runs under
`Mux`, so the calls of concurrent reconciliations form one sequence. Along every sequence the
two maps stay inverse to each other and record exactly each ClusterSummary's latest references.
-/

namespace AddonController

/-- The two maps of `ClusterSummaryReconciler`: Go maps from a name to a `*Set`, as partial
functions (`none` where the map has no key). -/
structure ClusterSummaryReconciler where
  ReferenceMap : String → Option Set
  ClusterSummaryMap : String → Option Set

namespace ClusterSummaryReconciler

/-- The maps as the reconciler starts: no key at all. -/
def empty : ClusterSummaryReconciler := ⟨fun _ => none, fun _ => none⟩

/-- `getReferenceMapForEntry`: the consumers stored under `entry`, a new empty set when the
map has none. -/
def getReferenceMapForEntry (r : ClusterSummaryReconciler) (entry : String) : Set :=
  (r.ReferenceMap entry).getD Set.empty

/-- The references recorded for the ClusterSummary `name`, empty when it has no key. -/
def references (r : ClusterSummaryReconciler) (name : String) : Set :=
  (r.ClusterSummaryMap name).getD Set.empty

/-- Change the set `getReferenceMapForEntry` returns through its pointer. -/
def updateEntry (r : ClusterSummaryReconciler) (entry : String) (f : Set → Set) :
    ClusterSummaryReconciler :=
  { r with
    ReferenceMap :=
      Function.update r.ReferenceMap entry (some (f (r.getReferenceMapForEntry entry))) }

/-- `updatesMaps`: add the ClusterSummary as consumer of its current references, remove it
from the references its previous call recorded and it no longer has, then record the current
references. -/
def updatesMaps (r : ClusterSummaryReconciler) (clusterSummary : ClusterSummary) :
    ClusterSummaryReconciler :=
  let currentReferences := getCurrentReferences clusterSummary
  let name := clusterSummary.name
  let toBeRemoved := match r.ClusterSummaryMap name with
    | some v => v.difference currentReferences
    | none => []
  let r := currentReferences.items.foldl (fun r entry => r.updateEntry entry (·.insert name)) r
  let r := toBeRemoved.foldl (fun r entry => r.updateEntry entry (·.erase name)) r
  { r with ClusterSummaryMap := Function.update r.ClusterSummaryMap name (some currentReferences) }

/-- The invariant of the two-map design: `c ∈ ReferenceMap[e]` iff `e ∈ ClusterSummaryMap[c]`. -/
def Consistent (r : ClusterSummaryReconciler) : Prop :=
  ∀ c e, c ∈ r.getReferenceMapForEntry e ↔ e ∈ r.references c

@[simp] theorem getReferenceMapForEntry_empty (entry : String) :
    empty.getReferenceMapForEntry entry = Set.empty := rfl

@[simp] theorem references_empty (name : String) : empty.references name = Set.empty := rfl

theorem getReferenceMapForEntry_updateEntry (r : ClusterSummaryReconciler) (entry e : String)
    (f : Set → Set) :
    (r.updateEntry entry f).getReferenceMapForEntry e =
      if e = entry then f (r.getReferenceMapForEntry entry) else r.getReferenceMapForEntry e := by
  by_cases h : e = entry
  · subst h; simp [updateEntry, getReferenceMapForEntry]
  · simp [updateEntry, getReferenceMapForEntry, h]

@[simp] theorem updateEntry_ClusterSummaryMap (r : ClusterSummaryReconciler) (entry : String)
    (f : Set → Set) :
    (r.updateEntry entry f).ClusterSummaryMap = r.ClusterSummaryMap := rfl

/-- The insertion loop of `updatesMaps` adds `name` under every listed entry. -/
theorem mem_foldl_insert (entries : List String) (r : ClusterSummaryReconciler)
    (name c e : String) :
    c ∈ (entries.foldl (fun r entry => r.updateEntry entry (·.insert name))
        r).getReferenceMapForEntry e ↔
      c ∈ r.getReferenceMapForEntry e ∨ (c = name ∧ e ∈ entries) := by
  induction entries generalizing r with
  | nil => simp
  | cons entry entries ih =>
    rw [List.foldl_cons, ih, getReferenceMapForEntry_updateEntry]
    by_cases h : e = entry
    · subst h; simp only [Set.mem_insert, List.mem_cons, true_or, and_true, if_true]; tauto
    · simp [h]

/-- The removal loop of `updatesMaps` drops `name` under every listed entry. -/
theorem mem_foldl_erase (entries : List String) (r : ClusterSummaryReconciler) (name c e : String) :
    c ∈ (entries.foldl (fun r entry => r.updateEntry entry (·.erase name))
        r).getReferenceMapForEntry e ↔
      c ∈ r.getReferenceMapForEntry e ∧ ¬(c = name ∧ e ∈ entries) := by
  induction entries generalizing r with
  | nil => simp
  | cons entry entries ih =>
    rw [List.foldl_cons, ih, getReferenceMapForEntry_updateEntry]
    by_cases h : e = entry
    · subst h; simp only [Set.mem_erase, List.mem_cons, true_or, and_true, if_true]; tauto
    · simp [h]

theorem foldl_updateEntry_ClusterSummaryMap (entries : List String) (r : ClusterSummaryReconciler)
    (f : String → Set → Set) :
    (entries.foldl (fun r entry => r.updateEntry entry (f entry)) r).ClusterSummaryMap =
      r.ClusterSummaryMap := by
  induction entries generalizing r with
  | nil => rfl
  | cons entry entries ih => exact ih _

/-- The entries `updatesMaps` removes: recorded before and no longer referenced. -/
theorem mem_toBeRemoved (r : ClusterSummaryReconciler) (current : Set) (name e : String) :
    e ∈ (match r.ClusterSummaryMap name with
      | some v => v.difference current
      | none => []) ↔ e ∈ r.references name ∧ e ∉ current := by
  unfold references
  cases r.ClusterSummaryMap name <;> simp

/-- What `updatesMaps` does to `ReferenceMap`, whatever the maps held before. -/
theorem mem_updatesMaps (r : ClusterSummaryReconciler) (clusterSummary : ClusterSummary)
    (c e : String) :
    c ∈ (r.updatesMaps clusterSummary).getReferenceMapForEntry e ↔
      (c ∈ r.getReferenceMapForEntry e ∨
          (c = clusterSummary.name ∧ e ∈ getCurrentReferences clusterSummary)) ∧
        ¬(c = clusterSummary.name ∧ e ∈ r.references clusterSummary.name ∧
          e ∉ getCurrentReferences clusterSummary) := by
  refine (mem_foldl_erase _ _ _ _ _).trans ?_
  rw [mem_foldl_insert, mem_toBeRemoved, Set.mem_items]

/-- `updatesMaps` records the current references of the ClusterSummary it is given. -/
theorem updatesMaps_ClusterSummaryMap (r : ClusterSummaryReconciler)
    (clusterSummary : ClusterSummary) :
    (r.updatesMaps clusterSummary).ClusterSummaryMap =
      Function.update r.ClusterSummaryMap clusterSummary.name
        (some (getCurrentReferences clusterSummary)) := by
  simp only [updatesMaps]
  rw [foldl_updateEntry_ClusterSummaryMap _ _ (fun _ s => s.erase _),
    foldl_updateEntry_ClusterSummaryMap _ _ (fun _ s => s.insert _)]

theorem references_updatesMaps (r : ClusterSummaryReconciler) (clusterSummary : ClusterSummary)
    (c : String) :
    (r.updatesMaps clusterSummary).references c =
      if c = clusterSummary.name then getCurrentReferences clusterSummary else r.references c := by
  unfold references
  rw [updatesMaps_ClusterSummaryMap]
  by_cases h : c = clusterSummary.name
  · subst h; simp
  · simp [h]

theorem consistent_empty : empty.Consistent := by
  intro c e
  simp

/-- One call of `updatesMaps` keeps the two maps inverse to each other. -/
theorem Consistent.updatesMaps {r : ClusterSummaryReconciler} (hr : r.Consistent)
    (clusterSummary : ClusterSummary) :
    (r.updatesMaps clusterSummary).Consistent := by
  intro c e
  rw [mem_updatesMaps, references_updatesMaps]
  by_cases h : c = clusterSummary.name
  · subst h
    have hold := hr clusterSummary.name e
    simp only [true_and, if_true]
    tauto
  · simp only [h, false_and, or_false, not_false_eq_true, and_true, if_false]
    exact hr c e

end ClusterSummaryReconciler

/-- The ClusterSummary of the most recent call for `name` in a sequence of `updatesMaps` calls. -/
def latestCall (calls : List ClusterSummary) (name : String) : Option ClusterSummary :=
  calls.reverse.find? (·.name == name)

@[simp] theorem latestCall_nil (name : String) : latestCall [] name = none := rfl

theorem latestCall_append_singleton (calls : List ClusterSummary) (clusterSummary : ClusterSummary)
    (name : String) :
    latestCall (calls ++ [clusterSummary]) name =
      if clusterSummary.name = name then some clusterSummary else latestCall calls name := by
  by_cases h : clusterSummary.name = name <;> simp [latestCall, h]

/-- Every sequence of `updatesMaps` calls from empty maps keeps them inverse to each other. -/
theorem consistent_foldl_updatesMaps (calls : List ClusterSummary) :
    (calls.foldl ClusterSummaryReconciler.updatesMaps
      ClusterSummaryReconciler.empty).Consistent := by
  induction calls using List.reverseRecOn with
  | nil => exact ClusterSummaryReconciler.consistent_empty
  | append_singleton calls clusterSummary ih =>
    rw [List.foldl_append, List.foldl_cons, List.foldl_nil]
    exact ih.updatesMaps clusterSummary

/-- After a sequence of calls, `ClusterSummaryMap` holds the references of each ClusterSummary's
latest call. -/
theorem ClusterSummaryMap_foldl_updatesMaps (calls : List ClusterSummary) (c : String) :
    (calls.foldl ClusterSummaryReconciler.updatesMaps
        ClusterSummaryReconciler.empty).ClusterSummaryMap c =
      (latestCall calls c).map getCurrentReferences := by
  induction calls using List.reverseRecOn with
  | nil => rfl
  | append_singleton calls clusterSummary ih =>
    rw [List.foldl_append, List.foldl_cons, List.foldl_nil,
      ClusterSummaryReconciler.updatesMaps_ClusterSummaryMap, latestCall_append_singleton]
    by_cases h : clusterSummary.name = c
    · subst h; simp
    · simp [h, Ne.symm h, ih]

/-- Along every sequence of `updatesMaps` calls from empty maps, after every call: the maps are
inverse to each other, `ClusterSummaryMap` holds the references of each ClusterSummary's latest
call, and `ReferenceMap[e]` holds exactly the ClusterSummaries whose latest call references `e`. -/
theorem updatesMaps_sequence_index (calls : List ClusterSummary) :
    let r := calls.foldl ClusterSummaryReconciler.updatesMaps ClusterSummaryReconciler.empty
    (∀ c e, c ∈ r.getReferenceMapForEntry e ↔ e ∈ r.references c) ∧
    (∀ c, r.ClusterSummaryMap c = (latestCall calls c).map getCurrentReferences) ∧
    (∀ c e, c ∈ r.getReferenceMapForEntry e ↔
      ∃ clusterSummary, latestCall calls c = some clusterSummary ∧
        e ∈ getCurrentReferences clusterSummary) := by
  refine ⟨consistent_foldl_updatesMaps calls, ClusterSummaryMap_foldl_updatesMaps calls,
    fun c e => ?_⟩
  rw [consistent_foldl_updatesMaps calls c e, ClusterSummaryReconciler.references,
    ClusterSummaryMap_foldl_updatesMaps]
  cases latestCall calls c <;> simp

end AddonController
