import Mathlib.Data.List.Basic

/-!
# The string set behind the reference maps

Both maps of `ClusterSummaryReconciler` store values of the controller's `Set`. Its file is
not under `src/`: `set_test.go` fixes what `insert`, `erase`, `has` and `items` do, and
`updatesMaps` uses `difference` and iterates over the entries. Entries are kept without
repetition, so that `erase` removes an entry completely.
-/

namespace AddonController

/-- Modelled from the spec: `controllers.Set`, whose file is not under `src/`. A Go
`map[string]bool` used as a set; `data` lists its keys, each once. -/
structure Set where
  data : List String
  nodup : data.Nodup

namespace Set

instance : Membership String Set := ⟨fun s entry => entry ∈ s.data⟩

instance (entry : String) (s : Set) : Decidable (entry ∈ s) :=
  inferInstanceAs (Decidable (entry ∈ s.data))

/-- `&Set{}`: the set with no entry. -/
def empty : Set := ⟨[], List.nodup_nil⟩

/-- Modelled from the spec: `Set.insert`, a new key of the map. -/
def insert (s : Set) (entry : String) : Set :=
  if h : entry ∈ s.data then s else ⟨entry :: s.data, List.nodup_cons.mpr ⟨h, s.nodup⟩⟩

/-- Modelled from the spec: `Set.erase`, `delete` on the map. -/
def erase (s : Set) (entry : String) : Set := ⟨s.data.erase entry, s.nodup.erase entry⟩

/-- Modelled from the spec: `Set.has`. -/
def has (s : Set) (entry : String) : Bool := decide (entry ∈ s)

/-- Modelled from the spec: `Set.items`, the keys of the map. -/
def items (s : Set) : List String := s.data

/-- Modelled from the spec: `Set.difference`, the entries of `s` that `other` lacks. -/
def difference (s other : Set) : List String := s.data.filter (fun entry => !other.has entry)

theorem mem_def {s : Set} {entry : String} : entry ∈ s ↔ entry ∈ s.data := Iff.rfl

@[simp] theorem not_mem_empty (entry : String) : entry ∉ empty := List.not_mem_nil entry

@[simp] theorem mem_insert {s : Set} {entry x : String} :
    x ∈ s.insert entry ↔ x = entry ∨ x ∈ s := by
  unfold insert
  split
  · constructor
    · exact Or.inr
    · rintro (rfl | h) <;> assumption
  · exact List.mem_cons

@[simp] theorem mem_erase {s : Set} {entry x : String} : x ∈ s.erase entry ↔ x ≠ entry ∧ x ∈ s :=
  s.nodup.mem_erase_iff

@[simp] theorem has_eq_true {s : Set} {entry : String} : s.has entry = true ↔ entry ∈ s :=
  decide_eq_true_iff

@[simp] theorem mem_items {s : Set} {entry : String} : entry ∈ s.items ↔ entry ∈ s := Iff.rfl

@[simp] theorem mem_difference {s other : Set} {entry : String} :
    entry ∈ s.difference other ↔ entry ∈ s ∧ entry ∉ other := by
  simp [difference, has, mem_def]

end Set

end AddonController
