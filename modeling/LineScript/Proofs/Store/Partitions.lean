import LineScript.Proofs.Text.ByteOrder
import LineScript.Store.Basic

namespace LineScript

namespace NameMap

theorem mem_of_findEntry {name : Text} {value : α} {entries : List (Text × α)}
    (found : findEntry name entries = some value) : (name, value) ∈ entries := by
  induction entries with
  | nil => cases found
  | cons head rest induction =>
      obtain ⟨other, held⟩ := head
      rw [findEntry] at found
      split at found
      · rename_i same
        cases found
        subst same
        exact List.mem_cons_self
      · exact List.mem_cons_of_mem _ (induction found)

theorem findEntry_of_mem {name : Text} {value : α} {entries : List (Text × α)}
    (increasing : entries.Pairwise fun left right => left.1 < right.1)
    (member : (name, value) ∈ entries) : findEntry name entries = some value := by
  induction increasing with
  | nil => cases member
  | @cons head rest above _ induction =>
      obtain ⟨other, held⟩ := head
      cases member with
      | head => rw [findEntry, if_pos rfl]
      | tail _ inside =>
          have different : name ≠ other := by
            intro same
            rw [same] at inside
            exact List.lt_irrefl other (above (other, value) inside)
          rw [findEntry, if_neg different, induction inside]

theorem mem_entries_iff {map : NameMap α} {name : Text} {value : α} :
    (name, value) ∈ map.entries ↔ map.get? name = some value :=
  ⟨findEntry_of_mem map.increasing, mem_of_findEntry⟩

def names (map : NameMap α) : List Text := map.entries.map Prod.fst

theorem mem_names_iff {map : NameMap α} {name : Text} :
    name ∈ map.names ↔ ∃ value, map.get? name = some value := by
  simp [names, mem_entries_iff]

theorem nodup_names (map : NameMap α) : map.names.Nodup := by
  apply List.pairwise_map.mpr
  apply map.increasing.imp
  intro left right less same
  rw [same] at less
  exact List.lt_irrefl right.1 less

theorem size_eq_length_names (map : NameMap α) : map.size = map.names.length :=
  (List.length_map _).symm

theorem increasing_utf8 (map : NameMap α) :
    map.entries.Pairwise fun left right => Text.utf8 left.1 < Text.utf8 right.1 :=
  map.increasing.imp Text.utf8_lt

end NameMap

namespace Store

def bound (store : Store) : Partition → NameMap Value
  | .ordinary => store.variables
  | .capture => store.captures

/-- No name is bound in both partitions. -/
def Exclusive (store : Store) : Prop :=
  ∀ name, store.variables.get? name = none ∨ store.captures.get? name = none

theorem get?_bound_set (store : Store) (name : Text) (value : Value) (partition : Partition)
    (other : Partition) (asked : Text) :
    ((store.set name value partition).bound other).get? asked =
      if asked = name then if other = partition then some value else none
      else (store.bound other).get? asked := by
  cases partition with
  | ordinary =>
      cases other with
      | ordinary => exact NameMap.get?_insert ..
      | capture => exact NameMap.get?_erase ..
  | capture =>
      cases other with
      | ordinary => exact NameMap.get?_erase ..
      | capture => exact NameMap.get?_insert ..

theorem ext_bound {store other : Store}
    (same : ∀ partition asked,
      (store.bound partition).get? asked = (other.bound partition).get? asked)
    (sameLog : store.log = other.log) : store = other := by
  obtain ⟨«variables», captures, log⟩ := store
  obtain ⟨otherVariables, otherCaptures, otherLog⟩ := other
  obtain rfl : «variables» = otherVariables := NameMap.ext_get? (same .ordinary)
  obtain rfl : captures = otherCaptures := NameMap.ext_get? (same .capture)
  obtain rfl : log = otherLog := sameLog
  rfl

@[simp] theorem log_set (store : Store) (name : Text) (value : Value) (partition : Partition) :
    (store.set name value partition).log = store.log := by
  cases partition <;> rfl

theorem get?_set (store : Store) (name : Text) (value : Value) (partition : Partition)
    (asked : Text) :
    (store.set name value partition).get? asked =
      if asked = name then some value else store.get? asked := by
  have asVariable := get?_bound_set store name value partition .ordinary asked
  have asCapture := get?_bound_set store name value partition .capture asked
  unfold bound at asVariable asCapture
  unfold get?
  rw [asVariable, asCapture]
  by_cases same : asked = name
  · cases partition <;> simp [same]
  · simp [same]

theorem set_comm (store : Store) {name other : Text} (different : name ≠ other)
    (value otherValue : Value) (partition otherPartition : Partition) :
    (store.set name value partition).set other otherValue otherPartition =
      (store.set other otherValue otherPartition).set name value partition := by
  apply ext_bound
  · intro found asked
    simp only [get?_bound_set]
    by_cases here : asked = name
    · have there : asked ≠ other := fun same => different (here.symm.trans same)
      simp only [if_neg there, if_pos here]
    · simp only [if_neg here]
  · simp only [log_set]

theorem extract_eq_get? (store : Store) (name : Text) :
    (store.extract name).1 = store.get? name := by
  rw [extract, get?]
  split
  · rename_i found
    rw [found]
    rfl
  · rename_i missing
    rw [missing]
    rfl

theorem get?_bound_remove {store : Store} (exclusive : store.Exclusive) (name : Text)
    (partition : Partition) (asked : Text) :
    ((store.remove name).bound partition).get? asked =
      if asked = name then none else (store.bound partition).get? asked := by
  have untouched : ∀ map : NameMap Value, map.get? name = none →
      map.get? asked = if asked = name then none else map.get? asked := by
    intro map missing
    split
    · rename_i same
      rw [same, missing]
    · rfl
  rw [remove, extract]
  split
  · rename_i found
    have missing : store.captures.get? name = none := by
      cases exclusive name with
      | inl absent => rw [absent] at found; cases found
      | inr absent => exact absent
    cases partition with
    | ordinary => exact NameMap.get?_erase ..
    | capture => exact untouched store.captures missing
  · rename_i missing
    cases partition with
    | ordinary => exact untouched store.variables missing
    | capture => exact NameMap.get?_erase ..

end Store

end LineScript
