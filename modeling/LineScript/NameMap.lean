import LineScript.Text.Basic

/-!
Finite maps from names, kept in strictly increasing order of names by code points. The order makes
equal maps equal as data: a map is its lookups.
-/

namespace LineScript

structure NameMap (α : Type) where
  entries : List (Text × α)
  increasing : entries.Pairwise fun left right => left.1 < right.1

namespace NameMap

instance [DecidableEq α] : DecidableEq (NameMap α) := fun left right =>
  if same : left.entries = right.entries then
    isTrue (by cases left; cases right; simp_all)
  else
    isFalse fun equal => same (congrArg entries equal)

def empty : NameMap α := ⟨[], .nil⟩

instance : Inhabited (NameMap α) := ⟨empty⟩

def size (map : NameMap α) : Nat := map.entries.length

def isEmpty (map : NameMap α) : Bool := map.entries.isEmpty

def findEntry (name : Text) : List (Text × α) → Option α
  | [] => none
  | (other, held) :: rest => if name = other then some held else findEntry name rest

def get? (map : NameMap α) (name : Text) : Option α := findEntry name map.entries

def contains (map : NameMap α) (name : Text) : Bool := (map.get? name).isSome

def insertEntry (name : Text) (value : α) : List (Text × α) → List (Text × α)
  | [] => [(name, value)]
  | (other, held) :: rest =>
      if name < other then (name, value) :: (other, held) :: rest
      else if name = other then (name, value) :: rest
      else (other, held) :: insertEntry name value rest

theorem name_lt_of_not_lt {name other : Text} (before : ¬ name < other) (different : name ≠ other) :
    other < name := by
  rcases List.le_iff_lt_or_eq.mp (List.not_lt.mp before) with smaller | equal
  · exact smaller
  · exact absurd equal.symm different

theorem mem_insertEntry {name : Text} {value : α} {entries : List (Text × α)} {entry : Text × α}
    (member : entry ∈ insertEntry name value entries) :
    entry = (name, value) ∨ entry ∈ entries := by
  induction entries with
  | nil => simpa [insertEntry] using member
  | cons head rest induction =>
      obtain ⟨other, held⟩ := head
      rw [insertEntry] at member
      split at member
      · simpa using member
      · split at member
        · simp only [List.mem_cons] at member ⊢
          rcases member with equal | inside
          · exact .inl equal
          · exact .inr (.inr inside)
        · simp only [List.mem_cons] at member ⊢
          rcases member with equal | inside
          · exact .inr (.inl equal)
          · exact (induction inside).imp_right .inr

theorem insertEntry_increasing (name : Text) (value : α) {entries : List (Text × α)}
    (increasing : entries.Pairwise fun left right => left.1 < right.1) :
    (insertEntry name value entries).Pairwise fun left right => left.1 < right.1 := by
  induction increasing with
  | nil => simp [insertEntry]
  | @cons head rest above tail induction =>
      obtain ⟨other, held⟩ := head
      rw [insertEntry]
      split
      · rename_i smaller
        refine .cons ?_ (.cons above tail)
        intro entry member
        rcases List.mem_cons.mp member with equal | inside
        · subst equal
          exact smaller
        · exact List.lt_trans smaller (above entry inside)
      · split
        · rename_i equal
          subst equal
          exact .cons above tail
        · rename_i notBefore different
          refine .cons ?_ induction
          intro entry member
          rcases mem_insertEntry member with equal | inside
          · subst equal
            exact name_lt_of_not_lt notBefore different
          · exact above entry inside

def insert (map : NameMap α) (name : Text) (value : α) : NameMap α :=
  ⟨insertEntry name value map.entries, insertEntry_increasing name value map.increasing⟩

def erase (map : NameMap α) (name : Text) : NameMap α :=
  ⟨map.entries.filter fun entry => entry.1 != name, map.increasing.filter _⟩

/-- Of a name that is given more than once, the last value counts. -/
def ofList (entries : List (Text × α)) : NameMap α :=
  entries.foldl (fun map entry => map.insert entry.1 entry.2) empty

theorem findEntry_insertEntry (name other : Text) (value : α) (entries : List (Text × α)) :
    findEntry other (insertEntry name value entries) =
      if other = name then some value else findEntry other entries := by
  induction entries with
  | nil => simp [insertEntry, findEntry]
  | cons head rest induction =>
      obtain ⟨first, held⟩ := head
      rw [insertEntry]
      split
      · simp [findEntry]
      · split
        · rename_i equal
          subst equal
          by_cases same : other = name <;> simp [findEntry, same]
        · rename_i different
          by_cases here : other = first
          · subst here
            simp [findEntry, Ne.symm different]
          · simp [findEntry, here, induction]

theorem get?_insert (map : NameMap α) (name other : Text) (value : α) :
    (map.insert name value).get? other = if other = name then some value else map.get? other :=
  findEntry_insertEntry name other value map.entries

theorem findEntry_filter (name other : Text) (entries : List (Text × α)) :
    findEntry other (entries.filter fun entry => entry.1 != name) =
      if other = name then none else findEntry other entries := by
  induction entries with
  | nil => simp [findEntry]
  | cons head rest induction =>
      obtain ⟨first, held⟩ := head
      by_cases dropped : first = name
      · subst dropped
        by_cases same : other = first
        · simp only [same, ite_true] at induction
          simpa [same] using induction
        · simp only [same, ite_false] at induction
          simpa [same, findEntry] using induction
      · by_cases here : other = first
        · subst here
          simp [findEntry, dropped]
        · simp [findEntry, dropped, here, induction]

theorem get?_erase (map : NameMap α) (name other : Text) :
    (map.erase name).get? other = if other = name then none else map.get? other :=
  findEntry_filter name other map.entries

@[simp] theorem get?_erase_self (map : NameMap α) (name : Text) :
    (map.erase name).get? name = none := by
  simp [get?_erase]

theorem findEntry_eq_none_of_above {name : Text} {entries : List (Text × α)}
    (above : ∀ entry ∈ entries, name < entry.1) : findEntry name entries = none := by
  induction entries with
  | nil => rfl
  | cons head rest induction =>
      obtain ⟨first, held⟩ := head
      have smaller := above (first, held) (by simp)
      have different : name ≠ first := by
        intro same
        subst same
        exact List.lt_irrefl _ smaller
      rw [findEntry, if_neg different]
      exact induction fun entry member => above entry (by simp [member])

/-- The least name of one list cannot lie below every name of the other. -/
theorem not_head_lt {name other : Text} {value : α} {otherValue : α}
    {rest later : List (Text × α)} (above : ∀ entry ∈ later, other < entry.1)
    (same : ∀ asked, findEntry asked ((name, value) :: rest) =
      findEntry asked ((other, otherValue) :: later)) : ¬ name < other := by
  intro before
  have missing : findEntry name ((other, otherValue) :: later) = none := by
    apply findEntry_eq_none_of_above
    intro entry member
    rcases List.mem_cons.mp member with rfl | inside
    · exact before
    · exact List.lt_trans before (above entry inside)
  have found := same name
  rw [missing, findEntry, if_pos rfl] at found
  exact absurd found (by simp)

theorem entries_eq_of_findEntry {entries others : List (Text × α)}
    (increasing : entries.Pairwise fun left right => left.1 < right.1)
    (otherIncreasing : others.Pairwise fun left right => left.1 < right.1)
    (same : ∀ name, findEntry name entries = findEntry name others) : entries = others := by
  induction increasing generalizing others with
  | nil =>
      cases others with
      | nil => rfl
      | cons head rest =>
          have found := same head.1
          simp [findEntry] at found
  | @cons head rest above tail induction =>
      obtain ⟨name, value⟩ := head
      cases otherIncreasing with
      | nil =>
          have found := same name
          simp [findEntry] at found
      | @cons other later otherAbove otherTail =>
          obtain ⟨otherName, otherValue⟩ := other
          have equal : name = otherName := by
            by_cases different : name = otherName
            · exact different
            · exact absurd (name_lt_of_not_lt (not_head_lt otherAbove same) different)
                (not_head_lt above fun asked => (same asked).symm)
          subst equal
          have values := same name
          simp only [findEntry, if_pos, Option.some.injEq] at values
          subst values
          congr 1
          apply induction otherTail
          intro asked
          by_cases here : asked = name
          · subst here
            rw [findEntry_eq_none_of_above above, findEntry_eq_none_of_above otherAbove]
          · have rests := same asked
            rwa [findEntry, findEntry, if_neg here, if_neg here] at rests

theorem ext_get? {left right : NameMap α} (same : ∀ name, left.get? name = right.get? name) :
    left = right := by
  obtain ⟨entries, increasing⟩ := left
  obtain ⟨others, otherIncreasing⟩ := right
  have equal : entries = others := entries_eq_of_findEntry increasing otherIncreasing same
  subst equal
  rfl

theorem contains_eq_true_iff {map : NameMap α} {name : Text} :
    map.contains name = true ↔ ∃ value, map.get? name = some value :=
  Option.isSome_iff_exists

end NameMap

end LineScript
