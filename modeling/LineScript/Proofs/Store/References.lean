import LineScript.Proofs.Text.Numerals
import LineScript.Store.Basic

namespace LineScript

open Text

namespace Value

variable {items : List Text} {index : Int} {item : Text} {value : Value}

/-- The item has that index in the list, counted from its start or, below zero, from its end. -/
def HasIndex (items : List Text) (index : Int) (item : Text) : Prop :=
  ∃ place : Nat, items[place]? = some item ∧ (index = place ∨ index = place - items.length)

theorem element?_list_eq_some_iff : (list items).element? index = some item ↔ HasIndex items index item := by
  unfold element? HasIndex
  constructor
  · intro found
    dsimp only at found
    generalize located : (if index < 0 then (items.length : Int) + index else index) = place at found
    split at found
    · cases found
    · refine ⟨place.toNat, found, ?_⟩
      split at located <;> omega
  · rintro ⟨place, found, counted⟩
    have inside : place < items.length := (List.getElem?_eq_some_iff.mp found).1
    have located : (if index < 0 then (items.length : Int) + index else index) = place := by
      split <;> omega
    dsimp only
    rw [located, if_neg (by omega), Int.toNat_natCast, found]

theorem element?_eq_some_iff :
    value.element? index = some item ↔ ∃ items, value = list items ∧ HasIndex items index item := by
  cases value with
  | text content => exact ⟨nofun, nofun⟩
  | list items => simp [element?_list_eq_some_iff]

end Value

namespace Reference

/-- The body of a reference means the text, where `find` gives names their values. A body that ends in a
square bracket is never the name of a whole value. -/
inductive Denotes (find : Text → Option Value) : Text → Text → Prop
  | whole {body : Text} {value : Value} (unbracketed : body.getLast? ≠ some ']')
      (bound : find (trim body) = some value) : Denotes find body value.display
  | element {name index item : Text} {word : Word} {items : List Text} (clean : '[' ∉ name)
      (spelled : Numeral.Spells (trim index) word.toInt)
      (bound : find (trim name) = some (.list items))
      (indexed : Value.HasIndex items word.toInt item) :
      Denotes find (name ++ '[' :: index ++ [']']) item

variable {find : Text → Option Value} {body text : Text}

theorem resolve_of_unbracketed (unbracketed : body.getLast? ≠ some ']') :
    resolve find body = (find (trim body)).map Value.display := by
  unfold resolve read?
  rw [if_neg unbracketed]
  rfl

theorem resolve_of_bracketed (front : Text) :
    resolve find (front ++ [']']) =
      (cut '[' front).bind fun (name, index) =>
        (Word.read? (trim index)).bind fun word =>
          (find (trim name)).bind fun value => value.element? word.toInt := by
  unfold resolve read?
  rw [if_pos (List.getLast?_concat ..), List.dropLast_concat, Option.bind_assoc]
  congr 1
  funext (name, index)
  dsimp only
  rw [Option.bind_map]
  rfl

theorem resolve_eq_some_iff : resolve find body = some text ↔ Denotes find body text := by
  constructor
  · intro resolved
    by_cases bracketed : body.getLast? = some ']'
    · obtain ⟨front, rfl⟩ := List.getLast?_eq_some_iff.mp bracketed
      rw [resolve_of_bracketed] at resolved
      obtain ⟨⟨name, index⟩, found, indexRead⟩ := Option.bind_eq_some_iff.mp resolved
      obtain ⟨word, read, nameFound⟩ := Option.bind_eq_some_iff.mp indexRead
      obtain ⟨value, bound, chosen⟩ := Option.bind_eq_some_iff.mp nameFound
      obtain ⟨items, rfl, indexed⟩ := Value.element?_eq_some_iff.mp chosen
      obtain ⟨rfl, clean⟩ := cut_eq_some_iff.mp found
      exact .element clean (Word.read?_eq_some_iff.mp read) bound indexed
    · rw [resolve_of_unbracketed bracketed] at resolved
      obtain ⟨value, bound, rfl⟩ := Option.map_eq_some_iff.mp resolved
      exact .whole bracketed bound
  · intro denotes
    cases denotes with
    | whole unbracketed bound => rw [resolve_of_unbracketed unbracketed, bound]; rfl
    | element clean spelled bound indexed =>
        rw [resolve_of_bracketed, cut_append '[' clean]
        dsimp only [Option.bind]
        rw [Word.read?_eq_some_iff.mpr spelled]
        dsimp only
        rw [bound]
        exact Value.element?_list_eq_some_iff.mpr indexed

theorem resolve_eq_none_iff : resolve find body = none ↔ ∀ text, ¬ Denotes find body text := by
  rw [Option.eq_none_iff_forall_ne_some]
  simp only [ne_eq, resolve_eq_some_iff]

theorem not_denotes_of_unbound (unbound : ∀ name, find name = none) : ¬ Denotes find body text := by
  intro denotes
  cases denotes with
  | whole _ bound => rw [unbound] at bound; cases bound
  | element _ _ bound => rw [unbound] at bound; cases bound

end Reference

end LineScript
