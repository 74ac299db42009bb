import LineScript.Statement.Basic
import LineScript.Proofs.Text.Runs

namespace LineScript

namespace Text

theorem isAlpha_of_isAlpha_toLower {character : Char} (letter : character.toLower.isAlpha = true) :
    character.isAlpha = true := by
  cases upper : character.isUpper with
  | true =>
      change (character.isUpper || character.isLower) = true
      rw [upper, Bool.true_or]
  | false =>
      have same : character.toLower = character := dif_neg (of_decide_eq_false upper)
      rwa [same] at letter

theorem isWordCharacter_of_isAlpha {character : Char} (letter : character.isAlpha = true) :
    isWordCharacter character = true := by
  have quote : character ≠ '"' := by
    intro same
    subst same
    exact absurd letter (by decide)
  have blank : isBlank character = false := by
    have codes := codes_of_isAlpha letter
    simp only [isBlank, Bool.or_eq_false_iff, Bool.and_eq_false_iff, decide_eq_false_iff_not,
      beq_eq_false_iff_ne]
    omega
  simp [isWordCharacter, isSolid, blank, quote]

structure IsLetters (word : Text) : Prop where
  nonempty : word ≠ []
  letters : ∀ character ∈ word, character.isAlpha = true

theorem IsLetters.isWord {word : Text} (letters : IsLetters word) :
    ∀ character ∈ word, isWordCharacter character = true := by
  intro character member
  exact isWordCharacter_of_isAlpha (letters.letters character member)

theorem IsLetters.stops {belongs : Char → Bool} {word : Text} (letters : IsLetters word)
    (rest : Text) (outside : ∀ character, character.isAlpha = true → belongs character = false) :
    Stops belongs (word ++ rest) := by
  obtain ⟨nonempty, letters⟩ := letters
  cases word with
  | nil => exact absurd rfl nonempty
  | cons character word =>
      exact stops_cons.mpr (outside character (letters character List.mem_cons_self))

theorem isBlank_eq_false_of_isAlpha {character : Char} (letter : character.isAlpha = true) :
    isBlank character = false := by
  have inside := isWordCharacter_of_isAlpha letter
  simp only [isWordCharacter, isSolid, Bool.and_eq_true, Bool.not_eq_true'] at inside
  exact inside.1

theorem IsLetters.stops_isBlank {word : Text} (letters : IsLetters word) (rest : Text) :
    Stops isBlank (word ++ rest) :=
  letters.stops rest fun _ => isBlank_eq_false_of_isAlpha

theorem IsLetters.not_stops_isSolid {word : Text} (letters : IsLetters word) (rest : Text) :
    ¬ Stops isSolid (word ++ rest) := by
  obtain ⟨nonempty, letters⟩ := letters
  cases word with
  | nil => exact absurd rfl nonempty
  | cons character word =>
      have first := isBlank_eq_false_of_isAlpha (letters character List.mem_cons_self)
      simp [stops_cons, isSolid, first]

theorem IsLetters.stops_mark {word : Text} {mark : Char} (letters : IsLetters word) (rest : Text)
    (noLetter : mark.isAlpha = false) : Stops (· == mark) (word ++ rest) := by
  refine letters.stops rest ?_
  intro character letter
  rw [beq_eq_false_iff_ne]
  intro same
  subst same
  exact absurd letter (by simp [noLetter])

theorem isLetters_of_sameLetters {keyword text : Text}
    (lowered : IsLetters (keyword.map Char.toLower)) (same : sameLetters keyword text = true) :
    IsLetters text := by
  constructor
  · intro same
    subst same
    exact lowered.nonempty (eq_of_beq same)
  · intro character member
    have inside : character.toLower ∈ keyword.map Char.toLower := by
      rw [eq_of_beq same]
      exact List.mem_map_of_mem member
    exact isAlpha_of_isAlpha_toLower (lowered.letters _ inside)

/-- Looking a keyword up finds the one that is spelled, if no two are spelled alike. -/
theorem find?_sameLetters_eq_some_iff {all : List α} {keyword : α → Text} {item : α} {text : Text}
    (distinct : ∀ left right,
      (keyword left).map Char.toLower = (keyword right).map Char.toLower → left = right)
    (listed : item ∈ all) :
    all.find? (fun other => sameLetters (keyword other) text) = some item ↔
      sameLetters (keyword item) text = true := by
  constructor
  · exact List.find?_some
  · intro same
    cases found : all.find? (fun other => sameLetters (keyword other) text) with
    | none => exact absurd same (List.find?_eq_none.mp found item listed)
    | some other =>
        have otherSame := List.find?_some found
        rw [distinct other item ((eq_of_beq otherSame).trans (eq_of_beq same).symm)]

end Text

namespace Operation

theorem ofName?_eq_some_iff {operation : Operation} {name : Text} :
    ofName? name = some operation ↔ Text.sameLetters operation.name name = true := by
  apply Text.find?_sameLetters_eq_some_iff
  · intro left right
    cases left <;> cases right <;> decide
  · cases operation <;> decide

theorem ofName?_eq_none_iff {name : Text} :
    ofName? name = none ↔ ∀ operation : Operation, Text.sameLetters operation.name name = false := by
  simp [Option.eq_none_iff_forall_ne_some, ofName?_eq_some_iff]

theorem isLetters_of_spelled {operation : Operation} {name : Text}
    (spelled : Text.sameLetters operation.name name = true) : Text.IsLetters name := by
  refine Text.isLetters_of_sameLetters ⟨?_, ?_⟩ spelled
  · cases operation <;> decide
  · apply List.all_eq_true.mp
    cases operation <;> rfl

end Operation

namespace Partition

theorem ofToken?_eq_some_iff {partition : Partition} {token : Text} :
    ofToken? token = some partition ↔ Text.sameLetters partition.token token = true := by
  apply Text.find?_sameLetters_eq_some_iff
  · intro left right
    cases left <;> cases right <;> decide
  · cases partition <;> decide

theorem ofToken?_eq_none_iff {token : Text} :
    ofToken? token = none ↔
      ∀ partition : Partition, Text.sameLetters partition.token token = false := by
  simp [Option.eq_none_iff_forall_ne_some, ofToken?_eq_some_iff]

theorem isLetters_of_spelled {partition : Partition} {token : Text}
    (spelled : Text.sameLetters partition.token token = true) : Text.IsLetters token := by
  refine Text.isLetters_of_sameLetters ⟨?_, ?_⟩ spelled
  · cases partition <;> decide
  · apply List.all_eq_true.mp
    cases partition <;> rfl

end Partition

end LineScript
