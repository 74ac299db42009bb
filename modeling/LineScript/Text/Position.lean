import LineScript.Text.Utf8

namespace LineScript.Text

/-- What stands before and after a position, unless it lies inside a character or beyond the end. -/
def cutAt? : Nat → Text → Option (Text × Text)
  | 0, text => some ([], text)
  | _ + 1, [] => none
  | position + 1, character :: rest =>
      if character.utf8Size ≤ position + 1 then
        (cutAt? (position + 1 - character.utf8Size) rest).map fun (before, after) =>
          (character :: before, after)
      else none

@[simp] theorem cutAt?_zero (text : Text) : cutAt? 0 text = some ([], text) := by
  cases text <;> rfl

theorem cutAt?_cons {position : Nat} (character : Char) (rest : Text)
    (fits : character.utf8Size ≤ position) :
    cutAt? position (character :: rest) =
      (cutAt? (position - character.utf8Size) rest).map fun (before, after) =>
        (character :: before, after) := by
  cases position with
  | zero => exact absurd fits (Nat.not_le.mpr character.utf8Size_pos)
  | succ position => exact if_pos fits

@[simp] theorem cutAt?_append (before after : Text) :
    cutAt? (utf8Length before) (before ++ after) = some (before, after) := by
  induction before with
  | nil => exact cutAt?_zero after
  | cons character before induction =>
      have fits : character.utf8Size ≤ utf8Length (character :: before) := Nat.le_add_right _ _
      have left : utf8Length (character :: before) - character.utf8Size = utf8Length before :=
        Nat.add_sub_cancel_left _ _
      rw [List.cons_append, cutAt?_cons character _ fits, left, induction]
      rfl

/-- The position of the first character that stops a scan, if there is one. -/
def positionOf? (stops : Char → Bool) : Text → Option Nat
  | [] => none
  | character :: rest =>
      if stops character then some 0
      else (positionOf? stops rest).map (character.utf8Size + ·)

/-- Where a scan ends that goes on until it is stopped. -/
def positionOrEnd (stops : Char → Bool) (text : Text) : Nat :=
  (positionOf? stops text).getD (utf8Length text)

theorem positionOrEnd_eq (stops : Char → Bool) (text : Text) :
    positionOrEnd stops text = utf8Length (text.takeWhile fun character => !stops character) := by
  induction text with
  | nil => rfl
  | cons character rest induction =>
      rw [positionOrEnd, positionOf?]
      split
      · rename_i stopped
        simp [stopped, utf8Length]
      · rename_i passed
        rw [positionOrEnd] at induction
        rw [List.takeWhile_cons_of_pos (by simpa using passed)]
        simp only [utf8Length, ← induction]
        cases positionOf? stops rest <;> rfl

theorem positionOf?_eq_cut (mark : Char) (text : Text) :
    positionOf? (· == mark) text = (cut mark text).map fun (before, _) => utf8Length before := by
  induction text with
  | nil => rfl
  | cons character rest induction =>
      rw [positionOf?, cut_cons]
      by_cases same : character = mark
      · simp [same, utf8Length]
      · simp [same, induction, Function.comp_def, utf8Length]

theorem utf8Length_eq_zero_iff {text : Text} : utf8Length text = 0 ↔ text = [] := by
  cases text with
  | nil => simp [utf8Length]
  | cons character rest =>
      have := character.utf8Size_pos
      simp only [utf8Length, reduceCtorEq, iff_false]
      omega

end LineScript.Text
