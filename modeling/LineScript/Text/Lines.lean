import LineScript.Text.Basic

/-!
Lines of a source. A line ends at a line feed, and one carriage return before that line feed is
part of the ending; a last line without a line feed keeps all its characters.
-/

namespace LineScript.Text

def lines : Text → List Text
  | [] => []
  | '\n' :: rest => [] :: lines rest
  | '\r' :: '\n' :: rest => [] :: lines rest
  | character :: rest =>
      match lines rest with
      | [] => [[character]]
      | line :: later => (character :: line) :: later

@[simp] theorem lines_nil : lines [] = [] := by simp [lines]

@[simp] theorem lines_feed (rest : Text) : lines ('\n' :: rest) = [] :: lines rest := by
  simp [lines]

@[simp] theorem lines_return_feed (rest : Text) :
    lines ('\r' :: '\n' :: rest) = [] :: lines rest := by
  simp [lines]

theorem lines_cons {character : Char} (rest : Text) (noFeed : character ≠ '\n')
    (noReturn : character = '\r' → ∀ later, rest ≠ '\n' :: later) :
    lines (character :: rest) =
      match lines rest with
      | [] => [[character]]
      | line :: later => (character :: line) :: later := by
  rw [lines]
  · exact noFeed
  · intro later isReturn equal
    exact noReturn isReturn later equal

theorem lines_ne_nil {text : Text} (nonempty : text ≠ []) : lines text ≠ [] := by
  fun_cases lines text <;> simp_all

private theorem lines_append_feed_cons {character : Char} {rest : Text} (back : Text)
    (noFeed : character ≠ '\n') (noReturn : character = '\r' → ∀ later, rest ≠ '\n' :: later)
    (induction : lines (rest ++ '\n' :: back) = lines (rest ++ ['\n']) ++ lines back) :
    lines (character :: rest ++ '\n' :: back) =
      lines (character :: rest ++ ['\n']) ++ lines back := by
  by_cases returnFeed : character = '\r' ∧ rest = []
  · obtain ⟨rfl, rfl⟩ := returnFeed
    simp
  · have apart (tail : Text) (isReturn : character = '\r') (after : Text) :
        rest ++ '\n' :: tail ≠ '\n' :: after := by
      intro equal
      cases rest with
      | nil => exact returnFeed ⟨isReturn, rfl⟩
      | cons next rest =>
          simp only [List.cons_append, List.cons.injEq] at equal
          exact noReturn isReturn rest (by rw [equal.1])
    simp only [List.cons_append]
    rw [lines_cons _ noFeed (apart back), lines_cons _ noFeed (apart []), induction]
    cases split : lines (rest ++ ['\n']) with
    | nil => exact absurd split (lines_ne_nil (by simp))
    | cons line later => simp

/-- A source that ends its last line can be put before any other: lines stay lines. -/
theorem lines_append_feed (front back : Text) :
    lines (front ++ '\n' :: back) = lines (front ++ ['\n']) ++ lines back := by
  fun_induction lines front with
  | case1 => simp
  | case2 rest induction => simp [induction]
  | case3 rest induction => simp [induction]
  | case4 character rest noFeed noReturn _ induction =>
      exact lines_append_feed_cons back noFeed (fun isReturn later => noReturn later isReturn)
        induction
  | case5 character rest noFeed noReturn line later _ induction =>
      exact lines_append_feed_cons back noFeed (fun isReturn later => noReturn later isReturn)
        induction

end LineScript.Text
