import LineScript.Text.Lines
import LineScript.Proofs.Text.Runs

namespace LineScript.Text

/-- The lines with a line feed after each. -/
def unlines (texts : List Text) : Text := texts.flatMap fun text => text ++ ['\n']

@[simp] theorem unlines_cons (text : Text) (texts : List Text) :
    unlines (text :: texts) = text ++ '\n' :: unlines texts := by
  simp [unlines]

/-- Nothing of the text becomes part of a line ending when a line feed is put after it. -/
structure IsLine (text : Text) : Prop where
  noFeed : '\n' ∉ text
  noReturn : text.getLast? ≠ some '\r'

theorem getLast?_ne_of_stops {text : Text} {character : Char} (stops : Stops isBlank text.reverse)
    (blank : isBlank character = true) : text.getLast? ≠ some character := by
  intro last
  have outside := stops character (by rw [List.head?_reverse]; exact last)
  rw [blank] at outside
  exact absurd outside (by decide)

theorem isLine_of_stops {text : Text} (noFeed : '\n' ∉ text) (stops : Stops isBlank text.reverse) :
    IsLine text :=
  ⟨noFeed, getLast?_ne_of_stops stops rfl⟩

theorem lines_eq_singleton {text : Text} (noFeed : '\n' ∉ text) (nonempty : text ≠ []) :
    lines text = [text] := by
  induction text with
  | nil => exact absurd rfl nonempty
  | cons character rest induction =>
      simp only [List.mem_cons, not_or] at noFeed
      rw [lines_cons rest (Ne.symm noFeed.1)]
      · cases rest with
        | nil => rfl
        | cons next rest => rw [induction noFeed.2 (by simp)]
      · intro _ later same
        exact noFeed.2 (by simp [same])

theorem IsLine.lines_append_feed {text : Text} (line : IsLine text) :
    lines (text ++ ['\n']) = [text] := by
  obtain ⟨noFeed, noReturn⟩ := line
  induction text with
  | nil => rfl
  | cons character rest induction =>
      simp only [List.mem_cons, not_or] at noFeed
      rw [List.cons_append, lines_cons _ (Ne.symm noFeed.1)]
      · rw [induction noFeed.2]
        intro last
        exact noReturn (by rw [List.getLast?_cons, last]; rfl)
      · intro isReturn later same
        cases rest with
        | nil => exact noReturn (by rw [isReturn]; rfl)
        | cons next rest =>
            simp only [List.cons_append, List.cons.injEq] at same
            exact noFeed.2 (by simp [same.1])

theorem lines_append_return_feed {text : Text} (noFeed : '\n' ∉ text) :
    lines (text ++ ['\r', '\n']) = [text] := by
  induction text with
  | nil => rfl
  | cons character rest induction =>
      simp only [List.mem_cons, not_or] at noFeed
      rw [List.cons_append, lines_cons _ (Ne.symm noFeed.1), induction noFeed.2]
      intro _ later same
      cases rest with
      | nil => cases same
      | cons next rest => exact noFeed.2 (by rw [(List.cons.inj same).1]; exact List.mem_cons_self)

theorem exists_line_of_noFeed {text : Text} (noFeed : '\n' ∉ text) :
    ∃ line, lines (text ++ ['\n']) = [line] ∧ trim line = trim text := by
  by_cases returns : text.getLast? = some '\r'
  · obtain ⟨front, rfl⟩ := List.getLast?_eq_some_iff.mp returns
    have blank : ∀ character ∈ ['\r'], isBlank character = true := List.forall_mem_singleton.mpr rfl
    refine ⟨front, ?_, (trim_append_blanks front ⟨['\r'], blank⟩).symm⟩
    rw [List.append_assoc]
    exact lines_append_return_feed fun member => noFeed (List.mem_append_left ['\r'] member)
  · exact ⟨text, IsLine.lines_append_feed ⟨noFeed, returns⟩, rfl⟩

theorem IsLine.lines_append {text : Text} (line : IsLine text) (rest : Text) :
    lines (text ++ '\n' :: rest) = text :: lines rest := by
  rw [Text.lines_append_feed, line.lines_append_feed]
  rfl

theorem lines_return_feed_append {text : Text} (noFeed : '\n' ∉ text) (rest : Text) :
    lines (text ++ '\r' :: '\n' :: rest) = text :: lines rest := by
  have whole := Text.lines_append_feed (text ++ ['\r']) rest
  simp only [List.append_assoc, List.cons_append, List.nil_append] at whole
  rw [whole, lines_append_return_feed noFeed]
  rfl

theorem lines_unlines_append {texts : List Text} (areLines : ∀ text ∈ texts, IsLine text)
    (rest : Text) : lines (unlines texts ++ rest) = texts ++ lines rest := by
  induction texts with
  | nil => rfl
  | cons text texts induction =>
      obtain ⟨line, areLines⟩ := List.forall_mem_cons.mp areLines
      rw [unlines_cons, List.append_assoc, List.cons_append, line.lines_append, induction areLines]
      rfl

theorem feed_not_mem_of_mem_lines {text line : Text} (member : line ∈ lines text) :
    '\n' ∉ line := by
  fun_induction lines text generalizing line with
  | case1 => simp at member
  | case2 rest induction =>
      rcases List.mem_cons.mp member with rfl | later
      · simp
      · exact induction later
  | case3 rest induction =>
      rcases List.mem_cons.mp member with rfl | later
      · simp
      · exact induction later
  | case4 character rest noFeed _ _ _ =>
      obtain rfl := List.mem_singleton.mp member
      simpa using Ne.symm noFeed
  | case5 character rest noFeed _ first later split induction =>
      rw [split] at induction
      rcases List.mem_cons.mp member with rfl | further
      · simp [Ne.symm noFeed, induction List.mem_cons_self]
      · exact induction (List.mem_cons_of_mem _ further)

/-- A text ends its last line exactly if nothing is left after the lines it ends. -/
theorem exists_ended_lines (text : Text) : ∃ (ended : List Text) (tail : Text),
    lines text = ended ++ lines tail ∧ '\n' ∉ tail ∧
      (text.getLast? = some '\n' ↔ ended ≠ [] ∧ tail = []) := by
  by_cases fed : '\n' ∈ text
  · -- The last line feed is the first from behind.
    obtain ⟨later, front, reversed, clean⟩ :=
      List.eq_append_cons_of_mem (List.mem_reverse.mpr fed)
    have whole : text = front.reverse ++ '\n' :: later.reverse := by
      rw [← List.reverse_reverse text, reversed]
      simp
    refine ⟨lines (front.reverse ++ ['\n']), later.reverse, ?_, by simpa using clean, ?_⟩
    · rw [whole, lines_append_feed]
    · have ended : lines (front.reverse ++ ['\n']) ≠ [] := lines_ne_nil (by simp)
      rw [← List.head?_reverse, reversed]
      cases later with
      | nil => simp [ended]
      | cons last later =>
          simp only [List.mem_cons, not_or] at clean
          simp [Ne.symm clean.1]
  · refine ⟨[], text, rfl, fed, ?_⟩
    simp only [ne_eq, not_true_eq_false, false_and, iff_false]
    intro last
    exact fed (List.mem_of_getLast? last)

theorem join_cons_of_ne_nil (separator first : Text) {rest : List Text} (nonempty : rest ≠ []) :
    join separator (first :: rest) = first ++ separator ++ join separator rest := by
  cases rest with
  | nil => exact absurd rfl nonempty
  | cons next rest => rfl

theorem join_feed_concat (texts : List Text) (last : Text) :
    join ['\n'] (texts ++ [last]) = unlines texts ++ last := by
  induction texts with
  | nil => rfl
  | cons text texts induction =>
      rw [List.cons_append, join_cons_of_ne_nil _ _ (by simp), induction]
      simp

theorem join_feed_append_feed {texts : List Text} (nonempty : texts ≠ []) :
    join ['\n'] texts ++ ['\n'] = unlines texts := by
  rw [← List.dropLast_concat_getLast nonempty, join_feed_concat]
  simp [unlines]

/-- Lines with feeds between them are found again if none of them is empty. -/
theorem lines_join_feed {texts : List Text} (areLines : ∀ text ∈ texts, IsLine text)
    (nonempty : ∀ text ∈ texts, text ≠ []) : lines (join ['\n'] texts) = texts := by
  induction texts with
  | nil => exact lines_nil
  | cons text later induction =>
      obtain ⟨line, areLines⟩ := List.forall_mem_cons.mp areLines
      obtain ⟨filled, nonempty⟩ := List.forall_mem_cons.mp nonempty
      cases later with
      | nil => exact lines_eq_singleton line.noFeed filled
      | cons next later =>
          rw [join_cons_of_ne_nil _ _ (List.cons_ne_nil next later), List.append_assoc,
            List.singleton_append, line.lines_append, induction areLines nonempty]

/-- Lines put together again are the text, if nothing of it was part of a longer line ending. -/
theorem join_lines_unlines_append {texts : List Text} {tail : Text}
    (areLines : ∀ text ∈ texts, IsLine text) (noFeed : '\n' ∉ tail) :
    join ['\n'] (lines (unlines texts ++ tail)) ++
        (if (unlines texts ++ tail).getLast? = some '\n' then ['\n'] else []) =
      unlines texts ++ tail := by
  rw [lines_unlines_append areLines]
  by_cases empty : tail = []
  · subst empty
    by_cases none : texts = []
    · subst none
      rfl
    · have ends : (unlines texts ++ []).getLast? = some '\n' := by
        rw [List.append_nil, ← join_feed_append_feed none, List.getLast?_concat]
      rw [if_pos ends, lines_nil, List.append_nil, join_feed_append_feed none, List.append_nil]
  · have unended : (unlines texts ++ tail).getLast? ≠ some '\n' := by
      rw [List.getLast?_append, List.getLast?_eq_some_getLast empty, Option.some_or]
      intro last
      exact noFeed (Option.some.inj last ▸ List.getLast_mem empty)
    rw [if_neg unended, List.append_nil, lines_eq_singleton noFeed empty, join_feed_concat]

private theorem exists_prefix_lines_cons {character : Char} {rest : Text} (count : Nat)
    (noFeed : character ≠ '\n') (noReturn : character = '\r' → ∀ later, rest ≠ '\n' :: later)
    (induction : ∃ front, front <+: rest ∧ lines front = (lines rest).take (count + 1)) :
    ∃ front, front <+: character :: rest ∧
      lines front = (lines (character :: rest)).take (count + 1) := by
  obtain ⟨front, isFront, taken⟩ := induction
  refine ⟨character :: front, (List.prefix_cons_inj _).mpr isFront, ?_⟩
  have apart (isReturn : character = '\r') (later : Text) : front ≠ '\n' :: later := by
    intro same
    obtain ⟨back, whole⟩ := isFront
    exact noReturn isReturn (later ++ back) (by rw [← whole, same]; rfl)
  rw [lines_cons front noFeed apart, lines_cons rest noFeed noReturn, taken]
  cases lines rest with
  | nil => simp
  | cons line later => simp

theorem exists_prefix_lines (text : Text) (count : Nat) :
    ∃ front, front <+: text ∧ lines front = (lines text).take count := by
  induction text using lines.induct generalizing count with
  | case1 => exact ⟨[], List.prefix_rfl, by simp⟩
  | case2 rest induction =>
      cases count with
      | zero => exact ⟨[], List.nil_prefix, by simp⟩
      | succ count =>
          obtain ⟨front, isFront, taken⟩ := induction count
          exact ⟨'\n' :: front, (List.prefix_cons_inj _).mpr isFront, by simp [taken]⟩
  | case3 rest induction =>
      cases count with
      | zero => exact ⟨[], List.nil_prefix, by simp⟩
      | succ count =>
          obtain ⟨front, isFront, taken⟩ := induction count
          refine ⟨'\r' :: '\n' :: front, ?_, by simp [taken]⟩
          exact (List.prefix_cons_inj _).mpr ((List.prefix_cons_inj _).mpr isFront)
  | case4 character rest noFeed noReturn _ induction
  | case5 character rest noFeed noReturn _ _ _ induction =>
      cases count with
      | zero => exact ⟨[], List.nil_prefix, by simp⟩
      | succ count =>
          exact exists_prefix_lines_cons count noFeed (fun isReturn later => noReturn later isReturn)
            (induction (count + 1))

/-- The text with another text in place of each line, and the same line endings. -/
def mapLines (change : Text → Text) (text : Text) : Text :=
  match _ : cut '\n' text with
  | none => if text = [] then [] else change text
  | some (line, rest) =>
      if line.getLast? = some '\r' then change line.dropLast ++ '\r' :: '\n' :: mapLines change rest
      else change line ++ '\n' :: mapLines change rest
termination_by text.length
decreasing_by all_goals exact length_lt_of_cut (by assumption)

/-- What stands in place of a line is one line again, also before a bare line feed. -/
structure StaysLine (change : Text → Text) (line : Text) : Prop where
  noFeed : '\n' ∉ change line
  noReturn : line.getLast? ≠ some '\r' → (change line).getLast? ≠ some '\r'

theorem ended_of_ended_append {front rest : Text}
    (ended : (front ++ '\n' :: rest).getLast? = some '\n') :
    rest = [] ∨ rest.getLast? = some '\n' := by
  cases rest with
  | nil => exact .inl rfl
  | cons character rest =>
      have last := List.getLast?_eq_some_getLast (List.cons_ne_nil character rest)
      rw [List.getLast?_append, List.getLast?_cons_cons, last, Option.some_or] at ended
      exact .inr (last.trans ended)

theorem lines_mapLines {change : Text → Text} {text : Text}
    (ended : text = [] ∨ text.getLast? = some '\n')
    (stays : ∀ line ∈ lines text, StaysLine change line) :
    lines (mapLines change text) = (lines text).map change := by
  fun_induction mapLines change text with
  | case1 => simp
  | case2 text unfed nonempty =>
      have last := ended.resolve_left nonempty
      exact absurd (List.mem_of_getLast? last) (cut_eq_none_iff.mp unfed)
  | case3 text line rest found returns induction =>
      obtain ⟨rfl, noFeed⟩ := cut_eq_some_iff.mp found
      obtain ⟨front, rfl⟩ := List.getLast?_eq_some_iff.mp returns
      have frontNoFeed : '\n' ∉ front := fun member => noFeed (List.mem_append_left _ member)
      have later := ended_of_ended_append (ended.resolve_left (by simp))
      have split : lines (front ++ ['\r'] ++ '\n' :: rest) = front :: lines rest := by
        simpa using lines_return_feed_append frontNoFeed rest
      rw [split] at stays ⊢
      obtain ⟨first, stays⟩ := List.forall_mem_cons.mp stays
      rw [List.dropLast_concat, lines_return_feed_append first.noFeed, induction later stays]
      rfl
  | case4 text line rest found noReturn induction =>
      obtain ⟨rfl, noFeed⟩ := cut_eq_some_iff.mp found
      have isLine : IsLine line := ⟨noFeed, noReturn⟩
      have later := ended_of_ended_append (ended.resolve_left (by simp))
      rw [isLine.lines_append] at stays ⊢
      obtain ⟨first, stays⟩ := List.forall_mem_cons.mp stays
      have changed : IsLine (change line) := ⟨first.noFeed, first.noReturn noReturn⟩
      rw [changed.lines_append, induction later stays]
      rfl

end LineScript.Text
