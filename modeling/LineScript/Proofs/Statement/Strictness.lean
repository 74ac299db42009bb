import LineScript.Proofs.Statement.RoundTrip

namespace LineScript.Statement

open Text
open Scan

namespace Reading

variable {reading : Reading} {expected : Option Operation} {scanner reached last : Scanner}
  {found : Statement} {fault : Fault}

theorem statement_strict_eq (expected : Option Operation) :
    statement { strict := true, expected } = do
      let found ← statement { strict := false, expected }
      ending { strict := true, expected }
      return found := by
  have sameName : name { strict := true, expected } = name { strict := false, expected } := rfl
  have endless : ending { strict := false, expected } = pure () := rfl
  unfold statement
  rw [sameName, endless]
  simp only [bind_assoc, pure_bind]
  congr 1
  funext ended
  split <;> simp only [bind_assoc, pure_bind]

theorem run_ending_eq_error_iff :
    reading.ending.run scanner = (.error fault, reached) ↔
      (reading.strict = true ∧ scanner.atEnd = false) ∧ scanner.skipBlanks = reached ∧
        fault = ⟨.trailingText reached.rest, reached.column⟩ := by
  unfold ending
  split
  · rename_i strict
    rw [run_atEnd_bind]
    split
    · rename_i ended
      simp [ended]
    · rename_i more
      have more : scanner.atEnd = false := Bool.eq_false_iff.mpr more
      simp only [run_blanks_bind, run_rest_bind, fail, run_column_bind, failAt, strict, more,
        Prod.mk.injEq, Except.error.injEq, true_and]
      constructor
      · rintro ⟨rfl, rfl⟩
        exact ⟨rfl, rfl⟩
      · rintro ⟨rfl, rfl⟩
        exact ⟨rfl, rfl⟩
  · rename_i lenient
    simp [lenient]

/-- What a strict reading finds fault with, where a lenient one does not, is the text that is left. -/
theorem fault_of_run_statement_strict
    (ran : (statement { strict := false, expected }).run scanner = (.ok found, reached))
    (failed : (statement { strict := true, expected }).run scanner = (.error fault, last)) :
    reached.atEnd = false ∧ reached.skipBlanks = last ∧
      fault = ⟨.trailingText last.rest, last.column⟩ := by
  rw [statement_strict_eq, run_bind_of_ok ran, run_bind_eq_error_iff] at failed
  rcases failed with ended | ⟨_, _, _, impossible⟩
  · obtain ⟨⟨_, more⟩, skipped, same⟩ := run_ending_eq_error_iff.mp ended
    exact ⟨more, skipped, same⟩
  · simp at impossible

end Reading

variable {expected : Option Operation} {line : Text} {found : Statement} {fault : Fault}

theorem exists_run_of_read {reading : Reading} {result : Except Fault Statement}
    (came : read reading line = result) :
    ∃ reached, reading.statement.run (Scanner.start (trim line)) = (result, reached) :=
  ⟨_, Prod.ext came rfl⟩

theorem read_strict_of_error (failed : read { strict := false, expected } line = .error fault) :
    read { strict := true, expected } line = .error fault := by
  obtain ⟨reached, ran⟩ := exists_run_of_read failed
  rw [read, Reading.statement_strict_eq, run_bind_of_error ran]

theorem read_lenient_of_ok (accepted : read { strict := true, expected } line = .ok found) :
    read { strict := false, expected } line = .ok found := by
  obtain ⟨form, rest, same, asked, whole, ends, _⟩ := read_eq_ok_iff.mp accepted
  exact read_eq_ok_iff.mpr ⟨form, rest, same, asked, whole, ends, nofun⟩

/-- Nothing but blanks is left to a form that stands alone on its line. -/
theorem read_surrounded_form {reading : Reading} (lead finish : Blanks) (form : Form)
    (asked : ∀ expected ∈ reading.expected, expected = form.body.operation) :
    read reading (lead.text ++ form.text ++ finish.text) = .ok form.statement := by
  have trimmed : trim (lead.text ++ form.text ++ finish.text) = form.text ++ [] := by
    rw [trim_surrounded, form.isTrimmed_text.trim_eq, List.append_nil]
  exact read_eq_ok_iff.mpr
    ⟨form, [], rfl, asked, trimmed, form.endsBefore_nil, fun _ => rfl⟩

theorem exists_cut_of_trailing_text
    (accepted : read { strict := false, expected } line = .ok found)
    (failed : read { strict := true, expected } line = .error fault) :
    ∃ front rest, trim line = front ++ rest ∧ rest ≠ [] ∧
      fault = ⟨.trailingText rest, front.length + 1⟩ ∧
      read { strict := true, expected } front = .ok found := by
  obtain ⟨reached, ran⟩ := exists_run_of_read accepted
  obtain ⟨last, stopped⟩ := exists_run_of_read failed
  obtain ⟨more, skipped, same⟩ := Reading.fault_of_run_statement_strict ran stopped
  obtain ⟨lead, form, gap, rfl, asked, advances, _⟩ := Reading.exists_form_of_run ran
  obtain ⟨blanks, skips, _⟩ := Scanner.skipBlanks_eq_iff.mp skipped
  have whole := advances.trans skips
  refine ⟨last.consumed, last.rest, ?_, ?_, same, ?_⟩
  · exact whole.source_eq.symm
  · intro nothing
    rw [← Reading.atEnd_skipBlanks, skipped, Scanner.atEnd, nothing] at more
    cases more
  · have taken : last.consumed = lead.text ++ form.text ++ (gap.text ++ blanks.text) := by
      rw [whole.consumed, List.append_assoc]
      rfl
    have blank : ∀ character ∈ gap.text ++ blanks.text, isBlank character = true := by
      intro character member
      exact (List.mem_append.mp member).elim (gap.blank character) (blanks.blank character)
    rw [taken]
    exact read_surrounded_form lead ⟨_, blank⟩ form asked

/-- Strict reading refuses a line that lenient reading accepts only for text at the end of the line, and
accepts it in the same way without that text; in all else the two agree. -/
theorem strictness_concerns_trailing_text (expected : Option Operation) (line : Text) :
    (∀ fault, read { strict := false, expected } line = .error fault →
      read { strict := true, expected } line = .error fault) ∧
    (∀ statement, read { strict := true, expected } line = .ok statement →
      read { strict := false, expected } line = .ok statement) ∧
    ∀ statement fault, read { strict := false, expected } line = .ok statement →
      read { strict := true, expected } line = .error fault →
      ∃ front rest, trim line = front ++ rest ∧ rest ≠ [] ∧
        fault = ⟨.trailingText rest, front.length + 1⟩ ∧
        read { strict := true, expected } front = .ok statement :=
  ⟨fun _ => read_strict_of_error, fun _ => read_lenient_of_ok,
    fun _ _ => exists_cut_of_trailing_text⟩

/-- A disabled statement, and after it what is an arrow but for a blank inside. -/
def nearArrow : Text := " !  #-> sum\"1\"\"<é>\"\t - > VAR \"X\" ".toList

def nearArrowStatement : Statement :=
  ⟨.sum, "->".toList, [['1'], "<é>".toList], none, true⟩

theorem strictness_concerns_trailing_text_near_arrow :
    read { strict := false, expected := some .sum } nearArrow = .ok nearArrowStatement ∧
      read { strict := true, expected := some .sum } nearArrow =
        .error ⟨.trailingText "- > VAR \"X\"".toList, 21⟩ ∧
      read { strict := true, expected := some .sum } "!  #-> sum\"1\"\"<é>\"\t ".toList =
        .ok nearArrowStatement ∧
      read { strict := false, expected := some .sum } "!  #-> sum\"1\"\"<é>\"\t ".toList =
        .ok nearArrowStatement ∧
      read { strict := true, expected := some .multiply } nearArrow =
        .error ⟨.otherOperation .multiply "sum".toList, 8⟩ := by
  have accepted : read { strict := false, expected := some .sum } nearArrow =
      .ok nearArrowStatement := rfl
  have refused : read { strict := true, expected := some .sum } nearArrow =
      .error ⟨.trailingText "- > VAR \"X\"".toList, 21⟩ := rfl
  have other : read { strict := false, expected := some .multiply } nearArrow =
      .error ⟨.otherOperation .multiply "sum".toList, 8⟩ := rfl
  obtain ⟨front, rest, whole, _, same, alone⟩ :=
    (strictness_concerns_trailing_text (some .sum) nearArrow).2.2 _ _ accepted refused
  simp only [Fault.mk.injEq, Fault.Cause.trailingText.injEq] at same
  rw [← same.1] at whole
  obtain rfl : "!  #-> sum\"1\"\"<é>\"\t ".toList = front := List.append_cancel_right whole
  exact ⟨accepted, refused, alone, (strictness_concerns_trailing_text _ _).2.1 _ alone,
    (strictness_concerns_trailing_text _ _).1 _ other⟩

end LineScript.Statement
