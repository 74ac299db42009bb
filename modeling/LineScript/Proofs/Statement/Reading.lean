import LineScript.Proofs.Scanner.Steps
import LineScript.Proofs.Statement.Form
import LineScript.Statement.Reading

namespace LineScript.Statement

open Text
open Scan

namespace Reading

variable {reading : Reading} {scanner reached : Scanner}

theorem operation_eq_ok_iff {name : Text} {operation : Operation} :
    reading.operation name = .ok operation ↔
      sameLetters operation.name name = true ∧
        ∀ expected ∈ reading.expected, expected = operation := by
  rw [← Operation.ofName?_eq_some_iff]
  obtain ⟨strict, expected⟩ := reading
  cases expected with
  | none => cases found : Operation.ofName? name <;> simp [Reading.operation, found]
  | some expected =>
      simp only [Reading.operation, Option.mem_some]
      split
      · rename_i same
        simp [same]
      · rename_i other
        simp only [reduceCtorEq, false_iff, not_and]
        intro found equal
        exact other (found.trans (congrArg some (equal expected rfl).symm))

theorem run_token_skipBlanks (sort : Token) :
    (token sort).run scanner.skipBlanks = (token sort).run scanner := by
  have still : scanner.skipBlanks.skipBlanks = scanner.skipBlanks :=
    Scanner.skipBlanks_eq_self (stops_dropWhile isBlank scanner.rest)
  unfold token
  rw [run_blanks_bind, run_blanks_bind, still]

theorem run_name_eq_ok_iff {operation : Operation} :
    reading.name.run scanner = (.ok operation, reached) ↔
      ∃ name, (sameLetters operation.name name = true ∧
        ∀ expected ∈ reading.expected, expected = operation) ∧
        (∃ blanks : Blanks, scanner.Advances (blanks.text ++ name) reached) ∧
          Stops isWordCharacter reached.rest := by
  rw [Reading.name, run_blanks_bind, run_column_bind, run_bind_eq_ok_iff]
  constructor
  · intro given
    obtain ⟨name, middle, taken, returned⟩ := given
    rw [run_required_eq_ok_iff, run_token_skipBlanks, run_token_word_eq_ok_some_iff] at taken
    obtain ⟨_, _, advances, stops⟩ := taken
    cases known : reading.operation name with
    | error cause => simp [known] at returned
    | ok found =>
        simp only [known, run_pure, Prod.mk.injEq, Except.ok.injEq] at returned
        obtain ⟨rfl, rfl⟩ := returned
        exact ⟨name, operation_eq_ok_iff.mp known, advances, stops⟩
  · intro given
    obtain ⟨name, accepted, advances, stops⟩ := given
    have letters := Operation.isLetters_of_spelled accepted.1
    refine ⟨name, reached, ?_, ?_⟩
    · rw [run_required_eq_ok_iff, run_token_skipBlanks, run_token_word_eq_ok_some_iff]
      exact ⟨letters.nonempty, letters.isWord, advances, stops⟩
    · simp [operation_eq_ok_iff.mpr accepted]

theorem run_literal_eq_ok_some_iff {content : Text} :
    (token .literal).run scanner = (.ok (some content), reached) ↔
      ∃ literal : Form.Literal, literal.content = content ∧
        scanner.Advances literal.text reached := by
  rw [run_token_literal_eq_ok_some_iff]
  constructor
  · intro given
    obtain ⟨clean, blanks, advances⟩ := given
    exact ⟨⟨blanks, content, clean⟩, rfl, advances⟩
  · intro given
    obtain ⟨literal, rfl, advances⟩ := given
    exact ⟨literal.clean, literal.gap, advances⟩

theorem run_destinationName_eq_ok_iff {partition : Partition} {found : Option Destination} :
    (destinationName partition).run scanner = (.ok found, reached) ↔
      ∃ literal : Form.Literal, literal.content ≠ [] ∧
        found = some ⟨partition, literal.content⟩ ∧ scanner.Advances literal.text reached := by
  rw [destinationName, run_bind_eq_ok_iff]
  constructor
  · intro given
    obtain ⟨content, middle, taken, returned⟩ := given
    split at returned
    · simp only [run_pure, Prod.mk.injEq, Except.ok.injEq] at returned
      obtain ⟨rfl, rfl⟩ := returned
      obtain ⟨literal, same, advances⟩ := run_literal_eq_ok_some_iff.mp taken
      exact ⟨literal, by simp [same], by rw [same], advances⟩
    · exact absurd returned (run_fail_ne_ok _ _)
  · intro given
    obtain ⟨literal, named, rfl, advances⟩ := given
    refine ⟨some literal.content, reached,
      run_literal_eq_ok_some_iff.mpr ⟨literal, rfl, advances⟩, ?_⟩
    cases content : literal.content with
    | nil => exact absurd content named
    | cons character rest => rfl

theorem run_destination_eq_ok_none_iff :
    destination.run scanner = (.ok none, reached) ↔
      scanner.skipBlanks = reached ∧ ¬ ['-', '>'] <+: reached.rest := by
  rw [← run_token_arrow_eq_ok_none_iff, destination, run_bind_eq_ok_iff]
  constructor
  · intro given
    obtain ⟨arrow, middle, probed, returned⟩ := given
    cases arrow with
    | none =>
        simp only [run_pure, Prod.mk.injEq, true_and] at returned
        rwa [returned] at probed
    | some arrow =>
        simp only [run_blanks_bind, run_column_bind, run_bind_eq_ok_iff] at returned
        obtain ⟨word, other, _, returned⟩ := returned
        split at returned
        · exact absurd returned (run_fail_ne_ok _ _)
        · split at returned
          · exact absurd returned (run_failAt_ne_ok _ _ _)
          · obtain ⟨literal, _, impossible, _⟩ := run_destinationName_eq_ok_iff.mp returned
            cases impossible
  · intro probed
    exact ⟨none, reached, probed, rfl⟩

theorem run_destination_eq_ok_some_iff {found : Destination} :
    destination.run scanner = (.ok (some found), reached) ↔
      ∃ clause : Form.Clause, clause.destination = found ∧
        scanner.Advances clause.text reached := by
  rw [destination, run_bind_eq_ok_iff]
  constructor
  · intro given
    obtain ⟨arrow, middle, probed, returned⟩ := given
    cases arrow with
    | none => simp at returned
    | some arrow =>
        obtain ⟨rfl, beforeArrow, arrived⟩ := run_token_arrow_eq_ok_some_iff.mp probed
        simp only [run_blanks_bind, run_column_bind, run_bind_eq_ok_iff, run_token_skipBlanks]
          at returned
        obtain ⟨word, after, taken, returned⟩ := returned
        split at returned
        · exact absurd returned (run_fail_ne_ok _ _)
        · rename_i word
          obtain ⟨_, _, ⟨afterArrow, worded⟩, _⟩ := run_token_word_eq_ok_some_iff.mp taken
          split at returned
          · exact absurd returned (run_failAt_ne_ok _ _ _)
          · rename_i partition known
            obtain ⟨literal, named, same, quoted⟩ := run_destinationName_eq_ok_iff.mp returned
            have spelled := Partition.ofToken?_eq_some_iff.mp known
            refine ⟨⟨beforeArrow, afterArrow, partition, word, spelled, literal, named⟩,
              (Option.some.inj same).symm, ?_⟩
            simpa [Form.Clause.text] using (arrived.trans worded).trans quoted
  · intro given
    obtain ⟨clause, rfl, advances⟩ := given
    have letters := Partition.isLetters_of_spelled clause.spelled
    have pieces : scanner.Advances ((clause.beforeArrow.text ++ ['-', '>']) ++
        ((clause.afterArrow.text ++ clause.token) ++ clause.name.text)) reached := by
      simpa [Form.Clause.text] using advances
    obtain ⟨middle, arrived, pieces⟩ := pieces.exists_middle
    obtain ⟨after, worded, quoted⟩ := pieces.exists_middle
    have stops : Stops isWordCharacter after.rest := by
      rw [quoted.rest]
      exact clause.name.stops_isWordCharacter reached.rest
    refine ⟨some ['-', '>'], middle,
      run_token_arrow_eq_ok_some_iff.mpr ⟨rfl, clause.beforeArrow, arrived⟩, ?_⟩
    simp only [run_blanks_bind, run_column_bind, run_bind_eq_ok_iff, run_token_skipBlanks]
    refine ⟨some clause.token, after, run_token_word_eq_ok_some_iff.mpr
      ⟨letters.nonempty, letters.isWord, ⟨clause.afterArrow, worded⟩, stops⟩, ?_⟩
    simp only [Partition.ofToken?_eq_some_iff.mpr clause.spelled]
    exact run_destinationName_eq_ok_iff.mpr ⟨clause.name, clause.named, rfl, quoted⟩

theorem run_ending_eq_ok_iff {value : Unit} :
    reading.ending.run scanner = (.ok value, reached) ↔
      scanner = reached ∧ (reading.strict = true → scanner.atEnd = true) := by
  unfold ending
  split
  · rename_i strict
    rw [run_atEnd_bind]
    split
    · rename_i ended
      simp [strict, ended]
    · rename_i more
      simp [strict, more]
  · rename_i lenient
    simp [lenient]

theorem run_marker_iff {disabled : Bool} :
    (∃ middle, (Scan.marker '!').run scanner = (.ok disabled, middle) ∧
        middle.skipBlanks = reached) ↔
      ∃ (lead : Blanks) (marker : Option Blanks), marker.isSome = disabled ∧
        scanner.Advances (lead.text ++ Form.optionalText (fun gap => '!' :: gap.text) marker)
          reached ∧
        Stops isBlank reached.rest ∧ (marker = none → Stops (· == '!') reached.rest) := by
  constructor
  · intro given
    obtain ⟨middle, marked, skipped⟩ := given
    obtain ⟨gap, passed, stops⟩ := Scanner.skipBlanks_eq_iff.mp skipped
    cases disabled with
    | true =>
        obtain ⟨lead, advances⟩ := (run_marker_eq_ok_true_iff rfl).mp marked
        refine ⟨lead, some gap, rfl, ?_, stops, nofun⟩
        simpa [Form.optionalText] using advances.trans passed
    | false =>
        obtain ⟨rfl, unmarked⟩ := run_marker_eq_ok_false_iff.mp marked
        obtain ⟨lead, advances, stopped⟩ :=
          Scanner.skipBlanks_eq_iff.mp (Eq.refl scanner.skipBlanks)
        rw [Scanner.skipBlanks_eq_self stopped] at skipped
        subst skipped
        refine ⟨lead, none, rfl, ?_, stops, fun _ => stops_mark_iff.mpr unmarked⟩
        simpa [Form.optionalText] using advances
  · intro given
    obtain ⟨lead, marker, rfl, advances, stops, unmarked⟩ := given
    cases marker with
    | none =>
        have skipped : scanner.skipBlanks = reached :=
          Scanner.skipBlanks_eq_iff.mpr ⟨lead, by simpa [Form.optionalText] using advances, stops⟩
        exact ⟨reached,
          run_marker_eq_ok_false_iff.mpr ⟨skipped, stops_mark_iff.mp (unmarked rfl)⟩,
          Scanner.skipBlanks_eq_self stops⟩
    | some gap =>
        have pieces : scanner.Advances ((lead.text ++ ['!']) ++ gap.text) reached := by
          simpa [Form.optionalText] using advances
        obtain ⟨middle, marked, passed⟩ := pieces.exists_middle
        exact ⟨middle, (run_marker_eq_ok_true_iff rfl).mpr ⟨lead, marked⟩,
          Scanner.skipBlanks_eq_iff.mpr ⟨gap, passed, stops⟩⟩

/-- The blanks that end a label are found again as the blanks before the name. -/
theorem run_label_name_iff {label : Option Text} {operation : Operation}
    (start : Stops isBlank scanner.rest) :
    (∃ middle, Scan.label.run scanner = (.ok label, middle) ∧
        reading.name.run middle = (.ok operation, reached)) ↔
      ∃ (part : Option Form.Label) (name : Text), part.map Form.Label.label = label ∧
        (sameLetters operation.name name = true ∧
          ∀ expected ∈ reading.expected, expected = operation) ∧
        scanner.Advances (Form.optionalText Form.Label.text part ++ name) reached ∧
        Stops isWordCharacter reached.rest := by
  constructor
  · intro found
    obtain ⟨middle, labelled, namedHere⟩ := found
    obtain ⟨name, accepted, ⟨gap, advances⟩, stops⟩ := run_name_eq_ok_iff.mp namedHere
    have letters := Operation.isLetters_of_spelled accepted.1
    cases label with
    | none =>
        obtain ⟨rfl, _⟩ := run_label_eq_ok_none_iff.mp labelled
        have split : Blanks.none.text ++ scanner.rest = gap.text ++ (name ++ reached.rest) := by
          simpa using advances.rest
        obtain ⟨rfl, _⟩ := Blanks.append_inj start (letters.stops_isBlank _) split
        exact ⟨none, name, rfl, accepted, advances, stops⟩
    | some label =>
        obtain ⟨valid, taken, solid⟩ := run_label_eq_ok_some_iff.mp labelled
        obtain ⟨nonempty, unmarked, unblank⟩ := isLabel_iff.mp valid
        have apart : gap.text ≠ [] := by
          intro empty
          have word : middle.rest = name ++ reached.rest := by
            simpa [empty] using advances.rest
          rw [word] at solid
          exact letters.not_stops_isSolid reached.rest solid
        refine ⟨some ⟨label, nonempty, unblank, unmarked, gap, apart⟩, name, rfl, accepted, ?_,
          stops⟩
        simpa [Form.optionalText, Form.Label.text] using taken.trans advances
  · intro laidOut
    obtain ⟨part, name, labels, accepted, advances, stops⟩ := laidOut
    have letters := Operation.isLetters_of_spelled accepted.1
    subst labels
    cases part with
    | none =>
        have unmarked : Stops (· == '#') scanner.rest := by
          rw [advances.rest]
          exact letters.stops_mark reached.rest rfl
        exact ⟨scanner, run_label_eq_ok_none_iff.mpr ⟨rfl, stops_mark_iff.mp unmarked⟩,
          run_name_eq_ok_iff.mpr ⟨name, accepted, ⟨Blanks.none, advances⟩, stops⟩⟩
    | some part =>
        have pieces :
            scanner.Advances (('#' :: part.label) ++ (part.gap.text ++ name)) reached := by
          simpa [Form.optionalText, Form.Label.text] using advances
        obtain ⟨middle, taken, worded⟩ := pieces.exists_middle
        have solid : Stops isSolid middle.rest := by
          rw [worded.rest, List.append_assoc]
          exact Blanks.stops_isSolid_append _ part.apart
        exact ⟨middle, run_label_eq_ok_some_iff.mpr ⟨part.isLabel_label, taken, solid⟩,
          run_name_eq_ok_iff.mpr ⟨name, accepted, ⟨part.gap, worded⟩, stops⟩⟩

theorem run_operand_iff {field content : Text} :
    (Scan.operand field).run scanner = (.ok content, reached) ↔
      ∃ literal : Form.Literal, literal.content = content ∧
        scanner.Advances literal.text reached := by
  rw [run_operand_eq_ok_iff, run_literal_eq_ok_some_iff]

theorem quote_mem_text (form : Form) : '"' ∈ form.text := by
  simp [Form.text, Form.Body.text, Form.Literal.text, writeLiteral]

theorem atEnd_eq_false_of_form {lead : Blanks} {form : Form} {rest : Text}
    (whole : scanner.rest = lead.text ++ (form.text ++ rest)) : scanner.atEnd = false := by
  rw [Scanner.atEnd, List.all_eq_false]
  refine ⟨'"', ?_, by decide⟩
  rw [whole]
  simp [quote_mem_text form]

/-- What the rest after a form must be like for the reader to accept it. -/
def Leaves (reading : Reading) (form : Form) (rest : Text) : Prop :=
  form.EndsBefore rest ∧ (reading.strict = true → rest.all isBlank = true)

theorem atEnd_skipBlanks : scanner.skipBlanks.atEnd = scanner.atEnd := by
  have whole := congrArg (List.all · isBlank)
    (List.takeWhile_append_dropWhile (p := isBlank) (l := scanner.rest))
  simp only [List.all_append, List.all_takeWhile, Bool.true_and] at whole
  exact whole

/-- What a run takes between the second operand and where it ends: a clause, if there is one, and blanks
at most after it. -/
theorem exists_clause_of_run {middle : Scanner} {found : Option Destination}
    (located : destination.run scanner = (.ok found, middle))
    (ended : reading.ending.run middle = (.ok (), reached)) :
    ∃ (clause : Option Form.Clause) (gap : Blanks),
      clause.map Form.Clause.destination = found ∧
      scanner.Advances (Form.optionalText Form.Clause.text clause ++ gap.text) reached ∧
      (clause = none → ¬ ['-', '>'] <+: trimStart (gap.text ++ reached.rest)) ∧
      (reading.strict = true → (gap.text ++ reached.rest).all isBlank = true) := by
  obtain ⟨rfl, strict⟩ := run_ending_eq_ok_iff.mp ended
  cases found with
  | none =>
      obtain ⟨skipped, noArrow⟩ := run_destination_eq_ok_none_iff.mp located
      obtain ⟨gap, advances, stops⟩ := Scanner.skipBlanks_eq_iff.mp skipped
      refine ⟨none, gap, rfl, advances, fun _ => ?_, fun isStrict => ?_⟩
      · rwa [trimStart_blanks_append gap stops]
      · rw [List.all_append, List.all_eq_true.mpr gap.blank]
        exact strict isStrict
  | some found =>
      obtain ⟨clause, rfl, advances⟩ := run_destination_eq_ok_some_iff.mp located
      refine ⟨some clause, Blanks.none, rfl, ?_, nofun, strict⟩
      simpa [Form.optionalText] using advances

theorem run_destination_ending_iff {found : Option Destination} :
    (∃ middle last, destination.run scanner = (.ok found, middle) ∧
        reading.ending.run middle = (.ok (), last)) ↔
      ∃ (clause : Option Form.Clause) (rest : Text),
        clause.map Form.Clause.destination = found ∧
        scanner.rest = Form.optionalText Form.Clause.text clause ++ rest ∧
        (clause = none → ¬ ['-', '>'] <+: trimStart rest) ∧
        (reading.strict = true → rest.all isBlank = true) := by
  constructor
  · intro ⟨middle, last, located, ended⟩
    obtain ⟨clause, gap, same, advances, noArrow, strict⟩ := exists_clause_of_run located ended
    refine ⟨clause, gap.text ++ last.rest, same, ?_, noArrow, strict⟩
    rw [advances.rest, List.append_assoc]
  · intro ⟨clause, rest, located, whole, noArrow, strict⟩
    subst located
    cases clause with
    | none =>
        have here : scanner.rest = rest := whole
        subst here
        refine ⟨scanner.skipBlanks, scanner.skipBlanks,
          run_destination_eq_ok_none_iff.mpr ⟨rfl, noArrow rfl⟩,
          run_ending_eq_ok_iff.mpr ⟨rfl, ?_⟩⟩
        rw [atEnd_skipBlanks]
        exact strict
    | some clause =>
        have advances := Scanner.advances_past whole
        exact ⟨_, _, run_destination_eq_ok_some_iff.mpr ⟨clause, rfl, advances⟩,
          run_ending_eq_ok_iff.mpr ⟨rfl, strict⟩⟩

/-- A run that succeeds has taken a form from the text, and blanks after it at most. -/
theorem exists_form_of_run {statement : Statement}
    (ran : reading.statement.run scanner = (.ok statement, reached)) :
    ∃ (lead : Blanks) (form : Form) (gap : Blanks), form.statement = statement ∧
      (∀ expected ∈ reading.expected, expected = form.body.operation) ∧
      scanner.Advances (lead.text ++ form.text ++ gap.text) reached ∧
      reading.Leaves form (gap.text ++ reached.rest) := by
  rw [Reading.statement, run_atEnd_bind] at ran
  split at ran
  · obtain ⟨_, _, failed, _⟩ := run_bind_eq_ok_iff.mp ran
    exact absurd failed (run_fail_ne_ok _ _)
  · simp only [run_bind_eq_ok_iff, run_blanks_bind, run_pure, Prod.mk.injEq,
      Except.ok.injEq] at ran
    obtain ⟨disabled, marked, markedRan, label, labelled, labelRan, operation, named, nameRan,
      first, afterFirst, firstRan, second, afterSecond, secondRan, destination, middle,
      destinationRan, _, ended, endedRan, returned, rfl⟩ := ran
    obtain ⟨lead, marker, rfl, markerPart, start, _⟩ := run_marker_iff.mp ⟨marked, markedRan, rfl⟩
    obtain ⟨part, name, rfl, accepted, namePart, _⟩ :=
      (run_label_name_iff start).mp ⟨labelled, labelRan, nameRan⟩
    obtain ⟨firstPart, rfl, firstTaken⟩ := run_operand_iff.mp firstRan
    obtain ⟨secondPart, rfl, secondTaken⟩ := run_operand_iff.mp secondRan
    obtain ⟨clause, gap, rfl, clausePart, noArrow, strict⟩ :=
      exists_clause_of_run destinationRan endedRan
    have taken :=
      (((markerPart.trans namePart).trans firstTaken).trans secondTaken).trans clausePart
    refine ⟨lead, ⟨⟨marker, part, operation, name, accepted.1, firstPart, secondPart⟩, clause⟩,
      gap, returned, accepted.2, ?_, noArrow, strict⟩
    simpa [Form.text, Form.Body.text] using taken

/-- The reader succeeds on the texts that begin with a form, and gives the statement of the form. -/
theorem exists_run_statement_iff {statement : Statement} :
    (∃ last, reading.statement.run scanner = (.ok statement, last)) ↔
      ∃ (lead : Blanks) (form : Form) (rest : Text), form.statement = statement ∧
        (∀ expected ∈ reading.expected, expected = form.body.operation) ∧
        scanner.rest = lead.text ++ (form.text ++ rest) ∧ reading.Leaves form rest := by
  constructor
  · rintro ⟨last, ran⟩
    obtain ⟨lead, form, gap, same, expected, advances, leaves⟩ := exists_form_of_run ran
    refine ⟨lead, form, gap.text ++ last.rest, same, expected, ?_, leaves⟩
    rw [advances.rest]
    simp only [List.append_assoc]
  · intro laidOut
    obtain ⟨lead, form, rest, same, expected, whole, ends, strict⟩ := laidOut
    subst same
    have notEnded := atEnd_eq_false_of_form whole
    obtain ⟨⟨marker, part, operation, name, spelled, first, second⟩, clause⟩ := form
    have letters := Operation.isLetters_of_spelled spelled
    simp only [Form.text, Form.Body.text, List.append_assoc] at whole
    rw [← List.append_assoc] at whole
    obtain ⟨opened, markerPart, openedRest⟩ := Scanner.exists_advances whole
    have start : Stops isBlank opened.rest := by
      rw [openedRest]
      exact Form.stops_labelText_append part (letters.stops_isBlank _) rfl
    have unmarked : Stops (· == '!') opened.rest := by
      rw [openedRest]
      exact Form.stops_labelText_append part (letters.stops_mark _ rfl) rfl
    rw [← List.append_assoc] at openedRest
    obtain ⟨named, namePart, namedRest⟩ := Scanner.exists_advances openedRest
    obtain ⟨afterFirst, firstPart, afterFirstRest⟩ := Scanner.exists_advances namedRest
    obtain ⟨afterSecond, secondPart, afterSecondRest⟩ := Scanner.exists_advances afterFirstRest
    have wordEnds : Stops isWordCharacter named.rest := by
      rw [namedRest]
      exact first.stops_isWordCharacter _
    obtain ⟨marked, markedRan, skipped⟩ :=
      run_marker_iff.mpr ⟨lead, marker, rfl, markerPart, start, fun _ => unmarked⟩
    obtain ⟨labelled, labelRan, nameRan⟩ := (run_label_name_iff start).mpr
      ⟨part, name, rfl, ⟨spelled, expected⟩, namePart, wordEnds⟩
    obtain ⟨middle, last, destinationRan, endedRan⟩ :=
      run_destination_ending_iff.mpr ⟨clause, rest, rfl, afterSecondRest, ends, strict⟩
    refine ⟨last, ?_⟩
    rw [Reading.statement, run_atEnd_bind, notEnded]
    simp only [Bool.false_eq_true, if_false, run_bind_eq_ok_iff, run_blanks_bind, run_pure]
    exact ⟨_, marked, markedRan, _, labelled, skipped ▸ labelRan, operation, named, nameRan,
      first.content, afterFirst, run_operand_iff.mpr ⟨first, rfl, firstPart⟩,
      second.content, afterSecond, run_operand_iff.mpr ⟨second, rfl, secondPart⟩,
      _, middle, destinationRan, (), last, endedRan, rfl⟩

end Reading

theorem read_eq_ok_iff {reading : Reading} {line : Text} {statement : Statement} :
    read reading line = .ok statement ↔
      ∃ (form : Form) (rest : Text), form.statement = statement ∧
        (∀ expected ∈ reading.expected, expected = form.body.operation) ∧
        trim line = form.text ++ rest ∧ reading.Leaves form rest := by
  have result : read reading line = .ok statement ↔
      ∃ last, reading.statement.run (Scanner.start (trim line)) = (.ok statement, last) := by
    rw [read]
    exact ⟨fun same => ⟨_, Prod.ext same rfl⟩, fun ⟨_, ran⟩ => congrArg Prod.fst ran⟩
  rw [result, Reading.exists_run_statement_iff]
  constructor
  · intro ⟨lead, form, rest, same, expected, whole, leaves⟩
    have split : Blanks.none.text ++ trim line = lead.text ++ (form.text ++ rest) := whole
    obtain ⟨_, trimmed⟩ :=
      Blanks.append_inj (isTrimmed_trim line).start (form.stops_isBlank_append rest) split
    exact ⟨form, rest, same, expected, trimmed, leaves⟩
  · intro ⟨form, rest, same, expected, whole, leaves⟩
    exact ⟨Blanks.none, form, rest, same, expected, whole, leaves⟩

/-- What is left of a trimmed line after a form is nothing, or more than blanks. -/
theorem eq_nil_of_blank_of_trim {line front rest : Text} (whole : trim line = front ++ rest)
    (blank : rest.all isBlank = true) : rest = [] := by
  have trimmed := isTrimmed_trim line
  rw [whole] at trimmed
  exact IsTrimmed.blanks_eq_nil ⟨rest, List.all_eq_true.mp blank⟩ trimmed

theorem read_strict_eq_ok_iff {line : Text} {statement : Statement} :
    read { strict := true } line = .ok statement ↔
      ∃ form : Form, form.text = trim line ∧ form.statement = statement := by
  rw [read_eq_ok_iff]
  constructor
  · intro ⟨form, rest, same, _, whole, _, strict⟩
    have empty := eq_nil_of_blank_of_trim whole (strict rfl)
    subst empty
    exact ⟨form, by rw [whole, List.append_nil], same⟩
  · intro ⟨form, whole, same⟩
    refine ⟨form, [], same, nofun, ?_, form.endsBefore_nil, fun _ => rfl⟩
    rw [whole, List.append_nil]

theorem read_lenient_eq_ok_iff {line : Text} {statement : Statement} :
    read { strict := false } line = .ok statement ↔
      ∃ (form : Form) (rest : Text), trim line = form.text ++ rest ∧
        form.statement = statement ∧ form.EndsBefore rest := by
  rw [read_eq_ok_iff]
  constructor
  · intro ⟨form, rest, same, _, whole, ends, _⟩
    exact ⟨form, rest, whole, same, ends⟩
  · intro ⟨form, rest, whole, same, ends⟩
    exact ⟨form, rest, same, nofun, whole, ends, nofun⟩

/-- Reading accepts the grammar and nothing else, and a line has one decomposition at most. -/
theorem read_accepts_exactly_the_forms :
    (∀ (line : Text) (statement : Statement),
      read { strict := true } line = .ok statement ↔
        ∃ form : Form, form.text = trim line ∧ form.statement = statement) ∧
    Function.Injective Form.text ∧
    ∀ (line : Text) (statement : Statement),
      read { strict := false } line = .ok statement ↔
        ∃ (form : Form) (rest : Text), trim line = form.text ++ rest ∧
          form.statement = statement ∧
          (form.clause.isSome ∨ form.clause = none ∧ ¬ ['-', '>'] <+: trimStart rest) := by
  refine ⟨fun _ _ => read_strict_eq_ok_iff, Form.text_injective, ?_⟩
  intro line statement
  rw [read_lenient_eq_ok_iff]
  have cases (form : Form) (rest : Text) : form.EndsBefore rest ↔
      (form.clause.isSome ∨ form.clause = none ∧ ¬ ['-', '>'] <+: trimStart rest) := by
    obtain ⟨body, clause⟩ := form
    cases clause <;> simp [Form.EndsBefore]
  simp only [cases]

end LineScript.Statement
