import LineScript.Proofs.Statement.Reading

namespace LineScript

open Text
open Statement

/-- The next bare word of a text, up to a blank or a quote. -/
structure NextWord (word rest : Text) : Prop where
  nonempty : word ≠ []
  longest : word = rest.takeWhile isWordCharacter

/-- A text that ends in the word for a partition, blanks, and then `finish`. -/
def EndsInPartition (text finish : Text) : Prop :=
  ∃ (partition : Partition) (token : Text) (gap : Blanks),
    sameLetters partition.token token = true ∧ token ++ gap.text ++ finish <:+ text

/-- What is wrong at a place of a line, between the text before it and the rest. -/
def Fault.Cause.Marks (reading : Reading) (before rest : Text) : Fault.Cause → Prop
  | .emptyLine => before = [] ∧ rest = []
  | .missingLabel => ∃ tail, rest = '#' :: tail ∧ Stops isSolid tail
  | .invalidLabel label =>
      label.head? = some '#' ∧ ∃ tail, rest = '#' :: tail ∧ label = tail.takeWhile isSolid
  | .missingWord | .invalidPartition none => rest = [] ∨ rest.head? = some '"'
  | .unknownOperation name => reading.expected = none ∧ NextWord name rest ∧
      ∀ operation : Operation, sameLetters operation.name name = false
  | .otherOperation expected name => reading.expected = some expected ∧ NextWord name rest ∧
      sameLetters expected.name name = false
  | .invalidPartition (some token) => NextWord token rest ∧
      ∀ partition : Partition, sameLetters partition.token token = false
  | .missingOperand field => (∃ slot : Slot, slot.name = field) ∧
      rest.head? ≠ some '"' ∧ Stops isBlank rest
  | .unterminatedLiteral => ∃ body, rest = '"' :: body ∧ '"' ∉ body
  -- The name stands there but is empty, or no literal is next.
  | .missingName => EndsInPartition before (writeLiteral []) ∨
      EndsInPartition before [] ∧ rest.head? ≠ some '"' ∧ Stops isBlank rest
  | .trailingText text => reading.strict = true ∧ text = rest ∧ text ≠ [] ∧ Stops isBlank text
  | .missingArrow | .missingLiteral => False

namespace Scan

variable {reading : Reading} {scanner place : Scanner} {source : Text}

/-- The fault gives the column of a place in the text, and its cause is there. -/
def Locates (reading : Reading) (source : Text) (fault : Fault) : Prop :=
  ∃ place : Scanner, place.source = source ∧ fault.column = place.column ∧
    fault.cause.Marks reading place.consumed place.rest

/-- From here, the scan stays in the text it reads, and its faults point into it. -/
structure Points (reading : Reading) (scanner : Scanner) (scan : Scan α) : Prop where
  stays : ∀ {value reached}, scan.run scanner = (.ok value, reached) →
    reached.source = scanner.source
  locates : ∀ {fault reached}, scan.run scanner = (.error fault, reached) →
    Locates reading scanner.source fault

theorem points_pure (value : α) : Points reading scanner (pure value) := by
  constructor
  · intro _ reached ran
    simp only [run_pure, Prod.mk.injEq] at ran
    rw [ran.2]
  · intro _ _ ran
    simp at ran

theorem Points.bind {step : Scan α} {next : α → Scan β} (first : Points reading scanner step)
    (later : ∀ value reached, step.run scanner = (.ok value, reached) →
      Points reading reached (next value)) :
    Points reading scanner (step >>= next) := by
  constructor
  · intro value reached ran
    obtain ⟨_, middle, stepped, ran⟩ := run_bind_eq_ok_iff.mp ran
    rw [(later _ middle stepped).stays ran, first.stays stepped]
  · intro fault reached ran
    rcases run_bind_eq_error_iff.mp ran with failed | ⟨_, middle, stepped, failed⟩
    · exact first.locates failed
    · rw [← first.stays stepped]
      exact (later _ middle stepped).locates failed

theorem points_failAt {cause : Fault.Cause} (inside : place.source = scanner.source)
    (marks : cause.Marks reading place.consumed place.rest) :
    Points reading scanner (failAt place.column cause : Scan α) := by
  constructor
  · intro value reached ran
    exact absurd ran (run_failAt_ne_ok _ _ _)
  · intro fault reached ran
    simp only [failAt, Prod.mk.injEq, Except.error.injEq] at ran
    obtain ⟨rfl, -⟩ := ran
    exact ⟨place, inside, rfl, marks⟩

theorem Points.of_run {scan other : Scan α} (points : Points reading place other)
    (inside : place.source = scanner.source) (same : scan.run scanner = other.run place) :
    Points reading scanner scan := by
  constructor
  · intro value reached ran
    rw [points.stays (same.symm.trans ran), inside]
  · intro fault reached ran
    rw [← inside]
    exact points.locates (same.symm.trans ran)

theorem points_fail {cause : Fault.Cause}
    (marks : cause.Marks reading scanner.consumed scanner.rest) :
    Points reading scanner (fail cause : Scan α) :=
  (points_failAt rfl marks).of_run rfl rfl

theorem points_blanks_bind {next : Unit → Scan α}
    (later : Points reading scanner.skipBlanks (next ())) :
    Points reading scanner (blanks >>= next) :=
  later.of_run Scanner.source_skipBlanks rfl

theorem points_column_bind {next : Nat → Scan α}
    (later : Points reading scanner (next scanner.column)) :
    Points reading scanner (column >>= next) :=
  later.of_run rfl rfl

theorem points_rest_bind {next : Text → Scan α}
    (later : Points reading scanner (next scanner.rest)) :
    Points reading scanner (rest >>= next) :=
  later.of_run rfl rfl

theorem points_atEnd_bind {next : Bool → Scan α}
    (later : Points reading scanner (next scanner.atEnd)) :
    Points reading scanner (atEnd >>= next) :=
  later.of_run rfl rfl

theorem points_marker {mark : Char} (solid : isBlank mark = false) :
    Points reading scanner (marker mark) := by
  constructor
  · intro found reached ran
    cases found with
    | true =>
        obtain ⟨blanks, advances⟩ := (run_marker_eq_ok_true_iff solid).mp ran
        exact advances.source_eq
    | false =>
        obtain ⟨rfl, _⟩ := run_marker_eq_ok_false_iff.mp ran
        exact Scanner.source_skipBlanks
  · intro fault reached ran
    exact absurd ran run_marker_ne_error

theorem points_label : Points reading scanner label := by
  constructor
  · intro found reached ran
    cases found with
    | some text => exact (run_label_eq_ok_some_iff.mp ran).2.1.source_eq
    | none => rw [(run_label_eq_ok_none_iff.mp ran).1]
  · intro fault reached ran
    obtain ⟨_, tail, here, cause⟩ := run_label_eq_error_iff.mp ran
    refine ⟨scanner, rfl, ?_⟩
    rcases cause with ⟨bare, rfl⟩ | ⟨doubled, rfl⟩
    · exact ⟨rfl, tail, here, bare⟩
    · exact ⟨rfl, doubled, tail, here, rfl⟩

theorem points_token (sort : Token) : Points reading scanner (token sort) := by
  constructor
  · intro found reached ran
    refine Eq.trans ?_ Scanner.source_skipBlanks
    cases found with
    | none => rw [skipBlanks_eq_of_run_token ran nofun]
    | some text => exact (advances_of_run_token ran).source_eq
  · intro fault reached ran
    cases sort with
    | arrow => exact absurd ran run_token_arrow_ne_error
    | word => exact absurd ran run_token_word_ne_error
    | literal =>
        obtain ⟨rfl, rfl, unclosed⟩ := run_token_literal_eq_error_iff.mp ran
        exact ⟨_, Scanner.source_skipBlanks, rfl, unclosed⟩

theorem points_operand (slot : Slot) : Points reading scanner (operand slot.name) := by
  refine .bind (points_token .literal) ?_
  intro found reached ran
  cases found with
  | some content => exact points_pure content
  | none =>
      obtain ⟨rfl, unquoted⟩ := run_token_literal_eq_ok_none_iff.mp ran
      exact points_fail ⟨⟨slot, rfl⟩, unquoted, Scanner.stops_skipBlanks⟩

theorem nextWord_of_run {word : Text} {reached : Scanner}
    (ran : (token .word).run scanner = (.ok (some word), reached)) :
    NextWord word scanner.skipBlanks.rest := by
  change wordHere.run scanner.skipBlanks = _ at ran
  obtain ⟨nonempty, inside, advances, stops⟩ := run_wordHere_eq_ok_some_iff.mp ran
  exact ⟨nonempty, (takeWhile_dropWhile_eq_iff.mpr ⟨advances.rest, inside, stops⟩).1.symm⟩

/-- Where no word is next, and no blank either, only a quote can be. -/
theorem ended_or_quoted {rest : Text} (noWord : Stops isWordCharacter rest)
    (noBlank : Stops isBlank rest) : rest = [] ∨ rest.head? = some '"' := by
  cases rest with
  | nil => exact .inl rfl
  | cons character rest =>
      have outside := stops_cons.mp noWord
      simp only [isWordCharacter, isSolid, stops_cons.mp noBlank] at outside
      exact .inr (by simpa using outside)

end Scan

namespace Statement

namespace Reading

open Scan

variable {reading : Reading} {scanner reached : Scanner}

theorem marks_of_operation_eq_error {name before rest : Text} {cause : Fault.Cause}
    (next : NextWord name rest) (failed : reading.operation name = .error cause) :
    cause.Marks reading before rest := by
  obtain ⟨strict, expected⟩ := reading
  cases expected with
  | none =>
      cases found : Operation.ofName? name with
      | some operation => simp [Reading.operation, found] at failed
      | none =>
          simp only [Reading.operation, found, Except.error.injEq] at failed
          subst failed
          exact ⟨rfl, next, Operation.ofName?_eq_none_iff.mp found⟩
  | some expected =>
      simp only [Reading.operation] at failed
      split at failed
      · simp at failed
      · rename_i other
        simp only [Except.error.injEq] at failed
        subst failed
        refine ⟨rfl, next, ?_⟩
        rw [← Bool.not_eq_true, ← Operation.ofName?_eq_some_iff]
        exact other

theorem points_name : Points reading scanner reading.name := by
  refine points_blanks_bind (points_column_bind (.bind (.bind (points_token .word) ?_) ?_))
  · intro found reached ran
    cases found with
    | some word => exact points_pure word
    | none =>
        obtain ⟨rfl, noWord⟩ := run_token_word_eq_ok_none_iff.mp ran
        exact points_fail (ended_or_quoted noWord Scanner.stops_skipBlanks)
  · intro name reached ran
    rw [run_required_eq_ok_iff] at ran
    obtain ⟨_, _, ⟨gap, advances⟩, _⟩ := run_token_word_eq_ok_some_iff.mp ran
    rw [run_token_skipBlanks] at ran
    cases known : reading.operation name with
    | ok operation => exact points_pure operation
    | error cause =>
        exact points_failAt advances.source_eq.symm
          (marks_of_operation_eq_error (nextWord_of_run ran) known)

theorem endsInPartition_of_advances {partition : Partition} {token finish : Text} {gap : Blanks}
    (spelled : sameLetters partition.token token = true) (ended : token <:+ scanner.consumed)
    (advances : scanner.Advances (gap.text ++ finish) reached) :
    EndsInPartition reached.consumed finish := by
  obtain ⟨front, whole⟩ := ended
  refine ⟨partition, token, gap, spelled, front, ?_⟩
  rw [advances.consumed, ← whole]
  simp

theorem points_destinationName {partition : Partition} {token : Text}
    (spelled : sameLetters partition.token token = true) (ended : token <:+ scanner.consumed) :
    Points reading scanner (destinationName partition) := by
  refine .bind (points_token .literal) ?_
  intro found reached ran
  cases found with
  | none =>
      obtain ⟨skipped, unquoted⟩ := run_token_literal_eq_ok_none_iff.mp ran
      obtain ⟨gap, advances, stops⟩ := Scanner.skipBlanks_eq_iff.mp skipped
      rw [← List.append_nil gap.text] at advances
      exact points_fail (.inr ⟨endsInPartition_of_advances spelled ended advances, unquoted, stops⟩)
  | some content =>
      cases content with
      | cons character name => exact points_pure _
      | nil =>
          obtain ⟨_, gap, advances⟩ := run_token_literal_eq_ok_some_iff.mp ran
          exact points_fail (.inl (endsInPartition_of_advances spelled ended advances))

theorem points_destination : Points reading scanner destination := by
  refine .bind (points_token .arrow) ?_
  intro arrow middle probed
  cases arrow with
  | none => exact points_pure none
  | some arrow =>
      refine points_blanks_bind (points_column_bind (.bind (points_token .word) ?_))
      intro found reached ran
      cases found with
      | none =>
          obtain ⟨rfl, noWord⟩ := run_token_word_eq_ok_none_iff.mp ran
          exact points_fail (ended_or_quoted noWord Scanner.stops_skipBlanks)
      | some token =>
          obtain ⟨_, _, ⟨gap, advances⟩, _⟩ := run_token_word_eq_ok_some_iff.mp ran
          dsimp only
          split
          · rename_i unknown
            rw [run_token_skipBlanks] at ran
            exact points_failAt advances.source_eq.symm
              ⟨nextWord_of_run ran, Partition.ofToken?_eq_none_iff.mp unknown⟩
          · rename_i partition known
            refine points_destinationName (Partition.ofToken?_eq_some_iff.mp known) ?_
            rw [advances.consumed, ← List.append_assoc]
            exact List.suffix_append _ token

theorem points_ending : Points reading scanner reading.ending := by
  unfold ending
  split
  · rename_i strict
    refine points_atEnd_bind ?_
    split
    · exact points_pure ()
    · rename_i more
      refine points_blanks_bind (points_rest_bind (points_fail ?_))
      refine ⟨strict, rfl, ?_, Scanner.stops_skipBlanks⟩
      intro nothing
      apply more
      rw [← atEnd_skipBlanks, Scanner.atEnd, nothing]
      rfl
  · exact points_pure ()

theorem points_statement (line : Text) :
    Points reading (Scanner.start (trim line)) reading.statement := by
  refine points_atEnd_bind ?_
  split
  · rename_i ended
    have nothing : trim line = [] := eq_nil_of_blank_of_trim (List.nil_append _).symm ended
    exact .bind (points_fail ⟨rfl, nothing⟩) fun _ _ ran => absurd ran (run_fail_ne_ok _ _)
  · refine .bind (points_marker rfl) fun disabled _ _ => points_blanks_bind ?_
    refine .bind points_label fun label _ _ => ?_
    refine .bind points_name fun operation _ _ => ?_
    refine .bind (points_operand .first) fun first _ _ => ?_
    refine .bind (points_operand .second) fun second _ _ => ?_
    refine .bind points_destination fun destination _ _ => ?_
    exact .bind points_ending fun _ _ _ => points_pure _

end Reading

variable {reading : Reading} {line : Text} {fault : Fault}

theorem locates_of_read (failed : read reading line = .error fault) :
    Scan.Locates reading (trim line) fault :=
  (Reading.points_statement line).locates (Prod.ext failed rfl)

theorem exists_emptyLine_iff :
    (∃ column, read reading line = .error ⟨.emptyLine, column⟩) ↔ trim line = [] := by
  constructor
  · intro ⟨column, failed⟩
    obtain ⟨place, inside, _, before, rest⟩ := locates_of_read failed
    rw [← inside, Scanner.source, before, rest]
    rfl
  · intro empty
    refine ⟨1, ?_⟩
    rw [read, empty]
    rfl

/-- A fault of a line depends on the trimmed line alone; its column, which counts characters there, cuts
it in two, and the cause is what is wrong at the cut. -/
theorem faults_point_at_what_is_wrong (reading : Reading) (line : Text) :
    (∀ lead finish : Blanks,
      read reading (lead.text ++ line ++ finish.text) = read reading line) ∧
    ((∃ column, read reading line = .error ⟨.emptyLine, column⟩) ↔ trim line = []) ∧
    ∀ fault, read reading line = .error fault →
      1 ≤ fault.column ∧ fault.column ≤ (trim line).length + 1 ∧
        fault.cause.Marks reading ((trim line).take (fault.column - 1))
          ((trim line).drop (fault.column - 1)) := by
  refine ⟨?_, exists_emptyLine_iff, ?_⟩
  · intro lead finish
    rw [read, trim_surrounded, read]
  · intro fault failed
    obtain ⟨place, inside, here, marks⟩ := locates_of_read failed
    rw [← inside, here, Scanner.column, Scanner.source]
    refine ⟨by omega, ?_, by simpa using marks⟩
    rw [List.length_append]
    omega

/-- A disabled statement whose name is empty, with more text after it. -/
def nameless : Text := " \t!#é SUM \"λ\"\"2\" -> cap \"\" x ".toList

theorem faults_point_at_what_is_wrong_nameless :
    read { strict := true } nameless = .error ⟨.missingName, 25⟩ ∧
      Fault.Cause.missingName.Marks { strict := true } "!#é SUM \"λ\"\"2\" -> cap \"\"".toList
        " x".toList := by
  have failed : read { strict := true } nameless = .error ⟨.missingName, 25⟩ := rfl
  have before : (trim nameless).take 24 = "!#é SUM \"λ\"\"2\" -> cap \"\"".toList := by decide
  have rest : (trim nameless).drop 24 = " x".toList := by decide
  obtain ⟨_, _, marks⟩ := (faults_point_at_what_is_wrong _ _).2.2 _ failed
  rw [← before, ← rest]
  exact ⟨failed, marks⟩

end Statement

end LineScript
