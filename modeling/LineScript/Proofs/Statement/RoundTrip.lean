import LineScript.Proofs.Statement.Reading
import Mathlib.Data.List.Basic

namespace LineScript.Statement

open Text

/-- Operands and destination can be written between quotes. -/
structure Quotable (statement : Statement) : Prop where
  arity : statement.operands.length = Operation.arity
  operands : ∀ operand ∈ statement.operands, '"' ∉ operand
  destination : ∀ destination ∈ statement.destination,
    destination.name ≠ [] ∧ '"' ∉ destination.name

structure WellFormed (statement : Statement) : Prop extends Quotable statement where
  label : isLabel statement.label = true

/-- The statement with its marker as asked; a label that cannot be written gives way to the default
one. -/
def normalized (statement : Statement) (disabled : Bool) : Statement :=
  { statement with
    label := if isLabel statement.label then statement.label else statement.operation.defaultLabel
    disabled }

theorem isLabel_defaultLabel (operation : Operation) : isLabel operation.defaultLabel = true := by
  cases operation <;> decide

theorem WellFormed.normalized_eq_self {statement : Statement} (wellFormed : statement.WellFormed) :
    statement.normalized statement.disabled = statement := by
  rw [normalized, if_pos wellFormed.label]

namespace Form

def spaced (content : Text) (clean : '"' ∉ content) : Literal := ⟨Blanks.spaces 1, content, clean⟩

def writtenClause (destination : Destination)
    (clean : destination.name ≠ [] ∧ '"' ∉ destination.name) : Clause where
  beforeArrow := Blanks.spaces 1
  afterArrow := Blanks.spaces 1
  partition := destination.partition
  token := destination.partition.token
  spelled := by simp [sameLetters]
  name := spaced destination.name clean.2
  named := clean.1

theorem exists_written_clause {destination : Option Destination}
    (clean : ∀ found ∈ destination, found.name ≠ [] ∧ '"' ∉ found.name) :
    ∃ clause : Option Clause, optionalText Clause.text clause = writeDestination destination ∧
      clause.map Clause.destination = destination := by
  cases destination with
  | none => exact ⟨none, rfl, rfl⟩
  | some destination =>
      refine ⟨some (writtenClause destination (clean destination rfl)), ?_, rfl⟩
      simp [optionalText, Clause.text, Literal.text, writtenClause, spaced, writeDestination]

theorem exists_written_label (statement : Statement) :
    ∃ label : Option Label, optionalText Label.text label = statement.writeLabel ∧
      (label.map Label.label).getD statement.operation.defaultLabel =
        (statement.normalized statement.disabled).label := by
  by_cases valid : isLabel statement.label = true
  · by_cases default : statement.label = statement.operation.defaultLabel
    · refine ⟨none, ?_, ?_⟩
      · simp [optionalText, writeLabel, hasDefaultLabel, default]
      · simp [normalized, default]
    · obtain ⟨nonempty, unmarked, solid⟩ := isLabel_iff.mp valid
      refine ⟨some ⟨statement.label, nonempty, solid, unmarked, Blanks.spaces 1, by simp⟩, ?_, ?_⟩
      · simp [optionalText, Label.text, writeLabel, hasDefaultLabel, default, valid]
      · simp [normalized, valid]
  · refine ⟨none, ?_, ?_⟩
    · simp [optionalText, writeLabel, valid]
    · simp [normalized, valid]

theorem exists_written {statement : Statement} (quotable : statement.Quotable) (margin : Nat)
    (disabled : Bool) :
    ∃ form : Form, statement.writeAs margin disabled = (Blanks.spaces margin).text ++ form.text ∧
      form.statement = statement.normalized disabled := by
  obtain ⟨operation, label, operands, destination, ownDisabled⟩ := statement
  obtain ⟨arity, clean, destinationClean⟩ := quotable
  obtain ⟨first, second, rfl⟩ := List.length_eq_two.mp arity
  obtain ⟨labelPart, labelText, labelled⟩ :=
    exists_written_label ⟨operation, label, [first, second], destination, ownDisabled⟩
  obtain ⟨clause, clauseText, located⟩ := exists_written_clause destinationClean
  refine ⟨⟨⟨if disabled then some Blanks.none else none, labelPart, operation, operation.name,
    by simp [sameLetters], spaced first (clean first (by simp)),
    spaced second (clean second (by simp))⟩, clause⟩, ?_, ?_⟩
  · have marker : optionalText (fun gap => '!' :: gap.text)
        (if disabled then some Blanks.none else none) = if disabled then ['!'] else [] := by
      cases disabled <;> rfl
    simp only [writeAs, text, Body.text, labelText, clauseText, marker]
    simp [Literal.text, spaced]
  · have marker : (if disabled then some Blanks.none else none).isSome = disabled := by
      cases disabled <;> rfl
    simp only [Form.statement, labelled, located, marker]
    rfl

theorem Literal.exists_text_eq_append_quote (literal : Literal) :
    ∃ front, literal.text = front ++ ['"'] :=
  ⟨literal.gap.text ++ '"' :: literal.content, by simp [Literal.text, writeLiteral]⟩

theorem exists_text_eq_append_quote (form : Form) : ∃ front, form.text = front ++ ['"'] := by
  obtain ⟨body, clause⟩ := form
  cases clause with
  | none =>
      obtain ⟨front, ends⟩ := body.second.exists_text_eq_append_quote
      refine ⟨optionalText (fun gap => '!' :: gap.text) body.marker ++
        optionalText Label.text body.label ++ body.name ++ body.first.text ++ front, ?_⟩
      simp [text, Body.text, optionalText, ends]
  | some clause =>
      obtain ⟨front, ends⟩ := clause.name.exists_text_eq_append_quote
      refine ⟨body.text ++ (clause.beforeArrow.text ++ ['-', '>'] ++ clause.afterArrow.text ++
        clause.token ++ front), ?_⟩
      simp [text, Clause.text, optionalText, ends]

theorem isTrimmed_text (form : Form) : IsTrimmed form.text := by
  constructor
  · have start := form.stops_isBlank_append []
    rwa [List.append_nil] at start
  · obtain ⟨front, ends⟩ := form.exists_text_eq_append_quote
    rw [ends, List.reverse_append]
    exact stops_cons.mpr rfl

theorem wellFormed_statement (form : Form) : form.statement.WellFormed := by
  obtain ⟨⟨marker, label, operation, name, spelled, first, second⟩, clause⟩ := form
  refine ⟨⟨rfl, ?_, ?_⟩, ?_⟩
  · intro operand member
    simp only [statement, List.mem_cons, List.not_mem_nil, or_false] at member
    rcases member with rfl | rfl
    · exact first.clean
    · exact second.clean
  · intro destination located
    cases clause with
    | none => cases located
    | some clause =>
        obtain rfl := Option.some.inj located
        exact ⟨clause.named, clause.name.clean⟩
  · cases label with
    | none => exact isLabel_defaultLabel operation
    | some label => exact label.isLabel_label

end Form

theorem read_writeAs {statement : Statement} (quotable : statement.Quotable) (margin : Nat)
    (disabled strict : Bool) :
    read { strict } (statement.writeAs margin disabled) =
      .ok (statement.normalized disabled) := by
  obtain ⟨form, written, same⟩ := Form.exists_written quotable margin disabled
  have trimmed : trim (statement.writeAs margin disabled) = form.text ++ [] := by
    rw [written, trim_blanks_append _ form.isTrimmed_text, List.append_nil]
  exact read_eq_ok_iff.mpr
    ⟨form, [], same, nofun, trimmed, form.endsBefore_nil, fun _ => rfl⟩

theorem wellFormed_of_read {reading : Reading} {line : Text} {statement : Statement}
    (accepted : read reading line = .ok statement) : statement.WellFormed := by
  obtain ⟨form, _, rfl, _⟩ := read_eq_ok_iff.mp accepted
  exact form.wellFormed_statement

theorem read_write {statement : Statement} (wellFormed : statement.WellFormed) (strict : Bool) :
    read { strict } statement.write = .ok statement := by
  rw [write, read_writeAs wellFormed.toQuotable, wellFormed.normalized_eq_self]

/-- Writing and reading are inverse exactly on the well-formed statements. Of the others, those that
can be written at all come back well-formed. -/
theorem reading_inverts_writing :
    (∀ (statement : Statement) (margin : Nat) (disabled strict : Bool), statement.Quotable →
      read { strict } (statement.writeAs margin disabled) =
        .ok (statement.normalized disabled)) ∧
    (∀ (strict : Bool) (line : Text) (statement : Statement),
      read { strict } line = .ok statement → statement.WellFormed) ∧
    (∀ (strict : Bool) (statement : Statement),
      read { strict } statement.write = .ok statement ↔ statement.WellFormed) ∧
    ∀ (strict : Bool) (line : Text) (statement : Statement),
      read { strict } line = .ok statement → read { strict } statement.write = .ok statement := by
  refine ⟨?_, ?_, ?_, ?_⟩
  · intro statement margin disabled strict quotable
    exact read_writeAs quotable margin disabled strict
  · intro strict line statement accepted
    exact wellFormed_of_read accepted
  · intro strict statement
    exact ⟨wellFormed_of_read, fun wellFormed => read_write wellFormed strict⟩
  · intro strict line statement accepted
    exact read_write (wellFormed_of_read accepted) strict

/-- A statement whose label and texts hold the marks of every other part of a line. -/
def tangled : Statement where
  operation := .subtract
  label := "!\"->#VAR".toList
  operands := ["-> VAR \n".toList, "#x !SUM".toList]
  destination := some ⟨.capture, " CAP\t".toList⟩
  disabled := false

theorem reading_inverts_writing_tangled :
    tangled.Quotable ∧
      read { strict := true } (tangled.writeAs 3 true) = .ok (tangled.normalized true) ∧
      (tangled.normalized true).WellFormed ∧
      read { strict := true } (tangled.normalized true).write = .ok (tangled.normalized true) := by
  have quotable : tangled.Quotable := ⟨by decide, by decide, by decide⟩
  have accepted := reading_inverts_writing.1 tangled 3 true true quotable
  exact ⟨quotable, accepted, reading_inverts_writing.2.1 true _ _ accepted,
    reading_inverts_writing.2.2.2 true _ _ accepted⟩

end LineScript.Statement
