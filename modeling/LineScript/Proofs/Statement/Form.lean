import LineScript.Proofs.Text.Letters
import LineScript.Statement.Writing

/-! The grammar of statement lines. A form is one way to lay a statement out on a line: its parts as
they are spelled there, and the blanks between them. Forms with the same text are equal. -/

namespace LineScript.Statement

open Text

/-- A quoted literal with the blanks before it. -/
structure Form.Literal where
  gap : Blanks
  content : Text
  clean : '"' ∉ content

/-- A label with the blanks after it. -/
structure Form.Label where
  label : Text
  nonempty : label ≠ []
  solid : ∀ character ∈ label, isBlank character = false
  unmarked : label.head? ≠ some '#'
  gap : Blanks
  apart : gap.text ≠ []

structure Form.Clause where
  beforeArrow : Blanks
  afterArrow : Blanks
  partition : Partition
  token : Text
  spelled : sameLetters partition.token token = true
  name : Form.Literal
  named : name.content ≠ []

/-- Everything up to the second operand; the marker is given by the blanks after it. -/
structure Form.Body where
  marker : Option Blanks
  label : Option Form.Label
  operation : Operation
  name : Text
  spelled : sameLetters operation.name name = true
  first : Form.Literal
  second : Form.Literal

structure Form where
  body : Form.Body
  clause : Option Form.Clause

namespace Form

def Literal.text (literal : Literal) : Text := literal.gap.text ++ writeLiteral literal.content

def Label.text (label : Label) : Text := '#' :: label.label ++ label.gap.text

def Clause.text (clause : Clause) : Text :=
  clause.beforeArrow.text ++ ['-', '>'] ++ clause.afterArrow.text ++ clause.token ++
    clause.name.text

def Clause.destination (clause : Clause) : Destination := ⟨clause.partition, clause.name.content⟩

def optionalText (part : α → Text) : Option α → Text
  | none => []
  | some item => part item

def Body.text (body : Body) : Text :=
  optionalText (fun gap => '!' :: gap.text) body.marker ++ optionalText Label.text body.label ++
    body.name ++ body.first.text ++ body.second.text

def text (form : Form) : Text := form.body.text ++ optionalText Clause.text form.clause

/-- The statement that is laid out: exactly the parts of the form, without the blanks. -/
def statement (form : Form) : Statement where
  operation := form.body.operation
  label := (form.body.label.map Label.label).getD form.body.operation.defaultLabel
  operands := [form.body.first.content, form.body.second.content]
  destination := form.clause.map Clause.destination
  disabled := form.body.marker.isSome

theorem Label.isLabel_label (label : Label) : isLabel label.label = true :=
  isLabel_iff.mpr ⟨label.nonempty, label.unmarked, label.solid⟩

theorem writeLiteral_append (content rest : Text) :
    writeLiteral content ++ rest = '"' :: (content ++ '"' :: rest) := by
  simp [writeLiteral]

theorem Literal.append_inj {literal other : Literal} {rest later : Text}
    (same : literal.text ++ rest = other.text ++ later) : literal = other ∧ rest = later := by
  obtain ⟨gap, content, clean⟩ := literal
  obtain ⟨otherGap, otherContent, otherClean⟩ := other
  simp only [text, List.append_assoc, writeLiteral_append] at same
  obtain ⟨rfl, quoted⟩ := Blanks.append_inj (stops_cons.mpr rfl) (stops_cons.mpr rfl) same
  obtain ⟨rfl, rests⟩ := quoted_append_inj clean otherClean (List.cons.inj quoted).2
  exact ⟨rfl, rests⟩

theorem Literal.stops {belongs : Char → Bool} (literal : Literal) (rest : Text)
    (blankOutside : ∀ character, isBlank character = true → belongs character = false)
    (quoteOutside : belongs '"' = false) : Stops belongs (literal.text ++ rest) := by
  rw [text, List.append_assoc]
  exact literal.gap.stops_append blankOutside (stops_cons.mpr quoteOutside)

theorem Literal.stops_isWordCharacter (literal : Literal) (rest : Text) :
    Stops isWordCharacter (literal.text ++ rest) := by
  refine literal.stops rest ?_ rfl
  intro character blank
  simp [isWordCharacter, isSolid, blank]

theorem Label.append_inj {label other : Label} {rest later : Text}
    (stops : Stops isBlank rest) (otherStops : Stops isBlank later)
    (same : label.text ++ rest = other.text ++ later) : label = other ∧ rest = later := by
  obtain ⟨label, nonempty, solid, unmarked, gap, apart⟩ := label
  obtain ⟨otherLabel, otherNonempty, otherSolid, otherUnmarked, otherGap, otherApart⟩ := other
  simp only [text, List.append_assoc, List.cons_append, List.cons.injEq, true_and] at same
  obtain ⟨rfl, gaps⟩ := append_eq_append_of_stops
    (fun character member => by simp [isSolid, solid character member])
    (Blanks.stops_isSolid_append rest apart)
    (fun character member => by simp [isSolid, otherSolid character member])
    (Blanks.stops_isSolid_append later otherApart) same
  obtain ⟨rfl, rests⟩ := Blanks.append_inj stops otherStops gaps
  exact ⟨rfl, rests⟩

theorem Clause.append_inj {clause other : Clause} {rest later : Text}
    (same : clause.text ++ rest = other.text ++ later) : clause = other ∧ rest = later := by
  obtain ⟨beforeArrow, afterArrow, partition, token, spelled, name, named⟩ := clause
  obtain ⟨otherBefore, otherAfter, otherPartition, otherToken, otherSpelled, otherName,
    otherNamed⟩ := other
  have letters := Partition.isLetters_of_spelled spelled
  have otherLetters := Partition.isLetters_of_spelled otherSpelled
  simp only [text, List.append_assoc] at same
  obtain ⟨rfl, arrows⟩ := Blanks.append_inj (stops_cons.mpr rfl) (stops_cons.mpr rfl) same
  obtain ⟨rfl, tokens⟩ := Blanks.append_inj (letters.stops_isBlank _) (otherLetters.stops_isBlank _)
    (List.cons.inj (List.cons.inj arrows).2).2
  obtain ⟨rfl, names⟩ := append_eq_append_of_stops letters.isWord (name.stops_isWordCharacter rest)
    otherLetters.isWord (otherName.stops_isWordCharacter later) tokens
  obtain ⟨rfl, rests⟩ := Literal.append_inj names
  have partitions : some partition = some otherPartition :=
    (Partition.ofToken?_eq_some_iff.mpr spelled).symm.trans
      (Partition.ofToken?_eq_some_iff.mpr otherSpelled)
  obtain rfl := Option.some.inj partitions
  exact ⟨rfl, rests⟩

/-- An optional part is recognized by the mark it begins with. -/
theorem optionalText_append_inj {part : α → Text} {mark : Char} {item other : Option α}
    {rest later : Text} (marked : ∀ item, ∃ tail, part item = mark :: tail)
    (inj : ∀ item other, part item ++ rest = part other ++ later → item = other ∧ rest = later)
    (unmarked : Stops (· == mark) rest) (otherUnmarked : Stops (· == mark) later)
    (same : optionalText part item ++ rest = optionalText part other ++ later) :
    item = other ∧ rest = later := by
  cases item with
  | none =>
      cases other with
      | none => exact ⟨rfl, same⟩
      | some other =>
          obtain ⟨tail, begins⟩ := marked other
          have here : rest = mark :: (tail ++ later) := by
            simpa [optionalText, begins] using same
          rw [here, stops_cons] at unmarked
          simp at unmarked
  | some item =>
      cases other with
      | none =>
          obtain ⟨tail, begins⟩ := marked item
          have here : later = mark :: (tail ++ rest) := by
            simpa [optionalText, begins] using same.symm
          rw [here, stops_cons] at otherUnmarked
          simp at otherUnmarked
      | some other =>
          obtain ⟨rfl, rests⟩ := inj item other same
          exact ⟨rfl, rests⟩

theorem stops_labelText_append {belongs : Char → Bool} (label : Option Label) {rest : Text}
    (stops : Stops belongs rest) (outside : belongs '#' = false) :
    Stops belongs (optionalText Label.text label ++ rest) := by
  cases label with
  | none => exact stops
  | some label => exact stops_cons.mpr outside

theorem stops_isBlank_append (form : Form) (rest : Text) :
    Stops isBlank (form.text ++ rest) := by
  obtain ⟨⟨marker, label, operation, name, spelled, first, second⟩, clause⟩ := form
  have letters := Operation.isLetters_of_spelled spelled
  simp only [Form.text, Body.text, List.append_assoc]
  cases marker with
  | none => exact stops_labelText_append label (letters.stops_isBlank _) rfl
  | some gap => exact stops_cons.mpr rfl

theorem Body.append_inj {body other : Body} {rest later : Text}
    (same : body.text ++ rest = other.text ++ later) : body = other ∧ rest = later := by
  obtain ⟨marker, label, operation, name, spelled, first, second⟩ := body
  obtain ⟨otherMarker, otherLabel, otherOperation, otherName, otherSpelled, otherFirst,
    otherSecond⟩ := other
  have letters := Operation.isLetters_of_spelled spelled
  have otherLetters := Operation.isLetters_of_spelled otherSpelled
  simp only [text, List.append_assoc] at same
  obtain ⟨rfl, labels⟩ := optionalText_append_inj (fun gap => ⟨gap.text, rfl⟩)
    (fun gap otherGap gaps => Blanks.append_inj
      (stops_labelText_append label (letters.stops_isBlank _) rfl)
      (stops_labelText_append otherLabel (otherLetters.stops_isBlank _) rfl)
      (List.cons.inj gaps).2)
    (stops_labelText_append label (letters.stops_mark _ rfl) rfl)
    (stops_labelText_append otherLabel (otherLetters.stops_mark _ rfl) rfl) same
  obtain ⟨rfl, names⟩ := optionalText_append_inj
    (fun (label : Label) => ⟨label.label ++ label.gap.text, rfl⟩)
    (fun label otherLabel => Label.append_inj (letters.stops_isBlank _)
      (otherLetters.stops_isBlank _))
    (letters.stops_mark _ rfl) (otherLetters.stops_mark _ rfl) labels
  obtain ⟨rfl, firsts⟩ := append_eq_append_of_stops letters.isWord
    (first.stops_isWordCharacter _) otherLetters.isWord (otherFirst.stops_isWordCharacter _) names
  obtain ⟨rfl, seconds⟩ := Literal.append_inj firsts
  obtain ⟨rfl, rests⟩ := Literal.append_inj seconds
  have operations : some operation = some otherOperation :=
    (Operation.ofName?_eq_some_iff.mpr spelled).symm.trans
      (Operation.ofName?_eq_some_iff.mpr otherSpelled)
  obtain rfl := Option.some.inj operations
  exact ⟨rfl, rests⟩

/-- Whether the statement of the form ends where the form does: without a clause, what follows must
not look like one. -/
def EndsBefore (form : Form) (rest : Text) : Prop :=
  form.clause = none → ¬ ['-', '>'] <+: trimStart rest

theorem endsBefore_nil (form : Form) : form.EndsBefore [] := by
  intro _
  decide

theorem Clause.arrow_prefix (clause : Clause) (rest : Text) :
    ['-', '>'] <+: trimStart (clause.text ++ rest) := by
  simp only [text, List.append_assoc, List.cons_append, List.nil_append]
  rw [trimStart_blanks_append clause.beforeArrow (stops_cons.mpr rfl)]
  exact ⟨_, rfl⟩

/-- A text begins with one form at most that ends before the rest. -/
theorem append_inj {form other : Form} {rest later : Text} (ends : form.EndsBefore rest)
    (otherEnds : other.EndsBefore later) (same : form.text ++ rest = other.text ++ later) :
    form = other ∧ rest = later := by
  obtain ⟨body, clause⟩ := form
  obtain ⟨otherBody, otherClause⟩ := other
  simp only [text, List.append_assoc] at same
  obtain ⟨rfl, clauses⟩ := Body.append_inj same
  cases clause with
  | none =>
      cases otherClause with
      | none => exact ⟨rfl, clauses⟩
      | some other =>
          have here : rest = other.text ++ later := clauses
          exact absurd (here ▸ other.arrow_prefix later) (ends rfl)
  | some clause =>
      cases otherClause with
      | none =>
          have here : clause.text ++ rest = later := clauses
          exact absurd (here ▸ clause.arrow_prefix rest) (otherEnds rfl)
      | some other =>
          obtain ⟨rfl, rests⟩ := Clause.append_inj clauses
          exact ⟨rfl, rests⟩

theorem text_injective : Function.Injective text := by
  intro form other same
  have whole : form.text ++ [] = other.text ++ [] := by rw [same]
  exact (append_inj form.endsBefore_nil other.endsBefore_nil whole).1

end Form

end LineScript.Statement
