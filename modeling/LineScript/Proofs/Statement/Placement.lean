import LineScript.Proofs.Statement.RoundTrip
import LineScript.Proofs.Text.Lines
import LineScript.Script.Layout

namespace LineScript

open Text

namespace Statement

namespace Form

theorem Label.not_comment (label : Label) (rest : Text) : ¬ ['#', '#'] <+: label.text ++ rest := by
  obtain ⟨label, nonempty, solid, unmarked, gap, apart⟩ := label
  obtain ⟨character, later, rfl⟩ := List.exists_cons_of_ne_nil nonempty
  intro comment
  obtain ⟨_, second⟩ := List.cons_prefix_cons.mp comment
  obtain ⟨same, _⟩ := List.cons_prefix_cons.mp second
  exact unmarked (by rw [← same]; rfl)

/-- Only a label begins with `#`, and no label goes on with a second one. -/
theorem not_comment (form : Form) (rest : Text) : ¬ ['#', '#'] <+: form.text ++ rest := by
  obtain ⟨⟨marker, label, operation, name, spelled, first, second⟩, clause⟩ := form
  simp only [text, Body.text, List.append_assoc]
  cases marker with
  | some gap =>
      intro comment
      exact absurd (List.cons_prefix_cons.mp comment).1 (by decide)
  | none =>
      cases label with
      | some label => exact label.not_comment _
      | none =>
          rintro ⟨back, comment⟩
          have letters := Operation.isLetters_of_spelled spelled
          have unmarked (after : Text) : Stops (· == '#') (name ++ after) :=
            letters.stops_mark after rfl
          exact stops_mark_iff.mp (unmarked _) (congrArg List.head? comment).symm

end Form

theorem isPassive_eq_false_of_read {reading : Reading} {line : Text} {statement : Statement}
    (accepted : read reading line = .ok statement) : Script.isPassive line = false := by
  obtain ⟨form, rest, _, _, whole, _⟩ := read_eq_ok_iff.mp accepted
  have nonempty : trim line ≠ [] := by
    intro empty
    have member := Reading.quote_mem_text form
    rw [whole, List.append_eq_nil_iff] at empty
    rw [empty.1] at member
    cases member
  have uncommented : Script.isComment line = false := by
    rw [Script.isComment, Bool.eq_false_iff, ne_eq, List.isPrefixOf_iff_prefix, whole]
    exact form.not_comment rest
  simp [Script.isPassive, Script.isBlankLine, nonempty, uncommented]

/-- No quoted text breaks the line; a label that breaks it is not written. -/
structure OneLine (statement : Statement) : Prop where
  operands : ∀ operand ∈ statement.operands, '\n' ∉ operand
  destination : ∀ destination ∈ statement.destination, '\n' ∉ destination.name

theorem feed_not_mem_writeLiteral {content : Text} (clean : '\n' ∉ content) :
    '\n' ∉ writeLiteral content := by
  simp [writeLiteral, clean]

theorem feed_not_mem_writeLabel (statement : Statement) : '\n' ∉ statement.writeLabel := by
  unfold writeLabel
  split
  · rename_i written
    have solid := (isLabel_iff.mp (Bool.and_eq_true_iff.mp written).2).2.2
    intro member
    simp only [List.cons_append, List.mem_cons, List.mem_append, List.not_mem_nil, or_false] at member
    rcases member with marker | inside | gap
    · exact absurd marker (by decide)
    · exact absurd (solid _ inside) (by decide)
    · exact absurd gap (by decide)
  · simp

theorem feed_not_mem_writeDestination {destination : Option Destination}
    (clean : ∀ found ∈ destination, '\n' ∉ found.name) :
    '\n' ∉ writeDestination destination := by
  cases destination with
  | none => simp [writeDestination]
  | some found =>
      have token : '\n' ∉ found.partition.token := by
        cases found.partition <;> decide
      simp [writeDestination, token, feed_not_mem_writeLiteral (clean found rfl)]

theorem OneLine.feed_not_mem_writeAs {statement : Statement} (oneLine : statement.OneLine)
    (margin : Nat) (disabled : Bool) : '\n' ∉ statement.writeAs margin disabled := by
  have operands : '\n' ∉ statement.operands.flatMap fun operand => ' ' :: writeLiteral operand := by
    intro member
    obtain ⟨operand, listed, inside⟩ := List.mem_flatMap.mp member
    rcases List.mem_cons.mp inside with gap | inside
    · exact absurd gap (by decide)
    · exact feed_not_mem_writeLiteral (oneLine.operands operand listed) inside
  have marker : '\n' ∉ if disabled then ['!'] else [] := by
    cases disabled <;> decide
  have name : '\n' ∉ statement.operation.name := by
    cases statement.operation <;> decide
  have label := feed_not_mem_writeLabel statement
  have destination := feed_not_mem_writeDestination oneLine.destination
  simp [writeAs, operands, marker, name, label, destination]

theorem oneLine_of_read {reading : Reading} {line : Text} {statement : Statement}
    (noFeed : '\n' ∉ line) (accepted : read reading line = .ok statement) :
    statement.OneLine := by
  obtain ⟨form, rest, rfl, _, whole, _⟩ := read_eq_ok_iff.mp accepted
  have clean : '\n' ∉ form.text := by
    intro member
    exact noFeed (mem_of_mem_trim (whole ▸ List.mem_append_left rest member))
  obtain ⟨⟨marker, label, operation, name, spelled, first, second⟩, clause⟩ := form
  constructor
  · intro operand listed member
    simp only [Form.statement, List.mem_cons, List.not_mem_nil, or_false] at listed
    apply clean
    rcases listed with rfl | rfl <;>
      simp [Form.text, Form.Body.text, Form.Literal.text, writeLiteral, member]
  · intro destination located member
    cases clause with
    | none => cases located
    | some clause =>
        obtain rfl := Option.some.inj located
        apply clean
        have inside : '\n' ∈ clause.name.content := member
        simp [Form.text, Form.optionalText, Form.Clause.text, Form.Literal.text, writeLiteral,
          inside]

theorem read_writeAs_of_read {reading : Reading} {line : Text} {statement : Statement}
    (accepted : read reading line = .ok statement) (margin : Nat) (strict : Bool) :
    read { strict } (statement.writeAs margin statement.disabled) = .ok statement := by
  have wellFormed := wellFormed_of_read accepted
  rw [read_writeAs wellFormed.toQuotable, wellFormed.normalized_eq_self]

theorem isIndented_writeAs {statement : Statement} (quotable : statement.Quotable) (margin : Nat)
    (disabled : Bool) :
    Script.isIndented (statement.writeAs margin disabled) = decide (0 < margin) := by
  obtain ⟨form, written, _⟩ := Form.exists_written quotable margin disabled
  rw [written]
  cases margin with
  | succ margin => rfl
  | zero =>
      have start := form.isTrimmed_text.start
      change ((form.text.head?).map isBlank).getD false = false
      cases first : form.text.head? with
      | none => rfl
      | some character => exact start character first

theorem stops_reverse_writeAs {statement : Statement} (quotable : statement.Quotable)
    (margin : Nat) (disabled : Bool) :
    Stops isBlank (statement.writeAs margin disabled).reverse := by
  obtain ⟨form, written, _⟩ := Form.exists_written quotable margin disabled
  obtain ⟨front, ends⟩ := form.exists_text_eq_append_quote
  rw [written, ends]
  simp [stops_cons, isBlank]

end Statement

end LineScript
