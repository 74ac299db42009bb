import LineScript.Console.Coloring
import LineScript.Proofs.Statement.Placement

namespace LineScript

open Text

namespace Text

def blankRanges : Ranges :=
  [(0x09, 0x0D), (0x20, 0x20), (0x85, 0x85), (0xA0, 0xA0), (0x1680, 0x1680), (0x2000, 0x200A),
    (0x2028, 0x2029), (0x202F, 0x202F), (0x205F, 0x205F), (0x3000, 0x3000)]

theorem contains_blankRanges {character : Char} (blank : isBlank character = true) :
    blankRanges.contains character = true := by
  simp only [isBlank, Bool.or_eq_true, Bool.and_eq_true, decide_eq_true_eq, beq_iff_eq] at blank
  simp only [blankRanges, Ranges.contains, List.any_cons, List.any_nil, Bool.or_eq_true,
    Bool.and_eq_true, decide_eq_true_eq, Bool.false_eq_true, or_false]
  omega

def Ranges.Apart (ranges others : Ranges) : Prop :=
  ∀ range ∈ ranges, ∀ other ∈ others, range.2 < other.1 ∨ other.2 < range.1

instance (ranges others : Ranges) : Decidable (ranges.Apart others) :=
  inferInstanceAs (Decidable (∀ _ ∈ _, _))

theorem Ranges.Apart.contains_eq_false {ranges others : Ranges} {character : Char}
    (apart : ranges.Apart others) (inside : ranges.contains character = true) :
    others.contains character = false := by
  obtain ⟨⟨first, last⟩, member, within⟩ := List.any_eq_true.mp inside
  refine List.any_eq_false.mpr ?_
  rintro ⟨otherFirst, otherLast⟩ otherMember
  have separate := apart _ member _ otherMember
  simp only [Bool.and_eq_true, decide_eq_true_eq] at within ⊢
  simp only at separate
  omega

theorem isAlphabetic_eq_false_of_isBlank {character : Char} (blank : isBlank character = true) :
    isAlphabetic character = false := by
  have apart : blankRanges.Apart alphabeticRanges := by decide +kernel
  exact apart.contains_eq_false (contains_blankRanges blank)

end Text

namespace Coloring

inductive Hue where
  | red
  | green
  | yellow
  | blue
  | magenta
  | cyan

/-- The number a terminal gives the colour; black is its first, zero. -/
def Hue.digit : Hue → Char
  | red => '1'
  | green => '2'
  | yellow => '3'
  | blue => '4'
  | magenta => '5'
  | cyan => '6'

inductive Part where
  | marker
  | label
  | name
  | literal
  | arrow
  | partition

namespace Part

def hue : Part → Hue
  | marker => .red
  | label => .cyan
  | name => .green
  | literal => .yellow
  | arrow => .magenta
  | partition => .blue

def isBold : Part → Bool
  | name => true
  | _ => false

/-- The text between a code that sets the colour of the part and the code that sets everything back. -/
def colored (part : Part) (text : Text) : Text :=
  "\x1b[".toList ++ (if part.isBold then "1;".toList else []) ++ ['3', part.hue.digit, 'm'] ++ text ++
    "\x1b[0m".toList

def paint : Part → Paint
  | marker => .disabled
  | label => .label
  | name => .operation
  | literal => .literal
  | arrow => .arrow
  | partition => .partition

end Part

end Coloring

namespace Statement.Form

open Coloring

section

variable (dress : Part → Text → Text)

def Literal.dressed (literal : Literal) : Text :=
  literal.gap.text ++ dress .literal (writeLiteral literal.content)

def Label.dressed (label : Label) : Text := dress .label ('#' :: label.label) ++ label.gap.text

def Clause.dressed (clause : Clause) : Text :=
  clause.beforeArrow.text ++ dress .arrow ['-', '>'] ++ clause.afterArrow.text ++
    dress .partition clause.token ++ clause.name.dressed dress

def Body.dressed (body : Body) : Text :=
  optionalText (fun gap => dress .marker ['!'] ++ gap.text) body.marker ++
    optionalText (Label.dressed dress) body.label ++ dress .name body.name ++
    body.first.dressed dress ++ body.second.dressed dress

/-- The text of the form with each of its parts dressed, and its blanks as they are. -/
def dressed (form : Form) : Text :=
  form.body.dressed dress ++ optionalText (Clause.dressed dress) form.clause

end

end Statement.Form

namespace Coloring

open Statement

variable {word rest : Text} {character : Char}

def shown (text : Text) : Text := (spans text).flatMap Span.show

@[simp] theorem shown_nil : shown [] = [] := by
  rw [shown, spans]
  rfl

theorem show_part (part : Part) (text : Text) : Span.show ⟨some part.paint, text⟩ = part.colored text := by
  cases part <;> rfl

theorem shown_of_spans (part : Part) {text : Text} (cut : spans text = ⟨some part.paint, word⟩ :: spans rest) :
    shown text = part.colored word ++ shown rest := by
  rw [shown, cut, List.flatMap_cons, show_part]
  rfl

theorem spans_of_unmarked (quote : character ≠ '"') (marker : character ≠ '!') (label : character ≠ '#')
    (arrow : character ≠ '-') (rest : Text) :
    spans (character :: rest) =
      if isAlphabetic character then
        ⟨wordPaint (character :: rest.takeWhile isWordCharacter),
          character :: rest.takeWhile isWordCharacter⟩ :: spans (rest.dropWhile isWordCharacter)
      else ⟨none, [character]⟩ :: spans rest := by
  rw [spans]
  · exact quote
  · exact marker
  · exact label
  · intro _ dash
    exact absurd dash arrow

theorem spans_of_blank (blank : isBlank character = true) (rest : Text) :
    spans (character :: rest) = ⟨none, [character]⟩ :: spans rest := by
  rw [spans_of_unmarked (ne_of_isBlank blank rfl) (ne_of_isBlank blank rfl) (ne_of_isBlank blank rfl)
    (ne_of_isBlank blank rfl), isAlphabetic_eq_false_of_isBlank blank]
  rfl

theorem spans_word (letters : IsLetters word) (stops : Stops isWordCharacter rest) :
    spans (word ++ rest) = ⟨wordPaint word, word⟩ :: spans rest := by
  obtain ⟨character, word, rfl⟩ := List.exists_cons_of_ne_nil letters.nonempty
  have letter := letters.letters character List.mem_cons_self
  have other (mark : Char) (noLetter : mark.isAlpha = false) : character ≠ mark := by
    rintro rfl
    rw [letter] at noLetter
    cases noLetter
  obtain ⟨taken, left⟩ := takeWhile_dropWhile_eq_iff.mpr
    ⟨rfl, fun other member => letters.isWord other (List.mem_cons_of_mem character member), stops⟩
  rw [List.cons_append, spans_of_unmarked (other _ rfl) (other _ rfl) (other _ rfl) (other _ rfl),
    if_pos (isAlphabetic_of_isAlpha letter), taken, left]

theorem shown_blanks_append (blanks : Blanks) (rest : Text) :
    shown (blanks.text ++ rest) = blanks.text ++ shown rest := by
  obtain ⟨text, blank⟩ := blanks
  induction text with
  | nil => rfl
  | cons character text induction =>
      have later := induction fun other member => blank other (List.mem_cons_of_mem character member)
      rw [List.cons_append, shown, spans_of_blank (blank character List.mem_cons_self), List.flatMap_cons,
        List.cons_append, ← later]
      rfl

theorem shown_marker (rest : Text) : shown ('!' :: rest) = Part.marker.colored ['!'] ++ shown rest :=
  shown_of_spans .marker (by rw [spans]; rfl)

theorem shown_arrow (rest : Text) :
    shown ('-' :: '>' :: rest) = Part.arrow.colored ['-', '>'] ++ shown rest :=
  shown_of_spans .arrow (by rw [spans]; rfl)

theorem shown_name {operation : Operation} (spelled : sameLetters operation.name word = true)
    (stops : Stops isWordCharacter rest) : shown (word ++ rest) = Part.name.colored word ++ shown rest := by
  have paint : wordPaint word = some .operation := by
    rw [wordPaint, Operation.ofName?_eq_some_iff.mpr spelled]
    rfl
  apply shown_of_spans
  rw [spans_word (Operation.isLetters_of_spelled spelled) stops, paint]
  rfl

theorem wordPaint_of_partition {partition : Partition}
    (spelled : sameLetters partition.token word = true) : wordPaint word = some .partition := by
  -- operations are tried first, and no partition is spelled like one
  have noName : Operation.ofName? word = none := by
    apply Operation.ofName?_eq_none_iff.mpr
    intro operation
    rw [sameLetters, ← eq_of_beq spelled]
    cases operation <;> cases partition <;> rfl
  rw [wordPaint, noName, Partition.ofToken?_eq_some_iff.mpr spelled]
  rfl

theorem shown_partition {partition : Partition} (spelled : sameLetters partition.token word = true)
    (stops : Stops isWordCharacter rest) :
    shown (word ++ rest) = Part.partition.colored word ++ shown rest := by
  apply shown_of_spans
  rw [spans_word (Partition.isLetters_of_spelled spelled) stops, wordPaint_of_partition spelled]
  rfl

theorem shown_literal (literal : Form.Literal) (rest : Text) :
    shown (literal.text ++ rest) = literal.dressed Part.colored ++ shown rest := by
  obtain ⟨gap, content, clean⟩ := literal
  have cut : shown (writeLiteral content ++ rest) =
      Part.literal.colored (writeLiteral content) ++ shown rest := by
    apply shown_of_spans
    rw [Form.writeLiteral_append, spans, literalSpan, cut_append '"' clean]
    rfl
  rw [Form.Literal.text, List.append_assoc, shown_blanks_append, cut, Form.Literal.dressed,
    List.append_assoc]

theorem shown_label (label : Form.Label) (rest : Text) :
    shown (label.text ++ rest) = label.dressed Part.colored ++ shown rest := by
  obtain ⟨label, nonempty, solid, unmarked, gap, apart⟩ := label
  have inside : ∀ character ∈ label, isSolid character = true := by
    intro character member
    rw [isSolid, solid character member]
    rfl
  obtain ⟨taken, left⟩ := takeWhile_dropWhile_eq_iff.mpr
    ⟨rfl, inside, Blanks.stops_isSolid_append rest apart⟩
  have cut : shown ('#' :: (label ++ (gap.text ++ rest))) =
      Part.label.colored ('#' :: label) ++ shown (gap.text ++ rest) := by
    apply shown_of_spans
    rw [spans, taken, left]
    rfl
  simp only [Form.Label.text, Form.Label.dressed, List.cons_append, List.append_assoc]
  rw [cut, shown_blanks_append]

theorem shown_clause (clause : Form.Clause) (rest : Text) :
    shown (clause.text ++ rest) = clause.dressed Part.colored ++ shown rest := by
  have stops := clause.name.stops_isWordCharacter rest
  simp only [Form.Clause.text, Form.Clause.dressed, List.append_assoc, List.cons_append, List.nil_append]
  rw [shown_blanks_append, shown_arrow, shown_blanks_append, shown_partition clause.spelled stops,
    shown_literal]

theorem shown_optionalText {part dressed : α → Text}
    (present : ∀ item rest, shown (part item ++ rest) = dressed item ++ shown rest) (item : Option α)
    (rest : Text) :
    shown (Form.optionalText part item ++ rest) = Form.optionalText dressed item ++ shown rest := by
  cases item with
  | none => rfl
  | some item => exact present item rest

theorem shown_body (body : Form.Body) (rest : Text) :
    shown (body.text ++ rest) = body.dressed Part.colored ++ shown rest := by
  have marked (gap : Blanks) (rest : Text) :
      shown ('!' :: gap.text ++ rest) = Part.marker.colored ['!'] ++ gap.text ++ shown rest := by
    rw [List.cons_append, shown_marker, shown_blanks_append, List.append_assoc]
  have stops := body.first.stops_isWordCharacter (body.second.text ++ rest)
  simp only [Form.Body.text, Form.Body.dressed, List.append_assoc]
  rw [shown_optionalText marked, shown_optionalText shown_label, shown_name body.spelled stops,
    shown_literal, shown_literal]

theorem shown_form (form : Form) (rest : Text) :
    shown (form.text ++ rest) = form.dressed Part.colored ++ shown rest := by
  rw [Form.text, List.append_assoc, shown_body, shown_optionalText shown_clause, Form.dressed,
    List.append_assoc]

/-- Only a marker, a label or a letter begins a form. -/
theorem stops_colon_append (form : Form) (rest : Text) : Stops (· == ':') (form.text ++ rest) := by
  obtain ⟨⟨marker, label, operation, name, spelled, first, second⟩, clause⟩ := form
  have letters := Operation.isLetters_of_spelled spelled
  simp only [Form.text, Form.Body.text, List.append_assoc]
  cases marker with
  | none => exact Form.stops_labelText_append label (letters.stops_mark _ rfl) rfl
  | some gap => exact stops_cons.mpr rfl

theorem color_eq_shown {line : Text} (uncommented : ¬ ['#', '#'] <+: trimStart line)
    (uncommanded : ¬ [':'] <+: trimStart line) : color line = shown line := by
  simp only [color, List.isPrefixOf_iff_prefix]
  exact (if_neg uncommented).trans (if_neg uncommanded)

/-- A line with nothing on it but a form is no comment, and no command to the console. -/
theorem color_surrounded_form (lead finish : Blanks) (form : Form) :
    color (lead.text ++ form.text ++ finish.text) =
      lead.text ++ form.dressed Part.colored ++ finish.text := by
  have body : trimStart (lead.text ++ form.text ++ finish.text) = form.text ++ finish.text := by
    rw [List.append_assoc]
    exact trimStart_blanks_append lead (form.stops_isBlank_append finish.text)
  have uncommanded : ¬ [':'] <+: form.text ++ finish.text := by
    rintro ⟨later, begins⟩
    have first := stops_colon_append form finish.text
    rw [← begins] at first
    exact nomatch stops_cons.mp first
  have nothing : shown finish.text = finish.text := by
    simpa using shown_blanks_append finish []
  rw [color_eq_shown (body ▸ form.not_comment finish.text) (body ▸ uncommanded), List.append_assoc,
    shown_blanks_append, shown_form, nothing, List.append_assoc]

/-- A line that reads as a statement is a form with blanks around it, and it is shown as it is but for the
parts of the form: each of them in its colour. -/
theorem colors_follow_the_grammar {line : Text} {statement : Statement}
    (accepted : read { strict := true } line = .ok statement) :
    (∃ (lead finish : Blanks) (form : Form), line = lead.text ++ form.text ++ finish.text ∧
      form.statement = statement) ∧
    ∀ (lead finish : Blanks) (form : Form), line = lead.text ++ form.text ++ finish.text →
      color line = lead.text ++ form.dressed Part.colored ++ finish.text := by
  constructor
  · obtain ⟨form, whole, same⟩ := read_strict_eq_ok_iff.mp accepted
    obtain ⟨lead, finish, split⟩ := exists_surrounded_trim line
    rw [← whole] at split
    exact ⟨lead, finish, form, split, same⟩
  · rintro lead finish form rfl
    exact color_surrounded_form lead finish form

def tangledLabel : Text := "l\"!->".toList

theorem isLabel_tangledLabel : isLabel tangledLabel = true := rfl

/-- The label holds a quote and both other marks, the operands a marker and keywords, and nothing that need
not be apart is. -/
def tangledForm : Form where
  body :=
    { marker := some (.spaces 1)
      label := some
        { label := tangledLabel
          nonempty := (isLabel_iff.mp isLabel_tangledLabel).1
          solid := (isLabel_iff.mp isLabel_tangledLabel).2.2
          unmarked := (isLabel_iff.mp isLabel_tangledLabel).2.1
          gap := .spaces 2
          apart := by decide }
      operation := .sum
      name := "sUm".toList
      spelled := by decide
      first := ⟨.none, "#".toList, by decide⟩
      second := ⟨.none, "VAR !".toList, by decide⟩ }
  clause := some
    { beforeArrow := .none
      afterArrow := .none
      partition := .capture
      token := "cap".toList
      spelled := by decide
      name := ⟨.none, "SUM".toList, by decide⟩
      named := by decide }

def tangledLine : Text := " ! #l\"!->  sUm\"#\"\"VAR !\"->cap\"SUM\"  ".toList

theorem colors_follow_the_grammar_tangled :
    read { strict := true } tangledLine = .ok tangledForm.statement ∧
      color tangledLine = " \x1b[31m!\x1b[0m \x1b[36m#l\"!->\x1b[0m  \x1b[1;32msUm\x1b[0m".toList ++
        "\x1b[33m\"#\"\x1b[0m\x1b[33m\"VAR !\"\x1b[0m\x1b[35m->\x1b[0m".toList ++
          "\x1b[34mcap\x1b[0m\x1b[33m\"SUM\"\x1b[0m  ".toList := by
  have accepted : read { strict := true } tangledLine = .ok tangledForm.statement := by decide +kernel
  exact ⟨accepted, (colors_follow_the_grammar accepted).2 (.spaces 1) (.spaces 2) tangledForm rfl⟩

end Coloring

end LineScript
