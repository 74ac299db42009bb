import LineScript.Console.Coloring
import LineScript.Proofs.Text.Runs

namespace LineScript

open Text

namespace Terminal

/-- A character to show, or an escape sequence from its escape character to the `m` that ends it. -/
inductive Piece where
  | visible (character : Char)
  | sequence (code : Text)
  deriving DecidableEq, Repr

/-- A sequence that nothing ends reaches to the end of the text. -/
def pieces : Text → List Piece
  | [] => []
  | '\x1b' :: rest =>
      match _ : cut 'm' rest with
      | some (parameters, after) => .sequence ('\x1b' :: parameters ++ ['m']) :: pieces after
      | none => [.sequence ('\x1b' :: rest)]
  | character :: rest => .visible character :: pieces rest
termination_by text => text.length
decreasing_by
  · exact Nat.lt_succ_of_lt (length_lt_of_cut (by assumption))
  · simp

def Piece.visible? : Piece → Option Char
  | visible character => some character
  | sequence _ => none

def Piece.sequence? : Piece → Option Text
  | visible _ => none
  | sequence code => some code

def visible (text : Text) : Text := (pieces text).filterMap Piece.visible?

def sequences (text : Text) : List Text := (pieces text).filterMap Piece.sequence?

def IsCode (code : Text) : Prop := ∃ parameters, code = '\x1b' :: parameters ++ ['m'] ∧ 'm' ∉ parameters

variable {text rest code : Text}

theorem pieces_append (clean : '\x1b' ∉ text) (rest : Text) :
    pieces (text ++ rest) = text.map .visible ++ pieces rest := by
  induction text with
  | nil => rfl
  | cons character text induction =>
      simp only [List.mem_cons, not_or] at clean
      rw [List.cons_append, pieces, induction clean.2]
      · rfl
      · exact Ne.symm clean.1

theorem pieces_code_append (isCode : IsCode code) (rest : Text) :
    pieces (code ++ rest) = .sequence code :: pieces rest := by
  obtain ⟨parameters, rfl, unended⟩ := isCode
  have found : cut 'm' (parameters ++ 'm' :: rest) = some (parameters, rest) :=
    cut_append 'm' unended rest
  have split : '\x1b' :: parameters ++ ['m'] ++ rest = '\x1b' :: (parameters ++ 'm' :: rest) := by simp
  rw [split, pieces]
  split <;> simp_all

theorem visible_append (clean : '\x1b' ∉ text) (rest : Text) :
    visible (text ++ rest) = text ++ visible rest := by
  rw [visible, pieces_append clean, List.filterMap_append, List.filterMap_map]
  exact congrArg (· ++ visible rest) List.filterMap_some

theorem sequences_append (clean : '\x1b' ∉ text) (rest : Text) :
    sequences (text ++ rest) = sequences rest := by
  rw [sequences, pieces_append clean, List.filterMap_append, List.filterMap_map]
  exact congrArg (· ++ sequences rest) (List.filterMap_eq_nil_iff.mpr fun _ _ => rfl)

theorem visible_code_append (isCode : IsCode code) (rest : Text) : visible (code ++ rest) = visible rest := by
  rw [visible, pieces_code_append isCode]
  rfl

theorem sequences_code_append (isCode : IsCode code) (rest : Text) :
    sequences (code ++ rest) = code :: sequences rest := by
  rw [sequences, pieces_code_append isCode]
  rfl

end Terminal

namespace Coloring

open Terminal

variable {line rest restLine : Text} {span : Span}

/-- A code that sets a colour, then the code that resets it, and so on to the end. -/
inductive Alternates : List Text → Prop
  | nil : Alternates []
  | pair {later : List Text} (paint : Paint) (sets : paint.code ≠ reset) (goesOn : Alternates later) :
      Alternates (paint.code :: reset :: later)

/-- A terminal shows the line, with colours in it one after the other. -/
structure Shows (colored line : Text) : Prop where
  visible : visible colored = line
  alternates : Alternates (sequences colored)

theorem isCode_reset : IsCode reset := ⟨['[', '0'], rfl, by decide⟩

theorem Paint.isCode_code (paint : Paint) : IsCode paint.code := by
  cases paint with
  | comment => exact ⟨"[2;3".toList, rfl, by decide⟩
  | literal => exact ⟨"[33".toList, rfl, by decide⟩
  | disabled => exact ⟨"[31".toList, rfl, by decide⟩
  | label => exact ⟨"[36".toList, rfl, by decide⟩
  | arrow => exact ⟨"[35".toList, rfl, by decide⟩
  | operation => exact ⟨"[1;32".toList, rfl, by decide⟩
  | partition => exact ⟨"[34".toList, rfl, by decide⟩

theorem Paint.code_ne_reset (paint : Paint) : paint.code ≠ reset := by
  cases paint <;> decide

theorem shows_nil : Shows [] [] := by
  have none : pieces [] = [] := by rw [pieces]
  constructor
  · rw [Terminal.visible, none]
    rfl
  · rw [sequences, none]
    exact .nil

theorem Shows.append_left (shows : Shows rest restLine) (clean : '\x1b' ∉ line) :
    Shows (line ++ rest) (line ++ restLine) := by
  constructor
  · rw [visible_append clean, shows.visible]
  · rw [sequences_append clean]
    exact shows.alternates

/-- A span opens one colour at most, and closes it. -/
theorem Shows.span_append (shows : Shows rest restLine) (clean : '\x1b' ∉ span.text) :
    Shows (span.show ++ rest) (span.text ++ restLine) := by
  obtain ⟨paint, text⟩ := span
  cases paint with
  | none => exact shows.append_left clean
  | some paint =>
      have split : Span.show ⟨some paint, text⟩ ++ rest = paint.code ++ (text ++ (reset ++ rest)) := by
        simp only [Span.show, List.append_assoc]
      rw [split]
      constructor
      · rw [visible_code_append paint.isCode_code, visible_append clean, visible_code_append isCode_reset,
          shows.visible]
      · rw [sequences_code_append paint.isCode_code, sequences_append clean,
          sequences_code_append isCode_reset]
        exact .pair paint paint.code_ne_reset shows.alternates

theorem shows_flatMap {spans : List Span} (clean : '\x1b' ∉ spans.flatMap Span.text) :
    Shows (spans.flatMap Span.show) (spans.flatMap Span.text) := by
  induction spans with
  | nil => exact shows_nil
  | cons span spans induction =>
      rw [List.flatMap_cons, List.mem_append, not_or] at clean
      exact (induction clean.2).span_append clean.1

/-- Of a line without escape characters, well formed or not, colouring changes nothing but the colours. Each
that is set is reset before the next one and before the end. -/
theorem coloring_neither_alters_nor_bleeds (unescaped : '\x1b' ∉ line) :
    visible (color line) = line ∧ Alternates (sequences (color line)) := by
  have shows : Shows (color line) line := by
    simp only [color]
    split
    · have commented : Shows (Span.show ⟨some .comment, line⟩ ++ []) (line ++ []) :=
        shows_nil.span_append unescaped
      simpa using commented
    · split
      · simpa using shows_nil.append_left unescaped
      · have whole := flatMap_text_spans line
        rw [← whole] at unescaped
        have colored := shows_flatMap unescaped
        rwa [whole] at colored
  exact ⟨shows.visible, shows.alternates⟩

/-- A word, a label that runs into a literal, and a literal that is not closed. -/
def ragged : Text := "x\"\"VAR -#\"! \"->".toList

theorem coloring_neither_alters_nor_bleeds_ragged :
    '\x1b' ∉ ragged ∧ visible (color ragged) = ragged ∧ Alternates (sequences (color ragged)) := by
  have unescaped : '\x1b' ∉ ragged := by decide
  obtain ⟨unaltered, alternates⟩ := coloring_neither_alters_nor_bleeds unescaped
  exact ⟨unescaped, unaltered, alternates⟩

end Coloring

end LineScript
