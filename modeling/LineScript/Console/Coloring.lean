import LineScript.Statement.Basic
import LineScript.Text.Alphabetic

namespace LineScript.Coloring

inductive Paint where
  | comment
  | literal
  | disabled
  | label
  | arrow
  | operation
  | partition
  deriving DecidableEq, Repr

def Paint.code : Paint → Text
  | comment => "\x1b[2;3m".toList
  | literal => "\x1b[33m".toList
  | disabled => "\x1b[31m".toList
  | label => "\x1b[36m".toList
  | arrow => "\x1b[35m".toList
  | operation => "\x1b[1;32m".toList
  | partition => "\x1b[34m".toList

def reset : Text := "\x1b[0m".toList

structure Span where
  paint : Option Paint
  text : Text
  deriving DecidableEq, Repr

def Span.show (span : Span) : Text :=
  match span.paint with
  | some paint => paint.code ++ span.text ++ reset
  | none => span.text

def wordPaint (word : Text) : Option Paint :=
  if (Operation.ofName? word).isSome then some .operation
  else if (Partition.ofToken? word).isSome then some .partition
  else none

/-- The literal that `body` continues after its opening quote, and the rest of the line. A literal
that is not closed reaches to the end. -/
def literalSpan (body : Text) : Span × Text :=
  match Text.cut '"' body with
  | some (content, rest) => (⟨some .literal, '"' :: content ++ ['"']⟩, rest)
  | none => (⟨some .literal, '"' :: body⟩, [])

theorem length_literalSpan_le (body : Text) : (literalSpan body).2.length ≤ body.length := by
  unfold literalSpan
  split
  · rename_i found
    exact Nat.le_of_lt (Text.length_lt_of_cut found)
  · exact Nat.zero_le _

theorem length_dropWhile_le (test : Char → Bool) (text : Text) :
    (text.dropWhile test).length ≤ text.length :=
  (List.dropWhile_sublist test).length_le

def spans : Text → List Span
  | [] => []
  | '"' :: body => (literalSpan body).1 :: spans (literalSpan body).2
  | '!' :: rest => ⟨some .disabled, ['!']⟩ :: spans rest
  | '#' :: rest =>
      ⟨some .label, '#' :: rest.takeWhile Text.isSolid⟩ :: spans (rest.dropWhile Text.isSolid)
  | '-' :: '>' :: rest => ⟨some .arrow, ['-', '>']⟩ :: spans rest
  | character :: rest =>
      if Text.isAlphabetic character then
        let word := character :: rest.takeWhile Text.isWordCharacter
        ⟨wordPaint word, word⟩ :: spans (rest.dropWhile Text.isWordCharacter)
      else ⟨none, [character]⟩ :: spans rest
termination_by line => line.length
decreasing_by
  · exact Nat.lt_succ_of_le (length_literalSpan_le body)
  · simp
  · exact Nat.lt_succ_of_le (length_dropWhile_le _ rest)
  · simp only [List.length_cons]
    omega
  · exact Nat.lt_succ_of_le (length_dropWhile_le _ rest)
  · simp

theorem literalSpan_text (body : Text) :
    (literalSpan body).1.text ++ (literalSpan body).2 = '"' :: body := by
  unfold literalSpan
  split
  · rename_i found
    obtain ⟨rfl, _⟩ := Text.cut_eq_some_iff.mp found
    simp
  · simp

theorem flatMap_text_spans (line : Text) : (spans line).flatMap Span.text = line := by
  fun_induction spans line with
  | case1 => rfl
  | case2 body induction => rw [List.flatMap_cons, induction, literalSpan_text]
  | case3 rest induction => simp [induction]
  | case4 rest induction => simp [induction, List.takeWhile_append_dropWhile]
  | case5 rest induction => simp [induction]
  | case6 character rest _ _ _ _ _ word induction =>
      simp [word, induction, List.takeWhile_append_dropWhile]
  | case7 character rest _ _ _ _ _ induction => simp [induction]

/-- The line as it is shown. Comments have one colour, and commands to the console none. -/
def color (line : Text) : Text :=
  let body := Text.trimStart line
  if "##".toList.isPrefixOf body then Span.show ⟨some .comment, line⟩
  else if ":".toList.isPrefixOf body then line
  else (spans line).flatMap Span.show

def colorPrompt (isDefault : Bool) (prompt : Text) : Text :=
  if isDefault then "\x1b[1;32m".toList ++ prompt ++ reset else prompt

def colorHint (hint : Text) : Text := "\x1b[2m".toList ++ hint ++ reset

end LineScript.Coloring
