import LineScript.Statement.Basic
import LineScript.Text.Utf8

/-!
Completing the word before a position in a line. Positions count bytes. The word is taken to begin
one byte after the last blank or quote before the position, so a blank of more than one byte leaves
no place for it to begin, and the completion fails.
-/

namespace LineScript

structure Completion where
  start : Nat
  candidates : List Text
  deriving DecidableEq, Repr

namespace Completion

/-- A position that lies inside a character, or beyond the line. -/
inductive Fault where
  | offBoundary (position : Nat)
  deriving DecidableEq, Repr

def keywords : List Text :=
  Operation.all.map Operation.name ++ Partition.all.map Partition.token ++
    [":vars".toList, ":caps".toList, ":fmt".toList, ":describe".toList, ":reset".toList,
      ":help".toList]

/-- The text before a position counted in bytes, if the position lies between two characters. -/
def before? : Nat → Text → Option Text
  | 0, _ => some []
  | _ + 1, [] => none
  | position + 1, character :: rest =>
      if character.utf8Size ≤ position + 1 then
        (before? (position + 1 - character.utf8Size) rest).map (character :: ·)
      else none

/-- The word at the end of a text, and the last character before it that ends words. -/
def lastWord (text : Text) : Text × Option Char :=
  let reversed := text.reverse
  ((reversed.takeWhile Text.isWordCharacter).reverse,
    (reversed.dropWhile Text.isWordCharacter).head?)

def ofWord (start : Nat) (word : Text) : Completion :=
  ⟨start, keywords.filter (Text.beginsWithLetters word)⟩

def complete (line : Text) (position : Nat) : Except Fault Completion :=
  match before? position line with
  | none => .error (.offBoundary position)
  | some before =>
      if before.count '"' % 2 = 1 then .ok ⟨position, []⟩
      else
        match lastWord before with
        | (word, none) => .ok (ofWord (position - Text.utf8Length word) word)
        | (word, some stop) =>
            let start := position - Text.utf8Length word
            if stop.utf8Size = 1 then .ok (ofWord start word)
            else .error (.offBoundary (start - stop.utf8Size + 1))

end Completion

end LineScript
