import LineScript.Proofs.Scanner.Bookmarks

namespace LineScript

open Text
open Statement

/-- What can be asked of a scanner. -/
inductive Scanner.Call where
  | blanks
  | marker (character : Char)
  | label
  | operand (field : Text)
  | token (sort : Scan.Token) (required : Bool)

namespace Scanner.Call

abbrev Answer : Call → Type
  | blanks => Unit
  | marker _ => Bool
  | label => Option Text
  | operand _ => Text
  | token _ _ => Option Text

def scan : (call : Call) → Scan call.Answer
  | blanks => Scan.blanks
  | marker character => Scan.marker character
  | label => Scan.label
  | operand field => Scan.operand field
  | token sort false => Scan.token sort
  | token sort true => some <$> Scan.required sort

def move : (call : Call) → Move call.Answer
  | blanks => Move.blanks
  | marker character => Move.marker character
  | label => Move.label
  | operand field => Move.operand field
  | token sort required => Move.token sort required

/-- The blanks that a call skips: all that are next, but none before a label. -/
def lead : Call → Text → Text
  | label, _ => []
  | _, rest => rest.takeWhile isBlank

/-- The token in an answer, with its delimiters; nothing if the answer is that none was found. -/
def written : (call : Call) → call.Answer → Text
  | blanks, _ => []
  | marker character, found => if found then [character] else []
  | label, found => found.elim [] ('#' :: ·)
  | operand _, content => writeLiteral content
  | token sort _, found => found.elim [] sort.written

def taken (call : Call) : Except Fault call.Answer → Text
  | .ok answer => call.written answer
  | .error _ => []

/-- What a call passes over in the rest of a source when it comes to an answer. -/
def passed (call : Call) (rest : Text) (answer : Except Fault call.Answer) : Text :=
  call.lead rest ++ call.taken answer

theorem tracks (call : Call) : Move.Tracks call.move call.scan := by
  cases call with
  | blanks => exact Move.tracks_blanks
  | marker character => exact Move.tracks_marker character
  | label => exact Move.tracks_label
  | operand field => exact Move.tracks_operand field
  | token sort required =>
      cases required with
      | false => exact Move.tracks_token sort
      | true => exact Move.tracks_required sort

variable {call : Call} {scanner reached : Scanner}

theorem advances_marker {mark : Char} {answer : Except Fault Bool}
    (ran : (Scan.marker mark).run scanner = (answer, reached)) :
    scanner.skipBlanks.Advances ((marker mark).taken answer) reached := by
  cases answer with
  | error fault => exact absurd ran Scan.run_marker_ne_error
  | ok found =>
      cases found with
      | false =>
          obtain ⟨rfl, _⟩ := Scan.run_marker_eq_ok_false_iff.mp ran
          exact .refl _
      | true => exact Scan.run_marker_eq_ok_true_iff_skipBlanks.mp ran

theorem advances_label {answer : Except Fault (Option Text)}
    (ran : Scan.label.run scanner = (answer, reached)) :
    scanner.Advances (label.taken answer) reached := by
  cases answer with
  | error fault =>
      obtain ⟨rfl, _⟩ := Scan.run_label_eq_error_iff.mp ran
      exact .refl _
  | ok found =>
      cases found with
      | none =>
          obtain ⟨rfl, _⟩ := Scan.run_label_eq_ok_none_iff.mp ran
          exact .refl _
      | some text =>
          obtain ⟨_, advances, _⟩ := Scan.run_label_eq_ok_some_iff.mp ran
          exact advances

theorem advances_token {sort : Scan.Token} {answer : Except Fault (Option Text)}
    (ran : (Scan.token sort).run scanner = (answer, reached)) :
    scanner.skipBlanks.Advances ((token sort false).taken answer) reached := by
  match answer with
  | .ok (some text) => exact Scan.advances_of_run_token ran
  | .ok none =>
      rw [Scan.skipBlanks_eq_of_run_token ran nofun]
      exact .refl _
  | .error fault =>
      rw [Scan.skipBlanks_eq_of_run_token ran nofun]
      exact .refl _

theorem advances_required {sort : Scan.Token} {answer : Except Fault Text}
    (ran : (Scan.required sort).run scanner = (answer, reached)) :
    scanner.skipBlanks.Advances ((token sort true).taken (answer.map some)) reached := by
  cases answer with
  | ok text => exact Scan.advances_of_run_token (Scan.run_required_eq_ok_iff.mp ran)
  | error fault =>
      obtain ⟨_, stepped, missing⟩ :=
        Scan.exists_run_of_bind_fail_eq_error (fun _ => rfl) rfl ran
      rw [Scan.skipBlanks_eq_of_run_token stepped missing]
      exact .refl _

theorem advances_operand {field : Text} {answer : Except Fault Text}
    (ran : (Scan.operand field).run scanner = (answer, reached)) :
    scanner.skipBlanks.Advances ((operand field).taken answer) reached := by
  cases answer with
  | ok content => exact Scan.advances_of_run_token (Scan.run_operand_eq_ok_iff.mp ran)
  | error fault =>
      obtain ⟨_, stepped, missing⟩ :=
        Scan.exists_run_of_bind_fail_eq_error (fun _ => rfl) rfl ran
      rw [Scan.skipBlanks_eq_of_run_token stepped missing]
      exact .refl _

/-- A call consumes the blanks it skips and the token in its answer, and nothing else. -/
theorem advances_run (call : Call) (scanner : Scanner) :
    scanner.Advances (call.passed scanner.rest (call.scan.run scanner).1)
      (call.scan.run scanner).2 := by
  have skipped := Scanner.advances_skipBlanks scanner
  cases call with
  | label => exact advances_label rfl
  | blanks => exact skipped.trans (.refl _)
  | marker character => exact skipped.trans (advances_marker rfl)
  | operand field => exact skipped.trans (advances_operand rfl)
  | token sort required =>
      cases required with
      | false => exact skipped.trans (advances_token rfl)
      | true =>
          rw [scan, Scan.run_map]
          exact skipped.trans (advances_required rfl)

end Scanner.Call

/-- The scanner after some calls, whatever it answered to them. -/
def Scanner.after (scanner : Scanner) (calls : List Scanner.Call) : Scanner :=
  calls.foldl (fun here call => (call.scan.run here).2) scanner

theorem Scanner.exists_advances_after (scanner : Scanner) (calls : List Scanner.Call) :
    ∃ token, scanner.Advances token (scanner.after calls) := by
  induction calls generalizing scanner with
  | nil => exact ⟨[], .refl scanner⟩
  | cons call later induction =>
      obtain ⟨token, advances⟩ := induction (call.scan.run scanner).2
      exact ⟨_, (call.advances_run scanner).trans advances⟩

namespace Bookmark

/-- The bookmark after some calls, unless one of them came to nothing. -/
def after? (mark : Bookmark) (calls : List Scanner.Call) : Option Bookmark :=
  calls.foldlM (fun here call => (call.move.run.run here).map Prod.snd) mark

theorem after?_mark (scanner : Scanner) (calls : List Scanner.Call) :
    scanner.mark.after? calls = some (scanner.after calls).mark := by
  induction calls generalizing scanner with
  | nil => rfl
  | cons call later induction =>
      rw [after?, List.foldlM_cons, call.tracks scanner]
      exact induction (call.scan.run scanner).2

/-- The bookmark stands in the source between two characters, or at an end, and tells what is there. -/
structure Divides (mark : Bookmark) (source consumed rest : Text) : Prop where
  source_eq : mark.source = source
  whole : source = consumed ++ rest
  position_eq : mark.position = utf8Length consumed
  inside : mark.position ≤ utf8Length source
  rest?_eq : mark.rest? = some rest
  column?_eq : mark.column? = some (consumed.length + 1)

theorem divides_mark {scanner : Scanner} {source : Text} (same : scanner.source = source) :
    scanner.mark.Divides source scanner.consumed scanner.rest where
  source_eq := same
  whole := same.symm
  position_eq := rfl
  inside := by
    rw [← same, Scanner.source, utf8Length_append]
    exact Nat.le_add_right _ _
  rest?_eq := rest?_mark scanner
  column?_eq := column?_mark scanner

end Bookmark

/-- Whatever it is asked, a bookmark stands where its source can be cut, and where a scanner stands that
is asked the same. The next call moves both forward, past the blanks that the call skips and the token
that it gives, and no further. -/
theorem scanning_moves_forward_only (source : Text) (calls : List Scanner.Call) :
    ∃ (mark : Bookmark) (consumed rest : Text),
      (Bookmark.start source).after? calls = some mark ∧
      (Scanner.start source).after calls = ⟨consumed, rest⟩ ∧
      mark.Divides source consumed rest ∧
      ∀ call : Scanner.Call, ∃ answer next later,
        call.move.run.run mark = some (answer, next) ∧
        call.scan.run ⟨consumed, rest⟩ = (answer, ⟨consumed ++ call.passed rest answer, later⟩) ∧
        next.Divides source (consumed ++ call.passed rest answer) later ∧
        mark.position ≤ next.position := by
  obtain ⟨_, begun⟩ := (Scanner.start source).exists_advances_after calls
  generalize reached : (Scanner.start source).after calls = here at begun
  have moved := Bookmark.after?_mark (Scanner.start source) calls
  rw [reached] at moved
  refine ⟨here.mark, here.consumed, here.rest, moved, rfl, Bookmark.divides_mark begun.source_eq, ?_⟩
  intro call
  have advances := call.advances_run here
  have divides := Bookmark.divides_mark (advances.source_eq.trans begun.source_eq)
  refine ⟨(call.scan.run here).1, (call.scan.run here).2.mark, (call.scan.run here).2.rest,
    call.tracks here, Prod.ext rfl advances.eq_past, ?_, ?_⟩
  · rw [← advances.consumed]
    exact divides
  · rw [divides.position_eq, advances.consumed, utf8Length_append]
    exact Nat.le_add_right _ _

/-- A literal behind a blank of three bytes, no marker, a word of three bytes, and no second literal. -/
example :
    (Bookmark.start "\u3000\"é\"→\u00a0#x".toList).after?
      [.operand "First".toList, .marker '!', .token .word true, .token .literal false] =
        some ⟨"\u3000\"é\"→\u00a0#x".toList, 12⟩ := by
  decide

end LineScript
