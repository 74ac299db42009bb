import LineScript.Proofs.Scanner.Steps
import LineScript.Scanner.Bookmark

namespace LineScript

open Text

/-- The bookmark of the place where a scanner stands. -/
def Scanner.mark (scanner : Scanner) : Bookmark := ⟨scanner.source, scanner.position⟩

namespace Bookmark

theorem consumed?_mark (scanner : Scanner) : scanner.mark.consumed? = some scanner.consumed :=
  congrArg (Option.map Prod.fst) (cutAt?_append scanner.consumed scanner.rest)

theorem rest?_mark (scanner : Scanner) : scanner.mark.rest? = some scanner.rest :=
  congrArg (Option.map Prod.snd) (cutAt?_append scanner.consumed scanner.rest)

theorem column?_mark (scanner : Scanner) : scanner.mark.column? = some scanner.column := by
  rw [column?, consumed?_mark]
  rfl

theorem advance_mark {scanner reached : Scanner} {token : Text}
    (advances : scanner.Advances token reached) :
    scanner.mark.advance (utf8Length token) = reached.mark := by
  rw [Scanner.mark, Scanner.mark, advances.source_eq, Scanner.position, Scanner.position,
    advances.consumed, utf8Length_append]
  rfl

end Bookmark

namespace Move

variable {scanner reached : Scanner} {mark middle : Bookmark}

theorem run_bind_of_ok {move : Move α} {next : α → Move β} {value : α}
    (ran : move.run.run mark = some (.ok value, middle)) :
    (move >>= next).run.run mark = (next value).run.run middle := by
  rw [ExceptT.run_bind, StateT.run_bind, ran]
  rfl

theorem run_bind_of_error {move : Move α} {next : α → Move β} {fault : Fault}
    (ran : move.run.run mark = some (.error fault, middle)) :
    (move >>= next).run.run mark = some (.error fault, middle) := by
  rw [ExceptT.run_bind, StateT.run_bind, ran]
  rfl

/-- From the place of any scanner, the move does what the scan does. -/
def Tracks (move : Move α) (scan : Scan α) : Prop :=
  ∀ scanner : Scanner,
    move.run.run scanner.mark = some ((scan.run scanner).1, (scan.run scanner).2.mark)

theorem tracks_pure (value : α) : Tracks (pure value) (pure value) := fun _ => rfl

theorem Tracks.bind {move : Move α} {scan : Scan α} {next : α → Move β} {later : α → Scan β}
    (first : Tracks move scan) (follows : ∀ value, Tracks (next value) (later value)) :
    Tracks (move >>= next) (scan >>= later) := by
  intro scanner
  have moved := first scanner
  rw [Scan.run_bind]
  cases ran : scan.run scanner with
  | mk result reached =>
      rw [ran] at moved
      cases result with
      | ok value => rw [run_bind_of_ok moved, follows value reached]
      | error fault => rw [run_bind_of_error moved]

theorem run_ask {question : Bookmark → Option α} {value : α}
    (answered : question mark = some value) :
    (ask question).run.run mark = some (.ok value, mark) := by
  have given : (get : Move Bookmark).run.run mark = some (.ok mark, mark) := rfl
  rw [ask, run_bind_of_ok given, answered]
  rfl

theorem tracks_rest : Tracks rest Scan.rest :=
  fun scanner => run_ask (Bookmark.rest?_mark scanner)

theorem tracks_column : Tracks column Scan.column :=
  fun scanner => run_ask (Bookmark.column?_mark scanner)

theorem tracks_fail (cause : Fault.Cause) : Tracks (fail cause : Move α) (Scan.fail cause) :=
  tracks_column.bind fun _ _ => rfl

theorem run_rest_bind (next : Text → Move α) :
    (rest >>= next).run.run scanner.mark = (next scanner.rest).run.run scanner.mark :=
  run_bind_of_ok (tracks_rest scanner)

theorem run_advance {token : Text} (advances : scanner.Advances token reached) :
    (advance (utf8Length token)).run.run scanner.mark = some (.ok (), reached.mark) := by
  rw [← Bookmark.advance_mark advances]
  rfl

theorem run_upTo (mark : Bookmark) (before after : Text) :
    (upTo (utf8Length before) (before ++ after)).run.run mark = some (.ok before, mark) := by
  rw [upTo, cutAt?_append]
  rfl

theorem tracks_blanks : Tracks blanks Scan.blanks := by
  intro scanner
  obtain ⟨lead, advances, stops⟩ := Scanner.skipBlanks_eq_iff.mp (Eq.refl scanner.skipBlanks)
  have size : utf8Length scanner.rest - utf8Length (trimStart scanner.rest) =
      utf8Length lead.text := by
    rw [advances.rest, trimStart_blanks_append lead stops, utf8Length_append, Nat.add_sub_cancel]
  rw [blanks, run_rest_bind, size]
  exact run_advance advances

theorem tracks_marker (mark : Char) : Tracks (marker mark) (Scan.marker mark) := by
  intro scanner
  have skipped : blanks.run.run scanner.mark = some (.ok (), scanner.skipBlanks.mark) :=
    tracks_blanks scanner
  rw [marker, run_bind_of_ok skipped, run_rest_bind]
  simp only [Scan.marker]
  generalize here : scanner.skipBlanks.rest = text
  cases text with
  | nil => rfl
  | cons character rest =>
      simp only [List.head?_cons, Option.some.injEq]
      split
      · rename_i same
        subst same
        have advances : scanner.skipBlanks.Advances [character] (scanner.skipBlanks.past _ rest) :=
          Scanner.advances_past here
        exact run_bind_of_ok (run_advance advances)
      · rfl

theorem tracks_label : Tracks label Scan.label := by
  intro scanner
  rw [label, run_rest_bind]
  split
  · rename_i after here
    have size : positionOrEnd isBlank after = utf8Length (after.takeWhile isSolid) :=
      positionOrEnd_eq isBlank after
    have whole := List.takeWhile_append_dropWhile (p := isSolid) (l := after)
    simp only [Scan.label, here, size, utf8Length_eq_zero_iff, List.isEmpty_iff]
    split
    · exact tracks_fail .missingLabel scanner
    · have cut := run_upTo scanner.mark (after.takeWhile isSolid) (after.dropWhile isSolid)
      rw [whole] at cut
      rw [run_bind_of_ok cut]
      split
      · have advances : scanner.Advances ('#' :: after.takeWhile isSolid)
            (scanner.past _ (after.dropWhile isSolid)) :=
          Scanner.advances_past (by rw [here, List.cons_append, whole])
        exact run_bind_of_ok (run_advance advances)
      · exact tracks_fail _ scanner
  · rename_i other
    rw [Scan.run_label_eq_ok_none_iff.mpr ⟨rfl, head?_ne_of_forall_ne_cons other⟩]
    rfl

theorem tracks_arrowHere : Tracks arrowHere Scan.arrowHere := by
  intro scanner
  rw [arrowHere, run_rest_bind]
  split
  · rename_i begins
    obtain ⟨rest, here⟩ := List.isPrefixOf_iff_prefix.mp begins
    have advances : scanner.Advances arrow (scanner.past arrow rest) :=
      Scanner.advances_past here.symm
    rw [Scan.run_arrowHere_eq_ok_some_iff.mpr ⟨rfl, advances⟩,
      run_bind_of_ok (run_advance advances), ← here]
    exact run_bind_of_ok (run_upTo _ arrow rest)
  · rename_i missing
    rw [Scan.run_arrowHere_eq_ok_none_iff.mpr
      ⟨rfl, fun begins => missing (List.isPrefixOf_iff_prefix.mpr begins)⟩]
    rfl

theorem tracks_wordHere : Tracks wordHere Scan.wordHere := by
  intro scanner
  have size : positionOrEnd (fun character => isBlank character || character == '"') scanner.rest =
      utf8Length (scanner.rest.takeWhile isWordCharacter) := by
    rw [positionOrEnd_eq]
    congr 2
    funext character
    simp [isWordCharacter, isSolid, bne]
  have whole : scanner.rest.takeWhile isWordCharacter ++ scanner.rest.dropWhile isWordCharacter =
      scanner.rest := List.takeWhile_append_dropWhile
  rw [wordHere, run_rest_bind, size]
  simp only [Scan.wordHere, utf8Length_eq_zero_iff]
  generalize scanner.rest.takeWhile isWordCharacter = word at whole ⊢
  generalize scanner.rest.dropWhile isWordCharacter = rest at whole ⊢
  cases word with
  | nil => rfl
  | cons character word =>
      have advances := Scanner.advances_past whole.symm
      rw [if_neg (List.cons_ne_nil character word), run_bind_of_ok (run_advance advances), ← whole]
      exact run_bind_of_ok (run_upTo _ _ rest)

theorem tracks_literalHere : Tracks literalHere Scan.literalHere := by
  intro scanner
  rw [literalHere, run_rest_bind]
  split
  · rename_i body here
    simp only [Scan.literalHere, here, positionOf?_eq_cut]
    cases found : cut '"' body with
    | none => exact tracks_fail .unterminatedLiteral scanner
    | some sides =>
        obtain ⟨content, rest⟩ := sides
        obtain ⟨rfl, _⟩ := cut_eq_some_iff.mp found
        have advances : scanner.Advances ('"' :: content ++ ['"']) (scanner.past _ rest) :=
          Scanner.advances_past (by simpa using here)
        have size : 2 * '"'.utf8Size + utf8Length content = utf8Length ('"' :: content ++ ['"']) := by
          simp [utf8Length]
          omega
        simp only [Option.map_some, size]
        rw [run_bind_of_ok (run_advance advances)]
        exact run_bind_of_ok (run_upTo _ content ('"' :: rest))
  · rename_i other
    rw [Scan.run_literalHere_eq_ok_none_iff.mpr ⟨rfl, head?_ne_of_forall_ne_cons other⟩]
    rfl

theorem tracks_token_or_fail (sort : Scan.Token) (required : Bool) :
    Tracks (token sort required) (Scan.token sort >>= fun found =>
      if required && found.isNone then Scan.fail sort.missing else pure found) := by
  have ending (found : Option Text) : Tracks
      (if required && found.isNone then fail sort.missing else pure found : Move (Option Text))
      (if required && found.isNone then Scan.fail sort.missing else pure found) := by
    split
    · exact tracks_fail sort.missing
    · exact tracks_pure found
  cases sort <;> rw [Scan.token, bind_assoc]
  case arrow => exact tracks_blanks.bind fun _ => tracks_arrowHere.bind ending
  case word => exact tracks_blanks.bind fun _ => tracks_wordHere.bind ending
  case literal => exact tracks_blanks.bind fun _ => tracks_literalHere.bind ending

theorem tracks_token (sort : Scan.Token) : Tracks (token sort false) (Scan.token sort) := by
  have tracks := tracks_token_or_fail sort false
  simp only [Bool.false_and, Bool.false_eq_true, if_false, bind_pure] at tracks
  exact tracks

theorem tracks_required (sort : Scan.Token) :
    Tracks (token sort true) (some <$> Scan.required sort) := by
  have same : (some <$> Scan.required sort : Scan (Option Text)) = Scan.token sort >>= fun found =>
      if true && found.isNone then Scan.fail sort.missing else pure found := by
    rw [Scan.required, map_bind]
    congr 1
    funext found
    cases found <;> rfl
  rw [same]
  exact tracks_token_or_fail sort true

theorem run_adapt {move : Move α} {result : Except Fault α} (rename : Fault → Fault)
    (ran : move.run.run mark = some (result, middle)) :
    (move.adapt rename).run.run mark = some (result.mapError rename, middle) := by
  change (Except.mapError rename <$> move.run).run mark = _
  rw [StateT.run_map, ran]
  rfl

theorem tracks_operand (field : Text) : Tracks (operand field) (Scan.operand field) := by
  intro scanner
  have moved := tracks_token_or_fail .literal true scanner
  rw [Scan.run_bind] at moved
  rw [Scan.operand, Scan.run_bind]
  cases ran : (Scan.token .literal).run scanner with
  | mk result reached =>
      rw [ran] at moved
      cases result with
      | error fault =>
          obtain ⟨_, rfl, _⟩ := Scan.run_token_literal_eq_error_iff.mp ran
          exact run_bind_of_error (run_adapt _ moved)
      | ok found =>
          cases found with
          | none => exact run_bind_of_error (run_adapt _ moved)
          | some text => exact run_bind_of_ok (run_adapt _ moved)

end Move

end LineScript
