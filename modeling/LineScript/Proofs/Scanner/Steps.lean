import LineScript.Proofs.Text.Runs
import LineScript.Scanner
import LineScript.Statement.Writing

namespace LineScript

open Text
open Statement

structure Scanner.Advances (scanner : Scanner) (token : Text) (reached : Scanner) : Prop where
  rest : scanner.rest = token ++ reached.rest
  consumed : reached.consumed = scanner.consumed ++ token

namespace Scanner

variable {scanner middle reached : Scanner} {token later : Text}

theorem advances_past {rest : Text} (split : scanner.rest = token ++ rest) :
    scanner.Advances token (scanner.past token rest) :=
  ⟨split, rfl⟩

theorem exists_advances {rest : Text} (split : scanner.rest = token ++ rest) :
    ∃ reached, scanner.Advances token reached ∧ reached.rest = rest :=
  ⟨_, advances_past split, rfl⟩

theorem Advances.eq_past (advances : scanner.Advances token reached) :
    reached = scanner.past token reached.rest := by
  obtain ⟨consumed, rest⟩ := reached
  simpa [past] using advances.consumed

theorem Advances.refl (scanner : Scanner) : scanner.Advances [] scanner :=
  ⟨rfl, (List.append_nil _).symm⟩

theorem Advances.trans (first : scanner.Advances token middle)
    (second : middle.Advances later reached) : scanner.Advances (token ++ later) reached := by
  constructor
  · rw [first.rest, second.rest, List.append_assoc]
  · rw [second.consumed, first.consumed, List.append_assoc]

theorem Advances.source_eq (advances : scanner.Advances token reached) :
    reached.source = scanner.source := by
  rw [source, source, advances.consumed, advances.rest, List.append_assoc]

theorem Advances.exists_middle (advances : scanner.Advances (token ++ later) reached) :
    ∃ middle, scanner.Advances token middle ∧ middle.Advances later reached := by
  refine ⟨scanner.past token (later ++ reached.rest), advances_past ?_, rfl, ?_⟩
  · rw [advances.rest, List.append_assoc]
  · rw [advances.consumed, past, List.append_assoc]

theorem advances_skipBlanks (scanner : Scanner) :
    scanner.Advances (scanner.rest.takeWhile isBlank) scanner.skipBlanks :=
  advances_past List.takeWhile_append_dropWhile.symm

theorem skipBlanks_eq_iff :
    scanner.skipBlanks = reached ↔
      ∃ blanks : Blanks, scanner.Advances blanks.text reached ∧ Stops isBlank reached.rest := by
  constructor
  · intro same
    subst same
    exact ⟨⟨_, fun _ member => List.mem_takeWhile_imp member⟩, advances_skipBlanks scanner,
      stops_dropWhile isBlank scanner.rest⟩
  · intro given
    obtain ⟨blanks, advances, stops⟩ := given
    obtain ⟨taken, dropped⟩ := takeWhile_dropWhile_eq_iff.mpr
      ⟨advances.rest, blanks.blank, stops⟩
    rw [skipBlanks, taken, dropped]
    exact advances.eq_past.symm

@[simp] theorem source_skipBlanks : scanner.skipBlanks.source = scanner.source := by
  obtain ⟨blanks, advances, _⟩ := skipBlanks_eq_iff.mp (Eq.refl scanner.skipBlanks)
  exact advances.source_eq

theorem stops_skipBlanks : Stops isBlank scanner.skipBlanks.rest :=
  stops_dropWhile isBlank scanner.rest

theorem skipBlanks_eq_self (stops : Stops isBlank scanner.rest) : scanner.skipBlanks = scanner :=
  skipBlanks_eq_iff.mpr ⟨Blanks.none, .refl scanner, stops⟩

/-- A token that begins with no blank is reached over any blanks before it. -/
theorem advances_skipBlanks_iff (stops : Stops isBlank (token ++ reached.rest)) :
    scanner.skipBlanks.Advances token reached ↔
      ∃ blanks : Blanks, scanner.Advances (blanks.text ++ token) reached := by
  constructor
  · intro advances
    obtain ⟨blanks, skipped, _⟩ := skipBlanks_eq_iff.mp (Eq.refl scanner.skipBlanks)
    exact ⟨blanks, skipped.trans advances⟩
  · intro given
    obtain ⟨blanks, advances⟩ := given
    obtain ⟨middle, skipped, taken⟩ := advances.exists_middle
    rw [← taken.rest] at stops
    rw [skipBlanks_eq_iff.mpr ⟨blanks, skipped, stops⟩]
    exact taken

end Scanner

namespace Scan

variable {scanner reached : Scanner}

theorem run_bind_eq_ok_iff {step : Scan α} {next : α → Scan β} {value : β} :
    (step >>= next).run scanner = (.ok value, reached) ↔
      ∃ first middle, step.run scanner = (.ok first, middle) ∧
        (next first).run middle = (.ok value, reached) := by
  constructor
  · intro ran
    rw [run_bind] at ran
    cases stepped : step.run scanner with
    | mk result middle =>
        cases result with
        | ok first => exact ⟨first, middle, rfl, by simpa [stepped] using ran⟩
        | error fault => simp [stepped] at ran
  · intro given
    obtain ⟨first, middle, stepped, ran⟩ := given
    rw [run_bind_of_ok stepped, ran]

theorem run_bind_eq_error_iff {step : Scan α} {next : α → Scan β} {fault : Fault} :
    (step >>= next).run scanner = (.error fault, reached) ↔
      step.run scanner = (.error fault, reached) ∨
        ∃ first middle, step.run scanner = (.ok first, middle) ∧
          (next first).run middle = (.error fault, reached) := by
  rw [run_bind]
  cases stepped : step.run scanner with
  | mk result middle =>
      cases result with
      | error other => simp
      | ok first =>
          constructor
          · intro ran
            exact .inr ⟨first, middle, rfl, ran⟩
          · rintro (failed | ⟨_, _, same, ran⟩)
            · simp at failed
            · simp only [Prod.mk.injEq, Except.ok.injEq] at same
              obtain ⟨rfl, rfl⟩ := same
              exact ran

theorem run_map (transform : α → β) (scan : Scan α) (scanner : Scanner) :
    (transform <$> scan).run scanner =
      ((scan.run scanner).1.map transform, (scan.run scanner).2) := by
  change (scan >>= fun value => pure (transform value)).run scanner = _
  rw [run_bind]
  cases scan.run scanner with
  | mk result reached => cases result <;> rfl

@[simp] theorem run_blanks_bind (next : Unit → Scan α) :
    (blanks >>= next).run scanner = (next ()).run scanner.skipBlanks := rfl

@[simp] theorem run_column_bind (next : Nat → Scan α) :
    (column >>= next).run scanner = (next scanner.column).run scanner := rfl

@[simp] theorem run_rest_bind (next : Text → Scan α) :
    (rest >>= next).run scanner = (next scanner.rest).run scanner := rfl

@[simp] theorem run_atEnd_bind (next : Bool → Scan α) :
    (atEnd >>= next).run scanner = (next scanner.atEnd).run scanner := rfl

@[simp] theorem run_failAt_ne_ok (column : Nat) (cause : Fault.Cause) (value : α) :
    (failAt column cause).run scanner ≠ (.ok value, reached) := by
  simp [failAt]

@[simp] theorem run_fail_ne_ok (cause : Fault.Cause) (value : α) :
    (fail cause).run scanner ≠ (.ok value, reached) := by
  simp [fail]

theorem run_marker_eq_ok_true_iff_skipBlanks {mark : Char} :
    (marker mark).run scanner = (.ok true, reached) ↔ scanner.skipBlanks.Advances [mark] reached := by
  simp only [marker]
  constructor
  · intro ran
    split at ran
    · simp at ran
    · rename_i character rest here
      split at ran
      · rename_i same
        simp only [Prod.mk.injEq, true_and] at ran
        subst same
        subst ran
        exact Scanner.advances_past here
      · simp at ran
  · intro advances
    have here : scanner.skipBlanks.rest = mark :: reached.rest := advances.rest
    rw [here]
    simp [← advances.eq_past]

theorem run_marker_eq_ok_true_iff {mark : Char} (solid : isBlank mark = false) :
    (marker mark).run scanner = (.ok true, reached) ↔
      ∃ blanks : Blanks, scanner.Advances (blanks.text ++ [mark]) reached := by
  rw [run_marker_eq_ok_true_iff_skipBlanks, Scanner.advances_skipBlanks_iff (stops_cons.mpr solid)]

theorem run_marker_eq_ok_false_iff {mark : Char} :
    (marker mark).run scanner = (.ok false, reached) ↔
      scanner.skipBlanks = reached ∧ reached.rest.head? ≠ some mark := by
  simp only [marker]
  split
  · rename_i here
    simp only [Prod.mk.injEq, true_and, iff_self_and]
    intro same
    subst same
    simp [here]
  · rename_i character rest here
    split
    · rename_i same
      subst same
      simp only [Prod.mk.injEq, Except.ok.injEq, Bool.true_eq_false, false_and, false_iff, not_and,
        not_not]
      intro same
      subst same
      simp [here]
    · rename_i other
      simp only [Prod.mk.injEq, true_and, iff_self_and]
      intro same
      subst same
      simp [here, other]

theorem run_marker_ne_error {mark : Char} {fault : Fault} :
    (marker mark).run scanner ≠ (.error fault, reached) := by
  simp only [marker]
  split
  · simp
  · split <;> simp

theorem run_label_eq_ok_some_iff {text : Text} :
    label.run scanner = (.ok (some text), reached) ↔
      isLabel text = true ∧ scanner.Advances ('#' :: text) reached ∧
        Stops isSolid reached.rest := by
  simp only [label]
  constructor
  · intro ran
    split at ran
    · rename_i rest here
      split at ran
      · simp at ran
      · split at ran
        · rename_i valid
          simp only [Prod.mk.injEq, Except.ok.injEq, Option.some.injEq] at ran
          obtain ⟨rfl, rfl⟩ := ran
          refine ⟨valid, Scanner.advances_past ?_, stops_dropWhile isSolid rest⟩
          rw [here, List.cons_append, List.takeWhile_append_dropWhile]
        · simp at ran
    · simp at ran
  · intro given
    obtain ⟨valid, advances, stops⟩ := given
    obtain ⟨nonempty, _, unblank⟩ := isLabel_iff.mp valid
    have solid : ∀ character ∈ text, isSolid character = true := by
      intro character member
      simp [isSolid, unblank character member]
    obtain ⟨taken, dropped⟩ := takeWhile_dropWhile_eq_iff.mpr ⟨rfl, solid, stops⟩
    have here : scanner.rest = '#' :: (text ++ reached.rest) := advances.rest
    rw [here]
    simp [taken, dropped, nonempty, valid, ← advances.eq_past]

theorem run_label_eq_ok_none_iff :
    label.run scanner = (.ok none, reached) ↔
      scanner = reached ∧ scanner.rest.head? ≠ some '#' := by
  simp only [label]
  split
  · rename_i rest here
    split
    · simp [here]
    · split <;> simp [here]
  · rename_i other
    simp only [Prod.mk.injEq, true_and, iff_self_and]
    exact fun _ => head?_ne_of_forall_ne_cons other

theorem isLabel_takeWhile_isSolid_iff {text : Text} :
    isLabel (text.takeWhile isSolid) = true ↔
      text.takeWhile isSolid ≠ [] ∧ (text.takeWhile isSolid).head? ≠ some '#' := by
  rw [isLabel_iff]
  refine and_congr_right fun _ => and_iff_left ?_
  intro character member
  simpa [isSolid] using List.mem_takeWhile_imp member

theorem run_label_eq_error_iff {fault : Fault} :
    label.run scanner = (.error fault, reached) ↔
      scanner = reached ∧ ∃ rest, scanner.rest = '#' :: rest ∧
        (Stops isSolid rest ∧ fault = ⟨.missingLabel, scanner.column⟩ ∨
          (rest.takeWhile isSolid).head? = some '#' ∧
            fault = ⟨.invalidLabel (rest.takeWhile isSolid), scanner.column⟩) := by
  simp only [label, ← takeWhile_eq_nil_iff]
  split
  · rename_i rest here
    simp only [here, List.cons.injEq, true_and, exists_eq_left']
    split
    · rename_i empty
      simp [List.isEmpty_iff.mp empty, and_comm, eq_comm]
    · rename_i nonempty
      have nonempty : rest.takeWhile isSolid ≠ [] := by simpa using nonempty
      split
      · rename_i valid
        simp [(isLabel_takeWhile_isSolid_iff.mp valid).2, nonempty]
      · rename_i invalid
        have marked : (rest.takeWhile isSolid).head? = some '#' := by
          apply Decidable.of_not_not
          intro unmarked
          exact invalid (isLabel_takeWhile_isSolid_iff.mpr ⟨nonempty, unmarked⟩)
        simp [marked, nonempty, and_comm, eq_comm]
  · rename_i other
    simp only [Prod.mk.injEq, reduceCtorEq, false_and, false_iff, not_and, not_exists]
    intro _ rest here
    exact absurd here (other rest)

theorem run_arrowHere_eq_ok_some_iff {text : Text} :
    arrowHere.run scanner = (.ok (some text), reached) ↔
      text = ['-', '>'] ∧ scanner.Advances text reached := by
  simp only [arrowHere]
  constructor
  · intro ran
    split at ran
    · rename_i rest here
      simp only [Prod.mk.injEq, Except.ok.injEq, Option.some.injEq] at ran
      obtain ⟨rfl, rfl⟩ := ran
      exact ⟨rfl, Scanner.advances_past here⟩
    · simp at ran
  · intro given
    obtain ⟨rfl, advances⟩ := given
    have here : scanner.rest = '-' :: '>' :: reached.rest := advances.rest
    rw [here]
    simp [← advances.eq_past]

theorem run_arrowHere_eq_ok_none_iff :
    arrowHere.run scanner = (.ok none, reached) ↔
      scanner = reached ∧ ¬ ['-', '>'] <+: scanner.rest := by
  simp only [arrowHere]
  split
  · rename_i rest here
    simp [here]
  · rename_i other
    simp only [Prod.mk.injEq, true_and, iff_self_and]
    intro _ begins
    obtain ⟨rest, here⟩ := begins
    exact other rest here.symm

theorem run_wordHere_eq_ok_some_iff {word : Text} :
    wordHere.run scanner = (.ok (some word), reached) ↔
      word ≠ [] ∧ (∀ character ∈ word, isWordCharacter character = true) ∧
        scanner.Advances word reached ∧ Stops isWordCharacter reached.rest := by
  simp only [wordHere]
  constructor
  · intro ran
    split at ran
    · simp at ran
    · rename_i taken nonempty
      simp only [Prod.mk.injEq, Except.ok.injEq, Option.some.injEq] at ran
      obtain ⟨rfl, rfl⟩ := ran
      refine ⟨nonempty, fun _ member => List.mem_takeWhile_imp member,
        Scanner.advances_past List.takeWhile_append_dropWhile.symm, ?_⟩
      exact stops_dropWhile isWordCharacter scanner.rest
  · intro given
    obtain ⟨nonempty, inside, advances, stops⟩ := given
    obtain ⟨taken, dropped⟩ := takeWhile_dropWhile_eq_iff.mpr ⟨advances.rest, inside, stops⟩
    rw [taken, dropped]
    split
    · exact absurd rfl nonempty
    · rw [← advances.eq_past]

theorem run_wordHere_eq_ok_none_iff :
    wordHere.run scanner = (.ok none, reached) ↔
      scanner = reached ∧ Stops isWordCharacter scanner.rest := by
  simp only [wordHere, ← takeWhile_eq_nil_iff]
  split
  · rename_i taken
    simp [taken]
  · rename_i nonempty
    simp only [Prod.mk.injEq, Except.ok.injEq, reduceCtorEq, false_and, false_iff, not_and]
    exact fun _ => nonempty

theorem run_literalHere_eq_ok_some_iff {content : Text} :
    literalHere.run scanner = (.ok (some content), reached) ↔
      '"' ∉ content ∧ scanner.Advances (writeLiteral content) reached := by
  simp only [literalHere]
  constructor
  · intro ran
    split at ran
    · rename_i body here
      split at ran
      · rename_i inner rest found
        simp only [Prod.mk.injEq, Except.ok.injEq, Option.some.injEq] at ran
        obtain ⟨rfl, rfl⟩ := ran
        obtain ⟨rfl, clean⟩ := cut_eq_some_iff.mp found
        refine ⟨clean, Scanner.advances_past ?_⟩
        simpa [writeLiteral] using here
      · simp at ran
    · simp at ran
  · intro given
    obtain ⟨clean, advances⟩ := given
    have here : scanner.rest = '"' :: (content ++ '"' :: reached.rest) := by
      simpa [writeLiteral] using advances.rest
    rw [here]
    simp only [cut_append '"' clean, Prod.mk.injEq, true_and]
    exact advances.eq_past.symm

theorem run_literalHere_eq_ok_none_iff :
    literalHere.run scanner = (.ok none, reached) ↔
      scanner = reached ∧ scanner.rest.head? ≠ some '"' := by
  simp only [literalHere]
  split
  · rename_i body here
    split <;> simp [here]
  · rename_i other
    simp only [Prod.mk.injEq, true_and, iff_self_and]
    exact fun _ => head?_ne_of_forall_ne_cons other

theorem run_literalHere_eq_error_iff {fault : Fault} :
    literalHere.run scanner = (.error fault, reached) ↔
      scanner = reached ∧ fault = ⟨.unterminatedLiteral, scanner.column⟩ ∧
        ∃ body, scanner.rest = '"' :: body ∧ '"' ∉ body := by
  simp only [literalHere]
  split
  · rename_i body here
    split
    · rename_i content rest found
      obtain ⟨rfl, _⟩ := cut_eq_some_iff.mp found
      simp [here]
    · rename_i unclosed
      simp [here, cut_eq_none_iff.mp unclosed, eq_comm, and_comm]
  · rename_i other
    simp only [Prod.mk.injEq, reduceCtorEq, false_and, false_iff, not_and, not_exists]
    intro _ _ body here
    exact absurd here (other body)

theorem run_token_arrow_eq_ok_some_iff {text : Text} :
    (token .arrow).run scanner = (.ok (some text), reached) ↔
      text = ['-', '>'] ∧ ∃ blanks : Blanks, scanner.Advances (blanks.text ++ text) reached := by
  change arrowHere.run scanner.skipBlanks = _ ↔ _
  rw [run_arrowHere_eq_ok_some_iff, and_congr_right_iff]
  intro same
  subst same
  exact Scanner.advances_skipBlanks_iff (stops_cons.mpr rfl)

theorem run_token_arrow_eq_ok_none_iff :
    (token .arrow).run scanner = (.ok none, reached) ↔
      scanner.skipBlanks = reached ∧ ¬ ['-', '>'] <+: reached.rest := by
  change arrowHere.run scanner.skipBlanks = _ ↔ _
  rw [run_arrowHere_eq_ok_none_iff, and_congr_right_iff]
  intro same
  subst same
  rfl

theorem run_token_arrow_ne_error {fault : Fault} :
    (token .arrow).run scanner ≠ (.error fault, reached) := by
  change arrowHere.run scanner.skipBlanks ≠ _
  simp only [arrowHere]
  split <;> simp

theorem stops_isBlank_of_word {word : Text} (rest : Text) (nonempty : word ≠ [])
    (inside : ∀ character ∈ word, isWordCharacter character = true) :
    Stops isBlank (word ++ rest) := by
  cases word with
  | nil => exact absurd rfl nonempty
  | cons character word =>
      have first := inside character List.mem_cons_self
      simp only [isWordCharacter, isSolid, Bool.and_eq_true, Bool.not_eq_true'] at first
      exact stops_cons.mpr first.1

theorem run_token_word_eq_ok_some_iff {word : Text} :
    (token .word).run scanner = (.ok (some word), reached) ↔
      word ≠ [] ∧ (∀ character ∈ word, isWordCharacter character = true) ∧
        (∃ blanks : Blanks, scanner.Advances (blanks.text ++ word) reached) ∧
          Stops isWordCharacter reached.rest := by
  change wordHere.run scanner.skipBlanks = _ ↔ _
  rw [run_wordHere_eq_ok_some_iff]
  refine and_congr_right fun nonempty => and_congr_right fun inside => ?_
  rw [Scanner.advances_skipBlanks_iff (stops_isBlank_of_word reached.rest nonempty inside)]

theorem run_token_word_eq_ok_none_iff :
    (token .word).run scanner = (.ok none, reached) ↔
      scanner.skipBlanks = reached ∧ Stops isWordCharacter reached.rest := by
  change wordHere.run scanner.skipBlanks = _ ↔ _
  rw [run_wordHere_eq_ok_none_iff, and_congr_right_iff]
  intro same
  rw [same]

theorem run_token_word_ne_error {fault : Fault} :
    (token .word).run scanner ≠ (.error fault, reached) := by
  change wordHere.run scanner.skipBlanks ≠ _
  simp only [wordHere]
  split <;> simp

theorem run_token_literal_eq_ok_some_iff {content : Text} :
    (token .literal).run scanner = (.ok (some content), reached) ↔
      '"' ∉ content ∧
        ∃ blanks : Blanks, scanner.Advances (blanks.text ++ writeLiteral content) reached := by
  have stops : Stops isBlank (writeLiteral content ++ reached.rest) := stops_cons.mpr rfl
  change literalHere.run scanner.skipBlanks = _ ↔ _
  rw [run_literalHere_eq_ok_some_iff, Scanner.advances_skipBlanks_iff stops]

theorem run_token_literal_eq_ok_none_iff :
    (token .literal).run scanner = (.ok none, reached) ↔
      scanner.skipBlanks = reached ∧ reached.rest.head? ≠ some '"' := by
  change literalHere.run scanner.skipBlanks = _ ↔ _
  rw [run_literalHere_eq_ok_none_iff, and_congr_right_iff]
  intro same
  rw [same]

theorem run_token_literal_eq_error_iff {fault : Fault} :
    (token .literal).run scanner = (.error fault, reached) ↔
      scanner.skipBlanks = reached ∧ fault = ⟨.unterminatedLiteral, reached.column⟩ ∧
        ∃ body, reached.rest = '"' :: body ∧ '"' ∉ body := by
  change literalHere.run scanner.skipBlanks = _ ↔ _
  rw [run_literalHere_eq_error_iff, and_congr_right_iff]
  intro same
  rw [same]

/-- A token as it stands in a text; a literal stands between its quotes. -/
def Token.written : Token → Text → Text
  | literal, content => writeLiteral content
  | _, text => text

theorem advances_of_run_token {sort : Token} {text : Text}
    (ran : (token sort).run scanner = (.ok (some text), reached)) :
    scanner.skipBlanks.Advances (sort.written text) reached := by
  cases sort with
  | arrow => exact (run_arrowHere_eq_ok_some_iff.mp ran).2
  | word => exact (run_wordHere_eq_ok_some_iff.mp ran).2.2.1
  | literal => exact (run_literalHere_eq_ok_some_iff.mp ran).2

theorem skipBlanks_eq_of_run_token {sort : Token} {answer : Except Fault (Option Text)}
    (ran : (token sort).run scanner = (answer, reached))
    (missing : ∀ text, answer ≠ .ok (some text)) : scanner.skipBlanks = reached := by
  match sort, answer with
  | _, .ok (some text) => exact absurd rfl (missing text)
  | .arrow, .ok none => exact (run_token_arrow_eq_ok_none_iff.mp ran).1
  | .word, .ok none => exact (run_token_word_eq_ok_none_iff.mp ran).1
  | .literal, .ok none => exact (run_token_literal_eq_ok_none_iff.mp ran).1
  | .arrow, .error _ => exact absurd ran run_token_arrow_ne_error
  | .word, .error _ => exact absurd ran run_token_word_ne_error
  | .literal, .error _ => exact (run_token_literal_eq_error_iff.mp ran).1

theorem run_bind_fail_eq_ok_iff {step : Scan (Option α)} {next : Option α → Scan α}
    {cause : Fault.Cause} {value : α} (found : ∀ value, next (some value) = pure value)
    (missing : next none = fail cause) :
    (step >>= next).run scanner = (.ok value, reached) ↔
      step.run scanner = (.ok (some value), reached) := by
  rw [run_bind_eq_ok_iff]
  constructor
  · intro given
    obtain ⟨first, middle, ran, returned⟩ := given
    cases first with
    | none =>
        rw [missing] at returned
        exact absurd returned (run_fail_ne_ok cause value)
    | some first =>
        rw [found, run_pure, Prod.mk.injEq, Except.ok.injEq] at returned
        obtain ⟨rfl, rfl⟩ := returned
        exact ran
  · intro ran
    exact ⟨some value, reached, ran, by rw [found, run_pure]⟩

theorem exists_run_of_bind_fail_eq_error {step : Scan (Option α)} {next : Option α → Scan α}
    {cause : Fault.Cause} {fault : Fault} (found : ∀ value, next (some value) = pure value)
    (missing : next none = fail cause)
    (failed : (step >>= next).run scanner = (.error fault, reached)) :
    ∃ answer, step.run scanner = (answer, reached) ∧ ∀ value, answer ≠ .ok (some value) := by
  rcases run_bind_eq_error_iff.mp failed with stepped | ⟨first, middle, stepped, failed⟩
  · exact ⟨_, stepped, nofun⟩
  · cases first with
    | some value =>
        rw [found] at failed
        simp at failed
    | none =>
        rw [missing] at failed
        obtain rfl : middle = reached := congrArg Prod.snd failed
        exact ⟨_, stepped, nofun⟩

theorem run_required_eq_ok_iff {sort : Token} {text : Text} :
    (required sort).run scanner = (.ok text, reached) ↔
      (token sort).run scanner = (.ok (some text), reached) :=
  run_bind_fail_eq_ok_iff (fun _ => rfl) rfl

theorem run_operand_eq_ok_iff {field content : Text} :
    (operand field).run scanner = (.ok content, reached) ↔
      (token .literal).run scanner = (.ok (some content), reached) :=
  run_bind_fail_eq_ok_iff (fun _ => rfl) rfl

theorem ext_run {scan other : Scan α} (same : ∀ scanner, scan.run scanner = other.run scanner) :
    scan = other := by
  cases scan
  cases other
  exact congrArg Scan.mk (funext same)

theorem bind_pure_eq_self (step : Scan α) : step >>= pure = step := by
  apply ext_run
  intro scanner
  rw [run_bind]
  cases step.run scanner with
  | mk result reached => cases result <;> rfl

theorem bind_bind_eq (step : Scan α) (next : α → Scan β) (last : β → Scan γ) :
    step >>= next >>= last = step >>= fun value => next value >>= last := by
  apply ext_run
  intro scanner
  simp only [run_bind]
  cases step.run scanner with
  | mk result reached => cases result <;> rfl

instance : LawfulMonad Scan :=
  LawfulMonad.mk' Scan (fun step => bind_pure_eq_self step) (fun _ _ => rfl) bind_bind_eq

end Scan

end LineScript
