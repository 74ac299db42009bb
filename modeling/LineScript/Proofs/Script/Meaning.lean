import LineScript.Proofs.Script.Layout
import LineScript.Proofs.Script.Running

namespace LineScript.Script

open Text

variable {settings : Settings} {line text source : Text}

theorem LaysOut.runLine_eq (laidOut : LaysOut settings line text) (store : Store) :
    runLine settings text store = runLine settings line store := by
  have same : passiveOutcome text = passiveOutcome line := by
    rw [passiveOutcome, passiveOutcome, laidOut.isBlankLine_eq]
  rw [Script.runLine_eq, Script.runLine_eq, laidOut.readLine_eq, same]

/-- The entry of the line that has no line of its own in the layout. -/
def openBlankEntry (source : Text) : List (Nat × LineOutcome) :=
  if endsInOpenBlank source then [((lines source).length, .blank)] else []

theorem exists_open_blank (openBlank : endsInOpenBlank source = true) :
    ∃ blank, isBlankLine blank = true ∧ lines source = keptLines source ++ [blank] := by
  have last := (Bool.and_eq_true_iff.mp openBlank).2
  obtain ⟨blank, found, isBlank⟩ := (Option.any_eq_true _ _).mp last
  refine ⟨blank, isBlank, ?_⟩
  rw [keptLines, if_pos openBlank]
  exact (List.dropLast_append_getLast? blank found).symm

theorem runLine_of_blank (blank : isBlankLine line = true) (store : Store) :
    runLine settings line store = ⟨.ok .blank, store, []⟩ := by
  rw [runLine, if_pos blank]

theorem run_eq_keptLines (settings : Settings) (source : Text) (store : Store) :
    run settings source store =
      (runFrom settings 1 (keptLines source) store).andThen fun after =>
        ⟨.ok ⟨openBlankEntry source, []⟩, after, []⟩ := by
  cases openBlank : endsInOpenBlank source with
  | false =>
      have whole : keptLines source = lines source := by rw [keptLines, openBlank]; rfl
      have entry : openBlankEntry source = [] := by rw [openBlankEntry, openBlank]; rfl
      have nothing := runFrom_append settings 1 (lines source) [] store
      rw [List.append_nil] at nothing
      rw [run, whole, entry]
      exact nothing
  | true =>
      obtain ⟨blank, isBlank, split⟩ := exists_open_blank openBlank
      have entry : openBlankEntry source = [(1 + (keptLines source).length, .blank)] := by
        rw [openBlankEntry, if_pos openBlank, split, List.length_append, Nat.add_comm]
        rfl
      rw [run, split, runFrom_append, entry]
      congr 1
      funext after
      rw [runFrom_cons, runLine_of_blank isBlank, reportLine_of_ok rfl]
      rfl

theorem andThen_entries (ran : Run Report) (entries : List (Nat × LineOutcome)) :
    (ran.andThen fun after => ⟨.ok ⟨entries, []⟩, after, []⟩) =
      { ran with result := ran.result.map fun report =>
          { report with lines := report.lines ++ entries } } := by
  cases ran with
  | mk result after notices =>
      cases result with
      | error failure => rfl
      | ok report =>
          have appended : report ++ ⟨entries, []⟩ =
              { report with lines := report.lines ++ entries } := by
            change Report.mk _ (report.failures ++ []) = _
            rw [List.append_nil]
          rw [Run.andThen_of_ok rfl, List.append_nil]
          exact congrArg (fun whole => (⟨.ok whole, after, notices⟩ : Run Report)) appended

/-- The layout fails as the source does, or it reports all that the source does but the entry of an
open blank line at its end; it leaves the same store. -/
theorem layout_preserves_meaning {formatted : Text}
    (laidOut : format settings source = .ok formatted) (store : Store) :
    (run settings formatted store).store = (run settings source store).store ∧
      (run settings formatted store).notices = (run settings source store).notices ∧
      (run settings source store).result = (run settings formatted store).result.map fun report =>
        { report with lines := report.lines ++ openBlankEntry source } := by
  obtain ⟨ended, texts, tail, last, parts⟩ := exists_laidOutParts laidOut
  have correspond := parts.correspond
  have same : run settings formatted store = runFrom settings 1 (keptLines source) store :=
    runFrom_congr (correspond.imp fun _ _ here => here.runLine_eq) 1 store
  have whole := run_eq_keptLines settings source store
  rw [← same, andThen_entries] at whole
  rw [whole]
  exact ⟨rfl, rfl, rfl⟩

theorem layout_preserves_meaning_sprawling :
    format { haltOnFailure := false } sprawling = .ok sprawlingLaidOut ∧
      (run { haltOnFailure := false } sprawlingLaidOut .empty).store =
        (run { haltOnFailure := false } sprawling .empty).store ∧
      (run { haltOnFailure := false } sprawling .empty).result =
        (run { haltOnFailure := false } sprawlingLaidOut .empty).result.map fun report =>
          { report with lines := report.lines ++ [(5, .blank)] } := by
  have laidOut : format { haltOnFailure := false } sprawling = .ok sprawlingLaidOut := rfl
  have meaning := layout_preserves_meaning laidOut .empty
  have entry : openBlankEntry sprawling = [(5, .blank)] := rfl
  rw [entry] at meaning
  exact ⟨laidOut, meaning.1, meaning.2.2⟩

end LineScript.Script
