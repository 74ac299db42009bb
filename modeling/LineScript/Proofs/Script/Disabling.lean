import LineScript.Proofs.Script.Running
import LineScript.Proofs.Statement.Marker

namespace LineScript

open Text

namespace Settings

def skipping (settings : Settings) : Settings := { settings with skipDisabled := true }

def runningAll (settings : Settings) : Settings := { settings with skipDisabled := false }

end Settings

namespace LineOutcome

def blankIfSkipped : LineOutcome → LineOutcome
  | .skipped _ => .blank
  | outcome => outcome

/-- The outcome as that of an enabled statement. -/
def enabled : LineOutcome → LineOutcome
  | .skipped statement => .skipped statement.enabled
  | .executed statement outcome => .executed statement.enabled outcome
  | outcome => outcome

end LineOutcome

def Report.mapOutcomes (change : LineOutcome → LineOutcome) (report : Report) : Report :=
  { report with lines := report.lines.map fun (number, outcome) => (number, change outcome) }

theorem Report.mapOutcomes_append (change : LineOutcome → LineOutcome) (report other : Report) :
    (report ++ other).mapOutcomes change = report.mapOutcomes change ++ other.mapOutcomes change := by
  unfold mapOutcomes
  rw [lines_append, List.map_append]
  rfl

/-- The other run leaves the same store, and comes to the same but for that change. -/
structure Run.Agrees (change : α → α) (run other : Run α) : Prop where
  store : other.store = run.store
  result : other.result = run.result.map change

namespace Run.Agrees

variable {change : LineOutcome → LineOutcome}

theorem andThen {run other : Run Report} {next otherNext : Store → Run Report}
    (agrees : Agrees (Report.mapOutcomes change) run other)
    (later : ∀ store, Agrees (Report.mapOutcomes change) (next store) (otherNext store)) :
    Agrees (Report.mapOutcomes change) (run.andThen next) (other.andThen otherNext) := by
  obtain ⟨sameStore, same⟩ := agrees
  cases ran : run.result with
  | error failure =>
      rw [ran] at same
      rw [andThen_of_error ran, andThen_of_error same]
      exact ⟨sameStore, by rw [ran, same]⟩
  | ok report =>
      rw [ran] at same
      obtain ⟨laterStore, laterSame⟩ := later run.store
      rw [andThen_of_ok ran, andThen_of_ok same, sameStore]
      refine ⟨laterStore, ?_⟩
      rw [laterSame]
      cases (next run.store).result with
      | error failure => rfl
      | ok others => exact congrArg Except.ok (Report.mapOutcomes_append change report others).symm

theorem reportLine {run other : Run LineOutcome} (agrees : Agrees change run other)
    (settings : Settings) (number : Nat) :
    Agrees (Report.mapOutcomes change) (Script.reportLine settings number run)
      (Script.reportLine settings number other) := by
  obtain ⟨sameStore, same⟩ := agrees
  cases ran : run.result with
  | ok outcome =>
      rw [ran] at same
      rw [Script.reportLine_of_ok ran, Script.reportLine_of_ok same]
      exact ⟨sameStore, rfl⟩
  | error failure =>
      rw [ran] at same
      unfold Script.reportLine
      rw [ran, same]
      dsimp only [Except.map]
      split
      · exact ⟨sameStore, rfl⟩
      · exact ⟨sameStore, rfl⟩

/-- Scripts agree if their lines do, one by one, whatever store they run against. -/
theorem runFrom {settings : Settings} {revise : Text → Text} {texts : List Text}
    (agree : ∀ line ∈ texts, ∀ store, Agrees change (Script.runLine settings line store)
      (Script.runLine settings (revise line) store)) (number : Nat) (store : Store) :
    Agrees (Report.mapOutcomes change) (Script.runFrom settings number texts store)
      (Script.runFrom settings number (texts.map revise) store) := by
  induction texts generalizing number store with
  | nil => exact ⟨rfl, rfl⟩
  | cons line later induction =>
      obtain ⟨here, agree⟩ := List.forall_mem_cons.mp agree
      rw [List.map_cons, Script.runFrom_cons, Script.runFrom_cons]
      exact ((here store).reportLine settings number).andThen (induction agree (number + 1))

end Run.Agrees

namespace Script

/-- Whether the line reads as a disabled statement. -/
def isDisabled (settings : Settings) (line : Text) : Bool :=
  match readStatement settings line with
  | .ok statement => statement.disabled
  | .error _ => false

/-- The script with another text in place of each line that reads as a disabled statement. -/
def reviseDisabled (settings : Settings) (revise : Text → Text) (source : Text) : Text :=
  mapLines (fun line => if isDisabled settings line then revise line else line) source

variable {settings : Settings} {line : Text} {store : Store}

theorem isDisabled_iff : isDisabled settings line = true ↔
    ∃ statement, Statement.read { strict := settings.strict } line = .ok statement ∧
      statement.disabled = true := by
  simp only [← readStatement_eq_ok_iff, isDisabled]
  cases readStatement settings line with
  | error failure => simp
  | ok statement => simp

theorem exists_readLine_of_isDisabled (disabled : isDisabled settings line = true) :
    ∃ statement, readLine settings line = .ok (some statement) ∧ statement.disabled = true := by
  obtain ⟨statement, accepted, marked⟩ := isDisabled_iff.mp disabled
  exact ⟨statement, readLine_eq_some_iff.mpr accepted, marked⟩

section

variable {statement : Statement}

theorem runStatement_of_skipped (disabled : statement.disabled = true) :
    runStatement settings.skipping statement store =
      ⟨.ok (.skipped statement), store, [.statementSkipped statement.label]⟩ := by
  rw [runStatement, disabled]
  rfl

theorem runStatement_of_not_skipped
    (unskipped : (statement.disabled && settings.skipDisabled) = false) :
    runStatement settings statement store =
      match statement.execute storeContext store with
      | (.ok outcome, after) =>
          ⟨.ok (.executed statement outcome), after, statement.notices store.substitute⟩
      | (.error fault, after) =>
          ⟨.error (.evaluation fault), after, statement.notices store.substitute⟩ := by
  rw [runStatement, unskipped]
  rfl

theorem agrees_enabled (settings : Settings) (statement : Statement) (store : Store) :
    Run.Agrees LineOutcome.enabled (runStatement settings.runningAll statement store)
      (runStatement settings.runningAll statement.enabled store) := by
  have unskipped (other : Statement) :
      (other.disabled && settings.runningAll.skipDisabled) = false := Bool.and_false _
  have same : statement.enabled.execute storeContext store = statement.execute storeContext store :=
    rfl
  rw [runStatement_of_not_skipped (unskipped _), runStatement_of_not_skipped (unskipped _), same]
  cases statement.execute storeContext store with
  | mk result after =>
      cases result with
      | ok outcome => exact ⟨rfl, rfl⟩
      | error fault => exact ⟨rfl, rfl⟩

end

theorem outcome_of_active {outcome : LineOutcome} (active : isDisabled settings line = false)
    (ran : (runLine settings line store).result = .ok outcome) :
    outcome = .blank ∨ outcome = .comment ∨
      ∃ statement result, statement.disabled = false ∧ outcome = .executed statement result := by
  rw [runLine_eq] at ran
  cases reads : readLine settings line with
  | error failure => simp [reads] at ran
  | ok found =>
      rw [reads] at ran
      cases found with
      | none =>
          obtain rfl := Except.ok.inj ran
          unfold passiveOutcome
          split
          · exact .inl rfl
          · exact .inr (.inl rfl)
      | some statement =>
          have isEnabled : statement.disabled = false := by
            rw [Bool.eq_false_iff] at active ⊢
            intro disabled
            exact active (isDisabled_iff.mpr ⟨statement, readLine_eq_some_iff.mp reads, disabled⟩)
          have unskipped : (statement.disabled && settings.skipDisabled) = false := by
            rw [isEnabled, Bool.false_and]
          dsimp only at ran
          rw [runStatement_of_not_skipped unskipped] at ran
          split at ran
          · rename_i result after _
            exact .inr (.inr ⟨statement, result, isEnabled, (Except.ok.inj ran).symm⟩)
          · cases ran

theorem agrees_of_active {change : LineOutcome → LineOutcome}
    (active : isDisabled settings line = false) (blank : change .blank = .blank)
    (comment : change .comment = .comment)
    (executed : ∀ statement outcome, statement.disabled = false →
      change (.executed statement outcome) = .executed statement outcome) :
    Run.Agrees change (runLine settings line store) (runLine settings line store) := by
  refine ⟨rfl, ?_⟩
  cases ran : (runLine settings line store).result with
  | error failure => rfl
  | ok outcome =>
      apply congrArg Except.ok
      rcases outcome_of_active active ran with rfl | rfl | ⟨statement, result, isEnabled, rfl⟩
      · exact blank.symm
      · exact comment.symm
      · exact (executed statement result isEnabled).symm

theorem agrees_emptied (settings : Settings) (line : Text) (store : Store) :
    Run.Agrees LineOutcome.blankIfSkipped (runLine settings.skipping line store)
      (runLine settings.skipping (if isDisabled settings line then [] else line) store) := by
  split
  · rename_i disabled
    obtain ⟨statement, reads, marked⟩ := exists_readLine_of_isDisabled disabled
    have here : readLine settings.skipping line = .ok (some statement) := reads
    rw [runLine_eq, here]
    dsimp only
    rw [runStatement_of_skipped marked]
    exact ⟨rfl, rfl⟩
  · rename_i active
    have active : isDisabled settings.skipping line = false := Bool.eq_false_iff.mpr active
    exact agrees_of_active active rfl rfl fun _ _ _ => rfl

theorem agrees_unmarked (settings : Settings) (line : Text) (store : Store) :
    Run.Agrees LineOutcome.enabled (runLine settings.runningAll line store)
      (runLine settings.runningAll
        (if isDisabled settings line then Statement.eraseMarker line else line) store) := by
  split
  · rename_i disabled
    obtain ⟨statement, accepted, marked⟩ := isDisabled_iff.mp disabled
    obtain ⟨lead, back, rfl, _, unmarked⟩ := Statement.exists_marker_of_read accepted marked
    have reads : readLine settings.runningAll (lead.text ++ '!' :: back) = .ok (some statement) :=
      readLine_eq_some_iff.mpr accepted
    have others : readLine settings.runningAll (lead.text ++ back) = .ok (some statement.enabled) :=
      readLine_eq_some_iff.mpr unmarked
    rw [Statement.eraseMarker_append, runLine_eq, runLine_eq, reads, others]
    exact agrees_enabled settings statement store
  · rename_i active
    have active : isDisabled settings.runningAll line = false := Bool.eq_false_iff.mpr active
    refine agrees_of_active active rfl rfl fun statement outcome isEnabled => ?_
    exact congrArg (LineOutcome.executed · outcome) (Statement.enabled_eq_self isEnabled)

theorem staysLine_emptied (line : Text) : StaysLine (fun _ => []) line := by
  constructor
  · exact List.not_mem_nil
  · intro _
    exact nofun

theorem staysLine_unmarked (noFeed : '\n' ∉ line) (disabled : isDisabled settings line = true) :
    StaysLine Statement.eraseMarker line := by
  obtain ⟨statement, accepted, marked⟩ := isDisabled_iff.mp disabled
  obtain ⟨lead, back, rfl, nonempty, _⟩ := Statement.exists_marker_of_read accepted marked
  have last := List.getLast?_eq_some_getLast nonempty
  constructor
  · exact fun member => noFeed (List.mem_of_mem_erase member)
  · rw [Statement.eraseMarker_append, List.getLast?_append, List.getLast?_append, last,
      List.getLast?_cons, last]
    exact id

theorem lines_reviseDisabled {revise : Text → Text} {source : Text}
    (ended : source = [] ∨ source.getLast? = some '\n')
    (stays : ∀ line ∈ lines source, isDisabled settings line = true → StaysLine revise line) :
    lines (reviseDisabled settings revise source) =
      (lines source).map fun line => if isDisabled settings line then revise line else line := by
  apply lines_mapLines ended
  intro line member
  cases disabled : isDisabled settings line with
  | true =>
      obtain ⟨noFeed, noReturn⟩ := stays line member disabled
      exact ⟨by rwa [disabled], by rwa [disabled]⟩
  | false =>
      have noFeed := feed_not_mem_of_mem_lines member
      exact ⟨by rwa [disabled], by rw [disabled]; exact id⟩

/-- In a script whose lines are all ended, disabled statements that are skipped leave no trace but their
entries in the report, and those that are not are executed as without the marker. -/
theorem marker_only_skips {source : Text} (ended : source = [] ∨ source.getLast? = some '\n')
    (settings : Settings) (store : Store) :
    Run.Agrees (Report.mapOutcomes LineOutcome.blankIfSkipped)
        (run settings.skipping source store)
        (run settings.skipping (reviseDisabled settings (fun _ => []) source) store) ∧
      Run.Agrees (Report.mapOutcomes LineOutcome.enabled)
        (run settings.runningAll source store)
        (run settings.runningAll (reviseDisabled settings Statement.eraseMarker source) store) := by
  constructor
  · unfold run
    rw [lines_reviseDisabled ended fun line _ _ => staysLine_emptied line]
    exact .runFrom (fun line _ => agrees_emptied settings line) 1 store
  · unfold run
    rw [lines_reviseDisabled ended fun line member =>
      staysLine_unmarked (feed_not_mem_of_mem_lines member)]
    exact .runFrom (fun line _ => agrees_unmarked settings line) 1 store

/-- Disabled statements between a comment and a statement that are marked in other places. -/
def marked : Text :=
  "\t!SUM \"1\" \"2\" -> VAR \"A\"\r\n##!\n! #!x sum\"<A>\"\"1\" rest\n#!y SUM \"<A>\" \"4\"\n".toList

def emptied : Text := "\r\n##!\n\n#!y SUM \"<A>\" \"4\"\n".toList

def unmarked : Text :=
  "\tSUM \"1\" \"2\" -> VAR \"A\"\r\n##!\n #!x sum\"<A>\"\"1\" rest\n#!y SUM \"<A>\" \"4\"\n".toList

def emptiedReport : Report where
  lines := [(1, .blank), (2, .comment), (3, .blank)]
  failures := [.atLine 4 (.evaluation (.notInteger .first "<A>".toList))]

theorem marker_only_skips_marked :
    marked.getLast? = some '\n' ∧
      (run (Settings.goingOn {}).skipping emptied .empty).result = .ok emptiedReport ∧
      (run (Settings.goingOn {}).runningAll unmarked .empty).store =
        (run (Settings.goingOn {}).runningAll marked .empty).store ∧
      (run (Settings.goingOn {}).runningAll marked .empty).store.log =
        ["Sum: 1 + 2 = 3".toList, "!x: 3 + 1 = 4".toList, "!y: 3 + 4 = 7".toList] := by
  have ended : marked.getLast? = some '\n' := by decide
  obtain ⟨skipped, executed⟩ := marker_only_skips (.inr ended) (Settings.goingOn {}) .empty
  have withoutLines : reviseDisabled (Settings.goingOn {}) (fun _ => []) marked = emptied := by
    decide +kernel
  have withoutMarkers :
      reviseDisabled (Settings.goingOn {}) Statement.eraseMarker marked = unmarked := by
    decide +kernel
  have reported : (run (Settings.goingOn {}).skipping marked .empty).result.map
      (Report.mapOutcomes LineOutcome.blankIfSkipped) = .ok emptiedReport := by
    decide +kernel
  have logged : (run (Settings.goingOn {}).runningAll marked .empty).store.log =
      ["Sum: 1 + 2 = 3".toList, "!x: 3 + 1 = 4".toList, "!y: 3 + 4 = 7".toList] := by
    decide +kernel
  rw [withoutLines] at skipped
  rw [withoutMarkers] at executed
  exact ⟨ended, skipped.result.trans reported, executed.store, logged⟩

end Script

end LineScript
