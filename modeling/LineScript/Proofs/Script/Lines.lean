import LineScript.Proofs.Statement.Placement
import LineScript.Script.Check
import LineScript.Script.Run

namespace LineScript

open Text

def LineOutcome.statement? : LineOutcome → Option Statement
  | .blank => none
  | .comment => none
  | .skipped statement => some statement
  | .executed statement _ => some statement

namespace Script

/-- The statement on a line, if the line is not passive. -/
def readLine (settings : Settings) (line : Text) : Except Failure (Option Statement) :=
  if isPassive line then .ok none else (readStatement settings line).map some

def layLine (settings : Settings) (line : Text) : Option Statement → Text
  | none => trimEnd line
  | some statement =>
      statement.writeAs (if isIndented line then settings.indentWidth else 0) statement.disabled

def passiveOutcome (line : Text) : LineOutcome := if isBlankLine line then .blank else .comment

variable {settings : Settings} {line : Text} {store : Store}

theorem map_eq_ok_iff {result : Except Failure α} {change : α → β} {value : β} :
    result.map change = .ok value ↔ ∃ found, result = .ok found ∧ change found = value := by
  cases result <;> simp [Except.map]

theorem map_eq_error_iff {result : Except Failure α} {change : α → β} {failure : Failure} :
    result.map change = .error failure ↔ result = .error failure := by
  cases result <;> simp [Except.map]

theorem readLine_of_passive (passive : isPassive line = true) : readLine settings line = .ok none :=
  if_pos passive

theorem readLine_of_active (active : isPassive line = false) :
    readLine settings line = (readStatement settings line).map some := by
  rw [readLine, active]
  rfl

theorem readStatement_eq_ok_iff {statement : Statement} :
    readStatement settings line = .ok statement ↔
      Statement.read { strict := settings.strict } line = .ok statement := by
  rw [readStatement]
  cases Statement.read { strict := settings.strict } line <;> simp [Except.mapError]

theorem readLine_eq_some_iff {statement : Statement} :
    readLine settings line = .ok (some statement) ↔
      Statement.read { strict := settings.strict } line = .ok statement := by
  rw [← readStatement_eq_ok_iff]
  constructor
  · intro reads
    cases passive : isPassive line with
    | true =>
        rw [readLine_of_passive passive] at reads
        cases reads
    | false =>
        rw [readLine_of_active passive] at reads
        cases found : readStatement settings line with
        | error failure => simp [found, Except.map] at reads
        | ok other =>
            rw [found] at reads
            cases reads
            rfl
  · intro reads
    have active := Statement.isPassive_eq_false_of_read (readStatement_eq_ok_iff.mp reads)
    rw [readLine_of_active active, reads]
    rfl

theorem readLine_eq_none_iff : readLine settings line = .ok none ↔ isPassive line = true := by
  constructor
  · intro reads
    cases passive : isPassive line with
    | true => rfl
    | false =>
        rw [readLine_of_active passive] at reads
        cases found : readStatement settings line <;> simp [found, Except.map] at reads
  · exact readLine_of_passive

theorem exists_fault_of_readLine_error {failure : Failure}
    (unread : readLine settings line = .error failure) : ∃ fault, failure = .reading fault := by
  rw [readLine] at unread
  split at unread
  · cases unread
  · rw [readStatement] at unread
    cases found : Statement.read { strict := settings.strict } line with
    | ok statement => simp [found, Except.map, Except.mapError] at unread
    | error fault =>
        rw [found] at unread
        cases unread
        exact ⟨fault, rfl⟩

theorem readStatement_trim : readStatement settings (trim line) = readStatement settings line := by
  rw [readStatement, readStatement, Statement.read, Statement.read, trim_trim]

theorem checkFrom_cons (number : Nat) (later : List Text) :
    checkFrom settings number (line :: later) =
      match readLine settings line with
      | .error failure => .error (.atLine number failure)
      | .ok statement =>
          (checkFrom settings (number + 1) later).map (statement.toList ++ ·) := by
  rw [checkFrom, readLine]
  split
  · cases checkFrom settings (number + 1) later <;> rfl
  · cases readStatement settings line <;> rfl

theorem formatFrom_cons (number : Nat) (later : List Text) :
    formatFrom settings number (line :: later) =
      match readLine settings line with
      | .error failure => .error (.atLine number failure)
      | .ok statement =>
          (formatFrom settings (number + 1) later).map (layLine settings line statement :: ·) := by
  rw [formatFrom, readLine]
  split
  · rfl
  · rw [formatLine]
    cases readStatement settings line <;> rfl

theorem runLine_eq : runLine settings line store =
    match readLine settings line with
    | .error failure => ⟨.error failure, store, []⟩
    | .ok none => ⟨.ok (passiveOutcome line), store, []⟩
    | .ok (some statement) => runStatement settings statement store := by
  rw [runLine, readLine, isPassive, passiveOutcome, readStatement_trim]
  cases isBlankLine line <;> cases isComment line <;>
    cases readStatement settings line <;> rfl

theorem statement?_passiveOutcome : (passiveOutcome line).statement? = none := by
  rw [passiveOutcome]
  split <;> rfl

theorem runStatement_cases (settings : Settings) (statement : Statement) (store : Store) :
    (∃ outcome, (runStatement settings statement store).result = .ok outcome ∧
        outcome.statement? = some statement) ∨
      ∃ fault, (runStatement settings statement store).result = .error (.evaluation fault) ∧
        (runStatement settings statement store).store = store := by
  rw [runStatement, Statement.execute]
  split
  · exact .inl ⟨.skipped statement, rfl, rfl⟩
  · cases statement.evaluate (storeContext.substitute store) with
    | ok outcome => exact .inl ⟨.executed statement outcome, rfl, rfl⟩
    | error fault => exact .inr ⟨fault, rfl, rfl⟩

/-- All that can come of a line. Whichever way it fails, the store stays as it is. -/
theorem runLine_cases (settings : Settings) (line : Text) (store : Store) :
    (∃ fault, readLine settings line = .error (.reading fault) ∧
        (runLine settings line store).result = .error (.reading fault) ∧
        (runLine settings line store).store = store) ∨
      (∃ outcome, readLine settings line = .ok outcome.statement? ∧
        (runLine settings line store).result = .ok outcome) ∨
      ∃ statement fault, readLine settings line = .ok (some statement) ∧
        (runLine settings line store).result = .error (.evaluation fault) ∧
        (runLine settings line store).store = store := by
  rw [runLine_eq]
  cases reads : readLine settings line with
  | error failure =>
      obtain ⟨fault, rfl⟩ := exists_fault_of_readLine_error reads
      exact .inl ⟨fault, rfl, rfl, rfl⟩
  | ok found =>
      cases found with
      | none => exact .inr (.inl ⟨passiveOutcome line, by rw [statement?_passiveOutcome], rfl⟩)
      | some statement =>
          rcases runStatement_cases settings statement store with
            ⟨outcome, ran, same⟩ | ⟨fault, failed, kept⟩
          · exact .inr (.inl ⟨outcome, by rw [same], ran⟩)
          · exact .inr (.inr ⟨statement, fault, rfl, failed, kept⟩)

theorem store_runLine_of_error {failure : Failure}
    (failed : (runLine settings line store).result = .error failure) :
    (runLine settings line store).store = store := by
  rcases runLine_cases settings line store with
    ⟨_, _, _, kept⟩ | ⟨_, _, ran⟩ | ⟨_, _, _, _, kept⟩
  · exact kept
  · rw [ran] at failed
    cases failed
  · exact kept

end Script

end LineScript
