import LineScript.Proofs.Evaluation.Effects
import LineScript.Proofs.Script.Running

namespace LineScript

open Text

/-- The statement that is read where this one is written. -/
def Statement.canonical (statement : Statement) : Statement :=
  statement.normalized statement.disabled

def LineOutcome.canonical : LineOutcome → LineOutcome
  | .blank => .blank
  | .comment => .comment
  | .skipped statement => .skipped statement.canonical
  | .executed statement outcome => .executed statement.canonical outcome

def Report.canonical (report : Report) : Report :=
  { report with lines := report.lines.map fun (number, outcome) => (number, outcome.canonical) }

theorem Report.canonical_append (report other : Report) :
    (report ++ other).canonical = report.canonical ++ other.canonical := by
  unfold canonical
  rw [lines_append, List.map_append]
  rfl

namespace Statement

variable {store other : Store}

theorem evaluate_canonical (statement : Statement) (substitute : Text → Text) :
    statement.canonical.evaluate substitute = statement.evaluate substitute := rfl

theorem settle_canonical (same : store.withLog [] = other.withLog []) (statement : Statement)
    (result : Except EvaluationFault Outcome) :
    (statement.canonical.settle result store).withLog [] =
      (statement.settle result other).withLog [] := by
  have assigned := congrArg (Store.assign · (statement.assignment? result)) same
  simp only [Store.assign_withLog] at assigned
  exact assigned

end Statement

namespace Script

/-- What a statement comes to, reported as the line of its number, and the store it leaves. -/
def executeOne (skipDisabled : Bool) (number : Nat) (statement : Statement) (store : Store) :
    Report × Store :=
  if statement.disabled && skipDisabled then (⟨[(number, .skipped statement)], []⟩, store)
  else
    match statement.execute storeContext store with
    | (.ok outcome, after) => (⟨[(number, .executed statement outcome)], []⟩, after)
    | (.error fault, after) => (⟨[], [.atLine number (.evaluation fault)]⟩, after)

/-- What statements come to one after the other, whether or not some of them fail. -/
def executeFrom (skipDisabled : Bool) (number : Nat) : List Statement → Store → Report × Store
  | [], store => (.empty, store)
  | statement :: later, store =>
      let (report, after) := executeOne skipDisabled number statement store
      let (others, last) := executeFrom skipDisabled (number + 1) later after
      (report ++ others, last)

/-- A line for each statement, after a margin of its own. -/
def statementLines (entries : List (Nat × Statement)) : List Text :=
  entries.map fun (margin, statement) => statement.writeAs margin statement.disabled

def assemble (entries : List (Nat × Statement)) : Text := join ['\n'] (statementLines entries)

def canonicals (entries : List (Nat × Statement)) : List Statement :=
  entries.map fun (_, statement) => statement.canonical

variable {settings : Settings} {number : Nat} {statement : Statement} {store : Store}
  {entries : List (Nat × Statement)}

theorem writeAs_ne_nil (quotable : statement.Quotable) (margin : Nat) (disabled : Bool) :
    statement.writeAs margin disabled ≠ [] := by
  intro empty
  have active := Statement.isPassive_eq_false_of_read
    (Statement.read_writeAs quotable margin disabled false)
  rw [empty] at active
  exact absurd active (by decide)

theorem lines_assemble
    (writable : ∀ entry ∈ entries, entry.2.Quotable ∧ entry.2.OneLine) :
    lines (assemble entries) = statementLines entries := by
  apply lines_join_feed
  · intro text member
    obtain ⟨⟨margin, statement⟩, listed, rfl⟩ := List.mem_map.mp member
    obtain ⟨quotable, oneLine⟩ := writable (margin, statement) listed
    apply isLine_of_stops
    · exact oneLine.feed_not_mem_writeAs margin statement.disabled
    · exact Statement.stops_reverse_writeAs quotable margin statement.disabled
  · intro text member
    obtain ⟨⟨margin, statement⟩, listed, rfl⟩ := List.mem_map.mp member
    exact writeAs_ne_nil (writable (margin, statement) listed).1 margin statement.disabled

theorem readLine_writeAs (quotable : statement.Quotable) (margin : Nat) :
    readLine settings (statement.writeAs margin statement.disabled) =
      .ok (some statement.canonical) :=
  readLine_eq_some_iff.mpr
    (Statement.read_writeAs quotable margin statement.disabled settings.strict)

theorem checkFrom_statementLines (quotable : ∀ entry ∈ entries, entry.2.Quotable) :
    checkFrom settings number (statementLines entries) = .ok (canonicals entries) := by
  induction entries generalizing number with
  | nil => rfl
  | cons entry later induction =>
      obtain ⟨margin, statement⟩ := entry
      obtain ⟨here, after⟩ := List.forall_mem_cons.mp quotable
      have rest : checkFrom settings (number + 1) (statementLines later) = .ok (canonicals later) :=
        induction after
      unfold statementLines canonicals at rest ⊢
      rw [List.map_cons, List.map_cons, checkFrom_cons, readLine_writeAs here, rest]
      rfl

theorem reportLine_runStatement (settings : Settings) (number : Nat) (statement : Statement)
    (store : Store) :
    (reportLine settings.goingOn number (runStatement settings statement store)).result =
        .ok (executeOne settings.skipDisabled number statement store).1 ∧
      (reportLine settings.goingOn number (runStatement settings statement store)).store =
        (executeOne settings.skipDisabled number statement store).2 := by
  unfold runStatement executeOne
  split
  · exact ⟨rfl, rfl⟩
  · cases statement.execute storeContext store with
    | mk result after =>
        cases result with
        | ok outcome => exact ⟨rfl, rfl⟩
        | error fault => exact ⟨rfl, rfl⟩

theorem runFrom_statementLines (quotable : ∀ entry ∈ entries, entry.2.Quotable) (number : Nat)
    (store : Store) :
    (runFrom settings.goingOn number (statementLines entries) store).result =
        .ok (executeFrom settings.skipDisabled number (canonicals entries) store).1 ∧
      (runFrom settings.goingOn number (statementLines entries) store).store =
        (executeFrom settings.skipDisabled number (canonicals entries) store).2 := by
  induction entries generalizing number store with
  | nil => exact ⟨rfl, rfl⟩
  | cons entry later induction =>
      obtain ⟨margin, statement⟩ := entry
      obtain ⟨here, after⟩ := List.forall_mem_cons.mp quotable
      have line : runLine settings.goingOn (statement.writeAs margin statement.disabled) store =
          runStatement settings statement.canonical store := by
        rw [runLine_eq, readLine_writeAs here]
        rfl
      obtain ⟨reported, left⟩ :=
        reportLine_runStatement settings number statement.canonical store
      obtain ⟨went, last⟩ := induction after (number + 1)
        (executeOne settings.skipDisabled number statement.canonical store).2
      unfold statementLines canonicals at went last ⊢
      rw [List.map_cons, List.map_cons, runFrom_cons, line, Run.andThen_of_ok reported, left]
      exact ⟨map_eq_ok_iff.mpr ⟨_, went, rfl⟩, last⟩

theorem executeOne_canonical {other : Store} (same : store.withLog [] = other.withLog [])
    (skipDisabled : Bool) (number : Nat) (statement : Statement) :
    (executeOne skipDisabled number statement.canonical store).1 =
        (executeOne skipDisabled number statement other).1.canonical ∧
      (executeOne skipDisabled number statement.canonical store).2.withLog [] =
        (executeOne skipDisabled number statement other).2.withLog [] := by
  have settled := Statement.settle_canonical same statement
  have sameSubstitute := congrArg Store.substitute same
  rw [Store.substitute_withLog, Store.substitute_withLog] at sameSubstitute
  have sameDisabled : statement.canonical.disabled = statement.disabled := rfl
  unfold executeOne
  rw [Statement.execute_eq, Statement.execute_eq, Statement.evaluate_canonical, sameSubstitute,
    sameDisabled]
  split
  · exact ⟨rfl, same⟩
  · cases statement.evaluate other.substitute with
    | ok outcome => exact ⟨rfl, settled (.ok outcome)⟩
    | error fault => exact ⟨rfl, settled (.error fault)⟩

theorem executeFrom_canonical {other : Store} (same : store.withLog [] = other.withLog [])
    (skipDisabled : Bool) (number : Nat) (statements : List Statement) :
    (executeFrom skipDisabled number (statements.map Statement.canonical) store).1 =
        (executeFrom skipDisabled number statements other).1.canonical ∧
      (executeFrom skipDisabled number (statements.map Statement.canonical) store).2.withLog [] =
        (executeFrom skipDisabled number statements other).2.withLog [] := by
  induction statements generalizing number store other with
  | nil => exact ⟨rfl, same⟩
  | cons statement later induction =>
      obtain ⟨reported, left⟩ := executeOne_canonical same skipDisabled number statement
      obtain ⟨others, last⟩ := induction left (number + 1)
      rw [List.map_cons]
      refine ⟨?_, last⟩
      unfold executeFrom
      dsimp only
      rw [reported, others, Report.canonical_append]

/-- A script assembled from statements checks to them, but for labels that cannot be written, and going
on it comes to what they come to when they are executed one after the other. Such a label changes what
is logged, and neither a result nor a binding. -/
theorem assembled_script_means_its_statements
    (writable : ∀ entry ∈ entries, entry.2.Quotable ∧ entry.2.OneLine) (settings : Settings)
    (store : Store) :
    check settings (assemble entries) = .ok (canonicals entries) ∧
      ((run settings.goingOn (assemble entries) store).result =
          .ok (executeFrom settings.skipDisabled 1 (canonicals entries) store).1 ∧
        (run settings.goingOn (assemble entries) store).store =
          (executeFrom settings.skipDisabled 1 (canonicals entries) store).2) ∧
      (executeFrom settings.skipDisabled 1 (canonicals entries) store).1 =
        (executeFrom settings.skipDisabled 1 (entries.map Prod.snd) store).1.canonical ∧
      (executeFrom settings.skipDisabled 1 (canonicals entries) store).2.withoutLog =
        (executeFrom settings.skipDisabled 1 (entries.map Prod.snd) store).2.withoutLog := by
  have quotable (entry : Nat × Statement) (member : entry ∈ entries) : entry.2.Quotable :=
    (writable entry member).1
  have relabelled : canonicals entries = (entries.map Prod.snd).map Statement.canonical := by
    rw [List.map_map]
    rfl
  refine ⟨?_, ?_, ?_⟩
  · unfold check
    rw [lines_assemble writable]
    exact checkFrom_statementLines quotable
  · unfold run
    rw [lines_assemble writable]
    exact runFrom_statementLines quotable 1 store
  · rw [relabelled]
    exact executeFrom_canonical rfl settings.skipDisabled 1 (entries.map Prod.snd)

/-- Texts that hold marks and a line ending's first half, labels that cannot be written, a statement to
be skipped, and one that fails. -/
def gathered : List (Nat × Statement) :=
  [(2, ⟨.sum, "two words".toList, [['1'], ['2']], some ⟨.capture, "## \r!".toList⟩, false⟩),
    (0, ⟨.multiply, ['#'], ["<## \r!>".toList, "-4".toList], none, false⟩),
    (4, ⟨.subtract, "-> VAR".toList, ["##".toList, []], some ⟨.ordinary, ['#']⟩, true⟩),
    (0, ⟨.sum, "!x".toList, [['1'], "x\r".toList], none, false⟩)]

theorem assembled_script_means_its_statements_gathered :
    (∀ entry ∈ gathered, entry.2.Quotable ∧ entry.2.OneLine) ∧
      check { strict := true } (assemble gathered) = .ok (canonicals gathered) ∧
      (run (Settings.goingOn {}) (assemble gathered) .empty).result =
        .ok (executeFrom true 1 (canonicals gathered) .empty).1 ∧
      (executeFrom true 1 (canonicals gathered) .empty).1.lines.map Prod.fst = [1, 2, 3] ∧
      (executeFrom true 1 (canonicals gathered) .empty).2.log =
        ["Sum: 1 + 2 = 3".toList, "Multiply: 3 * -4 = -12".toList] := by
  have writable : ∀ entry ∈ gathered, entry.2.Quotable ∧ entry.2.OneLine := by
    simp only [gathered, List.forall_mem_cons]
    exact ⟨⟨⟨by decide, by decide, by decide⟩, by decide, by decide⟩,
      ⟨⟨by decide, by decide, by decide⟩, by decide, by decide⟩,
      ⟨⟨by decide, by decide, by decide⟩, by decide, by decide⟩,
      ⟨⟨by decide, by decide, by decide⟩, by decide, by decide⟩, nofun⟩
  have checked := (assembled_script_means_its_statements writable { strict := true } .empty).1
  have ran := (assembled_script_means_its_statements writable {} .empty).2.1.1
  exact ⟨writable, checked, ran, by decide +kernel, by decide +kernel⟩

end Script

end LineScript
