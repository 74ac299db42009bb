import LineScript.Proofs.Script.Lines

namespace LineScript

open Text

namespace Settings

def halting (settings : Settings) : Settings := { settings with haltOnFailure := true }

def goingOn (settings : Settings) : Settings := { settings with haltOnFailure := false }

end Settings

def Failure.line? : Failure → Option Nat
  | .atLine number _ => some number
  | _ => none

namespace Report

instance : Append Report :=
  ⟨fun report other => ⟨report.lines ++ other.lines, report.failures ++ other.failures⟩⟩

@[simp] theorem lines_append (report other : Report) :
    (report ++ other).lines = report.lines ++ other.lines := rfl

@[simp] theorem failures_append (report other : Report) :
    (report ++ other).failures = report.failures ++ other.failures := rfl

theorem append_assoc (report other last : Report) :
    report ++ other ++ last = report ++ (other ++ last) := by
  change Report.mk _ _ = Report.mk _ _
  simp only [lines_append, failures_append, List.append_assoc]

def failedLines (report : Report) : List Nat := report.failures.filterMap Failure.line?

@[simp] theorem failedLines_append (report other : Report) :
    (report ++ other).failedLines = report.failedLines ++ other.failedLines :=
  List.filterMap_append

/-- Each line, of which the first has the given number, is reported once: by its outcome, or by the
failure attributed to it. -/
structure Numbered (report : Report) (first count : Nat) : Prop where
  attributed : ∀ failure ∈ report.failures, ∃ number cause, failure = .atLine number cause
  outcomesIncrease : (report.lines.map Prod.fst).Pairwise (· < ·)
  failuresIncrease : report.failedLines.Pairwise (· < ·)
  disjoint : ∀ number ∈ report.lines.map Prod.fst, number ∉ report.failedLines
  complete : ∀ number, number ∈ report.lines.map Prod.fst ∨ number ∈ report.failedLines ↔
    first ≤ number ∧ number < first + count

theorem numbered_empty (first : Nat) : empty.Numbered first 0 where
  attributed := by simp [empty]
  outcomesIncrease := by simp [empty]
  failuresIncrease := by simp [empty, failedLines]
  disjoint := by simp [empty]
  complete := by
    intro number
    simp only [empty, failedLines, List.map_nil, List.filterMap_nil, List.not_mem_nil, or_self,
      false_iff]
    omega

theorem numbered_outcome (number : Nat) (outcome : LineOutcome) :
    Numbered ⟨[(number, outcome)], []⟩ number 1 where
  attributed := by simp
  outcomesIncrease := by simp
  failuresIncrease := by simp [failedLines]
  disjoint := by simp [failedLines]
  complete := by
    intro other
    simp only [failedLines, List.map_cons, List.map_nil, List.filterMap_nil, List.mem_singleton,
      List.not_mem_nil, or_false]
    omega

theorem numbered_failure (number : Nat) (failure : Failure) :
    Numbered ⟨[], [.atLine number failure]⟩ number 1 where
  attributed := by simp
  outcomesIncrease := by simp
  failuresIncrease := by simp [failedLines, Failure.line?]
  disjoint := by simp
  complete := by
    intro other
    simp only [failedLines, Failure.line?, List.map_nil, List.filterMap_cons, List.filterMap_nil,
      List.mem_singleton, List.not_mem_nil, false_or]
    omega

theorem Numbered.append {report other : Report} {first count further : Nat}
    (numbered : report.Numbered first count) (after : other.Numbered (first + count) further) :
    (report ++ other).Numbered first (count + further) := by
  have below (number : Nat) (early : number ∈ report.lines.map Prod.fst ∨
      number ∈ report.failedLines) : first ≤ number ∧ number < first + count :=
    (numbered.complete number).mp early
  have above (number : Nat) (late : number ∈ other.lines.map Prod.fst ∨
      number ∈ other.failedLines) : first + count ≤ number ∧ number < first + count + further :=
    (after.complete number).mp late
  constructor
  case attributed =>
    intro failure member
    rcases List.mem_append.mp member with early | late
    · exact numbered.attributed failure early
    · exact after.attributed failure late
  case outcomesIncrease =>
    rw [lines_append, List.map_append]
    refine List.pairwise_append.mpr ⟨numbered.outcomesIncrease, after.outcomesIncrease, ?_⟩
    intro number early next late
    exact Nat.lt_of_lt_of_le (below number (.inl early)).2 (above next (.inl late)).1
  case failuresIncrease =>
    rw [failedLines_append]
    refine List.pairwise_append.mpr ⟨numbered.failuresIncrease, after.failuresIncrease, ?_⟩
    intro number early next late
    exact Nat.lt_of_lt_of_le (below number (.inr early)).2 (above next (.inr late)).1
  case disjoint =>
    intro number member failed
    rw [lines_append, List.map_append, List.mem_append] at member
    rw [failedLines_append, List.mem_append] at failed
    rcases member with early | late <;> rcases failed with earlyFailed | lateFailed
    · exact numbered.disjoint number early earlyFailed
    · exact absurd (below number (.inl early)).2 (Nat.not_lt.mpr (above number (.inr lateFailed)).1)
    · exact absurd (below number (.inr earlyFailed)).2 (Nat.not_lt.mpr (above number (.inl late)).1)
    · exact after.disjoint number late lateFailed
  case complete =>
    intro number
    have split : first ≤ number ∧ number < first + (count + further) ↔
        (first ≤ number ∧ number < first + count) ∨
          (first + count ≤ number ∧ number < first + count + further) := by
      omega
    rw [split, ← numbered.complete number, ← after.complete number, lines_append,
      failedLines_append, List.map_append, List.mem_append, List.mem_append]
    exact or_or_or_comm

end Report

namespace Run

/-- Goes on with what `next` comes to against the store that is left, unless there was a failure. -/
def andThen (run : Run Report) (next : Store → Run Report) : Run Report :=
  match run.result with
  | .error _ => run
  | .ok report =>
      let others := next run.store
      ⟨others.result.map (report ++ ·), others.store, run.notices ++ others.notices⟩

theorem andThen_of_error {run : Run Report} {failure : Failure}
    (failed : run.result = .error failure) (next : Store → Run Report) : run.andThen next = run := by
  rw [andThen, failed]

theorem andThen_of_ok {run : Run Report} {report : Report} (ran : run.result = .ok report)
    (next : Store → Run Report) :
    run.andThen next = ⟨(next run.store).result.map (report ++ ·), (next run.store).store,
      run.notices ++ (next run.store).notices⟩ := by
  rw [andThen, ran]

theorem andThen_congr {run : Run Report} {next other : Store → Run Report}
    (same : next run.store = other run.store) : run.andThen next = run.andThen other := by
  rw [andThen, andThen, same]

theorem empty_andThen (store : Store) (next : Store → Run Report) :
    andThen ⟨.ok .empty, store, []⟩ next = next store := by
  rw [andThen_of_ok rfl]
  cases next store with
  | mk result after notices => cases result <;> rfl

theorem andThen_assoc (run : Run Report) (next last : Store → Run Report) :
    (run.andThen next).andThen last = run.andThen fun store => (next store).andThen last := by
  cases ran : run.result with
  | error failure => rw [andThen_of_error ran, andThen_of_error ran, andThen_of_error ran]
  | ok report =>
      rw [andThen_of_ok ran, andThen_of_ok ran]
      cases went : (next run.store).result with
      | error failure =>
          rw [andThen_of_error rfl, andThen_of_error went, went]
      | ok further =>
          rw [andThen_of_ok rfl, andThen_of_ok went]
          simp only [List.append_assoc, Run.mk.injEq, and_true]
          cases (last (next run.store).store).result with
          | error failure => rfl
          | ok others => exact congrArg Except.ok (Report.append_assoc report further others)

end Run

namespace Script

variable {settings : Settings} {number : Nat} {line : Text} {store : Store}

/-- What a line comes to as a run of its own. -/
def reportLine (settings : Settings) (number : Nat) (run : Run LineOutcome) : Run Report :=
  match run.result with
  | .ok outcome => ⟨.ok ⟨[(number, outcome)], []⟩, run.store, run.notices⟩
  | .error failure =>
      if settings.haltOnFailure then ⟨.error (.atLine number failure), run.store, run.notices⟩
      else
        ⟨.ok ⟨[], [.atLine number failure]⟩, run.store,
          run.notices ++ [.lineFailed number failure.message]⟩

theorem reportLine_of_ok {run : Run LineOutcome} {outcome : LineOutcome}
    (ran : run.result = .ok outcome) :
    reportLine settings number run = ⟨.ok ⟨[(number, outcome)], []⟩, run.store, run.notices⟩ := by
  rw [reportLine, ran]

theorem reportLine_halting_of_error {run : Run LineOutcome} {failure : Failure}
    (failed : run.result = .error failure) :
    reportLine settings.halting number run =
      ⟨.error (.atLine number failure), run.store, run.notices⟩ := by
  rw [reportLine, failed]
  rfl

theorem reportLine_goingOn_of_error {run : Run LineOutcome} {failure : Failure}
    (failed : run.result = .error failure) :
    reportLine settings.goingOn number run =
      ⟨.ok ⟨[], [.atLine number failure]⟩, run.store,
        run.notices ++ [.lineFailed number failure.message]⟩ := by
  rw [reportLine, failed]
  rfl

theorem runFrom_cons (settings : Settings) (number : Nat) (line : Text) (later : List Text)
    (store : Store) :
    runFrom settings number (line :: later) store =
      (reportLine settings number (runLine settings line store)).andThen
        (runFrom settings (number + 1) later) := by
  cases ran : (runLine settings line store).result with
  | ok outcome =>
      rw [reportLine_of_ok ran, runFrom]
      simp only [ran]
      rfl
  | error failure =>
      rw [reportLine, runFrom]
      simp only [ran]
      cases settings.haltOnFailure with
      | true => rfl
      | false =>
          simp only [Bool.false_eq_true, if_false, Run.andThen, List.append_assoc, List.cons_append,
            List.nil_append]
          rfl

section

variable {later : List Text}

theorem runFrom_cons_of_ok {outcome : LineOutcome}
    (ran : (runLine settings line store).result = .ok outcome) :
    runFrom settings number (line :: later) store =
      Run.andThen ⟨.ok ⟨[(number, outcome)], []⟩, (runLine settings line store).store,
        (runLine settings line store).notices⟩ (runFrom settings (number + 1) later) := by
  rw [runFrom_cons, reportLine_of_ok ran]

theorem runFrom_halting_cons_of_ok {outcome : LineOutcome}
    (ran : (runLine settings line store).result = .ok outcome) :
    runFrom settings.halting number (line :: later) store =
      Run.andThen ⟨.ok ⟨[(number, outcome)], []⟩, (runLine settings line store).store,
        (runLine settings line store).notices⟩ (runFrom settings.halting (number + 1) later) := by
  have here : (runLine settings.halting line store).result = .ok outcome := ran
  exact runFrom_cons_of_ok here

theorem runFrom_goingOn_cons_of_ok {outcome : LineOutcome}
    (ran : (runLine settings line store).result = .ok outcome) :
    runFrom settings.goingOn number (line :: later) store =
      Run.andThen ⟨.ok ⟨[(number, outcome)], []⟩, (runLine settings line store).store,
        (runLine settings line store).notices⟩ (runFrom settings.goingOn (number + 1) later) := by
  have here : (runLine settings.goingOn line store).result = .ok outcome := ran
  exact runFrom_cons_of_ok here

theorem runFrom_halting_cons_of_error {failure : Failure}
    (failed : (runLine settings line store).result = .error failure) :
    runFrom settings.halting number (line :: later) store =
      ⟨.error (.atLine number failure), store, (runLine settings line store).notices⟩ := by
  have here : (runLine settings.halting line store).result = .error failure := failed
  rw [runFrom_cons, reportLine_halting_of_error here, Run.andThen_of_error rfl,
    store_runLine_of_error here]
  rfl

theorem runFrom_goingOn_cons_of_error {failure : Failure}
    (failed : (runLine settings line store).result = .error failure) :
    runFrom settings.goingOn number (line :: later) store =
      Run.andThen ⟨.ok ⟨[], [.atLine number failure]⟩, store,
        (runLine settings line store).notices ++ [.lineFailed number failure.message]⟩
        (runFrom settings.goingOn (number + 1) later) := by
  have here : (runLine settings.goingOn line store).result = .error failure := failed
  rw [runFrom_cons, reportLine_goingOn_of_error here, store_runLine_of_error here]
  rfl

end

/-- Lines run after other lines as by themselves, if those before them let the script go on. -/
theorem runFrom_append (settings : Settings) (number : Nat) (front back : List Text)
    (store : Store) :
    runFrom settings number (front ++ back) store =
      (runFrom settings number front store).andThen
        (runFrom settings (number + front.length) back) := by
  induction front generalizing number store with
  | nil => exact (Run.empty_andThen store _).symm
  | cons line front induction =>
      have place : number + (line :: front).length = number + 1 + front.length := by
        rw [List.length_cons]
        omega
      rw [List.cons_append, runFrom_cons, runFrom_cons, Run.andThen_assoc, place]
      congr 1
      funext after
      exact induction (number + 1) after

theorem runFrom_congr {texts others : List Text}
    (same : List.Forall₂
      (fun text other => ∀ store, runLine settings other store = runLine settings text store)
      texts others) (number : Nat) (store : Store) :
    runFrom settings number others store = runFrom settings number texts store := by
  induction same generalizing number store with
  | nil => rfl
  | cons here _ induction =>
      rw [runFrom_cons, runFrom_cons, here]
      congr 1
      funext after
      exact induction (number + 1) after

end Script

end LineScript
