import LineScript.Proofs.Script.Halting

namespace LineScript

namespace Report

variable {report : Report} {first count number : Nat}

theorem Numbered.place_of_outcome (numbered : report.Numbered first count) {outcome : LineOutcome}
    (member : (number, outcome) ∈ report.lines) : first ≤ number ∧ number < first + count := by
  apply (numbered.complete number).mp
  exact .inl (List.mem_map.mpr ⟨(number, outcome), member, rfl⟩)

theorem Numbered.place_of_failure (numbered : report.Numbered first count) {cause : Failure}
    (member : .atLine number cause ∈ report.failures) :
    first ≤ number ∧ number < first + count := by
  apply (numbered.complete number).mp
  exact .inr (List.mem_filterMap.mpr ⟨.atLine number cause, member, rfl⟩)

/-- The entry of a line by itself. -/
def ofLine (number : Nat) : Except Failure LineOutcome → Report
  | .ok outcome => ⟨[(number, outcome)], []⟩
  | .error failure => ⟨[], [.atLine number failure]⟩

theorem mem_lines_ofLine {result : Except Failure LineOutcome} {outcome : LineOutcome} :
    (number, outcome) ∈ (ofLine number result).lines ↔ result = .ok outcome := by
  cases result <;> simp [ofLine, eq_comm]

theorem mem_failures_ofLine {result : Except Failure LineOutcome} {cause : Failure} :
    .atLine number cause ∈ (ofLine number result).failures ↔ result = .error cause := by
  cases result <;> simp [ofLine, eq_comm]

/-- Of a line between others the entry stands between theirs. -/
theorem mem_between_iff {before after : Report} {further : Nat}
    (numberedBefore : before.Numbered first count) (between : Report)
    (numberedAfter : after.Numbered (first + count + 1) further) :
    (∀ outcome, (first + count, outcome) ∈ (before ++ (between ++ after)).lines ↔
        (first + count, outcome) ∈ between.lines) ∧
      ∀ cause, .atLine (first + count) cause ∈ (before ++ (between ++ after)).failures ↔
        .atLine (first + count) cause ∈ between.failures := by
  simp only [lines_append, failures_append, List.mem_append]
  constructor
  · intro outcome
    constructor
    · rintro (early | here | late)
      · exact absurd (numberedBefore.place_of_outcome early).2 (Nat.lt_irrefl _)
      · exact here
      · exact absurd (numberedAfter.place_of_outcome late).1 (Nat.not_succ_le_self _)
    · exact fun here => .inr (.inl here)
  · intro cause
    constructor
    · rintro (early | here | late)
      · exact absurd (numberedBefore.place_of_failure early).2 (Nat.lt_irrefl _)
      · exact here
      · exact absurd (numberedAfter.place_of_failure late).1 (Nat.not_succ_le_self _)
    · exact fun here => .inr (.inl here)

end Report

namespace Script

variable {settings : Settings} {number : Nat} {line : Text} {before later : List Text}
  {store : Store} {report : Report}

theorem result_reportLine_goingOn (settings : Settings) (number : Nat) (run : Run LineOutcome) :
    (reportLine settings.goingOn number run).result = .ok (.ofLine number run.result) := by
  cases ran : run.result with
  | ok outcome =>
      rw [reportLine_of_ok ran]
      rfl
  | error failure =>
      rw [reportLine_goingOn_of_error ran]
      rfl

theorem store_reportLine (settings : Settings) (number : Nat) (run : Run LineOutcome) :
    (reportLine settings number run).store = run.store := by
  unfold reportLine
  split
  · rfl
  · split <;> rfl

/-- Going on, a report has the outcome of a line, or its failure, exactly if the line comes to that. -/
theorem mem_report_iff
    (ran : (runFrom settings.goingOn number (before ++ line :: later) store).result = .ok report) :
    (∀ outcome, (number + before.length, outcome) ∈ report.lines ↔
        (runLine settings line (runFrom settings.goingOn number before store).store).result =
          .ok outcome) ∧
      ∀ cause, .atLine (number + before.length) cause ∈ report.failures ↔
        (runLine settings line (runFrom settings.goingOn number before store).store).result =
          .error cause := by
  obtain ⟨early, passed, numberedBefore⟩ := exists_report_goingOn settings number before store
  rw [runFrom_append, Run.andThen_of_ok passed, runFrom_cons] at ran
  generalize (runFrom settings.goingOn number before store).store = reached at ran ⊢
  have same : runLine settings.goingOn line reached = runLine settings line reached := rfl
  rw [same] at ran
  generalize runLine settings line reached = run at ran ⊢
  have reported := result_reportLine_goingOn settings (number + before.length) run
  obtain ⟨others, went, numberedAfter⟩ :=
    exists_report_goingOn settings (number + before.length + 1) later run.store
  rw [Run.andThen_of_ok reported, store_reportLine, went] at ran
  obtain rfl := Except.ok.inj ran
  obtain ⟨outcomes, failures⟩ := Report.mem_between_iff numberedBefore
    (.ofLine (number + before.length) run.result) numberedAfter
  exact ⟨fun outcome => (outcomes outcome).trans Report.mem_lines_ofLine,
    fun cause => (failures cause).trans Report.mem_failures_ofLine⟩

end Script

end LineScript
