import LineScript.Console.Reply
import LineScript.Proofs.Script.Entries
import LineScript.Proofs.Script.Logging
import Mathlib.Data.List.Forall2

/-! The console against the runs of scripts. A script keeps what its lines log; the console takes the
log after each line that succeeds and shows it. Lines come to the same either way. -/

namespace LineScript

open Text

namespace Script

variable {settings : Settings}

theorem runLine_congr_trim {line text : Text} (same : trim line = trim text) (store : Store) :
    runLine settings line store = runLine settings text store := by
  unfold runLine isBlankLine isComment
  rw [same]

/-- Lines that are each ended by a feed are found again, but for blanks around them. -/
theorem forall₂_lines_unlines {texts : List Text} (noFeed : ∀ text ∈ texts, '\n' ∉ text) :
    List.Forall₂ (fun text line => trim line = trim text) texts (lines (unlines texts)) := by
  induction texts with
  | nil => exact .nil
  | cons text later induction =>
      obtain ⟨clean, noFeed⟩ := List.forall_mem_cons.mp noFeed
      obtain ⟨line, alone, same⟩ := exists_line_of_noFeed clean
      rw [unlines_cons, lines_append_feed, alone]
      exact .cons same (induction noFeed)

theorem run_unlines {texts : List Text} (noFeed : ∀ text ∈ texts, '\n' ∉ text)
    (settings : Settings) (store : Store) :
    run settings (unlines texts) store = runFrom settings 1 texts store := by
  unfold run
  apply runFrom_congr
  exact (forall₂_lines_unlines noFeed).imp fun _ _ same => runLine_congr_trim same

end Script

namespace Console

open Script

variable {settings : Settings} {line : Text} {texts : List Text} {store : Store}

/-- What is shown of a line that comes to an outcome. -/
def showOutcome (outcome : LineOutcome) : Text := join ['\n'] outcome.logLines ++ remark outcome

theorem reply_of_plain (plain : (trim line).head? ≠ some ':') :
    reply settings line store =
      match (runLine settings line store).result with
      | .error failure =>
          ⟨.error failure, (runLine settings line store).store,
            (runLine settings line store).notices⟩
      | .ok outcome =>
          ⟨.ok (join ['\n'] (runLine settings line store).store.log ++ remark outcome),
            (runLine settings line store).store.withoutLog,
            (runLine settings line store).notices⟩ := by
  unfold reply
  split
  · rename_i begins
    rw [begins] at plain
    exact absurd rfl plain
  · rfl

/-- Where nothing waits to be shown, a line that is no command comes to what it comes to in a script,
and nothing waits after it either. -/
theorem reply_withoutLog (plain : (trim line).head? ≠ some ':') (settings : Settings)
    (store : Store) :
    reply settings line store.withoutLog =
      ⟨(runLine settings line store).result.map showOutcome,
        (runLine settings line store).store.withoutLog,
        (runLine settings line store).notices⟩ := by
  have drained := runLine_withLog settings line store []
  rw [reply_of_plain plain, show store.withoutLog = store.withLog [] from rfl, drained]
  cases ran : (runLine settings line store).result with
  | error failure =>
      unfold Run.afterLog Run.logLines
      rw [ran]
      rfl
  | ok outcome =>
      unfold Run.afterLog Run.logLines
      rw [ran]
      rfl

/-- The store after lines that are replied to one after the other. -/
def storeAfter (settings : Settings) (texts : List Text) (store : Store) : Store :=
  texts.foldl (fun reached line => (reply settings line reached).store) store

theorem storeAfter_withoutLog (plain : ∀ line ∈ texts, (trim line).head? ≠ some ':')
    (settings : Settings) (number : Nat) (store : Store) :
    storeAfter settings texts store.withoutLog =
      (runFrom settings.goingOn number texts store).store.withoutLog := by
  induction texts generalizing number store with
  | nil => rfl
  | cons line later induction =>
      obtain ⟨here, after⟩ := List.forall_mem_cons.mp plain
      have step : storeAfter settings (line :: later) store.withoutLog =
          storeAfter settings later (runLine settings line store).store.withoutLog := by
        unfold storeAfter
        rw [List.foldl_cons, reply_withoutLog here]
      rw [step, induction after (number + 1), runFrom_cons,
        Run.andThen_of_ok (result_reportLine_goingOn settings number _), store_reportLine]
      rfl

/-- A reply to the line of this number goes by what the report says of the line, and leaves nothing to
be shown after another line. -/
structure Follows (report : Report) (number : Nat) (line : Text) (answer : Run Text) : Prop where
  failure : ∀ cause, answer.result = .error cause ↔ .atLine number cause ∈ report.failures
  unwritten : ∀ statement outcome, (number, .executed statement outcome) ∈ report.lines →
    outcome.written = none → answer.result = .ok (statement.logLine outcome)
  written : ∀ statement outcome partition name,
    (number, .executed statement outcome) ∈ report.lines →
      outcome.written = some ⟨partition, name⟩ →
        answer.result = .ok (statement.logLine outcome ++ '\n' :: partition.token ++ " ".toList ++
          name ++ " = ".toList ++ outcome.result.write)
  skipped : ∀ statement, (number, .skipped statement) ∈ report.lines →
    answer.result = .ok ("skipped disabled statement ".toList ++ statement.label)
  passive : isPassive line = true → answer.result = .ok []
  drained : answer.store.log = []

theorem showOutcome_passiveOutcome (line : Text) : showOutcome (passiveOutcome line) = [] := by
  unfold passiveOutcome
  split <;> rfl

theorem follows_report {before later : List Text} {report : Report}
    (ran : (runFrom settings.goingOn 1 (before ++ line :: later) store).result = .ok report)
    (plain : (trim line).head? ≠ some ':') :
    Follows report (before.length + 1) line
      (reply settings line (runFrom settings.goingOn 1 before store).store.withoutLog) := by
  rw [Nat.add_comm, reply_withoutLog plain]
  obtain ⟨outcomes, failures⟩ := mem_report_iff ran
  constructor
  case failure =>
    intro cause
    rw [failures]
    exact map_eq_error_iff
  case unwritten =>
    intro statement outcome member unbound
    refine map_eq_ok_iff.mpr ⟨_, (outcomes _).mp member, ?_⟩
    unfold showOutcome remark
    dsimp only
    rw [unbound]
    exact List.append_nil _
  case written =>
    intro statement outcome partition name member bound
    refine map_eq_ok_iff.mpr ⟨_, (outcomes _).mp member, ?_⟩
    unfold showOutcome remark
    dsimp only
    rw [bound]
    simp [LineOutcome.logLines, join]
  case skipped =>
    intro statement member
    exact map_eq_ok_iff.mpr ⟨_, (outcomes _).mp member, rfl⟩
  case passive =>
    intro passive
    refine map_eq_ok_iff.mpr ⟨passiveOutcome line, ?_, showOutcome_passiveOutcome line⟩
    rw [runLine_eq, readLine_of_passive passive]
  case drained => rfl

/-- Lines that are no commands come to the same whether the console replies to them one after the other
or a script runs them and goes on after failures. Each reply goes by the report of that script. -/
theorem console_follows_script (noFeed : ∀ line ∈ texts, '\n' ∉ line)
    (plain : ∀ line ∈ texts, (trim line).head? ≠ some ':') (drained : store.log = [])
    (settings : Settings) :
    ∃ report, (run settings.goingOn (unlines texts) store).result = .ok report ∧
      storeAfter settings texts store =
        (run settings.goingOn (unlines texts) store).store.withoutLog ∧
      ∀ before line later, texts = before ++ line :: later →
        Follows report (before.length + 1) line
          (reply settings line (storeAfter settings before store)) := by
  have nothingWaits : store.withoutLog = store := by
    unfold Store.withoutLog
    rw [← drained]
  obtain ⟨report, ran, _⟩ := exists_report_goingOn settings 1 texts store
  rw [run_unlines noFeed]
  refine ⟨report, ran, ?_, ?_⟩
  · rw [← storeAfter_withoutLog plain, nothingWaits]
  · rintro before line later rfl
    rw [List.forall_mem_append, List.forall_mem_cons] at plain
    obtain ⟨plainBefore, plainHere, _⟩ := plain
    have reached := storeAfter_withoutLog plainBefore settings 1 store
    rw [nothingWaits] at reached
    rw [reached]
    exact follows_report ran plainHere

/-- A line that binds, which keeps half a line ending, and a comment. -/
def beforeRefusal : List Text := ["SUM \"1\" \"2\" -> CAP \"A\"\r".toList, " ## twice".toList]

/-- A line that is read, but fails. -/
def refused : Text := "SUM \"<A>\" \"x\"".toList

/-- A line to be skipped, and one that goes by the binding. -/
def afterRefusal : List Text :=
  ["!#off SUM \"<A>\" \"1\"".toList, "\tSUBTRACT \"<A>\" \"4\"".toList]

theorem console_follows_script_refusal :
    (∀ line ∈ beforeRefusal ++ refused :: afterRefusal, '\n' ∉ line) ∧
      (∀ line ∈ beforeRefusal ++ refused :: afterRefusal, (trim line).head? ≠ some ':') ∧
      ∃ report,
        (run (Settings.goingOn {}) (unlines (beforeRefusal ++ refused :: afterRefusal)) .empty).result =
          .ok report ∧
        report.lines.map Prod.fst = [1, 2, 4, 5] ∧ report.failedLines = [3] ∧
        storeAfter {} (beforeRefusal ++ refused :: afterRefusal) .empty =
          Store.empty.set ['A'] (.text ['3']) .capture ∧
        Follows report 3 refused (reply {} refused (storeAfter {} beforeRefusal .empty)) := by
  have noFeed : ∀ line ∈ beforeRefusal ++ refused :: afterRefusal, '\n' ∉ line := by
    decide
  have plain : ∀ line ∈ beforeRefusal ++ refused :: afterRefusal,
      (trim line).head? ≠ some ':' := by
    decide
  have empty : Store.empty.log = [] := rfl
  obtain ⟨report, ran, left, follows⟩ := console_follows_script noFeed plain empty {}
  have places : ((run (Settings.goingOn {}) (unlines (beforeRefusal ++ refused :: afterRefusal))
      .empty).result.map fun report => (report.lines.map Prod.fst, report.failedLines)) =
        .ok ([1, 2, 4, 5], [3]) := by
    decide +kernel
  rw [ran] at places
  obtain ⟨outcomes, failures⟩ := Prod.mk.inj (Except.ok.inj places)
  exact ⟨noFeed, plain, report, ran, outcomes, failures, left.trans (by decide +kernel),
    follows beforeRefusal refused afterRefusal rfl⟩

end Console

end LineScript
