import LineScript.Proofs.CommandLine.Pieces
import LineScript.Proofs.Script.Running
import LineScript.Proofs.Store.Snapshot

namespace LineScript.Program

open Text Script

section

variable {settings : Settings} {store : Store} {log : List Text}

/-- A run ends well exactly if no piece is left. -/
def EndsAs (rest : List Piece) : Except Failure Report → Prop
  | .ok _ => rest = []
  | .error failure => rest ≠ [] ∧ failure ≠ .brokenLine

/-- The run does the work up to the piece that stops it, where so much was logged before. -/
def Performs (settings : Settings) (store : Store) (log : List Text) (pieces : List Piece)
    (run : Run Report) : Prop :=
  ∃ done rest, Cut settings store pieces done rest ∧
    run.store = (reached settings done store).withLog (log ++ shownLines settings done store) ∧
    EndsAs rest run.result

theorem performs_nil (settings : Settings) (store : Store) (log : List Text) :
    Performs settings store log [] ⟨.ok .empty, store.withLog log, []⟩ :=
  ⟨[], [], .nil, congrArg store.withLog (List.append_nil log).symm, rfl⟩

theorem Performs.andThen {front back : List Piece} {run : Run Report} {next : Store → Run Report}
    (performs : Performs settings store log front run)
    (further : ∀ store log, Performs settings store log back (next (store.withLog log))) :
    Performs settings store log (front ++ back) (run.andThen next) := by
  obtain ⟨done, rest, cut, left, ends⟩ := performs
  cases ran : run.result with
  | error failure =>
      rw [ran] at ends
      rw [Run.andThen_of_error ran]
      refine ⟨done, rest ++ back, cut.append_right ends.1 back, left, ?_⟩
      rw [ran]
      exact ⟨List.append_ne_nil_of_left_ne_nil ends.1 back, ends.2⟩
  | ok report =>
      rw [ran] at ends
      obtain rfl : rest = [] := ends
      obtain ⟨more, rest, later, leftLater, endsLater⟩ :=
        further (reached settings done store) (log ++ shownLines settings done store)
      rw [← left] at leftLater endsLater
      rw [Run.andThen_of_ok ran]
      refine ⟨done ++ more, rest, cut.append later, ?_, ?_⟩
      · rw [reached_append, shownLines_append, ← List.append_assoc]
        exact leftLater
      · cases went : (next run.store).result with
        | error failure =>
            rw [went] at endsLater
            exact endsLater
        | ok others =>
            rw [went] at endsLater
            exact endsLater

theorem shownLines_line (settings : Settings) (text : Text) (store : Store) :
    shownLines settings [.line text] store = (runLine settings text store).logLines := by
  simp only [shownLines, executions, Piece.executed?, Run.logLines, List.append_nil]
  cases (runLine settings text store).result with
  | error failure => rfl
  | ok outcome => cases outcome <;> rfl

theorem performs_line (settings : Settings) (number : Nat) (text : Text) (store : Store)
    (log : List Text) :
    Performs settings store log [.line text]
      (reportLine settings number (runLine settings text (store.withLog log))) := by
  rw [runLine_withLog]
  have left : ((runLine settings text store).afterLog log).store =
      (reached settings [.line text] store).withLog
        (log ++ shownLines settings [.line text] store) := by
    rw [shownLines_line]
    rfl
  have whole (passes : ¬ (Piece.line text).Stops settings store) :
      Cut settings store [.line text] [.line text] [] := .cons passes .nil
  cases ran : (runLine settings text store).result with
  | ok outcome =>
      have here : ((runLine settings text store).afterLog log).result = .ok outcome := ran
      rw [reportLine_of_ok here]
      refine ⟨[.line text], [], whole ?_, left, rfl⟩
      rintro ⟨_, failure, failed⟩
      rw [ran] at failed
      cases failed
  | error failure =>
      have here : ((runLine settings text store).afterLog log).result = .error failure := ran
      unfold reportLine
      rw [here]
      dsimp only
      split
      · -- A line that fails leaves the store as it was, so nothing of it is shown.
        rename_i halts
        have stops : (Piece.line text).Stops settings store := ⟨halts, failure, ran⟩
        refine ⟨[], [.line text], .of_stops stops [], ?_, List.cons_ne_nil _ _, nofun⟩
        unfold Run.afterLog Run.logLines
        rw [ran, store_runLine_of_error ran]
        rfl
      · rename_i goesOn
        exact ⟨[.line text], [], whole fun stops => goesOn stops.1, left, rfl⟩

theorem performs_lines (settings : Settings) (number : Nat) (texts : List Text) (store : Store)
    (log : List Text) :
    Performs settings store log (texts.map .line)
      (runFrom settings number texts (store.withLog log)) := by
  induction texts generalizing number store log with
  | nil => exact performs_nil settings store log
  | cons text later induction =>
      rw [runFrom_cons]
      exact (performs_line settings number text store log).andThen (induction (number + 1))

theorem performs_file (settings : Settings) (folder : Folder) (name : Text) (store : Store)
    (log : List Text) :
    Performs settings store log (filePieces folder name)
      (runFile settings name (folder.read name) (store.withLog log)) := by
  have stops : (Piece.unreadable name).Stops settings store := trivial
  have unread (failure : Failure) (other : failure ≠ .brokenLine) :
      Performs settings store log [.unreadable name] ⟨.error failure, store.withLog log, []⟩ :=
    ⟨[], [.unreadable name], .of_stops stops [],
      congrArg store.withLog (List.append_nil log).symm, List.cons_ne_nil _ _, other⟩
  unfold filePieces readSource runFile
  cases folder.read name with
  | error fault => exact unread _ nofun
  | ok bytes =>
      dsimp only
      cases ofUtf8? bytes with
      | none => exact unread _ nofun
      | some source => exact performs_lines settings 1 (lines source) store log

theorem output_append (transcript other : Transcript) :
    Transcript.output (transcript ++ other) = transcript.output ++ other.output :=
  List.flatMap_append

theorem output_notices (notices : List Notice) :
    Transcript.output (notices.map .notice) = [] := by
  induction notices with
  | nil => rfl
  | cons notice later induction => exact induction

theorem output_warnings (name : Text) (failures : List Failure) :
    Transcript.output (failures.map (warning name)) = [] := by
  induction failures with
  | nil => rfl
  | cons failure later induction => exact induction

/-- What is shown of a run: notices are kept off the output, log lines are not. -/
theorem output_shown (notices : List Notice) (texts : List Text) :
    Transcript.output (notices.map .notice ++ texts.map fun line => .output (line ++ ['\n'])) =
      unlines texts := by
  rw [output_append, output_notices, List.nil_append]
  unfold Transcript.output unlines
  rw [List.flatMap_map]

/-- The files end without a fault exactly if no piece is left. -/
def EndsWith (rest : List Piece) : Option Fault → Prop
  | none => rest = []
  | some fault => rest ≠ [] ∧ fault ≠ .failure .brokenLine

/-- Each file is shown when it ends, and the next one begins with nothing left to be shown. -/
theorem exists_cut_runFiles (settings : Settings) (folder : Folder) (files : List Text)
    (drained : store.log = []) :
    ∃ done rest, Cut settings store (pieces folder files) done rest ∧
      (runFiles settings folder files store).store = reached settings done store ∧
      Transcript.output (runFiles settings folder files store).transcript =
        unlines (shownLines settings done store) ∧
      EndsWith rest (runFiles settings folder files store).fault := by
  induction files generalizing store with
  | nil => exact ⟨[], [], .nil, rfl, rfl, rfl⟩
  | cons name later induction =>
      have nothingWaits : store.withLog [] = store := Store.withoutLog_of_drained drained
      obtain ⟨done, rest, cut, left, ends⟩ := performs_file settings folder name store []
      rw [nothingWaits, List.nil_append] at left
      rw [nothingWaits] at ends
      have drainedAfter := log_reached drained settings done
      have bindings : (runFile settings name (folder.read name) store).store.withoutLog =
          reached settings done store := by
        rw [left]
        exact Store.withoutLog_of_drained drainedAfter
      have shown : (runFile settings name (folder.read name) store).store.log =
          shownLines settings done store := by
        rw [left]
        rfl
      have both : pieces folder (name :: later) = filePieces folder name ++ pieces folder later := rfl
      rw [both, runFiles]
      dsimp only
      -- The log of the file is shown before its result is looked at, so it is shown in both cases.
      cases ran : (runFile settings name (folder.read name) store).result with
      | error failure =>
          rw [ran] at ends
          refine ⟨done, rest ++ pieces folder later, cut.append_right ends.1 _, bindings, ?_, ?_⟩
          · rw [output_shown, shown]
          · refine ⟨List.append_ne_nil_of_left_ne_nil ends.1 _, ?_⟩
            intro same
            exact ends.2 (Fault.failure.inj same)
      | ok report =>
          rw [ran] at ends
          obtain rfl : rest = [] := ends
          obtain ⟨more, rest, further, leftLater, shownLater, endsLater⟩ := induction drainedAfter
          rw [← bindings] at leftLater shownLater endsLater
          refine ⟨done ++ more, rest, cut.append further, ?_, ?_, endsLater⟩
          · rw [reached_append, ← bindings]
            exact leftLater
          · have silent (notice : Notice) (transcript : Transcript) :
                Transcript.output (.notice notice :: transcript) = transcript.output := rfl
            rw [output_append, output_append, output_shown, output_warnings, silent, shownLater, shown,
              bindings, shownLines_append]
            unfold unlines
            rw [List.flatMap_append, List.append_nil]

end

/-- The arguments ask for a batch that starts from this store and saves to a path that can be written,
and for nothing that takes its place or shows more. -/
structure SavesBatch (input : Input) (invocation : Invocation) (loaded : Store) (path : Text) :
    Prop where
  asked : Invocation.read input.arguments = .ok invocation
  runs : invocation.mode = .run
  batch : invocation.batch = true
  noHelp : invocation.help = false
  noVersion : invocation.version = false
  noDump : invocation.dump = false
  loads : loadStore input.folder invocation.loadFrom = .ok loaded
  saves : invocation.saveTo = some path
  writable : input.folder.writeFault? path = none

variable {input : Input} {invocation : Invocation} {loaded : Store} {path : Text}

theorem log_loadStore {folder : Folder} {source : Option Text}
    (loads : loadStore folder source = .ok loaded) : loaded.log = [] := by
  unfold loadStore at loads
  split at loads
  · cases loads
    rfl
  · split at loads
    · cases loads
    · split at loads
      · rename_i restored
        cases loads
        exact Store.log_eq_nil_of_ofSnapshot? restored
      · cases loads

theorem log_bindAll (bindings : List Invocation.Binding) (store : Store) :
    (bindAll bindings store).log = store.log := by
  induction bindings generalizing store with
  | nil => rfl
  | cons binding later induction =>
      exact (induction _).trans (store.log_set binding.name _ binding.partition)

theorem perform_of_savesBatch (asks : SavesBatch input invocation loaded path) {files : FilesRun}
    (ran : runFiles (settings invocation) input.folder invocation.files
      (bindAll invocation.bindings loaded) = files) :
    perform input invocation =
      (files.transcript, ⟨files.fault, some (path, files.store.toSnapshot)⟩) := by
  have scripts : perform input invocation =
      runScripts input invocation (bindAll invocation.bindings loaded) := by
    unfold perform
    rw [asks.noHelp, asks.noVersion, asks.loads, asks.runs]
    rfl
  have ended (store : Store) (fault : Option Fault) :
      finish input invocation store fault = ⟨fault, some (path, store.toSnapshot)⟩ := by
    unfold finish save
    rw [asks.saves]
    dsimp only
    rw [asks.writable]
  have nothingMore (transcript : Transcript) (store : Store) :
      transcript ++ (if invocation.dump then [.output (dump store)] else []) = transcript := by
    rw [asks.noDump]
    exact List.append_nil transcript
  rw [scripts]
  unfold runScripts
  dsimp only
  rw [ran, asks.batch, Bool.or_true, if_pos rfl, ended, nothingMore]

theorem run_of_savesBatch (asks : SavesBatch input invocation loaded path) {files : FilesRun}
    (ran : runFiles (settings invocation) input.folder invocation.files
      (bindAll invocation.bindings loaded) = files) :
    (run input).fault = files.fault ∧
      (run input).standardOutput = Transcript.output files.transcript ∧
      (run input).saved = some (path, files.store.toSnapshot) := by
  have silent : Transcript.output (files.fault.toList.map fun fault =>
      .complaint (Console.complain fault.message)) = [] := by
    cases files.fault <;> rfl
  unfold Result.standardOutput run
  rw [asks.asked]
  dsimp only
  rw [perform_of_savesBatch asks ran]
  refine ⟨rfl, ?_, rfl⟩
  rw [output_append, silent, List.append_nil]

theorem exitCode_of_endsWith {result : Result} {rest : List Piece}
    (ends : EndsWith rest result.fault) : result.exitCode = if rest.isEmpty then 0 else 1 := by
  unfold Result.exitCode
  split
  · rename_i fine
    rw [fine] at ends
    rw [show rest = [] from ends]
    rfl
  · rename_i broken
    rw [broken] at ends
    exact absurd rfl ends.2
  · rename_i fault _ failed
    rw [failed] at ends
    rw [if_neg (mt List.isEmpty_iff.mp ends.1)]

/-- A batch works through its files up to the first piece that stops it. It shows the log lines of
the statements executed before that, one to a line, saves what the store then binds, and fails if
there is such a piece. -/
theorem batch_saves_what_it_shows (asks : SavesBatch input invocation loaded path) :
    ∃ done rest,
      Cut (settings invocation) (bindAll invocation.bindings loaded)
        (pieces input.folder invocation.files) done rest ∧
      (run input).standardOutput =
        unlines (shownLines (settings invocation) done (bindAll invocation.bindings loaded)) ∧
      (∃ bytes, (run input).saved = some (path, bytes) ∧
        ((reached (settings invocation) done (bindAll invocation.bindings loaded)).Fits →
          Store.ofSnapshot? bytes =
            some (reached (settings invocation) done (bindAll invocation.bindings loaded)))) ∧
      (run input).exitCode = if rest.isEmpty then 0 else 1 := by
  have drained : (bindAll invocation.bindings loaded).log = [] :=
    (log_bindAll _ _).trans (log_loadStore asks.loads)
  obtain ⟨done, rest, cut, left, shown, ends⟩ :=
    exists_cut_runFiles (settings invocation) input.folder invocation.files drained
  obtain ⟨fault, output, saved⟩ := run_of_savesBatch asks rfl
  rw [← fault] at ends
  rw [left] at saved
  refine ⟨done, rest, cut, output.trans shown, ⟨_, saved, ?_⟩, exitCode_of_endsWith ends⟩
  intro fits
  rw [Store.ofSnapshot?_toSnapshot fits, Store.withoutLog_of_drained]
  exact log_reached drained (settings invocation) done

def beforeGap : List Text :=
  ["SUM \"<X>\" \"2\" -> VAR \"X\"".toList, "SUM \"<X>\" \"Y\"".toList,
    "MULTIPLY \"<X>\" \"<X>\" -> CAP \"Y\"".toList]

/-- A folder with two scripts, of which the first has a line that fails. -/
def gapped : Folder where
  read name :=
    if name = "a".toList then .ok (utf8 (unlines beforeGap))
    else if name = "c".toList then .ok (utf8 "SUM \"<X>\" \"1\"".toList)
    else .error .missing
  writeFault? _ := none

/-- A batch that goes on after lines that fail, but not after the file that is missing. -/
def acrossGap : Input where
  arguments :=
    ["-b", "--keep-going", "--set", "X=4", "a", "b", "c", "--snapshot", "out"].map String.toList
  folder := gapped
  standardInput := []
  logLevel := none

theorem batch_saves_what_it_shows_gapped :
    ∃ invocation, SavesBatch acrossGap invocation .empty "out".toList ∧
      (run acrossGap).standardOutput = "Sum: 4 + 2 = 6\nMultiply: 6 * 6 = 36\n".toList ∧
      (∃ bytes, (run acrossGap).saved = some ("out".toList, bytes) ∧
        Store.ofSnapshot? bytes = some
          ((Store.empty.set ['X'] (.text ['6']) .ordinary).set ['Y'] (.text "36".toList) .capture)) ∧
      (run acrossGap).exitCode = 1 := by
  let invocation : Invocation :=
    { files := [['a'], ['b'], ['c']], batch := true, keepGoing := true, saveTo := some "out".toList,
      bindings := [⟨.ordinary, ['X'], ['4']⟩] }
  have asks : SavesBatch acrossGap invocation .empty "out".toList :=
    ⟨by decide, rfl, rfl, rfl, rfl, rfl, rfl, rfl, rfl⟩
  have whole : pieces gapped invocation.files =
      beforeGap.map .line ++ filePieces gapped ['b'] ++ filePieces gapped ['c'] := by
    decide +kernel
  obtain ⟨done, rest, cut, shown, ⟨bytes, saved, restored⟩, status⟩ := batch_saves_what_it_shows asks
  have goesOn (text : Text) (store : Store) :
      ¬ (Piece.line text).Stops (settings invocation) store := fun stops => nomatch stops.1
  have here : Cut (settings invocation) (bindAll invocation.bindings .empty)
      (pieces gapped invocation.files) (beforeGap.map .line)
      (filePieces gapped ['b'] ++ filePieces gapped ['c']) := by
    refine ⟨whole.trans (List.append_assoc _ _ _), ?_, ?_⟩
    · exact ⟨goesOn _ _, goesOn _ _, goesOn _ _, trivial⟩
    · rintro _ ⟨⟩
      trivial
  obtain ⟨rfl, rfl⟩ := cut.unique here
  have lines : shownLines (settings invocation) (beforeGap.map .line)
      (bindAll invocation.bindings .empty) =
        ["Sum: 4 + 2 = 6".toList, "Multiply: 6 * 6 = 36".toList] := by
    decide +kernel
  have left : reached (settings invocation) (beforeGap.map .line)
      (bindAll invocation.bindings .empty) =
        (Store.empty.set ['X'] (.text ['6']) .ordinary).set ['Y'] (.text "36".toList) .capture := by
    decide +kernel
  rw [lines] at shown
  rw [left] at restored
  exact ⟨invocation, asks, shown, ⟨bytes, saved, restored (by decide)⟩, status⟩

end LineScript.Program
