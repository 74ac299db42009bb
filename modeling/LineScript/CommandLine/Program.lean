import LineScript.CommandLine.Invocation
import LineScript.Console.Dialogue
import LineScript.Console.Erasing
import LineScript.Script.Check
import LineScript.Store.Snapshot

/-!
The program as a function of what it is given: its arguments, the folder it works in, its standard
input and the log level asked for. Files are run first, in order; then the console takes over,
unless the run is a batch; the store is saved at the end, and also when a file failed.
-/

namespace LineScript

open MessagePack

structure Folder where
  read : Text → Except FileFault Bytes
  /-- Why a file of that name could not be written, if so. -/
  writeFault? : Text → Option FileFault

namespace Program

inductive Fault where
  | invocation (fault : Invocation.Fault)
  | file (fault : FileFault)
  | failure (failure : Failure)
  deriving DecidableEq

def Fault.message : Fault → Text
  | invocation cause => cause.message
  | file cause => cause.message
  | failure cause => cause.message

structure Input where
  arguments : List Text
  folder : Folder
  standardInput : Bytes
  /-- The name of a level that replaces the one the arguments ask for. -/
  logLevel : Option Text

structure Result where
  fault : Option Fault
  transcript : Transcript
  threshold : Notice.Threshold
  saved : Option (Text × Bytes)

def versionText : Text := "blockscript 0.1.0\n".toList

def helpText : Text :=
  ("\x1b[1mblockscript\x1b[0m - Run, check, and format blockscript statements\n\n" ++
    "\x1b[1mUSAGE:\x1b[0m\n" ++
    "    blockscript [OPTIONS] [FILES...]\n\n" ++
    "\x1b[1mARGUMENTS:\x1b[0m\n" ++
    "    [FILES...]    Scripts to run before starting the REPL\n\n" ++
    "\x1b[1mOPTIONS:\x1b[0m\n" ++
    "    -h, --help               Print help information\n" ++
    "    -V, --version            Print version information\n" ++
    "    -b, --batch              Run files and exit (no REPL)\n" ++
    "    -v, --verbose            Debug logging (RUST_LOG overrides)\n" ++
    "    --check                  Parse files without running them\n" ++
    "    --fmt                    Print files in canonical form\n" ++
    "    --strict                 Reject trailing text after a statement\n" ++
    "    --run-disabled           Execute statements marked with !\n" ++
    "    --keep-going             Report failing lines and continue\n" ++
    "    --set NAME=VALUE         Bind a variable before running\n" ++
    "    --capture NAME=VALUE     Bind a capture before running\n" ++
    "    --load-snapshot PATH     Start from a saved store\n" ++
    "    --snapshot PATH          Save the store on exit\n" ++
    "    --dump                   Print all bindings after running files\n\n" ++
    "\x1b[1mEXAMPLES:\x1b[0m\n" ++
    "    blockscript                          Start interactive REPL\n" ++
    "    blockscript -b calc.bs               Run calc.bs and exit\n" ++
    "    blockscript --set X=4 -b calc.bs     Run with X bound to 4\n" ++
    "    blockscript --fmt calc.bs            Print calc.bs canonically\n\n" ++
    "\x1b[1mSTATEMENTS:\x1b[0m\n" ++
    "    [!][#label] SUM|SUBTRACT|MULTIPLY \"a\" \"b\" [-> VAR|CAP \"name\"]\n" ++
    "    ## comment\n").toList

def threshold (verbose : Bool) (logLevel : Option Text) : Notice.Threshold :=
  match logLevel.bind Notice.Threshold.ofName? with
  | some asked => asked
  | none => if verbose then some .detail else some .warning

def settings (invocation : Invocation) : Settings where
  strict := invocation.strict
  skipDisabled := !invocation.runDisabled
  haltOnFailure := !invocation.keepGoing

def loadStore (folder : Folder) : Option Text → Except Fault Store
  | none => .ok .empty
  | some path =>
      match folder.read path with
      | .error fault => .error (.file fault)
      | .ok bytes =>
          match Store.ofSnapshot? bytes with
          | some store => .ok store
          | none => .error (.failure (.snapshot "the bytes are not a snapshot".toList))

def bindAll (bindings : List Invocation.Binding) (store : Store) : Store :=
  bindings.foldl
    (fun store binding => store.set binding.name (.text binding.content) binding.partition) store

def readSource (folder : Folder) (name : Text) : Except Fault Text :=
  match folder.read name with
  | .error fault => .error (.file fault)
  | .ok bytes =>
      match Text.ofUtf8? bytes with
      | some source => .ok source
      | none => .error (.file .notText)

def checkFile (settings : Settings) (folder : Folder) (name : Text) : Except Fault Text := do
  let source ← readSource folder name
  let statements ← (Script.check settings source).mapError .failure
  return name ++ ": ".toList ++ Numeral.ofNat statements.length ++ " statements ok\n".toList

def formatFile (settings : Settings) (folder : Folder) (name : Text) : Except Fault Text := do
  let source ← readSource folder name
  (Script.format settings source).mapError .failure

/-- What the files come to one after another, up to the first fault. -/
def outputEach (output : Text → Except Fault Text) : List Text → Transcript × Option Fault
  | [] => ([], none)
  | name :: later =>
      match output name with
      | .error fault => ([], some fault)
      | .ok text =>
          let (transcript, fault) := outputEach output later
          (.output text :: transcript, fault)

def warning (name : Text) (failure : Failure) : Emission :=
  .complaint ("\x1b[33mWarning: ".toList ++ name ++ ": ".toList ++ failure.message ++
    "\x1b[0m\n".toList)

structure FilesRun where
  fault : Option Fault
  store : Store
  transcript : Transcript

/-- Runs the files in order. The log lines of a file are shown when it ends, also by a failure. -/
def runFiles (settings : Settings) (folder : Folder) : List Text → Store → FilesRun
  | [], store => ⟨none, store, []⟩
  | name :: later, store =>
      let run := Script.runFile settings name (folder.read name) store
      let shown := run.notices.map .notice ++ run.store.log.map fun line => .output (line ++ ['\n'])
      match run.result with
      | .error failure => ⟨some (.failure failure), run.store.withoutLog, shown⟩
      | .ok report =>
          let others := runFiles settings folder later run.store.withoutLog
          { others with
            transcript :=
              shown ++ report.failures.map (warning name) ++
                .notice (.fileFinished name report.executedCount report.skippedCount) ::
                others.transcript }

def dumpBindings (bindings : NameMap Value) : Text :=
  bindings.entries.flatMap fun (name, value) =>
    let shown := match value with
      | .text content => Text.quoted content
      | .list _ => value.display
    "  ".toList ++ name ++ " = ".toList ++ shown ++ ['\n']

def dump (store : Store) : Text :=
  "\x1b[1;36m=== Variables ===\x1b[0m\n".toList ++ dumpBindings store.variables ++
    "\x1b[1;36m=== Captures ===\x1b[0m\n".toList ++ dumpBindings store.captures ++ ['\n']

/-- The bytes up to and including each line feed, and those after the last one. -/
def byteLines : Bytes → List Bytes
  | [] => []
  | byte :: rest =>
      if byte = 10 then [byte] :: byteLines rest
      else
        match byteLines rest with
        | [] => [[byte]]
        | line :: later => (byte :: line) :: later

def event (line : Text) : Console.Event :=
  match Console.typedLine? line with
  | some line => .line line
  | none => .brokenLine

/-- The lines of the standard input; one that is no text makes its reading fail. -/
def events (input : Bytes) : List Console.Event :=
  (byteLines input).flatMap fun bytes =>
    match Text.ofUtf8? bytes with
    | some line => (Text.lines line).map event
    | none => [.failure FileFault.notText.message]

def save (folder : Folder) (store : Store) : Option Text → Except Fault (Option (Text × Bytes))
  | none => .ok none
  | some path =>
      match folder.writeFault? path with
      | some fault => .error (.file fault)
      | none => .ok (some (path, store.toSnapshot))

structure Ending where
  fault : Option Fault
  saved : Option (Text × Bytes)

/-- Ends the program with its store; a fault in saving comes before the one it ends with. -/
def finish (input : Input) (invocation : Invocation) (store : Store) (fault : Option Fault) :
    Ending :=
  match save input.folder store invocation.saveTo with
  | .error saving => ⟨some saving, none⟩
  | .ok saved => ⟨fault, saved⟩

def runScripts (input : Input) (invocation : Invocation) (store : Store) : Transcript × Ending :=
  let files := runFiles (settings invocation) input.folder invocation.files store
  let shown := files.transcript ++ if invocation.dump then [.output (dump files.store)] else []
  if files.fault.isSome || invocation.batch then
    (shown, finish input invocation files.store files.fault)
  else
    let dialogue := Console.dialogue (settings invocation) invocation.files.isEmpty
      [.notice .lineFromPipe] (events input.standardInput) files.store
    match dialogue.result with
    | .error failure => (shown ++ dialogue.transcript, ⟨some (.failure failure), none⟩)
    | .ok () => (shown ++ dialogue.transcript, finish input invocation dialogue.store none)

def perform (input : Input) (invocation : Invocation) : Transcript × Ending :=
  if invocation.help then ([.output helpText], ⟨none, none⟩)
  else if invocation.version then ([.output versionText], ⟨none, none⟩)
  else
    match loadStore input.folder invocation.loadFrom with
    | .error fault => ([], ⟨some fault, none⟩)
    | .ok loaded =>
        match invocation.mode with
        | .check =>
            let (transcript, fault) :=
              outputEach (checkFile (settings invocation) input.folder) invocation.files
            (transcript, ⟨fault, none⟩)
        | .format =>
            let (transcript, fault) :=
              outputEach (formatFile (settings invocation) input.folder) invocation.files
            (transcript, ⟨fault, none⟩)
        | .run => runScripts input invocation (bindAll invocation.bindings loaded)

def run (input : Input) : Result :=
  match Invocation.read input.arguments with
  | .error fault =>
      ⟨some (.invocation fault), [.complaint (Console.complain fault.message)],
        threshold false input.logLevel, none⟩
  | .ok invocation =>
      let (transcript, ending) := perform input invocation
      let complaint := ending.fault.toList.map fun fault =>
        .complaint (Console.complain fault.message)
      ⟨ending.fault, transcript ++ complaint, threshold invocation.verbose input.logLevel,
        ending.saved⟩

namespace Result

/-- A line that cannot be had breaks the program off, which has a status of its own. -/
def exitCode (result : Result) : Nat :=
  match result.fault with
  | none => 0
  | some (.failure .brokenLine) => 101
  | some _ => 1

def standardOutput (result : Result) : Text := Transcript.output result.transcript

def standardError (result : Result) : Text :=
  Transcript.complaints result.threshold 0 result.transcript

end Result

end Program

end LineScript
