import LineScript.Statement.Basic

namespace LineScript

inductive Invocation.Mode where
  | run
  | check
  | format
  deriving DecidableEq, Repr

structure Invocation.Binding where
  partition : Partition
  name : Text
  content : Text
  deriving DecidableEq, Repr

structure Invocation where
  files : List Text := []
  mode : Invocation.Mode := .run
  batch : Bool := false
  help : Bool := false
  version : Bool := false
  verbose : Bool := false
  strict : Bool := false
  runDisabled : Bool := false
  keepGoing : Bool := false
  dump : Bool := false
  bindings : List Invocation.Binding := []
  loadFrom : Option Text := none
  saveTo : Option Text := none
  deriving DecidableEq, Repr

namespace Invocation

inductive Fault where
  | unknownOption (option : Text)
  | missingBinding (option : Text)
  | malformedBinding (option argument : Text)
  | emptyName (option argument : Text)
  | missingPath (option : Text)
  deriving DecidableEq, Repr

def Fault.message : Fault → Text
  | unknownOption option => "unknown option: ".toList ++ option
  | missingBinding option => option ++ " requires NAME=VALUE".toList
  | malformedBinding option argument =>
      option ++ " expects NAME=VALUE, got: ".toList ++ argument
  | emptyName option argument => option ++ " expects a non-empty NAME: ".toList ++ argument
  | missingPath option => option ++ " requires a path".toList

/-- An argument by itself: an option that stands alone, one that takes the next argument, or the
name of a file. -/
inductive Argument where
  | switch (turn : Invocation → Invocation)
  | binding (partition : Partition)
  | load
  | save
  | file
  | unknown

def switches : List (List Text × (Invocation → Invocation)) :=
  [(["-h".toList, "--help".toList], fun invocation => { invocation with help := true }),
    (["-V".toList, "--version".toList], fun invocation => { invocation with version := true }),
    (["-b".toList, "--batch".toList], fun invocation => { invocation with batch := true }),
    (["-v".toList, "--verbose".toList], fun invocation => { invocation with verbose := true }),
    (["--check".toList], fun invocation => { invocation with mode := .check }),
    (["--fmt".toList], fun invocation => { invocation with mode := .format }),
    (["--strict".toList], fun invocation => { invocation with strict := true }),
    (["--run-disabled".toList], fun invocation => { invocation with runDisabled := true }),
    (["--keep-going".toList], fun invocation => { invocation with keepGoing := true }),
    (["--dump".toList], fun invocation => { invocation with dump := true })]

def Argument.ofText (text : Text) : Argument :=
  match switches.find? fun entry => entry.1.contains text with
  | some (_, turn) => .switch turn
  | none =>
      if text = "--set".toList then .binding .ordinary
      else if text = "--capture".toList then .binding .capture
      else if text = "--load-snapshot".toList then .load
      else if text = "--snapshot".toList then .save
      else if text.head? = some '-' then .unknown
      else .file

def readBinding (option : Text) (partition : Partition) (argument : Text) :
    Except Fault Binding :=
  match Text.cut '=' argument with
  | none => .error (.malformedBinding option argument)
  | some ([], _) => .error (.emptyName option argument)
  | some (name, content) => .ok ⟨partition, name, content⟩

/-- The invocation after the arguments that follow. -/
def readFrom (invocation : Invocation) : List Text → Except Fault Invocation
  | [] => .ok invocation
  | argument :: later =>
      match Argument.ofText argument, later with
      | .switch turn, later => readFrom (turn invocation) later
      | .binding _, [] => .error (.missingBinding argument)
      | .binding partition, binding :: later =>
          match readBinding argument partition binding with
          | .error fault => .error fault
          | .ok binding =>
              readFrom { invocation with bindings := invocation.bindings ++ [binding] } later
      | .load, [] => .error (.missingPath argument)
      | .load, path :: later => readFrom { invocation with loadFrom := some path } later
      | .save, [] => .error (.missingPath argument)
      | .save, path :: later => readFrom { invocation with saveTo := some path } later
      | .file, later => readFrom { invocation with files := invocation.files ++ [argument] } later
      | .unknown, _ => .error (.unknownOption argument)

def read (arguments : List Text) : Except Fault Invocation := readFrom {} arguments

def paths (invocation : Invocation) : List Text := invocation.loadFrom.toList ++ invocation.files

/-- Whether the console takes over, unless a file fails first. -/
def converses (invocation : Invocation) : Bool :=
  !invocation.help && !invocation.version && invocation.mode == .run && !invocation.batch

end Invocation

end LineScript
