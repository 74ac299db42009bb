import LineScript.Palette
import LineScript.Script.Layout
import LineScript.Script.Run

namespace LineScript.Console

def listBindings (bindings : NameMap Value) : Text :=
  if bindings.isEmpty then "(none)".toList
  else Text.join ['\n'] (bindings.entries.map fun (name, value) =>
    name ++ " = ".toList ++ value.display)

def describe (name : Text) : Text :=
  match Operation.ofName? name with
  | some operation => Palette.describe operation
  | none => "unknown statement: ".toList ++ name

def help : Text :=
  Text.join ['\n']
    [":vars              List variables".toList,
      ":caps              List captures".toList,
      ":fmt <line>        Print a statement in canonical form".toList,
      ":describe <NAME>   Show a statement's form fields".toList,
      ":reset             Clear all variables and captures".toList,
      ":help              Show this help".toList]

inductive Command where
  | variables
  | captures
  | format (line : Text)
  | describe (name : Text)
  | reset
  | help
  | unknown (name : Text)
  deriving DecidableEq, Repr

/-- The command written after the colon: its name up to the first blank, then its argument. -/
def Command.read (text : Text) : Command :=
  let name := text.takeWhile Text.isSolid
  let argument := Text.trim (text.dropWhile Text.isSolid)
  if name = "vars".toList then .variables
  else if name = "caps".toList then .captures
  else if name = "fmt".toList then .format argument
  else if name = "describe".toList then .describe argument
  else if name = "reset".toList then .reset
  else if name = "help".toList then .help
  else .unknown name

def obey (settings : Settings) (command : Command) (store : Store) : Run Text :=
  match command with
  | .variables => ⟨.ok (listBindings store.variables), store, []⟩
  | .captures => ⟨.ok (listBindings store.captures), store, []⟩
  | .format line => ⟨Script.formatLine settings line, store, []⟩
  | .describe name => ⟨.ok (describe name), store, []⟩
  | .reset => ⟨.ok "store cleared".toList, .empty, []⟩
  | .help => ⟨.ok help, store, []⟩
  | .unknown name =>
      ⟨.ok ("unknown command :".toList ++ name ++ " (try :help)".toList), store, []⟩

/-- What is said about a line after the log lines it gave rise to. -/
def remark : LineOutcome → Text
  | .blank | .comment => []
  | .skipped statement => "skipped disabled statement ".toList ++ statement.label
  | .executed _ outcome =>
      match outcome.written with
      | none => []
      | some ⟨partition, name⟩ =>
          '\n' :: partition.token ++ " ".toList ++ name ++ " = ".toList ++ outcome.result.write

def reply (settings : Settings) (line : Text) (store : Store) : Run Text :=
  match Text.trim line with
  | ':' :: command => obey settings (.read command) store
  | _ =>
      let run := Script.runLine settings line store
      match run.result with
      | .error failure => ⟨.error failure, run.store, run.notices⟩
      | .ok outcome =>
          ⟨.ok (Text.join ['\n'] run.store.log ++ remark outcome), run.store.withoutLog,
            run.notices⟩

end LineScript.Console
