import LineScript.Console.Reply

namespace LineScript.Console

inductive Event where
  | line (text : Text)
  | interruption
  | failure (reason : Text)
  | brokenLine
  deriving DecidableEq, Repr

structure Dialogue where
  result : Except Failure Unit
  store : Store
  transcript : Transcript
  /-- The lines offered for recall. -/
  history : List Text
  /-- How often a line was asked for. -/
  reads : Nat

def defaultPrompt : Text := "bs> ".toList

def banner : Text :=
  "\x1b[1;36mblockscript\x1b[0m v0.1.0\n".toList ++
    "Type statements to run them, :help for commands, Ctrl+D to exit.\n\n".toList

def farewell : Text := "\nGoodbye!\n".toList

def complain (message : Text) : Text := "\x1b[31mError: ".toList ++ message ++ "\x1b[0m\n".toList

def showReply : Except Failure Text → Transcript
  | .ok [] => []
  | .ok text => [.output (text ++ ['\n'])]
  | .error failure => [.complaint (complain failure.message)]

/-- The dialogue over the events. Each reading of a line emits what `reading` holds first. -/
def converse (settings : Settings) (reading : Transcript) : List Event → Store → Dialogue
  | [], store => ⟨.ok (), store, reading ++ [.output farewell], [], 1⟩
  | .failure reason :: _, store => ⟨.error (.editor reason), store, reading, [], 1⟩
  | .brokenLine :: _, store => ⟨.error .brokenLine, store, reading, [], 1⟩
  | .interruption :: later, store =>
      let rest := converse settings reading later store
      { rest with
        transcript := reading ++ .output ['\n'] :: rest.transcript
        reads := rest.reads + 1 }
  | .line text :: later, store =>
      if Script.isBlankLine text then
        let rest := converse settings reading later store
        { rest with transcript := reading ++ rest.transcript, reads := rest.reads + 1 }
      else
        let run := reply settings text store
        let rest := converse settings reading later run.store
        { rest with
          transcript :=
            reading ++ run.notices.map .notice ++ showReply run.result ++ rest.transcript
          history := text :: rest.history
          reads := rest.reads + 1 }

def dialogue (settings : Settings) (showBanner : Bool) (reading : Transcript)
    (events : List Event) (store : Store) : Dialogue :=
  let conversation := converse settings reading events store
  if showBanner then
    { conversation with transcript := .output banner :: conversation.transcript }
  else conversation

end LineScript.Console
