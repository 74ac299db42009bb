import LineScript.CommandLine.Program

open LineScript

private def fileFault : IO.Error → FileFault
  | .noFileOrDirectory .. => .missing
  | .inappropriateType _ code _ => if code = 20 then .notDirectory else .directory
  | error => .other (toString error).toList

private def readBytes (name : Text) : IO (Except FileFault (List UInt8)) := do
  try
    return .ok (← IO.FS.readBinFile (String.ofList name)).toList
  catch error =>
    return .error (fileFault error)

private def writeBytes (name : Text) (bytes : List UInt8) : IO (Option FileFault) := do
  try
    IO.FS.writeBinFile (String.ofList name) bytes.toByteArray
    return none
  catch error =>
    return some (fileFault error)

/-- Carries out the result of the program; where the store cannot be written, what counts is what
the program comes to when it knows that. -/
private def carryOut (program : Option FileFault → Program.Result) : IO Program.Result := do
  let result := program none
  match result.saved with
  | none => return result
  | some (name, bytes) =>
      match ← writeBytes name bytes with
      | none => return result
      | some fault => return program (some fault)

def main (arguments : List String) : IO UInt32 := do
  let arguments := arguments.map String.toList
  let invocation := (Invocation.read arguments).toOption
  let paths := (invocation.map Invocation.paths).getD []
  let files ← paths.mapM fun path => return (path, ← readBytes path)
  let standardInput ←
    if (invocation.map Invocation.converses).getD false then
      pure (← (← IO.getStdin).readBinToEnd).toList
    else pure []
  let logLevel := (← IO.getEnv "RUST_LOG").map String.toList
  let result ← carryOut fun writeFault? => Program.run {
    arguments
    folder := {
      read := fun name => (files.lookup name).getD (.error .missing)
      writeFault? := fun _ => writeFault? }
    standardInput
    logLevel }
  IO.print (String.ofList result.standardOutput)
  IO.eprint (String.ofList result.standardError)
  return UInt32.ofNat result.exitCode
