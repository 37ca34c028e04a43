import IntentWire.Command.Run

/-!
# The program

Reads what a command line needs, runs it, prints what it comes to, and exits with its
code.
-/

namespace IntentWire.Command

/-- What the system says of what it does not let be read. -/
def osFailure : IO.Error → OsFailure
  | .noFileOrDirectory .. => .missing
  | .permissionDenied .. => .denied
  | .inappropriateType _ code details => ⟨code.toNat, details⟩
  | .invalidArgument _ code details => ⟨code.toNat, details⟩
  | .otherError code details => ⟨code.toNat, details⟩
  | e => ⟨0, e.toString⟩

/-- Everything on a stream up to its end. -/
def readAll (stream : IO.FS.Stream) : IO Bytes := do
  let mut bytes := ByteArray.empty
  repeat
    let chunk ← stream.read 65536
    if chunk.isEmpty then break
    bytes := bytes ++ chunk
  return bytes.data.toList

/-- What is read, or why the system does not let it be read. -/
def attempt (read : IO Bytes) : IO (Except OsFailure Bytes) := do
  try
    return .ok (← read)
  catch e => return .error (osFailure e)

/-- What an invocation needs of its surroundings. -/
def surroundings (i : Invocation) : IO Surroundings := do
  match i.action with
  | .decode (.file path) =>
    let contents ← attempt do return (← IO.FS.readBinFile path).data.toList
    return ⟨fun _ => contents, .ok []⟩
  | .decode .stdin => return ⟨fun _ => .ok [], ← attempt do readAll (← IO.getStdin)⟩
  | _ => return ⟨fun _ => .ok [], .ok []⟩

/-- What the program runs on. A terminal is taken to be wide enough. -/
def host : IO Host := do
  return ⟨if ← (← IO.getStdout).isTty then some .wide else none, some {}⟩

/-- Prints what a run comes to. -/
def printOutcome (o : Outcome) : IO Unit := do
  for line in o.log do
    IO.eprintln line
  IO.print o.stdout
  if let some e := o.error then
    IO.eprintln s!"error: {e}"

end IntentWire.Command

open IntentWire Command in
/-- Runs the program on its arguments. -/
def main (arguments : List String) : IO UInt32 := do
  let env : Environment :=
    ⟨← IO.getEnv Environment.maxRecordsName, ← IO.getEnv Environment.maxFieldLengthName⟩
  let outcome ←
    match parse env arguments with
    | .error halt => pure halt.outcome
    | .ok i => do pure (i.run (← host) (← surroundings i))
  printOutcome outcome
  return .ofNat outcome.code
