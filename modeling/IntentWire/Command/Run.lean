import IntentWire.Command.Arguments
import IntentWire.Command.Log
import IntentWire.Command.Report
import IntentWire.Expression

/-!
# Running commands

What a command line comes to: what is printed, what is logged and the exit code. The
files and the standard input are given as values (`Surroundings`), and so is the host, so
that a run is a function of them.

The exit codes are 0 for success; 2 for misuse; 64 for a buffer in bad hexadecimal text
or no buffer, and for a bad expression; 60 for a buffer that is read but does not hold
a collection; and 50 or 1 for one that cannot be read, 50 where that is not permitted.
Unless the code is 0, nothing is printed.
-/

namespace IntentWire.Command

open Text

/-- Why the system refuses to read a file or the standard input. -/
structure OsFailure where
  code : Nat
  description : String
  deriving DecidableEq

namespace OsFailure

/-- Reading the file is not permitted. -/
def denied : OsFailure := ⟨13, "Permission denied"⟩

/-- There is no such file. -/
def missing : OsFailure := ⟨2, "No such file or directory"⟩

/-- The path is that of a directory. -/
def directory : OsFailure := ⟨21, "Is a directory"⟩

/-- Whether it is that reading is not permitted. -/
def isDenied (e : OsFailure) : Bool :=
  e.code == 1 || e.code == denied.code

/-- The exit code of a command that fails of it. -/
def exitCode (e : OsFailure) : Nat :=
  if e.isDenied then 50 else 1

/-- The wording of a failure. -/
def message (e : OsFailure) : String :=
  s!"{e.description} (os error {e.code})"

end OsFailure

/-- What a run finds around it. -/
structure Surroundings where
  /-- What reading the file of a path gives. -/
  contents : String → Except OsFailure Bytes
  /-- What reading the standard input up to its end gives. -/
  stdin : Except OsFailure Bytes

/-- The bytes of a standard input stand for one that lets them be read. -/
instance : Coe Bytes (Except OsFailure Bytes) := ⟨.ok⟩

/-- Why a command fails. -/
inductive Failure where
  | badFile (path : String) (cause : OsFailure)
  | unreadStdin (cause : OsFailure)
  /-- The standard input is not valid UTF-8. -/
  | badStdin
  | badHex (cause : Hex.Error)
  | missingInput
  | framing (cause : FrameError)
  | badExpression (cause : ExpressionError)

namespace Failure

/-- The exit code of a failure. -/
def code : Failure → Nat
  | .badFile _ cause => cause.exitCode
  | .unreadStdin cause => cause.exitCode
  | .badStdin => 1
  | .badHex _ => 64
  | .missingInput => 64
  | .framing _ => 60
  | .badExpression _ => 64

/-- The wording of a failure. A buffer that fails a limit may do with a higher one. -/
def message : Failure → String
  | .badFile path cause => s!"failed reading {path}: {cause.message}"
  | .unreadStdin cause => s!"failed reading stdin: {cause.message}"
  | .badStdin => "failed reading stdin: stream did not contain valid UTF-8"
  | .badHex cause => s!"invalid hex input: {cause.message}"
  | .missingInput => "no input: pass a hex buffer, --file or --stdin"
  | .framing cause =>
    if cause.isLimit then
      s!"decode limit exceeded: {cause.message} (see --max-records, --max-field-len)"
    else s!"decode failed: {cause.message}"
  | .badExpression cause => s!"invalid expression: {cause.message}"

end Failure

/-! ### Decoding -/

/-- The bytes that a text spells, in hexadecimal digits between white space and behind
    the mark of hexadecimal, if it stands there. -/
def parseHex (s : String) : Except Failure Bytes :=
  let digits :=
    match trim s.toList with
    | '0' :: 'x' :: digits => digits
    | '0' :: 'X' :: digits => digits
    | digits => digits
  (Hex.decode digits).mapError .badHex

/-- The buffer to decode. -/
def Input.buffer (around : Surroundings) : Input → Except Failure Bytes
  | .hex text => parseHex text
  | .file path => (around.contents path).mapError (.badFile path)
  | .stdin =>
    match around.stdin with
    | .error cause => .error (.unreadStdin cause)
    | .ok b =>
      match Bytes.text? b with
      | some text => parseHex text
      | none => .error .badStdin
  | .missing => .error .missingInput

/-- Decodes a buffer and reports on its intents. -/
def decodeBuffer (host : Host) (format : Format) (limits : Limits) (buffer : Bytes) :
    Logged (Except Failure String) := do
  Logged.report (.decodingBuffer buffer.length limits)
  match ← decodeIntentsWithin limits buffer with
  | .error e => return .error (.framing e)
  | .ok intents =>
    Logged.report (.decodedBuffer intents.length (Report.countInvalid intents))
    return .ok (Report.ofIntents host format intents)

/-! ### Encoding -/

/-- Builds the buffer of an expression and reports on it. -/
def encodeExpression (host : Host) (format : Format) (expression : String) :
    Logged (Except Failure String) :=
  match Expression.build expression with
  | .error e => return .error (.badExpression e)
  | .ok c => do
    let wire := c.encode
    Logged.report (.encodedBuffer c.length wire.length)
    return .ok (Report.ofEncoded host format c wire)

/-! ### Runs -/

/-- Does what a command line asks for: gives what is printed, or the failure. -/
def Invocation.perform (host : Host) (around : Surroundings) (i : Invocation) :
    Logged (Except Failure String) :=
  match i.action with
  | .decode input =>
    match input.buffer around with
    | .error e => return .error e
    | .ok buffer => decodeBuffer host (i.settings.outputFormat host) i.settings.limits buffer
  | .encode expression => encodeExpression host (i.settings.outputFormat host) expression
  | .version extended => return .ok (Report.ofVersion host.build extended)

/-- What a run comes to. -/
structure Outcome where
  code : Nat
  /-- What is printed. -/
  stdout : String
  /-- What is said of a failure. -/
  error : Option String
  /-- The lines of the log. -/
  log : List String

/-- What an invocation comes to. -/
def Invocation.run (host : Host) (around : Surroundings) (i : Invocation) : Outcome :=
  let ⟨result, events⟩ := i.perform host around
  let log := logLines i.settings.eventFormat i.settings.eventLevel events
  match result with
  | .ok stdout => ⟨0, stdout, none, log⟩
  | .error e => ⟨e.code, "", some e.message, log⟩

/-- A summary of how the program is used. -/
def usage : String :=
  Report.unlines [
    "Usage: iris [OPTIONS] decode [HEX] [--file PATH] [--stdin]",
    "       iris [OPTIONS] encode EXPRESSION",
    "       iris [OPTIONS] version [--extended]",
    "",
    "Options: --format FORMAT, --log-format FORMAT, --log-level LEVEL,",
    "         --max-records N, --max-field-len BYTES, --help, --version"]

/-- What a command line that is not carried out comes to. -/
def Halt.outcome : Halt → Outcome
  | .help => ⟨0, usage, none, []⟩
  | .version => ⟨0, Report.ofVersion none false, none, []⟩
  | .misuse reason => ⟨2, "", some reason.message, []⟩

/-- What a command line comes to. -/
def run (env : Environment) (around : Surroundings) (arguments : List String)
    (host : Host := {}) : Outcome :=
  match parse env arguments with
  | .error halt => halt.outcome
  | .ok i => i.run host around

end IntentWire.Command
