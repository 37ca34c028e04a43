import IntentWire.Command.Settings

/-!
# Arguments

A command line is read from left to right: options for all commands, the name of the
command, and then more options and what the command works on, in any order.

* An option with a value has it in the same argument, behind an equals sign, or in the
  next one. It is set once the next option or operand turns up, and at the end at the
  latest; until then, a command may start.
* Help and the version are answered where they are asked for, whatever follows.
* After two dashes, all arguments are operands.

Whatever does not make sense is *misuse* (`Misuse`).
-/

namespace IntentWire.Command

/-- Where options stand: in front of the name of the command, or behind the name of one. -/
inductive Scope where
  | top
  | decode
  | encode
  | version
  deriving DecidableEq

/-- The options with a value. -/
inductive Parameter where
  | format
  | logFormat
  | logLevel
  | maxRecords
  | maxFieldLength
  | file
  deriving DecidableEq

/-- The options without a value. -/
inductive Switch where
  | help
  | version
  | stdin
  | extended
  deriving DecidableEq

/-- Why a command line makes no sense. -/
inductive Misuse where
  | unknownArgument (argument : String)
  | missingValue
  | unexpectedValue (argument : String)
  | invalidValue (value : String)
  /-- An option is given twice in the same place. -/
  | repeated
  /-- Options or operands are given that exclude each other. -/
  | conflict
  | missingCommand
  | missingExpression

/-- The wording of misuse. -/
def Misuse.message : Misuse → String
  | .unknownArgument argument => s!"unexpected argument '{argument}'"
  | .missingValue => "an option has no value"
  | .unexpectedValue argument => s!"unexpected value in '{argument}'"
  | .invalidValue value => s!"invalid value '{value}'"
  | .repeated => "an option is given more than once"
  | .conflict => "arguments exclude each other"
  | .missingCommand => "no command is given"
  | .missingExpression => "no expression is given"

/-- What ends the reading of a command line early. -/
inductive Halt where
  | help
  | version
  | misuse (reason : Misuse)

namespace Scope

/-- The parameter of a name, where there is one. -/
def parameter? (scope : Scope) : String → Option Parameter
  | "format" => some .format
  | "log-format" => some .logFormat
  | "log-level" => some .logLevel
  | "max-records" => some .maxRecords
  | "max-field-len" => some .maxFieldLength
  | "file" => if scope = .decode then some .file else none
  | _ => none

/-- The switch of a name, where there is one. -/
def switch? (scope : Scope) : String → Option Switch
  | "help" => some .help
  | "version" => if scope = .top then some .version else none
  | "stdin" => if scope = .decode then some .stdin else none
  | "extended" => if scope = .version then some .extended else none
  | _ => none

/-- The switch of a letter, where there is one. -/
def letterSwitch? (scope : Scope) : Char → Option Switch
  | 'h' => some .help
  | 'V' => if scope = .top then some .version else none
  | _ => none

/-- The command of a name, where a command may stand. -/
def command? (scope : Scope) (name : String) : Option Scope :=
  if scope = .top then
    match name with
    | "decode" => some .decode
    | "encode" => some .encode
    | "version" => some .version
    | _ => none
  else none

/-- Whether there may be an operand. -/
def takesOperand : Scope → Bool
  | .decode => true
  | .encode => true
  | _ => false

end Scope

/-! ### Words -/

/-- The forms of an argument. -/
inductive Word where
  /-- Two dashes. -/
  | terminator
  /-- A name behind two dashes, and what stands behind an equals sign. -/
  | long (name : String) (value : Option String)
  /-- A letter behind a dash. Those behind it do not matter, as every letter that is known
      ends the reading. -/
  | short (letter : Char)
  | plain

/-- The form of an argument. A dash alone is plain. -/
def Word.ofArgument (argument : String) : Word :=
  match argument.toList with
  | ['-', '-'] => .terminator
  | '-' :: '-' :: s =>
    let name := String.ofList (s.takeWhile (· != '='))
    match s.dropWhile (· != '=') with
    | [] => .long name none
    | _ :: value => .long name (some (.ofList value))
  | '-' :: letter :: _ => .short letter
  | _ => .plain

/-! ### What is gathered -/

/-- What is gathered from the arguments of a scope. -/
structure Gathered where
  settings : Settings := {}
  file : Option String := none
  stdin : Bool := false
  extended : Bool := false
  operand : Option String := none
  /-- The parameter given last, while it is not set, and its value if it is known. -/
  pending : Option (Parameter × Option String) := none

namespace Gathered

/-- Sets an option that is not set yet. -/
def setOnce {α : Type} (current : Option α) (value : String) (parsed : Option α) :
    Except Halt (Option α) :=
  match current, parsed with
  | some _, _ => .error (.misuse .repeated)
  | none, none => .error (.misuse (.invalidValue value))
  | none, some a => .ok (some a)

/-- Sets a parameter. -/
def set (g : Gathered) (p : Parameter) (value : String) : Except Halt Gathered := do
  let s := g.settings
  match p with
  | .format => return { g with
      settings := { s with format := ← setOnce s.format value (Format.ofName? value) } }
  | .logFormat => return { g with
      settings := { s with logFormat := ← setOnce s.logFormat value (LogFormat.ofName? value) } }
  | .logLevel => return { g with
      settings := { s with logLevel := ← setOnce s.logLevel value (Level.ofName? value) } }
  | .maxRecords => return { g with
      settings := { s with maxRecords := ← setOnce s.maxRecords value (word? value) } }
  | .maxFieldLength => return { g with
      settings := { s with maxFieldLength := ← setOnce s.maxFieldLength value (word? value) } }
  | .file => return { g with
      file := ← setOnce g.file value (if value.isEmpty then none else some value) }

/-- Sets the pending parameter, if there is one. -/
def settle (g : Gathered) : Except Halt Gathered :=
  match g.pending with
  | none => .ok g
  | some (_, none) => .error (.misuse .missingValue)
  | some (p, some value) => { g with pending := none }.set p value

/-- Whether the next argument can be the value of the pending parameter. -/
def awaitsValue (g : Gathered) : Option Parameter :=
  match g.pending with
  | some (p, none) => some p
  | _ => none

/-- Turns on a switch. -/
def turnOn (g : Gathered) (s : Switch) : Except Halt Gathered := do
  let g ← g.settle
  match s with
  | .help => throw .help
  | .version => throw .version
  | .stdin => if g.stdin then throw (.misuse .repeated) else return { g with stdin := true }
  | .extended =>
    if g.extended then throw (.misuse .repeated) else return { g with extended := true }

/-- Takes an operand. -/
def takeOperand (g : Gathered) (scope : Scope) (argument : String) : Except Halt Gathered := do
  if scope.takesOperand && g.operand.isNone then
    return { ← g.settle with operand := some argument }
  else throw (.misuse (.unknownArgument argument))

/-- Takes an option of the form `word`, which is that of `argument`. -/
def takeOption (g : Gathered) (scope : Scope) (argument : String) :
    Word → Except Halt Gathered
  | .long name value => do
    match scope.parameter? name, scope.switch? name, value with
    | some p, _, some value => (← g.settle).set p value
    | some p, _, none => return { ← g.settle with pending := some (p, none) }
    | none, some s, none => g.turnOn s
    | none, some _, some _ => throw (.misuse (.unexpectedValue argument))
    | none, none, _ => throw (.misuse (.unknownArgument argument))
  | .short letter =>
    match scope.letterSwitch? letter with
    | some s => g.turnOn s
    | none => .error (.misuse (.unknownArgument argument))
  | _ => .error (.misuse (.unknownArgument argument))

/-- Takes arguments as operands. -/
def takeOperands (scope : Scope) (g : Gathered) (arguments : List String) :
    Except Halt Gathered :=
  arguments.foldlM (fun g argument => g.takeOperand scope argument) g

end Gathered

/-- Answers the request for help on the commands of the given names: there is help on all,
    and on each. -/
def answerHelp : List String → Halt
  | [] => .help
  | [name] =>
    if ["decode", "encode", "version", "help"].contains name then .help
    else .misuse (.unknownArgument name)
  | name :: _ => .misuse (.unknownArgument name)

/-- Gathers the arguments of a scope, up to the name of a command: gives also the scope of
    the command and the arguments behind its name. -/
def gather (scope : Scope) (g : Gathered) :
    List String → Except Halt (Gathered × Option (Scope × List String))
  | [] => .ok (g, none)
  | argument :: rest =>
    match Word.ofArgument argument, g.awaitsValue with
    | .plain, some p => gather scope { g with pending := some (p, some argument) } rest
    | .plain, none =>
      if scope = .top && argument = "help" then .error (answerHelp rest)
      else
        match scope.command? argument with
        | some command => .ok (g, some (command, rest))
        | none => do gather scope (← g.takeOperand scope argument) rest
    | .terminator, some _ => .error (.misuse .missingValue)
    | .terminator, none => return (← Gathered.takeOperands scope g rest, none)
    | word, _ => do gather scope (← g.takeOption scope argument word) rest

/-! ### Invocations -/

/-- Where the buffer to decode comes from. -/
inductive Input where
  /-- Hexadecimal text on the command line. -/
  | hex (text : String)
  /-- The bytes of a file. -/
  | file (path : String)
  /-- Hexadecimal text on the standard input. -/
  | stdin
  | missing
  deriving DecidableEq

/-- What is to be done. -/
inductive Action where
  | decode (input : Input)
  | encode (expression : String)
  | version (extended : Bool)
  deriving DecidableEq

/-- A command line that makes sense. -/
structure Invocation where
  settings : Settings
  action : Action

/-- The action of a command, from what is gathered behind its name. -/
def Gathered.action (g : Gathered) : Scope → Except Halt Action
  | .top => .error (.misuse .missingCommand)
  | .decode =>
    match g.operand, g.file, g.stdin with
    | some text, none, false => .ok (.decode (.hex text))
    | none, some path, false => .ok (.decode (.file path))
    | none, none, true => .ok (.decode .stdin)
    | none, none, false => .ok (.decode .missing)
    | _, _, _ => .error (.misuse .conflict)
  | .encode =>
    match g.operand with
    | some expression => .ok (.encode expression)
    | none => .error (.misuse .missingExpression)
  | .version => .ok (.version g.extended)

/-- The settings with a limit from the environment, unless it is set. What the environment
    has must make sense if it is looked at. -/
def Environment.fill (env : Environment) (s : Settings) : Except Halt Settings := do
  return { s with
    maxRecords := ← limit s.maxRecords env.maxRecords
    maxFieldLength := ← limit s.maxFieldLength env.maxFieldLength }
where
  /-- A limit that is set, or else that of the environment. -/
  limit : Option UInt64 → Option String → Except Halt (Option UInt64)
    | some n, _ => .ok (some n)
    | none, none => .ok none
    | none, some value => Gathered.setOnce none value (word? value)

/-- Makes sense of a command line. The environment is looked at for the limits that are not
    set in front of the name of the command, and again for those not set behind it. -/
def parse (env : Environment) (arguments : List String) : Except Halt Invocation := do
  let (outer, command) ← gather .top {} arguments
  let some (scope, rest) := command | throw (.misuse .missingCommand)
  let (inner, _) ← gather scope {} rest
  let inner ← inner.settle
  let fromInner ← env.fill inner.settings
  let action ← inner.action scope
  let outer ← outer.settle
  let fromOuter ← env.fill outer.settings
  let given := inner.settings.orElse outer.settings
  return ⟨given.orElse (fromInner.orElse fromOuter), action⟩

end IntentWire.Command
