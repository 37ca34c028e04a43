import IntentWire.Collection
import IntentWire.Command.Host
import IntentWire.Intent

/-!
# Reports

What the commands print: the intents of a buffer that was decoded, or the buffer that
was built. There is a line for each in the pretty form, a table, or a JSON object.
-/

namespace IntentWire.Report

open Command Text

/-- Lines, each with its end. -/
def unlines (lines : List String) : String :=
  lines.foldl (fun text line => text ++ line ++ "\n") ""

theorem unlines_singleton (line : String) : unlines [line] = line ++ "\n" :=
  congrArg (· ++ "\n") String.empty_append

theorem unlines_append_singleton (lines : List String) (line : String) :
    unlines (lines ++ [line]) = unlines lines ++ (line ++ "\n") := by
  rw [unlines, List.foldl_append, ← String.append_assoc]
  rfl

/-- The number of intents whose payload makes no sense. -/
def countInvalid (intents : List Intent) : Nat :=
  intents.countP (·.statement.isInvalid)

/-- The intents of a buffer as an object. -/
def intentsJson (intents : List Intent) : Json :=
  .object [
    ("count", .number intents.length),
    ("invalid", .number (countInvalid intents)),
    ("intents", .list (intents.mapIdx fun index i => .object [
      ("index", .number index), ("type", .text i.tag), ("statement", i.statement.toJson)]))]

/-- The intents of a buffer as a table. -/
def intentsTable (host : Host) (intents : List Intent) : List String :=
  host.table ["INDEX", "TYPE", "KIND", "STATEMENT"]
    (intents.mapIdx fun index i =>
      [toString index, i.tag, i.statement.kind, i.statement.display])

/-- The intents of a buffer, a line for each. -/
def intentsPretty (intents : List Intent) : List String :=
  if intents.isEmpty then ["no intents"]
  else intents.mapIdx fun index i => s!"#{index} {i.tag}: {i.statement.display}"

/-- The report on a buffer that was decoded. -/
def ofIntents (host : Host) (format : Format) (intents : List Intent) : String :=
  unlines <|
    match format with
    | .json => [(intentsJson intents).render]
    | .table => intentsTable host intents
    | .pretty => intentsPretty intents

theorem ofIntents_json (host : Host) (intents : List Intent) :
    ofIntents host .json intents = (intentsJson intents).render ++ "\n" :=
  unlines_singleton _

/-- Only tables depend on the terminal. -/
theorem ofIntents_congr {host host' : Host} {format : Format}
    (h : format = .table → host.terminal = host'.terminal) (intents : List Intent) :
    ofIntents host format intents = ofIntents host' format intents := by
  cases format with
  | table => rw [ofIntents, ofIntents, intentsTable, intentsTable, Host.table_congr (h rfl)]
  | json | pretty => rfl

/-- A buffer as a text that can be decoded. -/
def hexText (wire : Bytes) : String :=
  "0x" ++ Hex.encode wire

/-- A collection and its buffer as an object. -/
def encodedJson (c : Collection) (wire : Bytes) : Json :=
  .object [
    ("records", .number c.length),
    ("bytes", .number wire.length),
    ("types", .list (c.map fun r => .text r.tag)),
    ("hex", .text (hexText wire))]

/-- The records of a collection as a table. -/
def encodedTable (host : Host) (c : Collection) : List String :=
  host.table ["INDEX", "TYPE", "PAYLOAD_SIZE"]
    (c.mapIdx fun index r => [toString index, r.tag, toString r.payload.length])

/-- The report on a buffer that was built. -/
def ofEncoded (host : Host) (format : Format) (c : Collection) (wire : Bytes) : String :=
  unlines <|
    match format with
    | .json => [(encodedJson c wire).render]
    | .table => encodedTable host c ++ [hexText wire]
    | .pretty => [hexText wire]

theorem ofEncoded_json (host : Host) (c : Collection) (wire : Bytes) :
    ofEncoded host .json c wire = (encodedJson c wire).render ++ "\n" :=
  unlines_singleton _

/-- The name and the version of the program. -/
def version : String := "iris 0.1.0"

/-- The version of the program, and if that is asked for, its build and what it knows. -/
def ofVersion (build : Option Build) (extended : Bool) : String :=
  let tags := ", ".intercalate Registry.builtin.tags
  unlines <| version ::
    if extended then
      (build.map Build.lines).getD [] ++ [s!"intent types: {tags}", "fallback: plain text"]
    else []

end IntentWire.Report
