import IntentWire.Framing
import IntentWire.Registry

/-!
# Intents

The records of a collection, with their payloads decoded. A payload that makes no
sense bears on its own statement and on nothing else.
-/

namespace IntentWire

/-- The type of an intent and what it says. -/
structure Intent where
  tag : String
  statement : Statement
  deriving DecidableEq

namespace Intent

/-- An intent as a pair of named values. -/
def toJson (i : Intent) : Json :=
  .object [("type", .text i.tag), ("statement", i.statement.toJson)]

end Intent

/-- The intent of a record, its payload decoded as `decode` does by type. -/
def Record.toIntent (decode : String → Bytes → Logged Statement) (r : Record) : Logged Intent := do
  return ⟨r.tag, ← decode r.tag r.payload⟩

namespace Collection

/-- The intents of a collection, in order. -/
def intents (c : Collection) : Logged (List Intent) :=
  Logged.collect (c.map (Record.toIntent Statement.decode))

theorem length_intents (c : Collection) : c.intents.value.length = c.length := by
  rw [intents, Logged.collect, List.length_map, List.length_map]

/-- The intents of a collection, in order, decoded as a registry tells. -/
def intentsWith (r : Registry) (c : Collection) : Logged (List Intent) :=
  Logged.collect (c.map (Record.toIntent r.decode))

end Collection

/-- Reads a collection within limits and decodes its payloads. -/
def decodeIntentsWithin (limits : Limits) (buffer : Bytes) :
    Logged (Except FrameError (List Intent)) := do
  match ← Collection.decodeLogged limits buffer with
  | .error e => return .error e
  | .ok c => return .ok (← c.intents)

/-- Reads a collection within the usual limits and decodes its payloads. -/
def decodeIntents (buffer : Bytes) : Logged (Except FrameError (List Intent)) :=
  decodeIntentsWithin {} buffer

end IntentWire
