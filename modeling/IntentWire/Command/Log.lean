import IntentWire.Command.Settings
import IntentWire.Text.Json
import IntentWire.Text.Quoted

/-!
# The log

An event takes a line of the log. As text, a line has the level of the event, its
message, and its fields by name, texts among them in quotes. As JSON, it is an object
with all of these.
-/

namespace IntentWire

/-- The value of a field in a line of text. -/
def FieldValue.shown : FieldValue → String
  | .number n => toString n
  | .text s => Text.quoted s
  | .plain s => s

/-- The value of a field in an object. -/
def FieldValue.toJson : FieldValue → Json
  | .number n => .number n
  | .text s => .text s
  | .plain s => .text s

namespace Event

/-- The level of an event, as wide as the widest level. -/
def paddedLevel (e : Event) : String :=
  "".pushn ' ' (5 - e.level.label.length) ++ e.level.label

/-- An event as a line of text. -/
def toText (e : Event) : String :=
  e.fields.foldl (fun line (name, value) => line ++ " " ++ name ++ "=" ++ value.shown)
    (e.paddedLevel ++ " " ++ e.message)

/-- An event as an object. -/
def toJson (e : Event) : Json :=
  .object (("level", .text e.level.label) :: ("message", .text e.message) ::
    e.fields.map fun (name, value) => (name, value.toJson))

/-- An event as a line of a log. -/
def line (format : Command.LogFormat) (e : Event) : String :=
  match format with
  | .text => e.toText
  | .json => e.toJson.render

end Event

/-- The lines of a log that shows events up to the given level. -/
def logLines (format : Command.LogFormat) (max : Level) (events : List Event) : List String :=
  (events.filter (·.level.isShown max)).map (Event.line format)

end IntentWire
