import IntentWire.Limits

/-!
# Events

Reading and decoding report what they meet as *events*. Every event has a level,
a message and named fields (`Event.level`, `Event.message`, `Event.fields`).
-/

namespace IntentWire

/-- How grave an event is, from the gravest to the least. -/
inductive Level where
  | error
  | warn
  | info
  | debug
  | trace
  deriving DecidableEq

namespace Level

/-- The place of a level among the levels, the gravest first. -/
def rank : Level → Nat
  | .error => 0
  | .warn => 1
  | .info => 2
  | .debug => 3
  | .trace => 4

/-- Whether events of the level `l` are shown where `max` is the least grave
    level to show. -/
def isShown (l max : Level) : Bool :=
  l.rank ≤ max.rank

/-- The level that a word names. -/
def ofName? : String → Option Level
  | "error" => some .error
  | "warn" => some .warn
  | "info" => some .info
  | "debug" => some .debug
  | "trace" => some .trace
  | _ => none

/-- The name of a level in the log. -/
def label : Level → String
  | .error => "ERROR"
  | .warn => "WARN"
  | .info => "INFO"
  | .debug => "DEBUG"
  | .trace => "TRACE"

end Level

/-- What is reported. -/
inductive Event where
  /-- A record is read. -/
  | decodedRecord (index : Nat) (tag : String) (payloadLength : Nat)
  /-- Bytes follow the last record. -/
  | ignoredTrailing (bytes : Nat)
  /-- A length is skipped in front of an account and its balance. -/
  | skippedTupleLength (width : Nat)
  /-- The length in front of a text is taken off. -/
  | strippedTextLength (declared : UInt64) (consumed : Nat)
  /-- A payload has no statement. -/
  | undecodedStatement (tag : String) (payloadLength : Nat) (reason : String)
  /-- A buffer is about to be decoded. -/
  | decodingBuffer (bytes : Nat) (limits : Limits)
  /-- A buffer is decoded. -/
  | decodedBuffer (records invalid : Nat)
  /-- A buffer is built. -/
  | encodedBuffer (records bytes : Nat)
  deriving DecidableEq

/-- The value of a field of an event. -/
inductive FieldValue where
  | number (n : Nat)
  | text (s : String)
  /-- A text that is shown as it is, without quotes. -/
  | plain (s : String)
  deriving DecidableEq

/-- The value of a field as it is. -/
def FieldValue.raw : FieldValue → String
  | .number n => toString n
  | .text s => s
  | .plain s => s

namespace Event

/-- How grave an event is. -/
def level : Event → Level
  | .decodedRecord .. => .debug
  | .ignoredTrailing .. => .debug
  | .skippedTupleLength .. => .trace
  | .strippedTextLength .. => .trace
  | .undecodedStatement .. => .warn
  | .decodingBuffer .. => .debug
  | .decodedBuffer .. => .info
  | .encodedBuffer .. => .info

/-- What an event says. -/
def message : Event → String
  | .decodedRecord .. => "decoded intent record"
  | .ignoredTrailing .. => "ignoring bytes after last intent record"
  | .skippedTupleLength .. => "skipping psp22 length prefix"
  | .strippedTextLength .. => "stripping text length prefix"
  | .undecodedStatement .. => "statement could not be decoded"
  | .decodingBuffer .. => "decoding intent buffer"
  | .decodedBuffer .. => "decoded intent buffer"
  | .encodedBuffer .. => "encoded intent buffer"

/-- The fields of an event, by name, in the order in which they are shown. -/
def fields : Event → List (String × FieldValue)
  | .decodedRecord index tag payloadLength =>
    [("index", .number index), ("type_tag", .text tag), ("payload_len", .number payloadLength)]
  | .ignoredTrailing bytes => [("trailing", .number bytes)]
  | .skippedTupleLength width => [("width", .number width)]
  | .strippedTextLength declared consumed =>
    [("declared", .number declared.toNat), ("consumed", .number consumed)]
  | .undecodedStatement tag payloadLength reason =>
    [("type_tag", .text tag), ("payload_len", .number payloadLength), ("reason", .plain reason)]
  | .decodingBuffer bytes limits =>
    [("bytes", .number bytes), ("config", .plain limits.describe)]
  | .decodedBuffer records invalid =>
    [("records", .number records), ("invalid", .number invalid)]
  | .encodedBuffer records bytes => [("records", .number records), ("bytes", .number bytes)]

end Event

end IntentWire
