import IntentWire.Writer

/-!
# Intent collections

An intent is stored as a *record*: a type tag, which is a text, and a payload,
whose meaning depends on the tag. A *collection* is a list of records. It is
written as the number of its records, followed by the two fields of each:

    compact(count) ++ count × [ field(tag) ++ field(payload) ]
-/

namespace IntentWire

/-- An intent as it is stored. -/
structure Record where
  tag : String
  payload : Bytes
  deriving DecidableEq

namespace Record

/-- The bytes of a record in a buffer. -/
def encode (r : Record) : Bytes :=
  Bytes.field (Bytes.ofText r.tag) ++ Bytes.field r.payload

/-- Appends a record to a buffer: its two fields. -/
def put (buffer : Bytes) (r : Record) : Bytes :=
  Bytes.putBytes (Bytes.putText buffer r.tag) r.payload

/-- The number of bytes of a record in a buffer. -/
def wireSize (r : Record) : Nat :=
  Bytes.fieldSize r.tag.utf8ByteSize + Bytes.fieldSize r.payload.length

end Record

/-- Records, in the order in which they are written. -/
abbrev Collection := List Record

namespace Collection

/-- The bytes of a collection. -/
def encode (c : Collection) : Bytes :=
  Compact.encode (.ofNat c.length) ++ c.flatMap Record.encode

/-- Appends a collection to a buffer: the number of its records, and then these one after
    the other. -/
def encodeInto (c : Collection) (buffer : Bytes) : Bytes :=
  c.foldl Record.put (Bytes.putCompact buffer (.ofNat c.length))

/-- The number of bytes of the records of a collection, one behind the other. -/
def recordsSize (c : Collection) : Nat :=
  c.foldr (fun r n => r.wireSize + n) 0

/-- The number of bytes of a collection. -/
def wireSize (c : Collection) : Nat :=
  Compact.width (.ofNat c.length) + c.recordsSize

end Collection

end IntentWire
