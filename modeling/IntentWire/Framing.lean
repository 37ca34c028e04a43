import IntentWire.Collection
import IntentWire.Logged
import IntentWire.Reader

/-!
# Framing

Reading a collection back from a buffer, within limits. Either the whole
collection is read or none of it: the first thing amiss fails the buffer, with an
error that tells the record it is in. The bytes after the last record are
ignored.

What a payload means does not matter here: its bytes are passed over.

The reading is told step by step on a `Progress`: where the reader is, the records
read and the events reported, and what the buffer has made the reading do. A step
that fails leaves the progress made. All that moves the reader is an argument of the
steps (`Record.Reads`, `Framing.Moves`), so that they are told once for every way to
read a buffer.
-/

namespace IntentWire

/-- Why no collection can be read from a buffer. -/
inductive FrameError where
  /-- The number of records cannot be read. -/
  | malformedCollection (cause : ReadError)
  /-- The buffer ends within a record. -/
  | truncatedRecord (index : Nat) (cause : ReadError)
  /-- The length of a field is not a compact integer. -/
  | malformedRecord (index : Nat) (cause : ReadError)
  /-- The tag of a record is not valid UTF-8. -/
  | invalidTag (index : Nat)
  /-- More records are declared than the limit. -/
  | tooManyRecords (count max : UInt64)
  /-- A field is declared longer than the limit. -/
  | fieldTooLarge (index : Nat) (size max : UInt64)
  deriving DecidableEq

namespace FrameError

/-- The error of a read that fails within the record of the given index. -/
def inRecord (index : Nat) : ReadError → FrameError
  | cause@(.truncated ..) => .truncatedRecord index cause
  | .invalidText => .invalidTag index
  | cause => .malformedRecord index cause

/-- Whether it is a limit that the buffer fails, and not its own form. -/
def isLimit : FrameError → Bool
  | .tooManyRecords .. => true
  | .fieldTooLarge .. => true
  | _ => false

/-- The read that failed, where it is one. -/
def cause? : FrameError → Option ReadError
  | .malformedCollection cause => some cause
  | .truncatedRecord _ cause => some cause
  | .malformedRecord _ cause => some cause
  | _ => none

/-- The wording of a framing error. -/
def message : FrameError → String
  | .malformedCollection cause => s!"malformed collection: {cause.message}"
  | .truncatedRecord index cause => s!"record {index} is truncated: {cause.message}"
  | .malformedRecord index cause => s!"record {index} is malformed: {cause.message}"
  | .invalidTag index => s!"record {index} has a type tag that is not valid UTF-8"
  | .tooManyRecords count max => s!"collection declares {count} records (max {max})"
  | .fieldTooLarge index size max =>
    s!"record {index} field too large ({size} bytes, max {max})"

end FrameError

/-! ### Records -/

namespace Record

/-- The number of bytes of the smallest record, which has two empty fields. -/
def minSize : Nat := 2

/-- The reads that a record is read by. Each is told which error to make of its own. -/
structure Reads (m : Type → Type) where
  /-- Reads a compact integer. -/
  compact : (ReadError → FrameError) → m UInt64
  /-- Reads the next bytes, as many as it is told. -/
  slice : Nat → (ReadError → FrameError) → m Bytes

section

variable {m : Type → Type} [Monad m] [MonadExceptOf FrameError m]

/-- Reads a field of the record of the given index. Its length is held against the
    limit first, and against the bytes that are left next. -/
@[specialize]
def readFieldWith (x : Reads m) (limits : Limits) (index : Nat) : m Bytes := do
  let size ← x.compact (.inRecord index)
  if limits.maxFieldLength < size then
    throw (.fieldTooLarge index size limits.maxFieldLength)
  x.slice size.toNat (.inRecord index)

/-- Reads the record of the given index. The tag is made out before the payload is
    read. -/
@[specialize]
def readWith (x : Reads m) (limits : Limits) (index : Nat) : m Record := do
  let tag ← readFieldWith x limits index
  let some tag := Bytes.text? tag | throw (.invalidTag index)
  let payload ← readFieldWith x limits index
  return ⟨tag, payload⟩

end

/-- The reads of a reader. -/
def Reads.ofReader : Reads (EStateM FrameError Reader) where
  compact inRecord := Reader.fieldLength.adaptExcept inRecord
  slice n inRecord := (Reader.slice n).adaptExcept inRecord

/-- Reads a field of the record of the given index. -/
def readField (limits : Limits) (index : Nat) : EStateM FrameError Reader Bytes :=
  readFieldWith .ofReader limits index

/-- Reads the record of the given index. -/
def read (limits : Limits) (index : Nat) : EStateM FrameError Reader Record :=
  readWith .ofReader limits index

end Record

/-! ### Collections -/

/-- How far the reading of a collection has come, with a reader of the type `ρ`. -/
structure Progress (ρ : Type) where
  reader : ρ
  /-- The records read so far, in order. -/
  records : Array Record
  /-- The events reported so far, in order. -/
  events : Array Event
  /-- The number of records that room was made for. -/
  room : Nat
  /-- How many times the reading of a record was begun. -/
  begun : Nat

namespace Progress

variable {ρ : Type}

/-- Nothing is read, and the reader is at the start. -/
def atStart (r : ρ) : Progress ρ :=
  ⟨r, #[], #[], 0, 0⟩

/-- Nothing of `buffer` is read. -/
def start (buffer : Bytes) : Progress Reader :=
  atStart (.ofBytes buffer)

/-- The progress when an event is reported. -/
def report (p : Progress ρ) (e : Event) : Progress ρ :=
  { p with events := p.events.push e }

/-- The progress when room is made for `n` records. -/
def makeRoom (p : Progress ρ) (n : Nat) : Progress ρ :=
  { p with records := .emptyWithCapacity n, room := n }

/-- The progress when the reading of a record is begun. -/
def beginRecord (p : Progress ρ) : Progress ρ :=
  { p with begun := p.begun + 1 }

/-- The progress when a record that is read is put to the others. -/
def add (p : Progress ρ) (record : Record) : Progress ρ :=
  { p with records := p.records.push record }

end Progress

namespace Framing

/-- The number of records to make room for, when `count` are declared and
    `remaining` bytes left: no more than these can hold, whatever is declared. -/
def room (count remaining : Nat) : Nat :=
  min count (remaining / Record.minSize)

/-- What a collection is read by. A read is told which error to make of its own. -/
structure Moves (m : Type → Type) where
  /-- Reads a compact integer. -/
  compact : (ReadError → FrameError) → m UInt64
  /-- The number of bytes that are left. -/
  remaining : m Nat
  /-- Reads the record of the given index. -/
  record : Nat → m Record

section

variable {ρ : Type} {m : Type → Type} [Monad m] [MonadState (Progress ρ) m]
  [MonadExceptOf FrameError m]

/-- Reads the number of records and makes room for them. -/
@[specialize]
def countWith (x : Moves m) (limits : Limits) : m Nat := do
  let count ← x.compact .malformedCollection
  if limits.maxRecords < count then
    throw (.tooManyRecords count limits.maxRecords)
  let remaining ← x.remaining
  modify (·.makeRoom (room count.toNat remaining))
  return count.toNat

/-- Reads the next record, and reports it. -/
@[specialize]
def nextWith (x : Moves m) : m Unit := do
  let index := (← get).records.size
  modify (·.beginRecord)
  let record ← x.record index
  modify (·.report (.decodedRecord index record.tag record.payload.length))
  modify (·.add record)

/-- Reads a number of records, one behind the other. -/
@[specialize]
def nextManyWith (x : Moves m) : Nat → m Unit
  | 0 => return
  | n + 1 => do
    nextWith x
    nextManyWith x n

/-- Reads a collection, and reports the bytes left over. -/
@[specialize]
def collectionWith (x : Moves m) (limits : Limits) : m Unit := do
  nextManyWith x (← countWith x limits)
  let remaining ← x.remaining
  if remaining ≠ 0 then
    modify (·.report (.ignoredTrailing remaining))

end

end Framing

/-- A part of the reading of a collection. -/
abbrev Framing := EStateM FrameError (Progress Reader)

namespace Framing

/-- Reads what `x` reads. -/
def reading {α : Type} (x : EStateM FrameError Reader α) : Framing α := fun p =>
  match x.run p.reader with
  | .ok a r => .ok a { p with reader := r }
  | .error e r => .error e { p with reader := r }

/-- What a collection is read by where there is a reader. -/
def moves (limits : Limits) : Moves Framing where
  compact inCollection := reading (Reader.compact.adaptExcept inCollection)
  remaining := do return (← get).reader.remaining
  record index := reading (Record.read limits index)

/-- Reads the number of records and makes room for them. -/
def count (limits : Limits) : Framing Nat :=
  countWith (moves limits) limits

/-- Reads the next record, and reports it. -/
def next (limits : Limits) : Framing Unit :=
  nextWith (moves limits)

/-- Reads a number of records, one behind the other. -/
def nextMany (limits : Limits) (n : Nat) : Framing Unit :=
  nextManyWith (moves limits) n

/-- Reads a collection, and reports the bytes left over. -/
def collection (limits : Limits) : Framing Unit :=
  collectionWith (moves limits) limits

end Framing

namespace Collection

/-- Reads the collection at the start of a buffer, and reports every record read
    and the bytes left over. -/
def decodeLogged (limits : Limits) (buffer : Bytes) : Logged (Except FrameError Collection) :=
  match (Framing.collection limits).run (.start buffer) with
  | .ok _ p => ⟨.ok p.records.toList, p.events.toList⟩
  | .error e p => ⟨.error e, p.events.toList⟩

/-- Reads the collection at the start of a buffer. -/
def decode (limits : Limits) (buffer : Bytes) : Except FrameError Collection :=
  (decodeLogged limits buffer).value

end Collection

end IntentWire
