import IntentWire.Compact
import IntentWire.Text.Utf8

/-!
# Readers

A *reader* goes through a buffer from its start. It knows how many bytes it has
read, and holds those it has not. A *read* finds something where the reader is and
moves the reader past it, or fails. A read in several steps may fail when the reader
has moved already: it then puts the reader back (`restoring`), so that no field is
ever left half read.

A *field* is a byte string behind its length, a compact integer.
-/

namespace IntentWire

/-- A position in a buffer. -/
structure Reader where
  /-- The number of bytes read so far. -/
  position : Nat
  /-- The bytes not read yet. -/
  rest : Bytes
  deriving DecidableEq

/-- A read: from a reader, what it finds there or why it fails, and the reader after it. -/
abbrev Read := EStateM ReadError Reader

namespace Reader

/-- The reader at the start of `buffer`. -/
def ofBytes (buffer : Bytes) : Reader :=
  ⟨0, buffer⟩

/-- The number of bytes not read yet. -/
def remaining (r : Reader) : Nat :=
  r.rest.length

/-- Whether all bytes are read. -/
def isEmpty (r : Reader) : Bool :=
  r.rest.isEmpty

/-- The reader `n` bytes further on. -/
def advance (r : Reader) (n : Nat) : Reader :=
  ⟨r.position + n, r.rest.drop n⟩

/-- The read `x`, which leaves the reader where it was if it fails. -/
def restoring {α : Type} (x : Read α) : Read α := fun r =>
  match x.run r with
  | .ok a r' => .ok a r'
  | .error e _ => .error e r

/-- Reads a compact integer. -/
def compact : Read UInt64 := do
  match Compact.decode (← get).rest with
  | .ok (value, width) =>
    modify (·.advance width)
    return value
  | .error e => throw e

/-- Reads the length of a field. It is not held against the bytes that are left. -/
def fieldLength : Read UInt64 :=
  compact

/-- Reads the next `n` bytes, and tells that there are `n`. -/
def array (n : Nat) : Read { b : Bytes // b.length = n } := do
  let r ← get
  let found := r.rest.take n
  if h : found.length = n then
    set (r.advance n)
    return ⟨found, h⟩
  else throw (.truncated n r.remaining)

/-- Reads the next `n` bytes. -/
def slice (n : Nat) : Read Bytes := do
  return (← array n).val

/-- Reads a field. -/
def bytes : Read Bytes := restoring do
  let n ← fieldLength
  slice n.toNat

/-- Reads a field that holds a text. -/
def text : Read String := restoring do
  match Bytes.text? (← bytes) with
  | some s => return s
  | none => throw .invalidText

end Reader

end IntentWire
