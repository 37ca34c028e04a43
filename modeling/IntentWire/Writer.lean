import IntentWire.Compact
import IntentWire.Text.Utf8

/-!
# Writing fields

What a reader reads is written by appending to a buffer: a compact integer, or a
field, which is a byte string behind its length.
-/

namespace IntentWire.Bytes

/-- `b` behind its length. -/
def field (b : Bytes) : Bytes :=
  Compact.encode (.ofNat b.length) ++ b

/-- The number of bytes of a field that holds `n` bytes. -/
def fieldSize (n : Nat) : Nat :=
  Compact.width (.ofNat n) + n

/-- Appends a compact integer to a buffer. -/
def putCompact (buffer : Bytes) (v : UInt64) : Bytes :=
  buffer ++ Compact.encode v

/-- Appends a field to a buffer. -/
def putBytes (buffer b : Bytes) : Bytes :=
  buffer ++ field b

/-- Appends a field that holds a text to a buffer. -/
def putText (buffer : Bytes) (s : String) : Bytes :=
  putBytes buffer (ofText s)

end IntentWire.Bytes
