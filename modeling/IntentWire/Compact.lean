import IntentWire.Bytes
import IntentWire.ReadError

/-!
# Compact integers

A *compact* integer is a word of 64 bits laid out in one to nine bytes. The low
two bits of the first byte, its *mode*, tell the form:

* `single`, `two` and `four`: one, two or four bytes, little-endian, of which the
  value is all but the two bits of the mode;
* `big`: the upper six bits of the first byte count the bytes that follow it,
  from four on, and these are the value, little-endian.

A value has an encoding in every form wide enough for it. The shortest one is
*canonical*: it is what `encode` writes, and the only one that `decode` reads.
The width of an encoding follows from its first byte alone (`headerWidth`),
whether or not the encoding is canonical, or even fits a word.
-/

namespace IntentWire.Compact

open Bytes

/-- The greatest value of the form of one byte. -/
def maxOneByte : UInt64 := 63

/-- The greatest value of the form of two bytes. -/
def maxTwoByte : UInt64 := 16383

/-- The greatest value of the form of four bytes. -/
def maxFourByte : UInt64 := 1073741823

/-- The width of the longest encoding of a word: a first byte and eight of value. -/
def maxWidth : Nat := 9

/-- The least number of bytes of value behind a first byte of the mode `big`. -/
def minValueBytes : Nat := 4

/-! ### Modes -/

/-- The low two bits of the first byte of an encoding. -/
inductive Mode where
  | single
  | two
  | four
  | big
  deriving DecidableEq

namespace Mode

/-- The bits of a mode. -/
def bits : Mode → UInt8
  | .single => 0
  | .two => 1
  | .four => 2
  | .big => 3

/-- The mode of an encoding, from its first byte. -/
def ofFirst (first : UInt8) : Mode :=
  match (first &&& 3).toNat with
  | 0 => .single
  | 1 => .two
  | 2 => .four
  | _ => .big

end Mode

/-- The number of bytes of the encoding that starts with `first`. It is told by
    the first byte alone, so an encoding that cannot be read has a width too. -/
def headerWidth (first : UInt8) : Nat :=
  match Mode.ofFirst first with
  | .single => 1
  | .two => 2
  | .four => 4
  | .big => 1 + (first >>> 2).toNat + minValueBytes

/-! ### Writing -/

/-- The forms of an encoding. -/
inductive WidthClass where
  | single
  | two
  | four
  /-- A first byte, and as many bytes of value as given. -/
  | big (valueBytes : UInt8)
  deriving DecidableEq

/-- The number of bytes that hold all bits of `v` from its highest one down. -/
def significantBytes (v : UInt64) : Nat :=
  (64 - v.toBitVec.clz.toNat + 7) / 8

namespace WidthClass

/-- The shortest form that holds `v`. -/
def ofValue (v : UInt64) : WidthClass :=
  if v ≤ maxOneByte then .single
  else if v ≤ maxTwoByte then .two
  else if v ≤ maxFourByte then .four
  else .big (.ofNat (max (significantBytes v) minValueBytes))

/-- The number of bytes of an encoding of this form, the first one included. -/
def width : WidthClass → Nat
  | .single => 1
  | .two => 2
  | .four => 4
  | .big n => 1 + n.toNat

end WidthClass

/-- The number of bytes of the encoding of `v`. -/
def width (v : UInt64) : Nat :=
  (WidthClass.ofValue v).width

/-- The encoding of `v`, in the shortest form that holds it. The words of the short
    forms keep no more of `v` than fits them, and make room for the mode. -/
def encode (v : UInt64) : Bytes :=
  match WidthClass.ofValue v with
  | .single => [v.toUInt8 <<< 2 ||| Mode.single.bits]
  | .two => littleEndian 2 (v.toUInt16 <<< 2 ||| Mode.two.bits.toUInt16).toNat
  | .four => littleEndian 4 (v.toUInt32 <<< 2 ||| Mode.four.bits.toUInt32).toNat
  | .big n =>
    ((n - .ofNat minValueBytes) <<< 2 ||| Mode.big.bits) :: (littleEndian 8 v.toNat).take n.toNat

/-! ### Reading -/

/-- The first `n` bytes of `s`. -/
def leading (n : Nat) (s : Bytes) : Except ReadError Bytes :=
  let found := s.take n
  if found.length < n then .error (.truncated n s.length) else .ok found

/-- Refuses a value that has a shorter encoding: one of at most `narrower`, the greatest
    value of the shorter form. -/
def checkCanonical (value narrower : UInt64) (width : Nat) : Except ReadError Unit :=
  if value ≤ narrower then .error (.nonCanonical value width) else .ok ()

/-- Reads the form of two or four bytes. -/
def decodeShort (width : Nat) (narrower : UInt64) (s : Bytes) :
    Except ReadError (UInt64 × Nat) := do
  let raw ← leading width s
  let value := UInt64.ofNat (ofLittleEndian raw) >>> 2
  checkCanonical value narrower width
  return (value, width)

/-- Reads the form of a first byte and the bytes of the value. -/
def decodeBig (first : UInt8) (s : Bytes) : Except ReadError (UInt64 × Nat) := do
  let width := headerWidth first
  -- A width that fits no word is refused before the bytes are counted.
  if maxWidth < width then throw (.overflow width)
  let raw := (← leading width s).drop 1
  let value := UInt64.ofNat (ofLittleEndian raw)
  -- The last byte of the value has to be in use, or a shorter form would do.
  if raw.getLast? = some 0 then throw (.nonCanonical value width)
  checkCanonical value maxFourByte width
  return (value, width)

/-- Reads the canonical encoding at the start of `s`: its value and its width.
    What follows the encoding does not matter. -/
def decode : Bytes → Except ReadError (UInt64 × Nat)
  | [] => .error (.truncated 1 0)
  | first :: s =>
    match Mode.ofFirst first with
    | .single => .ok ((first >>> 2).toUInt64, 1)
    | .two => decodeShort 2 maxOneByte (first :: s)
    | .four => decodeShort 4 maxTwoByte (first :: s)
    | .big => decodeBig first (first :: s)

/-- Reads the canonical encoding at `offset` in `s`. Past the end of `s`, the
    count of the bytes needed stays within a word. -/
def decodeAt (s : Bytes) (offset : Nat) : Except ReadError (UInt64 × Nat) :=
  if s.length < offset then .error (.truncated (min (offset + 1) (UInt64.size - 1)) s.length)
  else decode (s.drop offset)

end IntentWire.Compact
