import IntentWire.Intent

/-!
# Decoding with every domain checked

Slices, indices, copies and the arithmetic of words have a domain: applied outside of it
they stop the program. Decoding is told here with all of these in their places, where it
keeps a buffer and a position in it, and is stopped (`none`) as soon as one of them is
outside its domain. An error of the input is not such a stop, and to ask whether there is
a slice is not to take it. The framing is that of every reader, here with a cursor.

That none ever is outside, so that this is the decoding that the other modules tell, is
shown in `IntentWire.Checked.Lemmas`.
-/

namespace IntentWire.Checked

/-! ### Operations with a domain -/

/-- The sum of two words, which has to be one. -/
def add (m n : Nat) : Option Nat :=
  if m + n < UInt64.size then some (m + n) else none

/-- The difference of two words, of which the first may not be less. -/
def sub (m n : Nat) : Option Nat :=
  if n ≤ m then some (m - n) else none

/-- The bytes from `i` up to `j`, which have to be places in this order. -/
def slice (b : Bytes) (i j : Nat) : Option Bytes :=
  if i ≤ j ∧ j ≤ b.length then some ((b.drop i).take (j - i)) else none

/-- The bytes from `i` on, which has to be a place. -/
def tail (b : Bytes) (i : Nat) : Option Bytes :=
  if i ≤ b.length then some (b.drop i) else none

/-- Copies `b` over `n` bytes, of which there have to be as many. -/
def copy (n : Nat) (b : Bytes) : Option { b : Bytes // b.length = n } :=
  if h : b.length = n then some ⟨b, h⟩ else none

/-! ### Compact integers -/

/-- A value and its width, or an error, unless it is stopped. -/
abbrev Decoded := ExceptT ReadError Option (UInt64 × Nat)

/-- The number that `n` bytes lay out, which are copied to the front of an empty word. -/
def word (n : Nat) (raw : Bytes) : Option UInt64 := do
  let zeros := List.replicate 8 0
  let front ← slice zeros 0 n
  let copied ← copy front.length raw
  return .ofNat (Bytes.ofLittleEndian (copied.val ++ zeros.drop n))

/-- The last of `n` bytes. -/
def last (n : Nat) (raw : Bytes) : Option UInt8 := do
  raw[← sub n 1]?

open IntentWire.Compact in
/-- Reads the form of a first byte and the bytes of the value. -/
def decodeBig (first : UInt8) (s : Bytes) : Decoded := do
  let width := headerWidth first
  let n ← sub width 1
  if maxWidth < width then throw (.overflow width)
  let some raw := slice s 1 width | throw (.truncated width s.length)
  let value ← word n raw
  if (← last n raw) = 0 then throw (.nonCanonical value width)
  checkCanonical value maxFourByte width
  return (value, width)

open IntentWire.Compact in
/-- Reads the canonical encoding at the start of `s`. -/
def decodeCompact (s : Bytes) : Decoded := do
  let some first := s.head? | throw (.truncated 1 0)
  match Mode.ofFirst first with
  | .single => return ((first >>> 2).toUInt64, 1)
  | .two => decodeShort 2 maxOneByte s
  | .four => decodeShort 4 maxTwoByte s
  | .big => decodeBig first s

/-! ### Cursors -/

/-- A buffer and the position in it up to which it is read. -/
structure Cursor where
  buffer : Bytes
  position : Nat

/-- A read that may be stopped. -/
abbrev Read (ε : Type) := ExceptT ε (StateT Cursor Option)

namespace Cursor

/-- The cursor at the start of `buffer`. -/
def ofBytes (buffer : Bytes) : Cursor :=
  ⟨buffer, 0⟩

/-- The number of bytes not read yet. -/
def remaining (c : Cursor) : Option Nat :=
  sub c.buffer.length c.position

/-- The bytes not read yet. -/
def rest (c : Cursor) : Option Bytes :=
  tail c.buffer c.position

/-- Reads a compact integer. -/
def compact : Read ReadError UInt64 := do
  let rest ← (← get).rest
  let (value, width) ← liftExcept (← (decodeCompact rest).run)
  let position ← add (← get).position width
  modify fun c => { c with position }
  return value

/-- Reads the next `n` bytes. -/
def slice (n : Nat) : Read ReadError Bytes := do
  let remaining ← (← get).remaining
  if remaining < n then throw (.truncated n remaining)
  let position := (← get).position
  let stop ← add position n
  let found ← Checked.slice (← get).buffer position stop
  modify fun c => { c with position := stop }
  return found

/-- Reads the next `n` bytes, and tells that there are `n`. -/
def array (n : Nat) : Read ReadError { b : Bytes // b.length = n } := do
  copy n (← slice n)

end Cursor

/-! ### Framing -/

/-- The reads of a cursor. -/
def reads : Record.Reads (Read FrameError) where
  compact inRecord := Cursor.compact.adapt inRecord
  slice n inRecord := (Cursor.slice n).adapt inRecord

/-- Reads the record of the given index. -/
def readRecord (limits : Limits) (index : Nat) : Read FrameError Record :=
  Record.readWith reads limits index

/-- A part of the reading of a collection, which may be stopped. -/
abbrev Stage := ExceptT FrameError (StateT (Progress Cursor) Option)

/-- Reads what `x` reads. -/
def reading {α : Type} (x : Read FrameError α) : Stage α := fun p => do
  let (found, reader) ← x.run.run p.reader
  return (found, { p with reader })

/-- What a collection is read by where there is a cursor. -/
def moves (limits : Limits) : Framing.Moves Stage where
  compact inCollection := reading (Cursor.compact.adapt inCollection)
  remaining := do (← get).reader.remaining
  record index := reading (readRecord limits index)

/-- Reads a collection, and reports the bytes left over. -/
def collection (limits : Limits) : Stage Unit :=
  Framing.collectionWith (moves limits) limits

/-- Reads the collection at the start of a buffer. -/
def decodeLogged (limits : Limits) (buffer : Bytes) :
    Option (Logged (Except FrameError Collection)) := do
  let (found, p) ← (collection limits).run.run (.atStart (.ofBytes buffer))
  return ⟨found.map fun _ => p.records.toList, p.events.toList⟩

/-! ### Payloads -/

open Statement in
/-- The 48 bytes of an account and its balance, or why there are none. -/
def tuple (payload : Bytes) : Option (Logged (Except String Bytes)) := do
  if payload.length = tupleSize then
    return pure (.ok payload)
  if payload.length ≤ 1 then
    return pure (.error badTupleLength)
  let first ← payload[0]?
  let width := Compact.headerWidth first
  let some rest := tail payload width | return pure (.error badLength)
  return do
    Logged.report (.skippedTupleLength width)
    return if rest.length = tupleSize then .ok rest else .error badTupleLength

/-- The account and the balance in 48 bytes, which are read one after the other. -/
def ofTuple (bytes : Bytes) : Option Statement := do
  let (account, c) ← (Cursor.array 32).run.run (.ofBytes bytes)
  let (amount, _) ← (Cursor.array 16).run.run c
  match account, amount with
  | .ok account, .ok amount =>
    return .accountBalance ⟨account.val, account.property⟩
      (.ofNat 128 (Bytes.ofLittleEndian amount.val))
  | _, _ => return .invalid Statement.badTupleLength

/-- Decodes an account and its balance. -/
def decodePsp22 (payload : Bytes) : Option (Logged Statement) := do
  let found ← tuple payload
  match found.value with
  | .error reason => return ⟨.invalid reason, found.events⟩
  | .ok bytes => return ⟨← ofTuple bytes, found.events⟩

/-- A text without the length in front of it. -/
def stripLength (payload : Bytes) : Option (Logged Bytes) := do
  match ← (decodeCompact payload).run with
  | .ok (declared, consumed) =>
    if declared.toNat = (← sub payload.length consumed) then
      let rest ← tail payload consumed
      return do
        Logged.report (.strippedTextLength declared consumed)
        return rest
    else return pure payload
  | .error _ => return pure payload

/-- Decodes a text. -/
def decodePlainText (payload : Bytes) : Option (Logged Statement) := do
  let text ← stripLength payload
  return do
    match Bytes.text? (← text) with
    | some text => pure (.plainText text)
    | none => pure (.invalid Statement.badText)

/-- The known types and their decoders. -/
def builtin : List (String × (Bytes → Option (Logged Statement))) :=
  [(Tag.psp22, decodePsp22), (Tag.password, fun payload => Statement.decodePassword payload),
    (Tag.sr25519, fun payload => Statement.decodeSr25519 payload)]

/-- Decodes a payload of the type `tag`. -/
def decode (tag : String) (payload : Bytes) : Option (Logged Statement) := do
  let statement ← (builtin.lookup tag).getD decodePlainText payload
  return Statement.decodeWith (fun _ => statement) tag payload

/-- The intents of a collection, in order. -/
def intents (c : Collection) : Option (Logged (List Intent)) := do
  let l ← c.mapM fun r => do
    let statement ← decode r.tag r.payload
    return Record.toIntent (fun _ _ => statement) r
  return Logged.collect l

/-- Reads a collection within limits and decodes its payloads. -/
def decodeIntents (limits : Limits) (buffer : Bytes) :
    Option (Logged (Except FrameError (List Intent))) := do
  let framed ← decodeLogged limits buffer
  match framed.value with
  | .error e => return ⟨.error e, framed.events⟩
  | .ok c =>
    let said ← intents c
    return ⟨.ok said.value, framed.events ++ said.events⟩

end IntentWire.Checked
