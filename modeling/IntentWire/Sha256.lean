import IntentWire.Bytes

/-!
# SHA-256

The hash function SHA-256 of FIPS 180-4. A message is padded to whole blocks of
sixteen words of 32 bits, and each block in turn changes a state of eight words,
which are the digest in the end.

* `length_digest`: a digest has 32 bytes.
-/

namespace IntentWire.Sha256

open Bytes

/-! ### Padding -/

/-- The number of zero bytes that fill up the last block of a message of `size`
    bytes, after a byte of padding and in front of eight bytes of length. -/
def zeros (size : Nat) : Nat :=
  (119 - size % 64) % 64

/-- A message, a byte that marks its end, zeros, and the length of the message in
    bits, the most significant byte first. -/
def pad (m : Bytes) : Bytes :=
  m ++ 0x80 :: List.replicate (zeros m.length) 0 ++ (littleEndian 8 (8 * m.length)).reverse

/-- The words that the bytes make up after those in `done`, each of four bytes with the
    most significant first. -/
def readWords (done : Array UInt32) : Bytes → Array UInt32
  | a :: b :: c :: d :: s =>
    readWords (done.push (.ofNat (ofLittleEndian [d, c, b, a]))) s
  | _ => done

/-! ### Compression -/

/-- The state between blocks: eight words. -/
structure State where
  a : UInt32
  b : UInt32
  c : UInt32
  d : UInt32
  e : UInt32
  f : UInt32
  g : UInt32
  h : UInt32

/-- The state before the first block. -/
def State.initial : State :=
  ⟨0x6a09e667, 0xbb67ae85, 0x3c6ef372, 0xa54ff53a, 0x510e527f, 0x9b05688c, 0x1f83d9ab, 0x5be0cd19⟩

/-- The constants of the rounds. -/
def roundConstants : List UInt32 :=
  [0x428a2f98, 0x71374491, 0xb5c0fbcf, 0xe9b5dba5, 0x3956c25b, 0x59f111f1, 0x923f82a4, 0xab1c5ed5,
   0xd807aa98, 0x12835b01, 0x243185be, 0x550c7dc3, 0x72be5d74, 0x80deb1fe, 0x9bdc06a7, 0xc19bf174,
   0xe49b69c1, 0xefbe4786, 0x0fc19dc6, 0x240ca1cc, 0x2de92c6f, 0x4a7484aa, 0x5cb0a9dc, 0x76f988da,
   0x983e5152, 0xa831c66d, 0xb00327c8, 0xbf597fc7, 0xc6e00bf3, 0xd5a79147, 0x06ca6351, 0x14292967,
   0x27b70a85, 0x2e1b2138, 0x4d2c6dfc, 0x53380d13, 0x650a7354, 0x766a0abb, 0x81c2c92e, 0x92722c85,
   0xa2bfe8a1, 0xa81a664b, 0xc24b8b70, 0xc76c51a3, 0xd192e819, 0xd6990624, 0xf40e3585, 0x106aa070,
   0x19a4c116, 0x1e376c08, 0x2748774c, 0x34b0bcb5, 0x391c0cb3, 0x4ed8aa4a, 0x5b9cca4f, 0x682e6ff3,
   0x748f82ee, 0x78a5636f, 0x84c87814, 0x8cc70208, 0x90befffa, 0xa4506ceb, 0xbef9a3f7, 0xc67178f2]

/-- The bits of `x`, `n` places to the right, those that fall out coming in again. -/
def rotateRight (x n : UInt32) : UInt32 :=
  (x >>> n) ||| (x <<< (32 - n))

/-- The words of the rounds: the sixteen of the block, and then each from four in
    front of it. -/
def schedule (block : Array UInt32) : Array UInt32 :=
  (List.range' 16 48).foldl (fun w t => w.push (next w t)) block
where
  /-- The word of the round `t`. -/
  next (w : Array UInt32) (t : Nat) : UInt32 :=
    let x := w.getD (t - 15) 0
    let y := w.getD (t - 2) 0
    let s₀ := rotateRight x 7 ^^^ rotateRight x 18 ^^^ (x >>> 3)
    let s₁ := rotateRight y 17 ^^^ rotateRight y 19 ^^^ (y >>> 10)
    w.getD (t - 16) 0 + s₀ + w.getD (t - 7) 0 + s₁

namespace State

/-- A round, with its constant and its word. -/
def round (s : State) (k w : UInt32) : State :=
  let s₁ := rotateRight s.e 6 ^^^ rotateRight s.e 11 ^^^ rotateRight s.e 25
  let choice := (s.e &&& s.f) ^^^ (~~~s.e &&& s.g)
  let t₁ := s.h + s₁ + choice + k + w
  let s₀ := rotateRight s.a 2 ^^^ rotateRight s.a 13 ^^^ rotateRight s.a 22
  let majority := (s.a &&& s.b) ^^^ (s.a &&& s.c) ^^^ (s.b &&& s.c)
  ⟨t₁ + (s₀ + majority), s.a, s.b, s.c, s.d + t₁, s.e, s.f, s.g⟩

/-- The sum of two states, word by word. -/
def add (s t : State) : State :=
  ⟨s.a + t.a, s.b + t.b, s.c + t.c, s.d + t.d, s.e + t.e, s.f + t.f, s.g + t.g, s.h + t.h⟩

/-- The state after a block. -/
def compress (s : State) (block : Array UInt32) : State :=
  s.add ((roundConstants.zip (schedule block).toList).foldl (fun s (k, w) => s.round k w) s)

/-- The words of a state. -/
def words (s : State) : List UInt32 :=
  [s.a, s.b, s.c, s.d, s.e, s.f, s.g, s.h]

end State

/-! ### The digest -/

/-- The digest of a message. -/
def digest (m : Bytes) : Bytes :=
  let words := readWords #[] (pad m)
  let final := (List.range (words.size / 16)).foldl
    (fun s i => s.compress (words.extract (16 * i) (16 * i + 16))) State.initial
  final.words.flatMap fun w => (littleEndian 4 w.toNat).reverse

@[simp] theorem length_digest (m : Bytes) : (digest m).length = 32 := by
  simp [digest, State.words]

end IntentWire.Sha256
