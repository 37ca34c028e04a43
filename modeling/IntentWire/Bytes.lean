/-!
# Byte strings

Buffers, payloads and encodings are finite lists of bytes, and a number is laid
out in them *little-endian*, the least significant byte first.

* `littleEndian n v`: the `n` low bytes of `v`.
* `ofLittleEndian b`: the number laid out in `b`.
-/

namespace IntentWire

/-- A byte string. -/
abbrev Bytes := List UInt8

namespace Bytes

/-- The `n` low bytes of `v`, the least significant first. -/
def littleEndian : Nat → Nat → Bytes
  | 0, _ => []
  | n + 1, v => UInt8.ofNat v :: littleEndian n (v / 256)

/-- The number laid out in `b`, the least significant byte first. -/
def ofLittleEndian : Bytes → Nat
  | [] => 0
  | x :: b => x.toNat + 256 * ofLittleEndian b

@[simp] theorem length_littleEndian (n v : Nat) : (littleEndian n v).length = n := by
  induction n generalizing v with
  | zero => rfl
  | succ n ih => simp [littleEndian, ih]

end Bytes

end IntentWire
