import IntentWire.Compact.Layout
import Mathlib.Order.Bounds.Defs

/-!
# The encoding of a word

The encoding of a word is told here by arithmetic on the word as a number. No word of bits on
the way to it is too narrow (`Compact.WidthClass.Keeps`), so that the layout is exact; and of all
layouts of the word, padded ones included, it is the shortest.
-/

namespace IntentWire.Compact

open Bytes

/-- Whether the words of bits on the way to an encoding of a form hold all of a value: the one
    that the value is put into and the one that makes room for the mode, or else the count of
    the bytes, what the first byte has of it, and the bytes themselves. -/
def WidthClass.Keeps : WidthClass → UInt64 → Prop
  | .single, v => v.toUInt8.toNat = v.toNat ∧ (v.toUInt8 <<< 2).toNat = 4 * v.toNat
  | .two, v => v.toUInt16.toNat = v.toNat ∧ (v.toUInt16 <<< 2).toNat = 4 * v.toNat
  | .four, v => v.toUInt32.toNat = v.toNat ∧ (v.toUInt32 <<< 2).toNat = 4 * v.toNat
  | .big n, v => n.toNat = max (significantBytes v) minValueBytes ∧ minValueBytes ≤ n.toNat ∧
    (n - .ofNat minValueBytes).toNat = n.toNat - minValueBytes ∧
    ((n - .ofNat minValueBytes) <<< 2).toNat = 4 * (n.toNat - minValueBytes) ∧
    ofLittleEndian ((littleEndian 8 v.toNat).take n.toNat) = v.toNat

variable {v : UInt64}

/-- The form of a value keeps all of it. -/
theorem keeps_ofValue (v : UInt64) : (WidthClass.ofValue v).Keeps v := by
  by_cases h₁ : v.toNat < 2 ^ 6
  · rw [ofValue_single h₁]
    refine ⟨?_, ?_⟩
    · rw [UInt64.toNat_toUInt8, Nat.mod_eq_of_lt (by omega)]
    · rw [UInt8.toNat_shiftLeft, UInt64.toNat_toUInt8]
      exact shiftLeft_two_mod (w := 8) (by omega)
  by_cases h₂ : v.toNat < 2 ^ 14
  · rw [ofValue_two (Nat.not_lt.1 h₁) h₂]
    refine ⟨?_, ?_⟩
    · rw [UInt64.toNat_toUInt16, Nat.mod_eq_of_lt (by omega)]
    · rw [UInt16.toNat_shiftLeft, UInt64.toNat_toUInt16]
      exact shiftLeft_two_mod (w := 16) (by omega)
  by_cases h₃ : v.toNat < 2 ^ 30
  · rw [ofValue_four (Nat.not_lt.1 h₂) h₃]
    refine ⟨?_, ?_⟩
    · rw [UInt64.toNat_toUInt32, Nat.mod_eq_of_lt (by omega)]
    · rw [UInt32.toNat_shiftLeft, UInt64.toNat_toUInt32]
      exact shiftLeft_two_mod (w := 32) (by omega)
  · have h4 := four_le_valueBytes v
    have h8 := valueBytes_le v
    rw [ofValue_big (Nat.not_lt.1 h₃), WidthClass.Keeps, toNat_ofNat_valueBytes,
      toNat_ofNat_valueBytes_sub, take_littleEndian h8,
      ofLittleEndian_littleEndian (lt_pow_valueBytes v), UInt8.toNat_shiftLeft,
      toNat_ofNat_valueBytes_sub]
    refine ⟨rfl, h4, rfl, ?_, rfl⟩
    rw [← Nat.mod_eq_of_lt (a := valueBytes v - 4) (b := 2 ^ 8) (by omega)]
    exact shiftLeft_two_mod (w := 8) (by omega)

/-- The form `big` has as many bytes of value as hold it, and four at least. -/
theorem isLeast_valueBytes (h : 2 ^ 30 ≤ v.toNat) :
    IsLeast {n | 4 ≤ n ∧ v.toNat < 256 ^ n} (valueBytes v) :=
  ⟨⟨four_le_valueBytes v, lt_pow_valueBytes v⟩,
    fun _ ⟨hn, hu⟩ => valueBytes_le_of_lt (by omega) hn hu⟩

/-- The encoding of a word is the shortest of its layouts. -/
theorem isLeast_width (v : UInt64) :
    IsLeast {k | ∃ s, Carries s v.toNat ∧ s.length = k} (width v) := by
  refine ⟨⟨encode v, carries_encode v, length_encode v⟩, ?_⟩
  rintro _ ⟨s, h, rfl⟩
  exact h.width_le_length

/-- The encoding of a word, as a number.

    * By its size, it is the four bytes or less that hold it behind the bits of the mode, or
      the least number of bytes that holds it, from four on, behind a byte that counts them.
    * Nothing of the word is lost on the way, and no count comes below zero.
    * It is as long as its width says and as its first byte tells, nine bytes at most.
    * It is the shortest of all layouts of the word, and grows with the word. -/
theorem encode_shortest (v : UInt64) :
    (v.toNat < 2 ^ 6 → encode v = [.ofNat (4 * v.toNat)]) ∧
      (2 ^ 6 ≤ v.toNat → v.toNat < 2 ^ 14 → encode v = littleEndian 2 (4 * v.toNat + 1)) ∧
      (2 ^ 14 ≤ v.toNat → v.toNat < 2 ^ 30 → encode v = littleEndian 4 (4 * v.toNat + 2)) ∧
      (2 ^ 30 ≤ v.toNat → ∃ n ≤ 8, IsLeast {n | 4 ≤ n ∧ v.toNat < 256 ^ n} n ∧
        encode v = .ofNat (4 * (n - 4) + 3) :: littleEndian n v.toNat) ∧
      (WidthClass.ofValue v).Keeps v ∧
      (encode v).length = width v ∧ (encode v).head?.map headerWidth = some (width v) ∧
      width v ≤ 9 ∧
      IsLeast {k | ∃ s, Carries s v.toNat ∧ s.length = k} (width v) ∧
      ∀ v', v ≤ v' → width v ≤ width v' := by
  refine ⟨encode_single, encode_two, encode_four,
    fun h => ⟨_, valueBytes_le v, isLeast_valueBytes h, encode_big h⟩, keeps_ofValue v,
    length_encode v, ?_, width_le_maxWidth v, isLeast_width v, fun _ => width_le_width⟩
  rw [← length_encode]
  exact (carries_encode v).isWhole

/-- A word of each form; the last one is not all in use in a layout of six bytes. -/
theorem encode_shortest_each :
    (63 : UInt64).toNat < 2 ^ 6 ∧ encode 63 = [252] ∧
      2 ^ 6 ≤ (64 : UInt64).toNat ∧ (64 : UInt64).toNat < 2 ^ 14 ∧
      encode 64 = littleEndian 2 257 ∧
      2 ^ 14 ≤ (16384 : UInt64).toNat ∧ (16384 : UInt64).toNat < 2 ^ 30 ∧
      encode 16384 = littleEndian 4 65538 ∧
      2 ^ 30 ≤ (1073741824 : UInt64).toNat ∧
      (∃ n ≤ 8, IsLeast {n | 4 ≤ n ∧ (1073741824 : UInt64).toNat < 256 ^ n} n ∧
        encode 1073741824 = .ofNat (4 * (n - 4) + 3) :: littleEndian n 1073741824) ∧
      Carries [7, 0, 0, 0, 64, 0] (1073741824 : UInt64).toNat ∧
      width 1073741824 ≤ ([7, 0, 0, 0, 64, 0] : Bytes).length ∧
      (1073741824 : UInt64) ≤ 4294967296 ∧ width 1073741824 ≤ width 4294967296 := by
  have h6 : (63 : UInt64).toNat < 2 ^ 6 := by decide
  have h64 : 2 ^ 6 ≤ (64 : UInt64).toNat ∧ (64 : UInt64).toNat < 2 ^ 14 := by decide
  have h14 : 2 ^ 14 ≤ (16384 : UInt64).toNat ∧ (16384 : UInt64).toNat < 2 ^ 30 := by decide
  have h30 : 2 ^ 30 ≤ (1073741824 : UInt64).toNat := by decide
  have hpadded : Carries [7, 0, 0, 0, 64, 0] (1073741824 : UInt64).toNat :=
    carries_cons_iff.2 ⟨by decide, by decide⟩
  have hle : (1073741824 : UInt64) ≤ 4294967296 := by decide
  obtain ⟨-, -, -, hbig, -, -, -, -, hleast, hmono⟩ := encode_shortest 1073741824
  exact ⟨h6, (encode_shortest 63).1 h6, h64.1, h64.2, (encode_shortest 64).2.1 h64.1 h64.2,
    h14.1, h14.2, (encode_shortest 16384).2.2.1 h14.1 h14.2, h30, hbig h30, hpadded,
    hleast.2 ⟨_, hpadded, rfl⟩, hle, hmono _ hle⟩

end IntentWire.Compact
