import IntentWire.Bytes
import Mathlib.Algebra.Ring.Nat

/-!
# Laws of byte strings

Numbers and their little-endian bytes undo each other: `ofLittleEndian_littleEndian` on
the numbers that fit, `littleEndian_ofLittleEndian` on every byte string. The last byte
of a number is zero just when the number fits the bytes before it
(`getLast?_eq_zero_iff`).
-/

namespace IntentWire.Bytes

theorem take_littleEndian {m n : Nat} (h : m ≤ n) (v : Nat) :
    (littleEndian n v).take m = littleEndian m v := by
  induction m generalizing n v with
  | zero => rfl
  | succ m ih =>
    obtain ⟨n, rfl⟩ : ∃ k, n = k + 1 := ⟨n - 1, by omega⟩
    rw [littleEndian, littleEndian, List.take_succ_cons, ih (by omega)]

theorem ofLittleEndian_lt (b : Bytes) : ofLittleEndian b < 256 ^ b.length := by
  induction b with
  | nil => simp [ofLittleEndian]
  | cons x b ih =>
    have hx : x.toNat < 256 := x.toNat_lt
    rw [ofLittleEndian, List.length_cons, Nat.pow_succ]
    omega

theorem ofLittleEndian_littleEndian {n v : Nat} (h : v < 256 ^ n) :
    ofLittleEndian (littleEndian n v) = v := by
  induction n generalizing v with
  | zero =>
    rw [Nat.pow_zero] at h
    simp only [littleEndian, ofLittleEndian]
    omega
  | succ n ih =>
    rw [Nat.pow_succ] at h
    rw [littleEndian, ofLittleEndian, ih (by omega), UInt8.toNat_ofNat']
    omega

theorem littleEndian_ofLittleEndian (b : Bytes) :
    littleEndian b.length (ofLittleEndian b) = b := by
  induction b with
  | nil => rfl
  | cons x b ih =>
    have hx : x.toNat < 256 := x.toNat_lt
    have hd : (x.toNat + 256 * ofLittleEndian b) / 256 = ofLittleEndian b := by omega
    have hm : UInt8.ofNat (x.toNat + 256 * ofLittleEndian b) = x := by
      apply UInt8.toNat_inj.1
      rw [UInt8.toNat_ofNat']
      omega
    rw [List.length_cons, ofLittleEndian, littleEndian, hd, hm, ih]

theorem ofLittleEndian_append (b c : Bytes) :
    ofLittleEndian (b ++ c) = ofLittleEndian b + 256 ^ b.length * ofLittleEndian c := by
  induction b with
  | nil => simp [ofLittleEndian]
  | cons x b ih =>
    rw [List.cons_append, ofLittleEndian, ofLittleEndian, ih, List.length_cons, Nat.pow_succ]
    grind

/-- Zeros behind the bytes of a number do not change it. -/
theorem ofLittleEndian_append_zeros (b : Bytes) (n : Nat) :
    ofLittleEndian (b ++ List.replicate n 0) = ofLittleEndian b := by
  have hzero : ofLittleEndian (List.replicate n 0) = 0 := by
    induction n with
    | zero => rfl
    | succ n ih =>
      rw [List.replicate_succ, ofLittleEndian, ih]
      rfl
  rw [ofLittleEndian_append, hzero, Nat.mul_zero, Nat.add_zero]

theorem getLast?_eq_zero_iff {b : Bytes} (h : b ≠ []) :
    b.getLast? = some 0 ↔ ofLittleEndian b < 256 ^ (b.length - 1) := by
  obtain ⟨b, x, rfl⟩ := List.eq_nil_or_concat b |>.resolve_left h
  have hb := ofLittleEndian_lt b
  rw [List.concat_eq_append, List.getLast?_append, ofLittleEndian_append, List.length_append]
  simp only [List.getLast?_singleton, Option.some_or, Option.some.injEq, ofLittleEndian,
    List.length_singleton, Nat.add_sub_cancel, Nat.mul_zero, Nat.add_zero]
  constructor
  · rintro rfl
    simpa using hb
  · intro hlt
    apply UInt8.toNat_inj.1
    -- A byte in use alone is worth all that fits the bytes before it.
    refine Nat.eq_zero_of_not_pos fun hx => ?_
    have : 256 ^ b.length * 1 ≤ 256 ^ b.length * x.toNat := Nat.mul_le_mul_left _ hx
    omega

end IntentWire.Bytes
