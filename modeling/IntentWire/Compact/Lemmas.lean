import IntentWire.Bytes.Lemmas
import IntentWire.Compact

/-!
# Laws of compact integers

Words, shifts and masks are left behind here: an encoding is told by arithmetic, and so
is what is read.

* `encode_single`, `encode_two`, `encode_four`, `encode_big`: the encoding of a value, by
  its size.
* `decode_cons`: what is read, by the width that the first byte tells and the number
  `carried` in the bytes of that width.
* `length_encode`: an encoding is as wide as `width` says.
* `decode_encode_append`: an encoding is read back, whatever follows it.
* `encode_append_inj`: no encoding is the start of another one.
* `decode_take_encode`: an encoding that is cut short is told to be so.
* `eq_encode_append_of_decode`: whatever is read is an encoding.
-/

namespace IntentWire.Compact

open Bytes

/-! ### The first byte -/

theorem Mode.ofFirst_eq_iff {first : UInt8} {m : Mode} :
    Mode.ofFirst first = m ↔ first.toNat % 4 = m.bits.toNat := by
  have h : (first &&& 3).toNat = first.toNat % 4 := by
    rw [UInt8.toNat_and]
    exact Nat.and_two_pow_sub_one_eq_mod first.toNat 2
  have hlt : first.toNat % 4 < 4 := Nat.mod_lt _ (by decide)
  rw [Mode.ofFirst, h]
  -- Four remainders and four modes, which go together in one way.
  rcases (by omega : first.toNat % 4 = 0 ∨ first.toNat % 4 = 1 ∨ first.toNat % 4 = 2 ∨
    first.toNat % 4 = 3) with h | h | h | h <;> rw [h] <;> cases m <;> decide

theorem toNat_shiftRight_two (x : UInt8) : (x >>> 2).toNat = x.toNat / 4 := by
  rw [UInt8.toNat_shiftRight]
  exact Nat.shiftRight_eq_div_pow x.toNat 2

theorem headerWidth_single {first : UInt8} (h : Mode.ofFirst first = .single) :
    headerWidth first = 1 := by
  simp only [headerWidth, h]

theorem headerWidth_two {first : UInt8} (h : Mode.ofFirst first = .two) :
    headerWidth first = 2 := by
  simp only [headerWidth, h]

theorem headerWidth_four {first : UInt8} (h : Mode.ofFirst first = .four) :
    headerWidth first = 4 := by
  simp only [headerWidth, h]

theorem headerWidth_big {first : UInt8} (h : Mode.ofFirst first = .big) :
    headerWidth first = first.toNat / 4 + 5 := by
  simp only [headerWidth, h, toNat_shiftRight_two, minValueBytes]
  omega

theorem headerWidth_pos (first : UInt8) : 0 < headerWidth first := by
  unfold headerWidth
  split <;> omega

/-! ### The size of a value -/

theorem ofValue_single {v : UInt64} (h : v.toNat < 2 ^ 6) : WidthClass.ofValue v = .single := by
  have : v ≤ maxOneByte := UInt64.le_iff_toNat_le.2 (Nat.le_of_lt_succ h)
  rw [WidthClass.ofValue, if_pos this]

theorem ofValue_two {v : UInt64} (hl : 2 ^ 6 ≤ v.toNat) (hu : v.toNat < 2 ^ 14) :
    WidthClass.ofValue v = .two := by
  have h₁ : ¬v ≤ maxOneByte := fun h => Nat.not_lt.2 (UInt64.le_iff_toNat_le.1 h) hl
  have h₂ : v ≤ maxTwoByte := UInt64.le_iff_toNat_le.2 (Nat.le_of_lt_succ hu)
  rw [WidthClass.ofValue, if_neg h₁, if_pos h₂]

theorem ofValue_four {v : UInt64} (hl : 2 ^ 14 ≤ v.toNat) (hu : v.toNat < 2 ^ 30) :
    WidthClass.ofValue v = .four := by
  have h₁ : ¬v ≤ maxOneByte := fun h =>
    Nat.not_lt.2 (UInt64.le_iff_toNat_le.1 h) (Nat.le_trans (by decide) hl)
  have h₂ : ¬v ≤ maxTwoByte := fun h => Nat.not_lt.2 (UInt64.le_iff_toNat_le.1 h) hl
  have h₃ : v ≤ maxFourByte := UInt64.le_iff_toNat_le.2 (Nat.le_of_lt_succ hu)
  rw [WidthClass.ofValue, if_neg h₁, if_neg h₂, if_pos h₃]

/-- The number of bytes of value in the form `big` of the encoding of `v`. -/
def valueBytes (v : UInt64) : Nat :=
  max (significantBytes v) minValueBytes

theorem ofValue_big {v : UInt64} (h : 2 ^ 30 ≤ v.toNat) :
    WidthClass.ofValue v = .big (.ofNat (valueBytes v)) := by
  have h₁ : ¬v ≤ maxOneByte := fun h' =>
    Nat.not_lt.2 (UInt64.le_iff_toNat_le.1 h') (Nat.le_trans (by decide) h)
  have h₂ : ¬v ≤ maxTwoByte := fun h' =>
    Nat.not_lt.2 (UInt64.le_iff_toNat_le.1 h') (Nat.le_trans (by decide) h)
  have h₃ : ¬v ≤ maxFourByte := fun h' => Nat.not_lt.2 (UInt64.le_iff_toNat_le.1 h') h
  rw [WidthClass.ofValue, if_neg h₁, if_neg h₂, if_neg h₃, valueBytes]

theorem lt_pow_significantBytes (v : UInt64) : v.toNat < 256 ^ significantBytes v := by
  have h : v.toNat < 2 ^ (64 - v.toBitVec.clz.toNat) := BitVec.toNat_lt_two_pow_sub_clz
  -- The bits in use are rounded up to bytes.
  have hp : 2 ^ (64 - v.toBitVec.clz.toNat) ≤ 2 ^ (8 * significantBytes v) :=
    Nat.pow_le_pow_right (by decide) (by rw [significantBytes]; omega)
  rw [show (256 : Nat) = 2 ^ 8 from rfl, ← Nat.pow_mul]
  omega

theorem pow_le_of_significantBytes {v : UInt64} (h : 0 < v.toNat) :
    256 ^ (significantBytes v - 1) ≤ v.toNat := by
  have hne : v.toBitVec ≠ 0#64 := fun h' => by
    rw [← UInt64.toNat_toBitVec, h'] at h
    exact absurd h (by decide)
  have hl : 2 ^ (63 - v.toBitVec.clz.toNat) ≤ v.toNat :=
    BitVec.two_pow_sub_clz_le_toNat_of_ne_zero (by decide) hne
  have hc : v.toBitVec.clz.toNat < 64 := BitVec.lt_def.1 (BitVec.clz_lt_iff_ne_zero.2 hne)
  rw [show (256 : Nat) = 2 ^ 8 from rfl, ← Nat.pow_mul]
  exact Nat.le_trans (Nat.pow_le_pow_right (by decide) (by rw [significantBytes]; omega)) hl

theorem significantBytes_le_of_lt {v : UInt64} {n : Nat} (h : 0 < v.toNat)
    (hu : v.toNat < 256 ^ n) : significantBytes v ≤ n := by
  have := (Nat.pow_lt_pow_iff_right (by decide)).1
    (Nat.lt_of_le_of_lt (pow_le_of_significantBytes h) hu)
  omega

theorem significantBytes_eq {v : UInt64} {k : Nat} (hl : 256 ^ k ≤ v.toNat)
    (hu : v.toNat < 256 ^ (k + 1)) : significantBytes v = k + 1 := by
  have hp : 0 < 256 ^ k := Nat.pow_pos (by decide)
  have h₁ : k < significantBytes v :=
    (Nat.pow_lt_pow_iff_right (by decide)).1 (Nat.lt_of_le_of_lt hl (lt_pow_significantBytes v))
  have h₂ := significantBytes_le_of_lt (by omega) hu
  omega

theorem significantBytes_le (v : UInt64) : significantBytes v ≤ 8 := by
  rw [significantBytes]
  omega

theorem four_le_valueBytes (v : UInt64) : 4 ≤ valueBytes v := by
  rw [valueBytes, minValueBytes]
  omega

theorem valueBytes_le (v : UInt64) : valueBytes v ≤ 8 := by
  have := significantBytes_le v
  rw [valueBytes, minValueBytes]
  omega

theorem lt_pow_valueBytes (v : UInt64) : v.toNat < 256 ^ valueBytes v :=
  Nat.lt_of_lt_of_le (lt_pow_significantBytes v)
    (Nat.pow_le_pow_right (by decide) (Nat.le_max_left _ _))

/-- From four bytes on, no fewer than `valueBytes v` hold `v`. -/
theorem valueBytes_le_of_lt {v : UInt64} {n : Nat} (h : 0 < v.toNat) (hn : 4 ≤ n)
    (hu : v.toNat < 256 ^ n) : valueBytes v ≤ n :=
  Nat.max_le.2 ⟨significantBytes_le_of_lt h hu, hn⟩

theorem toNat_ofNat_valueBytes (v : UInt64) :
    (UInt8.ofNat (valueBytes v)).toNat = valueBytes v := by
  have := valueBytes_le v
  rw [UInt8.toNat_ofNat']
  omega

/-- The count of the bytes of value is not below the least one. -/
theorem toNat_ofNat_valueBytes_sub (v : UInt64) :
    (UInt8.ofNat (valueBytes v) - .ofNat minValueBytes).toNat = valueBytes v - 4 := by
  rw [UInt8.toNat_sub_of_le _ _ (UInt8.le_iff_toNat_le.2 _), toNat_ofNat_valueBytes]
  · rfl
  · rw [toNat_ofNat_valueBytes]
    exact four_le_valueBytes v

theorem width_eq (v : UInt64) : width v =
    if v.toNat < 2 ^ 6 then 1 else if v.toNat < 2 ^ 14 then 2
    else if v.toNat < 2 ^ 30 then 4 else valueBytes v + 1 := by
  rw [width]
  split
  next h => rw [ofValue_single h, WidthClass.width]
  next h₁ =>
  split
  next h => rw [ofValue_two (Nat.not_lt.1 h₁) h, WidthClass.width]
  next h₂ =>
  split
  next h => rw [ofValue_four (Nat.not_lt.1 h₂) h, WidthClass.width]
  next h =>
    rw [ofValue_big (Nat.not_lt.1 h), WidthClass.width, toNat_ofNat_valueBytes, Nat.add_comm]

/-! ### Encodings by size -/

/-- A word of `w` bits that makes room for the mode loses none of `x`. -/
theorem shiftLeft_two_mod {x w : Nat} (hx : 4 * x < 2 ^ w) :
    (x % 2 ^ w) <<< 2 % 2 ^ w = 4 * x := by
  have hs : x <<< 2 = 4 * x := by rw [Nat.shiftLeft_eq]; omega
  rw [Nat.mod_eq_of_lt (a := x) (by omega), hs, Nat.mod_eq_of_lt hx]

/-- The bits of a mode fit the room that a value makes for them. -/
theorem shiftLeft_or_mode {x w b : Nat} (hx : 4 * x < 2 ^ w) (hb : b < 4) :
    (x % 2 ^ w) <<< 2 % 2 ^ w ||| b = 4 * x + b := by
  have hs : x <<< 2 = 4 * x := by rw [Nat.shiftLeft_eq]; omega
  rw [shiftLeft_two_mod hx, ← hs, Nat.shiftLeft_add_eq_or_of_lt (i := 2) hb]

theorem encode_single {v : UInt64} (h : v.toNat < 2 ^ 6) :
    encode v = littleEndian 1 (4 * v.toNat) := by
  simp only [encode, ofValue_single h, littleEndian, List.cons.injEq, and_true]
  apply UInt8.toNat_inj.1
  rw [UInt8.toNat_or, UInt8.toNat_shiftLeft, UInt64.toNat_toUInt8, UInt8.toNat_ofNat']
  change (v.toNat % 2 ^ 8) <<< 2 % 2 ^ 8 ||| 0 = _
  rw [shiftLeft_or_mode (by omega) (by decide)]
  omega

theorem encode_two {v : UInt64} (hl : 2 ^ 6 ≤ v.toNat) (hu : v.toNat < 2 ^ 14) :
    encode v = littleEndian 2 (4 * v.toNat + 1) := by
  simp only [encode, ofValue_two hl hu]
  rw [UInt16.toNat_or, UInt16.toNat_shiftLeft, UInt64.toNat_toUInt16]
  change littleEndian 2 ((v.toNat % 2 ^ 16) <<< 2 % 2 ^ 16 ||| 1) = _
  rw [shiftLeft_or_mode (by omega) (by decide)]

theorem encode_four {v : UInt64} (hl : 2 ^ 14 ≤ v.toNat) (hu : v.toNat < 2 ^ 30) :
    encode v = littleEndian 4 (4 * v.toNat + 2) := by
  simp only [encode, ofValue_four hl hu]
  rw [UInt32.toNat_or, UInt32.toNat_shiftLeft, UInt64.toNat_toUInt32]
  change littleEndian 4 ((v.toNat % 2 ^ 32) <<< 2 % 2 ^ 32 ||| 2) = _
  rw [shiftLeft_or_mode (by omega) (by decide)]

theorem encode_big {v : UInt64} (h : 2 ^ 30 ≤ v.toNat) :
    encode v =
      .ofNat (4 * (valueBytes v - 4) + 3) :: littleEndian (valueBytes v) v.toNat := by
  have h8 := valueBytes_le v
  simp only [encode, ofValue_big h]
  rw [toNat_ofNat_valueBytes, take_littleEndian h8]
  congr 1
  apply UInt8.toNat_inj.1
  rw [UInt8.toNat_or, UInt8.toNat_shiftLeft, toNat_ofNat_valueBytes_sub, UInt8.toNat_ofNat',
    ← Nat.mod_eq_of_lt (a := valueBytes v - 4) (b := 2 ^ 8) (by omega)]
  change (_ % 2 ^ 8) <<< 2 % 2 ^ 8 ||| 3 = _
  rw [shiftLeft_or_mode (by omega) (by decide)]
  omega

/-! ### Reading by arithmetic -/

/-- The number laid out in `first :: rest`, a whole encoding. -/
def carried (first : UInt8) (rest : Bytes) : Nat :=
  if Mode.ofFirst first = .big then ofLittleEndian rest else ofLittleEndian (first :: rest) / 4

/-- The least value that has no encoding of less than `width` bytes: below it, an
    encoding of that width is not canonical. -/
def leastOfWidth : Nat → Nat
  | 1 => 0
  | 2 => maxOneByte.toNat + 1
  | 4 => maxTwoByte.toNat + 1
  | 5 => maxFourByte.toNat + 1
  | width => 256 ^ (width - 2)

theorem checkCanonical_eq (value narrower : UInt64) (width : Nat) :
    checkCanonical value narrower width =
      if value.toNat < narrower.toNat + 1 then .error (.nonCanonical value width)
      else .ok () := by
  simp only [checkCanonical, UInt64.le_iff_toNat_le, Nat.lt_succ_iff]

theorem decodeShort_cons {first : UInt8} {narrower : UInt64} {n : Nat}
    (hm : Mode.ofFirst first ≠ .big) (hn : n < 8) (s : Bytes) :
    decodeShort (n + 1) narrower (first :: s) =
      if (s.take n).length < n then .error (.truncated (n + 1) (s.length + 1))
      else if carried first (s.take n) < narrower.toNat + 1 then
        .error (.nonCanonical (.ofNat (carried first (s.take n))) (n + 1))
      else .ok (.ofNat (carried first (s.take n)), n + 1) := by
  -- The bytes fit a word, so that the shift of the word is a division by four.
  have hlt : ofLittleEndian (first :: s.take n) < 2 ^ 64 := by
    have hl : (first :: s.take n).length ≤ 8 := by
      rw [List.length_cons, List.length_take]; omega
    exact Nat.lt_of_lt_of_le (ofLittleEndian_lt _)
      (Nat.pow_le_pow_right (by decide) hl : _ ≤ 256 ^ 8)
  have hc : carried first (s.take n) = ofLittleEndian (first :: s.take n) / 4 := by
    rw [carried, if_neg hm]
  have ht : (UInt64.ofNat (carried first (s.take n))).toNat = carried first (s.take n) :=
    UInt64.toNat_ofNat_of_lt' (show _ < 2 ^ 64 by omega)
  have hv : UInt64.ofNat (ofLittleEndian (first :: s.take n)) >>> 2 =
      .ofNat (carried first (s.take n)) := by
    apply UInt64.toNat_inj.1
    rw [UInt64.toNat_shiftRight, UInt64.toNat_ofNat_of_lt' hlt, ht, hc]
    exact Nat.shiftRight_eq_div_pow _ 2
  simp only [decodeShort, leading, List.take_succ_cons, List.length_cons, Nat.add_lt_add_iff_right]
  split
  · rfl
  · change (checkCanonical _ narrower (n + 1) >>= fun _ => _) = _
    rw [hv, checkCanonical_eq, ht]
    split <;> rfl

theorem lt_leastOfWidth_iff {v n : Nat} :
    v < leastOfWidth (n + 5) ↔ v < 256 ^ (n + 3) ∨ v < maxFourByte.toNat + 1 := by
  have h30 : maxFourByte.toNat + 1 = 2 ^ 30 := rfl
  cases n with
  | zero =>
    -- Of five bytes the bound of the short forms is the greater one, and else the other.
    rw [show leastOfWidth (0 + 5) = maxFourByte.toNat + 1 from rfl]
    omega
  | succ k =>
    have hp : (256 : Nat) ^ 4 ≤ 256 ^ (k + 4) := Nat.pow_le_pow_right (by decide) (by omega)
    rw [show leastOfWidth (k + 1 + 5) = 256 ^ (k + 4) from rfl,
      show k + 1 + 3 = k + 4 by omega]
    omega

/-- The form `big` that a value of up to `n + 4` bytes needs is the one of `n + 4` bytes,
    unless it fits a byte less or a short form. -/
theorem leastOfWidth_le_iff {v : UInt64} {n : Nat} (hu : v.toNat < 256 ^ (n + 4)) :
    leastOfWidth (n + 5) ≤ v.toNat ↔ 2 ^ 30 ≤ v.toNat ∧ valueBytes v = n + 4 := by
  have h30 : maxFourByte.toNat + 1 = 2 ^ 30 := rfl
  rw [← Nat.not_lt, lt_leastOfWidth_iff, not_or, Nat.not_lt, Nat.not_lt, h30, valueBytes,
    minValueBytes]
  constructor
  · rintro ⟨hl, h⟩
    rw [significantBytes_eq hl hu]
    omega
  · rintro ⟨h, hv⟩
    refine ⟨?_, h⟩
    -- A value of less than four bytes is laid out in four all the same.
    have hle := pow_le_of_significantBytes (v := v) (by omega)
    rcases Nat.lt_or_ge (significantBytes v) 4 with hs | hs
    · have h3 : n + 3 = 3 := by omega
      rw [h3]
      exact Nat.le_trans (by decide) h
    · rwa [show significantBytes v - 1 = n + 3 by omega] at hle

/-- The two checks of the form `big` come to one: a last byte that is not in use leaves a
    value that fits a byte less, and so does a value of a short form. -/
theorem decodeBig_cons {first : UInt8} (hm : Mode.ofFirst first = .big) (s : Bytes) :
    decodeBig first (first :: s) =
      if maxWidth < headerWidth first then .error (.overflow (headerWidth first))
      else if (s.take (headerWidth first - 1)).length < headerWidth first - 1 then
        .error (.truncated (headerWidth first) (s.length + 1))
      else if carried first (s.take (headerWidth first - 1)) < leastOfWidth (headerWidth first) then
        .error (.nonCanonical (.ofNat (carried first (s.take (headerWidth first - 1))))
          (headerWidth first))
      else .ok (.ofNat (carried first (s.take (headerWidth first - 1))), headerWidth first) := by
  obtain ⟨n, hn⟩ : ∃ n, headerWidth first = n + 5 := ⟨_, headerWidth_big hm⟩
  have hc : carried first (s.take (n + 4)) = ofLittleEndian (s.take (n + 4)) := by
    rw [carried, if_pos hm]
  simp only [decodeBig, leading, hn, List.take_succ_cons, List.length_cons,
    Nat.add_lt_add_iff_right, show n + 5 - 1 = n + 4 from rfl, hc]
  split
  · rfl
  next hw =>
  split
  · rfl
  next hl =>
  have hlen : (s.take (n + 4)).length = n + 4 := by
    rw [List.length_take] at hl ⊢; omega
  have hlast := getLast?_eq_zero_iff (List.ne_nil_of_length_eq_add_one hlen)
  have hlt : ofLittleEndian (s.take (n + 4)) < 2 ^ 64 := by
    have hb := ofLittleEndian_lt (s.take (n + 4))
    rw [hlen] at hb
    rw [maxWidth] at hw
    exact Nat.lt_of_lt_of_le hb (Nat.pow_le_pow_right (by decide) (by omega) : _ ≤ 256 ^ 8)
  rw [hlen, show n + 4 - 1 = n + 3 from rfl] at hlast
  generalize s.take (n + 4) = raw at hlast hlt
  change (if raw.getLast? = some 0 then _ else
    checkCanonical (.ofNat (ofLittleEndian raw)) maxFourByte (n + 5) >>= _) = _
  -- Either check that fails puts the value below the least one of this width.
  by_cases hz : raw.getLast? = some 0
  · rw [if_pos hz, if_pos (lt_leastOfWidth_iff.2 (.inl (hlast.1 hz)))]
    rfl
  · rw [if_neg hz, checkCanonical_eq, UInt64.toNat_ofNat_of_lt' hlt]
    by_cases hs : ofLittleEndian raw < maxFourByte.toNat + 1
    · rw [if_pos hs, if_pos (lt_leastOfWidth_iff.2 (.inr hs))]
      rfl
    · rw [if_neg hs, if_neg fun h => (lt_leastOfWidth_iff.1 h).elim (hz ∘ hlast.2) hs]
      rfl

/-- What is read at the start of a buffer, by the width that its first byte tells and the
    number carried in the bytes of that width. -/
theorem decode_cons (first : UInt8) (s : Bytes) : decode (first :: s) =
    if maxWidth < headerWidth first then .error (.overflow (headerWidth first))
    else if (s.take (headerWidth first - 1)).length < headerWidth first - 1 then
      .error (.truncated (headerWidth first) (s.length + 1))
    else if carried first (s.take (headerWidth first - 1)) < leastOfWidth (headerWidth first) then
      .error (.nonCanonical (.ofNat (carried first (s.take (headerWidth first - 1))))
        (headerWidth first))
    else .ok (.ofNat (carried first (s.take (headerWidth first - 1))), headerWidth first) := by
  rw [decode]
  cases hm : Mode.ofFirst first with
  | single =>
    have hw := headerWidth_single hm
    have hc : carried first [] = first.toNat / 4 := by
      rw [carried, if_neg (by rw [hm]; decide), ofLittleEndian, ofLittleEndian]
      omega
    have hf : (first >>> 2).toUInt64 = .ofNat (first.toNat / 4) := by
      have := first.toNat_lt
      apply UInt64.toNat_inj.1
      rw [UInt8.toNat_toUInt64, toNat_shiftRight_two,
        UInt64.toNat_ofNat_of_lt' (show _ < 2 ^ 64 by omega)]
    simp [hw, hc, hf, maxWidth, leastOfWidth]
  | two =>
    have hw := headerWidth_two hm
    rw [hw]
    exact decodeShort_cons (n := 1) (by rw [hm]; decide) (by decide) s
  | four =>
    have hw := headerWidth_four hm
    rw [hw]
    exact decodeShort_cons (n := 3) (by rw [hm]; decide) (by decide) s
  | big => exact decodeBig_cons hm s

/-! ### Canonical encodings -/

/-- `first :: rest` is the canonical encoding of `v`, as a reader tells it: whole, and of
    no more bytes than `v` needs. -/
structure IsCanonical (v : UInt64) (first : UInt8) (rest : Bytes) : Prop where
  width_le : headerWidth first ≤ maxWidth
  length_rest : rest.length = headerWidth first - 1
  carried_eq : carried first rest = v.toNat
  least_le : leastOfWidth (headerWidth first) ≤ v.toNat

/-- What is carried in an encoding that is not too wide fits a word. -/
theorem carried_lt {first : UInt8} {rest : Bytes} (hw : headerWidth first ≤ maxWidth)
    (hr : rest.length = headerWidth first - 1) : carried first rest < 2 ^ 64 := by
  unfold carried
  split
  · rw [maxWidth] at hw
    exact Nat.lt_of_lt_of_le (ofLittleEndian_lt rest)
      (Nat.pow_le_pow_right (by decide) (by omega) : _ ≤ 256 ^ 8)
  · next hm =>
    have h4 : headerWidth first ≤ 4 := by
      unfold headerWidth
      split <;> first | contradiction | omega
    have hb := ofLittleEndian_lt (first :: rest)
    have hp : 256 ^ (first :: rest).length ≤ 256 ^ 4 :=
      Nat.pow_le_pow_right (by decide) (by rw [List.length_cons]; omega)
    omega

theorem IsCanonical.length {v : UInt64} {first : UInt8} {rest : Bytes}
    (h : IsCanonical v first rest) : (first :: rest).length = headerWidth first := by
  have := headerWidth_pos first
  rw [List.length_cons, h.length_rest]
  omega

/-- Reading finds the canonical encodings, and nothing else. -/
theorem decode_eq_ok_iff {s : Bytes} {v : UInt64} {n : Nat} :
    decode s = .ok (v, n) ↔
      ∃ first rest t, s = first :: rest ++ t ∧ IsCanonical v first rest ∧
        n = headerWidth first := by
  constructor
  · intro h
    cases s with
    | nil => cases h
    | cons first s =>
      rw [decode_cons] at h
      split at h
      · cases h
      next hw =>
      split at h
      · cases h
      next hr =>
      split at h
      · cases h
      next hl =>
      cases h
      -- All checks are passed: the bytes of the width are there, and none is spare.
      have hr : (s.take (headerWidth first - 1)).length = headerWidth first - 1 := by
        rw [List.length_take] at hr ⊢; omega
      have hc := carried_lt (Nat.not_lt.1 hw) hr
      refine ⟨first, s.take (headerWidth first - 1), s.drop (headerWidth first - 1), ?_,
        ⟨Nat.not_lt.1 hw, hr, ?_, ?_⟩, rfl⟩
      · rw [List.cons_append, List.take_append_drop]
      · rw [UInt64.toNat_ofNat_of_lt' hc]
      · rw [UInt64.toNat_ofNat_of_lt' hc]
        exact Nat.not_lt.1 hl
  · rintro ⟨first, rest, t, rfl, h, rfl⟩
    have ht : (rest ++ t).take (headerWidth first - 1) = rest := by
      rw [← h.length_rest, List.take_left]
    rw [List.cons_append, decode_cons, ht, h.carried_eq, if_neg (Nat.not_lt.2 h.width_le),
      if_neg (Nat.not_lt.2 (Nat.le_of_eq h.length_rest.symm)), if_neg (Nat.not_lt.2 h.least_le),
      UInt64.ofNat_toNat]

/-- Out of the form `big`, the bytes are the value behind the bits of the mode. -/
theorem ofLittleEndian_eq_carried {first : UInt8} (hm : Mode.ofFirst first ≠ .big)
    (rest : Bytes) : ofLittleEndian (first :: rest) =
      4 * carried first rest + (Mode.ofFirst first).bits.toNat := by
  have hb : first.toNat % 4 = (Mode.ofFirst first).bits.toNat := Mode.ofFirst_eq_iff.1 rfl
  rw [carried, if_neg hm, ← hb, ofLittleEndian]
  omega

/-- The bytes of a whole encoding out of the form `big`, by the number that they carry. -/
theorem eq_littleEndian_carried {first : UInt8} {rest : Bytes} (hm : Mode.ofFirst first ≠ .big)
    (hl : (first :: rest).length = headerWidth first) :
    first :: rest = littleEndian (headerWidth first)
      (4 * carried first rest + (Mode.ofFirst first).bits.toNat) := by
  rw [← ofLittleEndian_eq_carried hm, ← hl, littleEndian_ofLittleEndian]

/-- The bytes of a canonical encoding out of the form `big`, by their value. -/
theorem IsCanonical.eq_littleEndian {v : UInt64} {first : UInt8} {rest : Bytes}
    (h : IsCanonical v first rest) (hm : Mode.ofFirst first ≠ .big) :
    first :: rest = littleEndian (headerWidth first)
      (4 * v.toNat + (Mode.ofFirst first).bits.toNat) := by
  rw [← h.carried_eq]
  exact eq_littleEndian_carried hm h.length

/-- The number carried in a whole encoding out of the form `big` leaves room for the mode. -/
theorem carried_lt_pow {first : UInt8} {rest : Bytes} (hm : Mode.ofFirst first ≠ .big)
    (hl : (first :: rest).length = headerWidth first) :
    4 * carried first rest + (Mode.ofFirst first).bits.toNat < 256 ^ headerWidth first := by
  rw [← ofLittleEndian_eq_carried hm, ← hl]
  exact ofLittleEndian_lt _

/-- The value of a canonical encoding out of the form `big` leaves room for the mode. -/
theorem IsCanonical.lt_pow {v : UInt64} {first : UInt8} {rest : Bytes}
    (h : IsCanonical v first rest) (hm : Mode.ofFirst first ≠ .big) :
    4 * v.toNat < 256 ^ headerWidth first := by
  have hb := carried_lt_pow hm h.length
  rw [h.carried_eq] at hb
  omega

theorem IsCanonical.encode_eq {v : UInt64} {first : UInt8} {rest : Bytes}
    (h : IsCanonical v first rest) : encode v = first :: rest := by
  have hl := h.least_le
  cases hm : Mode.ofFirst first with
  | single =>
    have hw := headerWidth_single hm
    have hlt := h.lt_pow (by rw [hm]; decide)
    rw [hw] at hlt
    rw [h.eq_littleEndian (by rw [hm]; decide), hm, hw, encode_single (by omega)]
    rfl
  | two =>
    have hw := headerWidth_two hm
    have hlt := h.lt_pow (by rw [hm]; decide)
    rw [hw] at hlt hl
    rw [h.eq_littleEndian (by rw [hm]; decide), hm, hw, encode_two hl (by omega)]
    rfl
  | four =>
    have hw := headerWidth_four hm
    have hlt := h.lt_pow (by rw [hm]; decide)
    rw [hw] at hlt hl
    rw [h.eq_littleEndian (by rw [hm]; decide), hm, hw, encode_four hl (by omega)]
    rfl
  | big =>
    have hw := headerWidth_big hm
    have hc := h.carried_eq
    have hr := h.length_rest
    have hmod : first.toNat % 4 = 3 := Mode.ofFirst_eq_iff.1 hm
    obtain ⟨n, hn⟩ : ∃ n, first.toNat / 4 = n := ⟨_, rfl⟩
    rw [hn] at hw
    rw [hw] at hl hr
    rw [carried, if_pos hm] at hc
    have hlt := ofLittleEndian_lt rest
    rw [hc, hr, show n + 5 - 1 = n + 4 from rfl] at hlt
    -- The value needs all its bytes, so that `encode` takes as many.
    obtain ⟨h30, hv⟩ := (leastOfWidth_le_iff hlt).1 hl
    rw [encode_big h30, hv, ← hc, ← show rest.length = n + 4 from hr,
      littleEndian_ofLittleEndian]
    congr 1
    apply UInt8.toNat_inj.1
    have := first.toNat_lt
    rw [UInt8.toNat_ofNat']
    omega

/-- Out of the form `big`, a number that leaves room for the mode is carried in the bytes of
    both. -/
theorem carried_short {v n : Nat} {m : Mode} {first : UInt8} {rest : Bytes} (hm : m ≠ .big)
    (hw : ∀ first, Mode.ofFirst first = m → headerWidth first = n + 1)
    (hu : 4 * v + m.bits.toNat < 256 ^ (n + 1))
    (hs : first :: rest = littleEndian (n + 1) (4 * v + m.bits.toNat)) :
    headerWidth first = n + 1 ∧ rest.length = n ∧ carried first rest = v := by
  obtain ⟨rfl, rfl⟩ := List.cons_eq_cons.1 hs
  have hbits : m.bits.toNat < 4 := by cases m <;> decide
  have hfirst : Mode.ofFirst (UInt8.ofNat (4 * v + m.bits.toNat)) = m := by
    rw [Mode.ofFirst_eq_iff, UInt8.toNat_ofNat']
    omega
  have hc := ofLittleEndian_eq_carried (hfirst ▸ hm)
    (littleEndian n ((4 * v + m.bits.toNat) / 256))
  rw [← littleEndian, ofLittleEndian_littleEndian hu, hfirst] at hc
  exact ⟨hw _ hfirst, length_littleEndian _ _, by omega⟩

/-- In the form `big`, the count of the bytes and the mode are told apart again in the first
    byte. -/
theorem carried_big {v n : Nat} (hn : n < 64) (hu : v < 256 ^ (n + 4)) :
    headerWidth (.ofNat (4 * n + 3)) = n + 5 ∧
      carried (.ofNat (4 * n + 3)) (littleEndian (n + 4) v) = v := by
  have hf : (UInt8.ofNat (4 * n + 3)).toNat = 4 * n + 3 := by
    rw [UInt8.toNat_ofNat']; omega
  have hm : Mode.ofFirst (.ofNat (4 * n + 3)) = .big := by
    rw [Mode.ofFirst_eq_iff, hf]
    exact Nat.mul_add_mod 4 n 3
  rw [headerWidth_big hm, hf, carried, if_pos hm, ofLittleEndian_littleEndian hu]
  exact ⟨by omega, rfl⟩

/-- A value has a canonical encoding out of the form `big` if it leaves room for the mode
    and needs that room. -/
theorem isCanonical_short {v : UInt64} {m : Mode} {n : Nat} (hm : m ≠ .big)
    (hw : ∀ first, Mode.ofFirst first = m → headerWidth first = n + 1) (hn : n + 1 ≤ maxWidth)
    (hu : 4 * v.toNat + m.bits.toNat < 256 ^ (n + 1)) (hl : leastOfWidth (n + 1) ≤ v.toNat) :
    ∃ first rest, littleEndian (n + 1) (4 * v.toNat + m.bits.toNat) = first :: rest ∧
      IsCanonical v first rest := by
  obtain ⟨hwidth, hr, hc⟩ := carried_short hm hw hu rfl
  exact ⟨_, _, rfl, hwidth ▸ hn, by omega, hc, hwidth ▸ hl⟩

/-- What is written is canonical. -/
theorem exists_encode_eq (v : UInt64) :
    ∃ first rest, encode v = first :: rest ∧ IsCanonical v first rest := by
  by_cases h₁ : v.toNat < 2 ^ 6
  · rw [encode_single h₁]
    exact isCanonical_short (m := .single) (n := 0) (by decide)
      (fun _ => headerWidth_single) (by decide)
      (show 4 * v.toNat + 0 < 256 ^ 1 by omega) (Nat.zero_le _)
  by_cases h₂ : v.toNat < 2 ^ 14
  · rw [encode_two (Nat.not_lt.1 h₁) h₂]
    exact isCanonical_short (m := .two) (n := 1) (by decide)
      (fun _ => headerWidth_two) (by decide)
      (show 4 * v.toNat + 1 < 256 ^ 2 by omega) (Nat.not_lt.1 h₁)
  by_cases h₃ : v.toNat < 2 ^ 30
  · rw [encode_four (Nat.not_lt.1 h₂) h₃]
    exact isCanonical_short (m := .four) (n := 3) (by decide)
      (fun _ => headerWidth_four) (by decide)
      (show 4 * v.toNat + 2 < 256 ^ 4 by omega) (Nat.not_lt.1 h₂)
  · have h30 := Nat.not_lt.1 h₃
    have h8 := valueBytes_le v
    obtain ⟨n, hn⟩ : ∃ n, valueBytes v = n + 4 := ⟨valueBytes v - 4, by
      have := four_le_valueBytes v; omega⟩
    have hlt := lt_pow_valueBytes v
    rw [hn] at hlt
    obtain ⟨hw, hc⟩ := carried_big (n := n) (by omega) hlt
    rw [encode_big h30, hn, Nat.add_sub_cancel]
    refine ⟨_, _, rfl, ?_, ?_, hc, ?_⟩
    · rw [hw, maxWidth]; omega
    · rw [hw, length_littleEndian]; rfl
    · rw [hw]
      exact (leastOfWidth_le_iff hlt).2 ⟨h30, hn⟩

theorem length_encode (v : UInt64) : (encode v).length = width v := by
  rw [width_eq]
  split
  next h => rw [encode_single h, length_littleEndian]
  next h₁ =>
  split
  next h => rw [encode_two (Nat.not_lt.1 h₁) h, length_littleEndian]
  next h₂ =>
  split
  next h => rw [encode_four (Nat.not_lt.1 h₂) h, length_littleEndian]
  next h => rw [encode_big (Nat.not_lt.1 h), List.length_cons, length_littleEndian]

theorem width_pos (v : UInt64) : 0 < width v := by
  obtain ⟨first, rest, he, -⟩ := exists_encode_eq v
  rw [← length_encode, he]
  exact Nat.succ_pos _

/-- An encoding is read back, whatever follows it. -/
theorem decode_encode_append (v : UInt64) (t : Bytes) :
    decode (encode v ++ t) = .ok (v, width v) := by
  obtain ⟨first, rest, he, h⟩ := exists_encode_eq v
  rw [decode_eq_ok_iff, ← length_encode, he]
  exact ⟨first, rest, t, rfl, h, h.length⟩

/-- There is one encoding at most at the start of a byte string. -/
theorem encode_append_inj {v v' : UInt64} {t t' : Bytes}
    (h : encode v ++ t = encode v' ++ t') : v = v' ∧ t = t' := by
  have hd := decode_encode_append v t
  rw [h, decode_encode_append] at hd
  obtain rfl : v' = v := congrArg Prod.fst (Except.ok.inj hd)
  exact ⟨rfl, List.append_cancel_left h⟩

/-- An encoding that is cut short is told to be so, and how wide it should be, unless
    nothing is left of it. -/
theorem decode_take_encode {v : UInt64} {n : Nat} (h : n < width v) :
    decode ((encode v).take n) = .error (.truncated (if n = 0 then 1 else width v) n) := by
  obtain ⟨first, rest, he, hc⟩ := exists_encode_eq v
  have hw : headerWidth first = width v := by rw [← hc.length, ← he, length_encode]
  cases n with
  | zero => rw [List.take_zero, decode, if_pos rfl]
  | succ n =>
    have hr := hc.length_rest
    rw [hw] at hr
    have hn : (rest.take n).length = n := by rw [List.length_take]; omega
    have hlt : ((rest.take n).take (width v - 1)).length < width v - 1 := by
      rw [List.length_take, hn]; omega
    rw [he, List.take_succ_cons, decode_cons, hw, if_neg (Nat.not_lt.2 (hw ▸ hc.width_le)),
      if_pos hlt, hn, if_neg (Nat.succ_ne_zero n)]

/-- What is read is an encoding. -/
theorem eq_encode_append_of_decode {s : Bytes} {v : UInt64} {n : Nat} (h : decode s = .ok (v, n)) :
    n = width v ∧ s = encode v ++ s.drop n := by
  obtain ⟨first, rest, t, rfl, hc, rfl⟩ := decode_eq_ok_iff.1 h
  have hl := hc.length
  rw [← length_encode, hc.encode_eq, ← hl, List.drop_left]
  exact ⟨rfl, rfl⟩

/-- What is read takes no more bytes than there are. -/
theorem le_length_of_decode {s : Bytes} {v : UInt64} {n : Nat} (h : decode s = .ok (v, n)) :
    n ≤ s.length := by
  obtain ⟨rfl, hs⟩ := eq_encode_append_of_decode h
  rw [hs, List.length_append, length_encode]
  exact Nat.le_add_right _ _

end IntentWire.Compact
