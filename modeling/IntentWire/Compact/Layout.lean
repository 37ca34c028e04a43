import IntentWire.Compact.Lemmas

/-!
# Layouts

A number is *laid out* in every form that is wide enough for it, the form `big` with up to
67 bytes of value included, which no word needs. Of all layouts of a word its encoding is the
shortest.

* `IsWhole`: a byte string is as long as its first byte tells, whatever it holds.
* `Carries`: a byte string is a layout of a number.
* `carries_cons_iff`: the whole byte strings are the layouts of what they carry.
* `Carries.width_le_length`: no layout of a word is shorter than its encoding.
* `exists_encode_of_lt`: fewer bytes than the first one tells are the start of an encoding.
-/

namespace IntentWire.Compact

open Bytes

/-- Whether a byte string has as many bytes as its first one tells. -/
def IsWhole (s : Bytes) : Prop :=
  s.head?.map headerWidth = some s.length

instance : DecidablePred IsWhole := fun s =>
  inferInstanceAs (Decidable (s.head?.map headerWidth = some s.length))

/-- Whether a byte string is a number laid out in one of the forms: behind the bits of the
    mode, or in as many bytes as the first one counts. -/
inductive Carries : Bytes → Nat → Prop
  | single {v : Nat} : 4 * v < 256 → Carries (littleEndian 1 (4 * v)) v
  | two {v : Nat} : 4 * v + 1 < 256 ^ 2 → Carries (littleEndian 2 (4 * v + 1)) v
  | four {v : Nat} : 4 * v + 2 < 256 ^ 4 → Carries (littleEndian 4 (4 * v + 2)) v
  | big {n v : Nat} : n < 64 → v < 256 ^ (n + 4) →
    Carries (.ofNat (4 * n + 3) :: littleEndian (n + 4) v) v

variable {s : Bytes} {u v : Nat} {w : UInt64} {first : UInt8} {rest : Bytes}

/-! ### Whole byte strings -/

theorem isWhole_cons : IsWhole (first :: rest) ↔ (first :: rest).length = headerWidth first := by
  rw [IsWhole, List.head?_cons, Option.map_some, Option.some.injEq, eq_comm]

theorem IsWhole.exists_cons (h : IsWhole s) : ∃ first rest, s = first :: rest := by
  cases s with
  | nil => cases h
  | cons first rest => exact ⟨first, rest, rfl⟩

theorem IsWhole.length_pos (h : IsWhole s) : 0 < s.length := by
  obtain ⟨first, rest, rfl⟩ := h.exists_cons
  exact Nat.succ_pos _

theorem IsWhole.length_rest (h : IsWhole (first :: rest)) :
    rest.length = headerWidth first - 1 := by
  rw [← isWhole_cons.1 h, List.length_cons, Nat.add_sub_cancel]

/-- No whole byte string is the start of another one. -/
theorem IsWhole.append_inj {q t t' : Bytes} (h : IsWhole s) (hq : IsWhole q)
    (he : s ++ t = q ++ t') : s = q ∧ t = t' := by
  obtain ⟨first, rest, rfl⟩ := h.exists_cons
  obtain ⟨first', rest', rfl⟩ := hq.exists_cons
  obtain rfl : first = first' := (List.cons_eq_cons.1 he).1
  exact List.append_inj he ((isWhole_cons.1 h).trans (isWhole_cons.1 hq).symm)

/-- The bytes that the first byte tells are whole, if they are there. -/
theorem isWhole_take (h : headerWidth first ≤ (first :: rest).length) :
    IsWhole ((first :: rest).take (headerWidth first)) := by
  rw [IsWhole, List.head?_take, if_neg (Nat.ne_of_gt (headerWidth_pos first)),
    List.length_take_of_le h]
  rfl

/-- A layout is whole, and carries the number that it is a layout of. -/
theorem Carries.length_eq_and_carried_eq (h : Carries (first :: rest) v) :
    (first :: rest).length = headerWidth first ∧ carried first rest = v := by
  rw [List.length_cons]
  generalize hs : first :: rest = s at h
  cases h with
  | single hv =>
    obtain ⟨hw, hr, hc⟩ := carried_short (m := .single) (n := 0) (by decide)
      (fun _ => headerWidth_single) hv hs
    exact ⟨by omega, hc⟩
  | two hv =>
    obtain ⟨hw, hr, hc⟩ := carried_short (m := .two) (n := 1) (by decide)
      (fun _ => headerWidth_two) hv hs
    exact ⟨by omega, hc⟩
  | four hv =>
    obtain ⟨hw, hr, hc⟩ := carried_short (m := .four) (n := 3) (by decide)
      (fun _ => headerWidth_four) hv hs
    exact ⟨by omega, hc⟩
  | big hn hv =>
    obtain ⟨rfl, rfl⟩ := List.cons_eq_cons.1 hs
    obtain ⟨hw, hc⟩ := carried_big hn hv
    exact ⟨by rw [hw, length_littleEndian], hc⟩

/-- A whole byte string is a layout of what it carries. -/
theorem carries_carried (hl : (first :: rest).length = headerWidth first) :
    Carries (first :: rest) (carried first rest) := by
  by_cases hm : Mode.ofFirst first = .big
  · have hc : carried first rest = ofLittleEndian rest := by rw [carried, if_pos hm]
    obtain ⟨n, hn⟩ : ∃ n, first.toNat = 4 * n + 3 :=
      ⟨first.toNat / 4, by have : first.toNat % 4 = 3 := Mode.ofFirst_eq_iff.1 hm; omega⟩
    have hfirst := first.toNat_lt
    rw [headerWidth_big hm, List.length_cons] at hl
    have hr : rest.length = n + 4 := by omega
    have hlt := ofLittleEndian_lt rest
    rw [hr] at hlt
    have h := Carries.big (n := n) (by omega) hlt
    rwa [← hr, littleEndian_ofLittleEndian, ← hn, UInt8.ofNat_toNat, ← hc] at h
  · have he := eq_littleEndian_carried hm hl
    have hlt := carried_lt_pow hm hl
    rw [he]
    cases hm' : Mode.ofFirst first with
    | single =>
      rw [hm', headerWidth_single hm'] at hlt
      rw [headerWidth_single hm']
      exact .single hlt
    | two =>
      rw [hm', headerWidth_two hm'] at hlt
      rw [headerWidth_two hm']
      exact .two hlt
    | four =>
      rw [hm', headerWidth_four hm'] at hlt
      rw [headerWidth_four hm']
      exact .four hlt
    | big => exact absurd hm' hm

/-- The whole byte strings are the layouts of what they carry. -/
theorem carries_cons_iff :
    Carries (first :: rest) v ↔ IsWhole (first :: rest) ∧ carried first rest = v := by
  rw [isWhole_cons]
  constructor
  · exact Carries.length_eq_and_carried_eq
  · rintro ⟨hl, rfl⟩
    exact carries_carried hl

theorem Carries.isWhole (h : Carries s v) : IsWhole s := by
  cases s with
  | nil => cases h
  | cons first rest => exact (carries_cons_iff.1 h).1

theorem Carries.unique (h : Carries s u) (h' : Carries s v) : u = v := by
  obtain ⟨first, rest, rfl⟩ := h.isWhole.exists_cons
  exact h.length_eq_and_carried_eq.2.symm.trans h'.length_eq_and_carried_eq.2

/-- A layout that is not too wide is one of a word. -/
theorem IsWhole.exists_carries (h : IsWhole s) (hl : s.length ≤ maxWidth) :
    ∃ w : UInt64, Carries s w.toNat := by
  obtain ⟨first, rest, rfl⟩ := h.exists_cons
  have hw := isWhole_cons.1 h
  have hlt := carried_lt (hw ▸ hl) h.length_rest
  refine ⟨.ofNat (carried first rest), ?_⟩
  rw [UInt64.toNat_ofNat_of_lt' hlt]
  exact carries_carried hw

/-! ### Encodings -/

/-- The encoding of a word is one of its layouts. -/
theorem carries_encode (w : UInt64) : Carries (encode w) w.toNat := by
  obtain ⟨first, rest, he, h⟩ := exists_encode_eq w
  rw [he]
  exact carries_cons_iff.2 ⟨isWhole_cons.2 h.length, h.carried_eq⟩

theorem width_le_maxWidth (w : UInt64) : width w ≤ maxWidth := by
  obtain ⟨first, rest, he, h⟩ := exists_encode_eq w
  rw [← length_encode, he, h.length]
  exact h.width_le

/-- No layout of a word is shorter than its encoding, whatever its form, and with whatever
    bytes of value that are not in use. -/
theorem Carries.width_le_length (h : Carries s w.toNat) : width w ≤ s.length := by
  generalize hv : w.toNat = v at h
  rw [width_eq, hv]
  cases h with
  | single hlt =>
    rw [if_pos (by omega), length_littleEndian]
  | two hlt =>
    rw [length_littleEndian]
    split
    · omega
    · rw [if_pos (by omega)]
  | four hlt =>
    rw [length_littleEndian]
    split
    · omega
    split
    · omega
    · rw [if_pos (by omega)]
  | @big n _ hn hlt =>
    rw [List.length_cons, length_littleEndian]
    split
    · omega
    split
    · omega
    split
    · omega
    have := valueBytes_le_of_lt (v := w) (n := n + 4) (by omega) (by omega) (hv ▸ hlt)
    omega

/-- A form that holds a number holds the lesser ones, too. -/
theorem Carries.exists_of_le (h : Carries s v) (hle : u ≤ v) :
    ∃ t, Carries t u ∧ t.length = s.length := by
  cases h with
  | single hlt => exact ⟨_, .single (by omega), by simp only [length_littleEndian]⟩
  | two hlt => exact ⟨_, .two (by omega), by simp only [length_littleEndian]⟩
  | four hlt => exact ⟨_, .four (by omega), by simp only [length_littleEndian]⟩
  | big hn hlt =>
    exact ⟨_, .big hn (Nat.lt_of_le_of_lt hle hlt),
      by simp only [List.length_cons, length_littleEndian]⟩

/-- A greater word has no shorter encoding: the lesser one would fit it, too. -/
theorem width_le_width {w' : UInt64} (h : w ≤ w') : width w ≤ width w' := by
  obtain ⟨t, ht, hl⟩ := (carries_encode w').exists_of_le (UInt64.le_iff_toNat_le.1 h)
  rw [← length_encode w', ← hl]
  exact ht.width_le_length

/-! ### Layouts that are not canonical -/

/-- A layout of a word that needs its bytes is the encoding of the word. -/
theorem Carries.encode_eq (h : Carries (first :: rest) w.toNat) (hl : headerWidth first ≤ maxWidth)
    (hw : leastOfWidth (headerWidth first) ≤ w.toNat) : encode w = first :: rest := by
  obtain ⟨hs, hc⟩ := carries_cons_iff.1 h
  exact IsCanonical.encode_eq ⟨hl, hs.length_rest, hc, hw⟩

/-- A word needs the bytes of a layout just when its encoding has as many. -/
theorem Carries.leastOfWidth_le_iff (h : Carries (first :: rest) w.toNat)
    (hl : headerWidth first ≤ maxWidth) :
    leastOfWidth (headerWidth first) ≤ w.toNat ↔ width w = headerWidth first := by
  constructor
  · intro hw
    rw [← length_encode, h.encode_eq hl hw, h.length_eq_and_carried_eq.1]
  · intro hw
    obtain ⟨first', rest', he, h'⟩ := exists_encode_eq w
    have hl' := h'.least_le
    rwa [← h'.length, ← he, length_encode, hw] at hl'

/-- The reader takes a layout for the encoding, unless there is a shorter one. -/
theorem decode_append_of_carries (h : Carries s w.toNat) (hl : s.length ≤ maxWidth) (t : Bytes) :
    decode (s ++ t) =
      if width w < s.length then .error (.nonCanonical w s.length) else .ok (w, s.length) := by
  obtain ⟨first, rest, rfl⟩ := h.isWhole.exists_cons
  obtain ⟨hs, hc⟩ := h.length_eq_and_carried_eq
  have hle := h.width_le_length
  rw [hs] at hl hle ⊢
  rw [List.cons_append, decode_cons, ← h.isWhole.length_rest, List.take_left, hc,
    UInt64.ofNat_toNat, if_neg (Nat.not_lt.2 hl), if_neg (Nat.lt_irrefl _)]
  have hlt := (h.leastOfWidth_le_iff hl).not
  by_cases hw : width w = headerWidth first
  · rw [if_neg (fun h => hlt.1 (Nat.not_le.2 h) hw), if_neg (by omega)]
  · rw [if_pos (Nat.not_le.1 (hlt.2 hw)), if_pos (by omega)]

/-! ### Bytes that are missing -/

theorem leastOfWidth_le_pow : ∀ n, leastOfWidth (n + 2) ≤ 64 * 256 ^ n
  | 0 => by decide
  | 1 => by decide
  | 2 => by decide
  | 3 => by decide
  | _ + 4 => Nat.le_mul_of_pos_left _ (by decide)

/-- A byte string with all bits set in its last byte has no shorter layout of what it carries. -/
theorem leastOfWidth_le_carried {b : Bytes}
    (hl : (first :: (b ++ [255])).length = headerWidth first) :
    leastOfWidth (headerWidth first) ≤ carried first (b ++ [255]) := by
  have hlast : 255 * 256 ^ b.length ≤ ofLittleEndian (b ++ [255]) := by
    rw [ofLittleEndian_append, Nat.mul_comm]
    exact Nat.le_add_left _ _
  have hleast := leastOfWidth_le_pow b.length
  rw [show headerWidth first = b.length + 2 by simp [← hl]]
  unfold carried
  split
  · omega
  · rw [ofLittleEndian]
    omega

/-- Fewer bytes than the first one tells are the start of an encoding, unless no word is so
    wide: bytes with all bits set complete them. -/
theorem exists_encode_of_lt (hw : headerWidth first ≤ maxWidth)
    (hl : (first :: rest).length < headerWidth first) :
    ∃ w, first :: rest <+: encode w ∧ first :: rest ≠ encode w := by
  obtain ⟨n, hn⟩ := Nat.exists_eq_add_of_lt hl
  have hs : (first :: ((rest ++ List.replicate n 255) ++ [255])).length = headerWidth first := by
    rw [hn, List.length_cons, List.length_append, List.length_append, List.length_replicate]
    simp only [List.length_cons, List.length_nil]
    omega
  obtain ⟨w, h⟩ := (isWhole_cons.2 hs).exists_carries (hs ▸ hw)
  have hleast := leastOfWidth_le_carried hs
  rw [h.length_eq_and_carried_eq.2] at hleast
  refine ⟨w, ⟨List.replicate n 255 ++ [255], ?_⟩, fun he => ?_⟩
  · rw [h.encode_eq hw hleast, List.cons_append, List.append_assoc]
  · rw [he, h.encode_eq hw hleast, hs] at hl
    exact Nat.lt_irrefl _ hl

end IntentWire.Compact
