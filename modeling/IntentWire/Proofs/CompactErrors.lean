import IntentWire.Compact.Layout

/-!
# What is no compact integer

A compact integer is not read for one of three reasons, which exclude each other. The first
byte tells a width that no word needs; or the buffer ends within an encoding; or it starts
with a layout of a value that has a shorter one. What is found is told here from the layouts
alone (`Compact.Finds`), and shown to be what the reader finds (`Compact.finds_iff_decode_eq`).
-/

namespace IntentWire.Compact

open Bytes

/-- What is found at the start of a buffer: a value and the width of its layout, or why there
    is none. -/
inductive Finds (s : Bytes) : Except ReadError (UInt64 × Nat) → Prop
  /-- The buffer ends within an encoding. -/
  | truncated {v : UInt64} : s <+: encode v → s ≠ encode v →
    Finds s (.error (.truncated (s.head?.elim 1 headerWidth) s.length))
  /-- The first byte tells a width that no word needs, however many bytes there are. -/
  | overflow {first : UInt8} : first ∈ s.head? → maxWidth < headerWidth first →
    Finds s (.error (.overflow (headerWidth first)))
  /-- The buffer starts with a layout that is not the shortest one. -/
  | nonCanonical {first : UInt8} {v : UInt64} : first ∈ s.head? →
    headerWidth first ≤ maxWidth → headerWidth first ≤ s.length →
    Carries (s.take (headerWidth first)) v.toNat → width v < headerWidth first →
    Finds s (.error (.nonCanonical v (headerWidth first)))
  /-- The buffer starts with the shortest layout of a value. -/
  | value {first : UInt8} {v : UInt64} : first ∈ s.head? →
    headerWidth first ≤ maxWidth → headerWidth first ≤ s.length →
    Carries (s.take (headerWidth first)) v.toNat → width v = headerWidth first →
    Finds s (.ok (v, headerWidth first))

variable {s : Bytes} {found : Except ReadError (UInt64 × Nat)}

/-- The first byte of an encoding tells its width. -/
theorem headerWidth_of_isPrefix_encode {first : UInt8} {v : UInt64} (h : first :: s <+: encode v) :
    headerWidth first = width v := by
  obtain ⟨t, ht⟩ := h
  have hw := (carries_encode v).isWhole
  rw [← ht, List.cons_append, isWhole_cons, ← List.cons_append, ht, length_encode] at hw
  exact hw.symm

/-- A buffer that ends within an encoding is told to be too short. -/
theorem decode_eq_truncated_of_isPrefix {v : UInt64} (h : s <+: encode v) (hne : s ≠ encode v) :
    decode s = .error (.truncated (s.head?.elim 1 headerWidth) s.length) := by
  have hlt : s.length < width v := by
    rw [← length_encode]
    exact Nat.lt_of_le_of_ne h.length_le fun hl => hne (h.eq_of_length hl)
  have hd := decode_take_encode hlt
  rw [← List.prefix_iff_eq_take.1 h] at hd
  have hneeded : (if s.length = 0 then 1 else width v) = s.head?.elim 1 headerWidth := by
    cases s with
    | nil => rfl
    | cons first s =>
      exact (if_neg (Nat.succ_ne_zero _)).trans (headerWidth_of_isPrefix_encode h).symm
  rw [hd, hneeded]

/-- What the reader makes of a layout of a width is found at its first byte. -/
theorem decode_of_carries_take {first : UInt8} {v : UInt64} (hw : headerWidth first ≤ maxWidth)
    (hl : headerWidth first ≤ s.length) (h : Carries (s.take (headerWidth first)) v.toNat) :
    decode s = if width v < headerWidth first then .error (.nonCanonical v (headerWidth first))
      else .ok (v, headerWidth first) := by
  have hlen : (s.take (headerWidth first)).length = headerWidth first := List.length_take_of_le hl
  have hd := decode_append_of_carries h (hlen.symm ▸ hw) (s.drop (headerWidth first))
  rwa [List.take_append_drop, hlen] at hd

theorem Finds.decode_eq (h : Finds s found) : decode s = found := by
  cases h with
  | truncated hp hne => exact decode_eq_truncated_of_isPrefix hp hne
  | overflow hf hw =>
    obtain ⟨s, rfl⟩ := List.head?_eq_some_iff.1 hf
    rw [decode_cons, if_pos hw]
  | nonCanonical _ hw hl hc hlt => rw [decode_of_carries_take hw hl hc, if_pos hlt]
  | value _ hw hl hc he => rw [decode_of_carries_take hw hl hc, if_neg (he ▸ Nat.lt_irrefl _)]

/-- Something is found in every buffer. -/
theorem exists_finds (s : Bytes) : ∃ found, Finds s found := by
  cases s with
  | nil =>
    obtain ⟨first, rest, he, -⟩ := exists_encode_eq 0
    exact ⟨_, .truncated (v := 0) List.nil_prefix (he ▸ (List.cons_ne_nil _ _).symm)⟩
  | cons first s =>
    by_cases hw : maxWidth < headerWidth first
    · exact ⟨_, .overflow rfl hw⟩
    have hw := Nat.not_lt.1 hw
    by_cases hl : (first :: s).length < headerWidth first
    · obtain ⟨v, hp, hne⟩ := exists_encode_of_lt hw hl
      exact ⟨_, .truncated hp hne⟩
    have hl := Nat.not_lt.1 hl
    -- The bytes of the width are there, and are a layout of some word.
    have hlen := List.length_take_of_le hl
    obtain ⟨v, hc⟩ := (isWhole_take hl).exists_carries (by rwa [hlen])
    have hle := hc.width_le_length
    rw [hlen] at hle
    rcases Nat.lt_or_eq_of_le hle with hlt | he
    · exact ⟨_, .nonCanonical rfl hw hl hc hlt⟩
    · exact ⟨_, .value rfl hw hl hc he⟩

theorem finds_iff_decode_eq : Finds s found ↔ decode s = found := by
  constructor
  · exact Finds.decode_eq
  · rintro rfl
    obtain ⟨found, h⟩ := exists_finds s
    rw [h.decode_eq]
    exact h

/-- What is found at the start of a buffer, for each kind of it.

    * The bytes are too few just when they are the start of an encoding and not all of it. The
      width that the first byte tells is needed, or a byte if there is none.
    * The width is too large just when the first byte tells so, however many bytes there are.
    * Otherwise the bytes of the width that the first byte tells are a layout of a word. It is
      refused just when the encoding of the word is shorter, and else it is read. In either
      case the width is the one that the first byte tells. -/
theorem decode_classified (s : Bytes) :
    (∀ needed available, decode s = .error (.truncated needed available) ↔
        (∃ v, s <+: encode v ∧ s ≠ encode v) ∧ available = s.length ∧
          needed = s.head?.elim 1 headerWidth) ∧
      (∀ w, decode s = .error (.overflow w) ↔
        ∃ first ∈ s.head?, w = headerWidth first ∧ maxWidth < w) ∧
      (∀ v w, decode s = .error (.nonCanonical v w) ↔
        ∃ first ∈ s.head?, w = headerWidth first ∧ w ≤ maxWidth ∧ w ≤ s.length ∧
          Carries (s.take w) v.toNat ∧ width v < w) ∧
      (∀ v w, decode s = .ok (v, w) ↔
        ∃ first ∈ s.head?, w = headerWidth first ∧ w ≤ maxWidth ∧ w ≤ s.length ∧
          Carries (s.take w) v.toNat ∧ width v = w) ∧
      decode s ≠ .error .invalidText := by
  simp only [ne_eq, ← finds_iff_decode_eq]
  refine ⟨fun needed available => ⟨fun h => ?_, ?_⟩, fun w => ⟨fun h => ?_, ?_⟩,
    fun v w => ⟨fun h => ?_, ?_⟩, fun v w => ⟨fun h => ?_, ?_⟩, fun h => ?_⟩
  · cases h with
    | truncated hp hne => exact ⟨⟨_, hp, hne⟩, rfl, rfl⟩
  · rintro ⟨⟨v, hp, hne⟩, rfl, rfl⟩
    exact .truncated hp hne
  · cases h with
    | overflow hf hw => exact ⟨_, hf, rfl, hw⟩
  · rintro ⟨first, hf, rfl, hw⟩
    exact .overflow hf hw
  · cases h with
    | nonCanonical hf hw hl hc hlt => exact ⟨_, hf, rfl, hw, hl, hc, hlt⟩
  · rintro ⟨first, hf, rfl, hw, hl, hc, hlt⟩
    exact .nonCanonical hf hw hl hc hlt
  · cases h with
    | value hf hw hl hc he => exact ⟨_, hf, rfl, hw, hl, hc, he⟩
  · rintro ⟨first, hf, rfl, hw, hl, hc, he⟩
    exact .value hf hw hl hc he
  · cases h

end IntentWire.Compact
