import IntentWire.Framing.Lemmas

/-!
# Faults

What is amiss with bytes that should be a record, told from the bytes alone. The parts
of a record are checked one after the other, and the first check that fails is the
*fault*, whatever would fail after it:

* the length of the tag can be read, is within the limit, and there are as many bytes;
* these are the UTF-8 of a text;
* the length of the payload can be read, is within the limit, and there are as many bytes.

Bytes that do not start with a record within the limits have just one fault, and the
record is read with that error (`Record.read_eq_error_iff`).
-/

namespace IntentWire

open Bytes

namespace FrameError

/-- The record that an error is in, where it is in one. -/
def index? : FrameError → Option Nat
  | .truncatedRecord index _ => some index
  | .malformedRecord index _ => some index
  | .invalidTag index => some index
  | .fieldTooLarge index _ _ => some index
  | _ => none

end FrameError

namespace Record

/-- The first check that `s` fails as a field of the record of the given index. -/
inductive FieldFault (limits : Limits) (index : Nat) (s : Bytes) : FrameError → Prop
  /-- The bytes end within the length. -/
  | lengthTruncated {needed available : Nat} :
    Compact.decode s = .error (.truncated needed available) →
      FieldFault limits index s (.truncatedRecord index (.truncated needed available))
  /-- The length has a shorter encoding. -/
  | lengthNonCanonical {value : UInt64} {width : Nat} :
    Compact.decode s = .error (.nonCanonical value width) →
      FieldFault limits index s (.malformedRecord index (.nonCanonical value width))
  /-- The length fits no word. -/
  | lengthOverflow {width : Nat} :
    Compact.decode s = .error (.overflow width) →
      FieldFault limits index s (.malformedRecord index (.overflow width))
  /-- The length is over the limit, whether or not there are as many bytes. -/
  | tooLarge {size : UInt64} {n : Nat} :
    Compact.decode s = .ok (size, n) → limits.maxFieldLength < size →
      FieldFault limits index s (.fieldTooLarge index size limits.maxFieldLength)
  /-- The bytes end within the field. -/
  | absent {size : UInt64} {n : Nat} :
    Compact.decode s = .ok (size, n) → size ≤ limits.maxFieldLength →
      (s.drop n).length < size.toNat →
      FieldFault limits index s
        (.truncatedRecord index (.truncated size.toNat (s.drop n).length))

/-- The first check that `s` fails as the record of the given index. -/
inductive Fault (limits : Limits) (index : Nat) (s : Bytes) : FrameError → Prop
  /-- The tag is no field. -/
  | tag {e : FrameError} : FieldFault limits index s e → Fault limits index s e
  /-- The tag is a field and no text, whatever comes after it. -/
  | notText {b : Bytes} :
    field b <+: s → b.length ≤ limits.maxFieldLength.toNat → (∀ text, b ≠ ofText text) →
      Fault limits index s (.invalidTag index)
  /-- The tag is sound, and the payload is no field. -/
  | payload {tag : String} {e : FrameError} :
    field (ofText tag) <+: s → (ofText tag).length ≤ limits.maxFieldLength.toNat →
      FieldFault limits index (s.drop (fieldSize (ofText tag).length)) e →
      Fault limits index s e

variable {limits : Limits} {index : Nat} {s : Bytes} {e : FrameError}

theorem FieldFault.index?_eq (h : FieldFault limits index s e) : e.index? = some index := by
  cases h <;> rfl

/-- A fault is in the record that has it. -/
theorem Fault.index?_eq (h : Fault limits index s e) : e.index? = some index := by
  cases h with
  | tag h => exact h.index?_eq
  | notText => rfl
  | payload _ _ h => exact h.index?_eq

/-! ### Reads that fail -/

/-- A compact integer is never amiss for not being a text. -/
theorem decode_ne_invalidText (s : Bytes) : Compact.decode s ≠ .error .invalidText := by
  cases s with
  | nil => exact nofun
  | cons first s =>
    rw [Compact.decode_cons]
    split
    · exact nofun
    split
    · exact nofun
    split <;> exact nofun

theorem readField_eq (limits : Limits) (index : Nat) (r : Reader) :
    (readField limits index).run r = match Compact.decode r.rest with
      | .error cause => .error (.inRecord index cause) r
      | .ok (size, n) =>
        if limits.maxFieldLength < size then
          .error (.fieldTooLarge index size limits.maxFieldLength) (r.advance n)
        else if (r.rest.drop n).length < size.toNat then
          .error (.truncatedRecord index (.truncated size.toNat (r.rest.drop n).length))
            (r.advance n)
        else .ok ((r.rest.drop n).take size.toNat) ((r.advance n).advance size.toNat) := by
  rw [readField_eq_bind, EStateM.run_bind, EStateM.run_adaptExcept, Reader.fieldLength,
    Reader.compact_eq]
  cases Compact.decode r.rest with
  | error cause => rfl
  | ok found =>
    obtain ⟨size, n⟩ := found
    dsimp only
    split
    · rfl
    · rw [EStateM.run_adaptExcept, Reader.slice_eq, Reader.rest_advance]
      by_cases habs : (r.rest.drop n).length < size.toNat
      · rw [if_pos habs, if_pos habs]
        rfl
      · rw [if_neg habs, if_neg habs]

/-- A field fails to be read for its fault. -/
theorem readField_eq_error_iff {r : Reader} :
    (∃ r', (readField limits index).run r = .error e r') ↔ FieldFault limits index r.rest e := by
  rw [readField_eq]
  constructor
  · rintro ⟨r', h⟩
    split at h
    · next cause hd =>
      cases h
      cases cause with
      | truncated needed available => exact .lengthTruncated hd
      | nonCanonical value width => exact .lengthNonCanonical hd
      | overflow width => exact .lengthOverflow hd
      | invalidText => exact absurd hd (decode_ne_invalidText _)
    · next size n hd =>
      split at h
      · next hlt =>
        cases h
        exact .tooLarge hd hlt
      · next hle =>
        split at h
        · next habs =>
          cases h
          exact .absent hd (UInt64.not_lt.1 hle) habs
        · cases h
  · intro h
    cases h with
    | lengthTruncated hd => rw [hd]; exact ⟨_, rfl⟩
    | lengthNonCanonical hd => rw [hd]; exact ⟨_, rfl⟩
    | lengthOverflow hd => rw [hd]; exact ⟨_, rfl⟩
    | tooLarge hd hlt => rw [hd]; exact ⟨_, if_pos hlt⟩
    | absent hd hle habs =>
      rw [hd]
      dsimp only
      rw [if_neg (UInt64.not_lt.2 hle), if_pos habs]
      exact ⟨_, rfl⟩

/-- A record fails to be read for its fault. -/
theorem read_eq_error_iff {r : Reader} :
    (∃ r', (read limits index).run r = .error e r') ↔ Fault limits index r.rest e := by
  constructor
  · rintro ⟨r', h⟩
    rw [read_eq_bind, bind_eq_error_iff] at h
    -- The tag is no field, or is one: then it is no text, or the payload is no field.
    rcases h with h | ⟨b, r₁, hb, h⟩
    · exact .tag (readField_eq_error_iff.1 ⟨r', h⟩)
    · obtain ⟨hf, hl, rfl⟩ := readField_eq_ok_iff.1 hb
      cases ht : text? b with
      | none =>
        rw [ht] at h
        cases h
        refine .notText hf hl fun text hb => ?_
        rw [hb, text?_ofText] at ht
        cases ht
      | some text =>
        rw [ht] at h
        obtain rfl := text?_eq_some_iff.1 ht
        rcases bind_eq_error_iff.1 h with h | ⟨payload, r₂, _, h⟩
        · exact .payload hf hl (readField_eq_error_iff.1 ⟨r', h⟩)
        · cases h
  · intro h
    rw [read_eq_bind]
    cases h with
    | tag h =>
      obtain ⟨r', h⟩ := readField_eq_error_iff.2 h
      exact ⟨r', bind_eq_error_iff.2 (.inl h)⟩
    | @notText b hf hl hb =>
      refine ⟨r.advance (fieldSize b.length),
        bind_eq_error_iff.2 (.inr ⟨b, _, readField_eq_ok_iff.2 ⟨hf, hl, rfl⟩, ?_⟩)⟩
      cases ht : text? b with
      | none => rfl
      | some text => exact absurd (text?_eq_some_iff.1 ht) (hb text)
    | @payload tag e hf hl h =>
      let r₁ := r.advance (fieldSize (ofText tag).length)
      -- The payload is read behind the tag.
      obtain ⟨r', h⟩ : ∃ r', (readField limits index).run r₁ = .error e r' :=
        readField_eq_error_iff.2 h
      refine ⟨r', bind_eq_error_iff.2 (.inr
        ⟨ofText tag, _, readField_eq_ok_iff.2 ⟨hf, hl, rfl⟩, ?_⟩)⟩
      rw [text?_ofText]
      exact bind_eq_error_iff.2 (.inl h)

/-- Bytes have one fault at most. -/
theorem Fault.unique {e' : FrameError} (h : Fault limits index s e)
    (h' : Fault limits index s e') : e = e' := by
  obtain ⟨_, hr⟩ := read_eq_error_iff (r := ⟨0, s⟩) |>.2 h
  obtain ⟨_, hr'⟩ := read_eq_error_iff (r := ⟨0, s⟩) |>.2 h'
  rw [hr] at hr'
  cases hr'
  rfl

/-- A record within the limits has no fault. -/
theorem Fault.not_prefix_of_isWithin {record : Record} (h : Fault limits index s e)
    (hw : record.IsWithin limits) : ¬ record.encode <+: s := by
  intro he
  obtain ⟨r', hr⟩ := read_eq_error_iff (r := ⟨0, s⟩) |>.2 h
  rw [read_eq_ok_iff.2 ⟨he, hw, rfl⟩] at hr
  cases hr

end Record

end IntentWire
