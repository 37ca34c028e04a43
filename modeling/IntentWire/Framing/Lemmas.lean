import IntentWire.Framing
import IntentWire.Reader.Lemmas

/-!
# Laws of framing

A record is read exactly where it is written, and only within the limits
(`Record.IsWithin`).

* `Record.readField_eq_ok_iff`: for a field of a record.
* `Record.read_eq_ok_iff`: for a record.
* `Framing.nextMany_eq_ok_iff`, `Framing.nextMany_eq_error_iff`: for a number of records,
  one behind the other, of which all are read or those before the one that fails.
* `Record.length_encode`, `Collection.length_encode`: the bytes written are as many as
  `wireSize` says.
-/

namespace IntentWire

open Bytes

/-! ### Records -/

namespace Record

/-- Whether neither field of a record is longer than the limit. -/
def IsWithin (limits : Limits) (r : Record) : Prop :=
  (ofText r.tag).length ≤ limits.maxFieldLength.toNat ∧
    r.payload.length ≤ limits.maxFieldLength.toNat

instance (limits : Limits) (r : Record) : Decidable (r.IsWithin limits) :=
  inferInstanceAs (Decidable (_ ∧ _))

theorem length_encode (r : Record) : r.encode.length = r.wireSize := by
  rw [encode, List.length_append, length_field, length_field, length_ofText, wireSize]

variable {limits : Limits} {index : Nat} {r r' : Reader}

theorem readField_eq_bind (limits : Limits) (index : Nat) : readField limits index =
    Reader.fieldLength.adaptExcept (.inRecord index) >>= fun size =>
      if limits.maxFieldLength < size then
        throw (.fieldTooLarge index size limits.maxFieldLength)
      else (Reader.slice size.toNat).adaptExcept (.inRecord index) :=
  rfl

theorem read_eq_bind (limits : Limits) (index : Nat) : read limits index =
    readField limits index >>= fun tag =>
      match text? tag with
      | some tag => readField limits index >>= fun payload => pure ⟨tag, payload⟩
      | _ => throw (.invalidTag index) :=
  rfl

theorem readField_eq_ok_iff {b : Bytes} :
    (readField limits index).run r = .ok b r' ↔
      field b <+: r.rest ∧ b.length ≤ limits.maxFieldLength.toNat ∧
        r' = r.advance (fieldSize b.length) := by
  have hm : limits.maxFieldLength.toNat < UInt64.size := limits.maxFieldLength.toNat_lt
  rw [readField_eq_bind, bind_eq_ok_iff]
  constructor
  · rintro ⟨size, r₁, hl, hs⟩
    rw [adaptExcept_eq_ok_iff] at hl
    split at hs
    · cases hs
    · next hle =>
      rw [UInt64.lt_iff_toNat_lt, Nat.not_lt] at hle
      -- But for the limit and the errors, a field of a record is read as any field.
      have hs : (Reader.slice size.toNat).run r₁ = .ok b r' := adaptExcept_eq_ok_iff.1 hs
      have hb : Reader.bytes.run r = .ok b r' :=
        Reader.restoring_eq_ok_iff.2 (bind_eq_ok_iff.2 ⟨size, r₁, hl, hs⟩)
      obtain ⟨hf, _, hr⟩ := Reader.bytes_eq_ok_iff.1 hb
      exact ⟨hf, (Reader.slice_eq_ok_iff.1 hs).2.1 ▸ hle, hr⟩
  · rintro ⟨hf, hle, hr⟩
    have hb : Reader.bytes.run r = .ok b r' := Reader.bytes_eq_ok_iff.2 ⟨hf, by omega, hr⟩
    obtain ⟨size, r₁, hl, hs⟩ := bind_eq_ok_iff.1 (Reader.restoring_eq_ok_iff.1 hb)
    refine ⟨size, r₁, adaptExcept_eq_ok_iff.2 hl, ?_⟩
    have hn : b.length = size.toNat := (Reader.slice_eq_ok_iff.1 hs).2.1
    rw [if_neg (by rw [UInt64.lt_iff_toNat_lt]; omega)]
    exact adaptExcept_eq_ok_iff.2 hs

theorem read_eq_ok_iff {record : Record} :
    (read limits index).run r = .ok record r' ↔
      record.encode <+: r.rest ∧ record.IsWithin limits ∧ r' = r.advance record.wireSize := by
  rw [read_eq_bind, bind_eq_ok_iff]
  constructor
  · rintro ⟨tag, r₁, ht, h⟩
    obtain ⟨hf₁, hl₁, rfl⟩ := readField_eq_ok_iff.1 ht
    cases hs : text? tag with
    | none => rw [hs] at h; cases h
    | some s =>
      rw [hs] at h
      obtain rfl := text?_eq_some_iff.1 hs
      obtain ⟨payload, r₂, hp, h⟩ := bind_eq_ok_iff.1 h
      obtain ⟨hf₂, hl₂, rfl⟩ := readField_eq_ok_iff.1 hp
      cases h
      refine ⟨append_prefix_iff.2 ⟨hf₁, ?_⟩, ⟨hl₁, hl₂⟩, ?_⟩
      · rw [length_field]
        exact hf₂
      · rw [Reader.advance_advance, length_ofText, wireSize]
  · rintro ⟨he, ⟨hl₁, hl₂⟩, rfl⟩
    obtain ⟨hf₁, hf₂⟩ := append_prefix_iff.1 he
    rw [length_field] at hf₂
    refine ⟨ofText record.tag, _, readField_eq_ok_iff.2 ⟨hf₁, hl₁, rfl⟩, ?_⟩
    rw [text?_ofText]
    refine bind_eq_ok_iff.2 ⟨record.payload, _, readField_eq_ok_iff.2 ⟨hf₂, hl₂, rfl⟩, ?_⟩
    rw [Reader.advance_advance, length_ofText, ← wireSize]
    rfl

end Record

@[simp] theorem Collection.recordsSize_nil : Collection.recordsSize [] = 0 := rfl

@[simp] theorem Collection.recordsSize_cons (record : Record) (c : Collection) :
    Collection.recordsSize (record :: c) = record.wireSize + c.recordsSize := rfl

/-! ### Progress -/

namespace Progress

theorem reader_beginRecord (p : Progress Reader) : p.beginRecord.reader = p.reader := rfl

/-- The progress after `record` is read. -/
def push (p : Progress Reader) (record : Record) : Progress Reader where
  reader := p.reader.advance record.wireSize
  records := p.records.push record
  events := p.events.push (.decodedRecord p.records.size record.tag record.payload.length)
  room := p.room
  begun := p.begun + 1

/-- The progress after the records `c` are read. -/
def after (p : Progress Reader) (c : Collection) : Progress Reader :=
  c.foldl push p

@[simp] theorem after_nil (p : Progress Reader) : p.after [] = p := rfl

@[simp] theorem after_cons (p : Progress Reader) (record : Record) (c : Collection) :
    p.after (record :: c) = (p.push record).after c := rfl

theorem reader_after (p : Progress Reader) (c : Collection) :
    (p.after c).reader = p.reader.advance c.recordsSize := by
  induction c generalizing p with
  | nil => rfl
  | cons record c ih =>
    rw [after_cons, ih, push, Reader.advance_advance, Collection.recordsSize_cons]

theorem records_after (p : Progress Reader) (c : Collection) :
    (p.after c).records.toList = p.records.toList ++ c := by
  induction c generalizing p with
  | nil => simp
  | cons record c ih => rw [after_cons, ih, push]; simp

theorem room_after (p : Progress Reader) (c : Collection) : (p.after c).room = p.room := by
  induction c generalizing p with
  | nil => rfl
  | cons record c ih => rw [after_cons, ih, push]

/-- The reading of a record is begun once for each that is read. -/
theorem begun_after (p : Progress Reader) (c : Collection) :
    (p.after c).begun = p.begun + c.length := by
  induction c generalizing p with
  | nil => rfl
  | cons record c ih =>
    rw [after_cons, ih, List.length_cons, Nat.add_comm c.length, ← Nat.add_assoc]
    rfl

end Progress

/-! ### Records one behind the other -/

namespace Framing

variable {limits : Limits} {p p' : Progress Reader}

theorem reading_eq {α : Type} (x : EStateM FrameError Reader α) (p : Progress Reader) :
    (reading x).run p = match x.run p.reader with
      | .ok a r => .ok a { p with reader := r }
      | .error e r => .error e { p with reader := r } := rfl

theorem next_eq (limits : Limits) (p : Progress Reader) : (next limits).run p =
    match (Record.read limits p.records.size).run p.reader with
    | .ok record r => .ok () { p with
        reader := r
        records := p.records.push record
        events := p.events.push (.decodedRecord p.records.size record.tag record.payload.length)
        begun := p.begun + 1 }
    | .error e r => .error e { p with reader := r, begun := p.begun + 1 } := by
  change (reading (Record.read limits p.records.size) >>= _).run p.beginRecord = _
  rw [EStateM.run_bind, reading_eq, Progress.reader_beginRecord]
  cases (Record.read limits p.records.size).run p.reader <;> rfl

theorem nextMany_succ (limits : Limits) (n : Nat) :
    nextMany limits (n + 1) = next limits >>= fun _ => nextMany limits n :=
  rfl

/-- The next record is read where it is written. -/
theorem next_eq_ok_iff :
    (next limits).run p = .ok () p' ↔
      ∃ record, record.encode <+: p.reader.rest ∧ record.IsWithin limits ∧ p' = p.push record := by
  rw [next_eq]
  constructor
  · intro h
    split at h
    · next hd =>
      obtain ⟨he, hw, rfl⟩ := Record.read_eq_ok_iff.1 hd
      cases h
      exact ⟨_, he, hw, rfl⟩
    · cases h
  · rintro ⟨record, he, hw, rfl⟩
    rw [Record.read_eq_ok_iff.2 ⟨he, hw, rfl⟩]
    rfl

theorem next_eq_error_iff {e : FrameError} :
    (next limits).run p = .error e p' ↔
      ∃ r, (Record.read limits p.records.size).run p.reader = .error e r ∧
        p' = { p with reader := r, begun := p.begun + 1 } := by
  rw [next_eq]
  constructor
  · intro h
    split at h
    · cases h
    · next hd =>
      cases h
      exact ⟨_, hd, rfl⟩
  · rintro ⟨r, hd, rfl⟩
    rw [hd]

/-- All of a number of records are read where they are written, one behind the other. -/
theorem nextMany_eq_ok_iff {n : Nat} :
    (nextMany limits n).run p = .ok () p' ↔
      ∃ c : Collection, c.length = n ∧ c.flatMap Record.encode <+: p.reader.rest ∧
        (∀ record ∈ c, record.IsWithin limits) ∧ p' = p.after c := by
  induction n generalizing p with
  | zero =>
    constructor
    · intro h
      cases h
      exact ⟨[], rfl, List.nil_prefix, List.forall_mem_nil _, rfl⟩
    · rintro ⟨c, hc, _, _, rfl⟩
      rw [List.eq_nil_of_length_eq_zero hc]
      rfl
  | succ n ih =>
    rw [nextMany_succ, bind_eq_ok_iff]
    constructor
    · rintro ⟨_, p₁, h₁, h⟩
      obtain ⟨record, he, hw, rfl⟩ := next_eq_ok_iff.1 h₁
      obtain ⟨c, hc, hes, hws, rfl⟩ := ih.1 h
      refine ⟨record :: c, congrArg _ hc, ?_, List.forall_mem_cons.2 ⟨hw, hws⟩, rfl⟩
      rw [List.flatMap_cons, append_prefix_iff, Record.length_encode]
      exact ⟨he, hes⟩
    · rintro ⟨c, hc, hes, hws, rfl⟩
      cases c with
      | nil => cases hc
      | cons record c =>
        rw [List.flatMap_cons, append_prefix_iff, Record.length_encode] at hes
        obtain ⟨hw, hws⟩ := List.forall_mem_cons.1 hws
        exact ⟨(), p.push record, next_eq_ok_iff.2 ⟨record, hes.1, hw, rfl⟩,
          ih.2 ⟨c, Nat.succ.inj hc, hes.2, hws, rfl⟩⟩

/-- A number of records fails to be read at the first one that does, behind those that
    are read. -/
theorem nextMany_eq_error_iff {n : Nat} {e : FrameError} :
    (nextMany limits n).run p = .error e p' ↔
      ∃ c : Collection, c.length < n ∧ c.flatMap Record.encode <+: p.reader.rest ∧
        (∀ record ∈ c, record.IsWithin limits) ∧ (next limits).run (p.after c) = .error e p' := by
  induction n generalizing p with
  | zero => exact ⟨nofun, fun ⟨_, hc, _⟩ => absurd hc (Nat.not_lt_zero _)⟩
  | succ n ih =>
    rw [nextMany_succ, bind_eq_error_iff]
    constructor
    -- It is the very next record that fails, or one behind it.
    · rintro (h | ⟨_, p₁, h₁, h⟩)
      · exact ⟨[], Nat.succ_pos n, List.nil_prefix, List.forall_mem_nil _, h⟩
      · obtain ⟨record, he, hw, rfl⟩ := next_eq_ok_iff.1 h₁
        obtain ⟨c, hc, hes, hws, h⟩ := ih.1 h
        refine ⟨record :: c, Nat.succ_lt_succ hc, ?_, List.forall_mem_cons.2 ⟨hw, hws⟩, h⟩
        rw [List.flatMap_cons, append_prefix_iff, Record.length_encode]
        exact ⟨he, hes⟩
    · rintro ⟨c, hc, hes, hws, h⟩
      cases c with
      | nil => exact .inl h
      | cons record c =>
        rw [List.flatMap_cons, append_prefix_iff, Record.length_encode] at hes
        obtain ⟨hw, hws⟩ := List.forall_mem_cons.1 hws
        exact .inr ⟨(), p.push record, next_eq_ok_iff.2 ⟨record, hes.1, hw, rfl⟩,
          ih.2 ⟨c, Nat.lt_of_succ_lt_succ hc, hes.2, hws, h⟩⟩

end Framing

/-! ### Collections -/

namespace Collection

/-- Whether a collection has no more records than the limit, all of them within it. -/
def IsWithin (limits : Limits) (c : Collection) : Prop :=
  c.length ≤ limits.maxRecords.toNat ∧ ∀ r ∈ c, r.IsWithin limits

instance (limits : Limits) (c : Collection) : Decidable (c.IsWithin limits) :=
  inferInstanceAs (Decidable (_ ∧ _))

/-- The number of records within the limit fits the count. -/
theorem IsWithin.toNat_length {limits : Limits} {c : Collection} (h : c.IsWithin limits) :
    (UInt64.ofNat c.length).toNat = c.length :=
  UInt64.toNat_ofNat_of_lt' (Nat.lt_of_le_of_lt h.1 limits.maxRecords.toNat_lt)

theorem length_flatMap_encode (c : Collection) :
    (c.flatMap Record.encode).length = c.recordsSize := by
  induction c with
  | nil => rfl
  | cons record c ih =>
    rw [List.flatMap_cons, List.length_append, Record.length_encode, ih, recordsSize_cons]

theorem recordsSize_append (c₁ c₂ : Collection) :
    recordsSize (c₁ ++ c₂) = c₁.recordsSize + c₂.recordsSize := by
  rw [← length_flatMap_encode, List.flatMap_append, List.length_append, length_flatMap_encode,
    length_flatMap_encode]

theorem length_encode (c : Collection) : c.encode.length = c.wireSize := by
  rw [encode, List.length_append, Compact.length_encode, wireSize, length_flatMap_encode]

end Collection

end IntentWire
