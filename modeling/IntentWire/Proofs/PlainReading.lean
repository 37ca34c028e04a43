import IntentWire.Proofs.RaisedLimits

/-!
# Plain reading

The fields of a record are read by `Record.readField`, which has limits to hold their lengths
against, and does not put the reader back when it fails. But for the limits, a collection is
read as a reader reads a count, and a text and a byte string for each record, with the errors
told of the record that they are in.

* `settled`: what comes of a read, but for where the reader is left when it fails.
* `Record.readPlain`, `Collection.decodePlain`: the reading without limits.
* `Collection.DeclaresWithin`: all that a buffer declares is within the limits, up to where
  the reading without limits stops.
* `Collection.decode_eq_decodePlain_iff`: it is then, and only then, that both come to the same.
-/

namespace IntentWire

open Bytes

/-! ### What comes of a read -/

section Settled

variable {ε ε' σ α β : Type} {s s' : σ}

/-- What is found and the state behind it, or why it fails. The state that a failure leaves
    is forgotten. -/
def settled (x : EStateM ε σ α) (s : σ) : Except ε (α × σ) :=
  match x.run s with
  | .ok a s' => .ok (a, s')
  | .error e _ => .error e

theorem settled_eq_ok_iff {x : EStateM ε σ α} {a : α} :
    settled x s = .ok (a, s') ↔ x.run s = .ok a s' := by
  rw [settled]
  cases x.run s with
  | ok b s₁ => exact ⟨fun h => by cases h; rfl, fun h => by cases h; rfl⟩
  | error e s₁ => exact ⟨nofun, nofun⟩

theorem settled_bind (x : EStateM ε σ α) (f : α → EStateM ε σ β) (s : σ) :
    settled (x >>= f) s = (settled x s).bind fun p => settled (f p.1) p.2 := by
  rw [settled, settled, EStateM.run_bind]
  cases x.run s <;> rfl

/-- Two steps come to the same as two others if the first ones do, and the second ones behind
    what these find. -/
theorem settled_bind_congr {x y : EStateM ε σ α} {f g : α → EStateM ε σ β}
    (hx : settled x s = settled y s)
    (hf : ∀ a s', x.run s = .ok a s' → settled (f a) s' = settled (g a) s') :
    settled (x >>= f) s = settled (y >>= g) s := by
  rw [settled_bind, settled_bind, ← hx]
  cases h : settled x s with
  | error e => rfl
  | ok p => exact hf p.1 p.2 (settled_eq_ok_iff.1 h)

theorem settled_adaptExcept (f : ε → ε') (x : EStateM ε σ α) (s : σ) :
    settled (EStateM.adaptExcept f x) s = (settled x s).mapError f := by
  rw [settled, settled, EStateM.run_adaptExcept]
  cases x.run s <;> rfl

/-- The errors of two steps are told alike by telling those of each. -/
theorem adaptExcept_bind (f : ε → ε') (x : EStateM ε σ α) (g : α → EStateM ε σ β) :
    EStateM.adaptExcept f (x >>= g) =
      EStateM.adaptExcept f x >>= fun a => EStateM.adaptExcept f (g a) := by
  funext s
  change (EStateM.adaptExcept f (x >>= g)).run s = EStateM.run (_ >>= _) s
  rw [EStateM.run_adaptExcept, EStateM.run_bind, EStateM.run_bind, EStateM.run_adaptExcept]
  cases x.run s with
  | ok a s' => exact (EStateM.run_adaptExcept ..).symm
  | error e s' => rfl

theorem Reader.settled_restoring (x : Read α) (r : Reader) :
    settled (Reader.restoring x) r = settled x r := by
  rw [settled, settled, Reader.restoring_eq]
  cases x.run r <;> rfl

end Settled

/-! ### Records -/

namespace Record

/-- Reads a record as a text and a byte string. -/
def readPlain : Read Record := do
  let tag ← Reader.text
  let payload ← Reader.bytes
  return ⟨tag, payload⟩

/-- A length that is met where a record is read: that of its tag, or, if the tag is read, that
    of its payload. -/
inductive Declares (r : Reader) (size : UInt64) : Prop
  | tag {r' : Reader} : Reader.fieldLength.run r = .ok size r' → Declares r size
  | payload {tag : String} {r₁ r' : Reader} :
    Reader.text.run r = .ok tag r₁ → Reader.fieldLength.run r₁ = .ok size r' → Declares r size

/-- Reads a field of the record of the given index without limits. -/
def readFieldPlain (index : Nat) : EStateM FrameError Reader Bytes :=
  Reader.bytes.adaptExcept (.inRecord index)

variable {limits : Limits} {index : Nat} {r r' : Reader} {size : UInt64}

/-- A field that is not longer than the limit comes to the same as one read without limits. -/
theorem settled_readField
    (h : ∀ size r', Reader.fieldLength.run r = .ok size r' → size ≤ limits.maxFieldLength) :
    settled (readField limits index) r = settled (readFieldPlain index) r := by
  rw [readField_eq_bind, readFieldPlain, settled_adaptExcept, Reader.bytes,
    Reader.settled_restoring, ← settled_adaptExcept, adaptExcept_bind]
  refine settled_bind_congr rfl fun size r' hs => ?_
  rw [if_neg (UInt64.not_lt.2 (h size r' (adaptExcept_eq_ok_iff.1 hs)))]

/-- Read without limits, a record comes to the same as two byte strings of which the first is
    made out as a text. -/
theorem settled_readPlain (index : Nat) (r : Reader) :
    settled (EStateM.adaptExcept (FrameError.inRecord index) readPlain) r =
      settled (readFieldPlain index >>= fun b =>
        match text? b with
        | some tag => readFieldPlain index >>= fun payload => pure ⟨tag, payload⟩
        | none => throw (.invalidTag index)) r := by
  have htext : settled (EStateM.adaptExcept (FrameError.inRecord index) Reader.text) r =
      settled (EStateM.adaptExcept (FrameError.inRecord index) (Reader.bytes >>= fun b =>
        match text? b with
        | some s => pure s
        | none => throw .invalidText)) r := by
    rw [settled_adaptExcept, settled_adaptExcept]
    exact congrArg (Except.mapError _) (Reader.settled_restoring _ r)
  rw [readPlain, adaptExcept_bind, settled_bind_congr htext fun _ _ _ => rfl, adaptExcept_bind,
    bind_assoc]
  refine settled_bind_congr rfl fun b r₁ _ => ?_
  cases text? b with
  | none => rfl
  | some tag => exact congrArg (settled · r₁) (adaptExcept_bind _ _ _)

/-- A record without a length over the limit comes to the same as one read without limits. -/
theorem settled_read (h : ∀ size, Declares r size → size ≤ limits.maxFieldLength) :
    settled (read limits index) r =
      settled (EStateM.adaptExcept (FrameError.inRecord index) readPlain) r := by
  rw [settled_readPlain, read]
  refine settled_bind_congr (settled_readField fun size r' hs => h size (.tag hs))
    fun b r₁ hb => ?_
  obtain ⟨hf, hl, hr⟩ := readField_eq_ok_iff.1 hb
  cases ht : text? b with
  | none => rfl
  | some tag =>
    obtain rfl := text?_eq_some_iff.1 ht
    have htag : Reader.text.run r = .ok tag r₁ :=
      Reader.text_eq_ok_iff.2 ⟨hf, Nat.lt_of_le_of_lt hl limits.maxFieldLength.toNat_lt, hr⟩
    exact settled_bind_congr (settled_readField fun size r' hs => h size (.payload htag hs))
      fun _ _ _ => rfl

theorem fieldFault_of_fieldLength (hs : Reader.fieldLength.run r = .ok size r')
    (hlt : limits.maxFieldLength < size) :
    FieldFault limits index r.rest (.fieldTooLarge index size limits.maxFieldLength) := by
  obtain ⟨⟨t, ht⟩, -⟩ := Reader.compact_eq_ok_iff.1 hs
  exact .tooLarge (ht ▸ Compact.decode_encode_append size t) hlt

/-- A record with a length over the limit fails for one. -/
theorem exists_fault_of_declares (h : Declares r size) (hlt : limits.maxFieldLength < size) :
    ∃ size, Fault limits index r.rest (.fieldTooLarge index size limits.maxFieldLength) := by
  cases h with
  | tag hs => exact ⟨size, .tag (fieldFault_of_fieldLength hs hlt)⟩
  | @payload tag r₁ r' ht hs =>
    obtain ⟨hf, hl, rfl⟩ := Reader.text_eq_ok_iff.1 ht
    -- The tag is read, but it may be over the limit itself.
    by_cases hle : (ofText tag).length ≤ limits.maxFieldLength.toNat
    · exact ⟨size, .payload hf hle (fieldFault_of_fieldLength hs hlt)⟩
    · have hsize : (UInt64.ofNat (ofText tag).length).toNat = (ofText tag).length :=
        UInt64.toNat_ofNat_of_lt' hl
      have htag : Reader.fieldLength.run r = .ok (.ofNat (ofText tag).length) _ :=
        Reader.compact_eq_ok_iff.2 ⟨(append_prefix_iff.1 hf).1, rfl⟩
      refine ⟨_, .tag (fieldFault_of_fieldLength htag ?_)⟩
      rw [UInt64.lt_iff_toNat_lt, hsize]
      exact Nat.not_le.1 hle

end Record

/-! ### Collections -/

namespace Collection

/-- Reads a number of records without limits. Errors are told of the record they are in, the
    first of which has the given index. -/
def readManyPlain (index : Nat) : Nat → EStateM FrameError Reader Collection
  | 0 => return []
  | n + 1 => do
    let record ← Record.readPlain.adaptExcept (.inRecord index)
    return record :: (← readManyPlain (index + 1) n)

/-- Reads the number of records, and then these, without limits. -/
def readPlain : EStateM FrameError Reader Collection := do
  let count ← Reader.compact.adaptExcept .malformedCollection
  readManyPlain 0 count.toNat

/-- Reads the collection at the start of a buffer without limits. -/
def decodePlain (buffer : Bytes) : Except FrameError Collection :=
  (settled readPlain (.ofBytes buffer)).map (·.1)

/-- A length that is met where a number of records are read without limits, in the first of them
    or, if it is read, in those behind it. -/
inductive Declares : Nat → Reader → UInt64 → Prop
  | here {n : Nat} {r : Reader} {size : UInt64} : Record.Declares r size → Declares (n + 1) r size
  | behind {n : Nat} {r r' : Reader} {record : Record} {size : UInt64} :
    Record.readPlain.run r = .ok record r' → Declares n r' size → Declares (n + 1) r size

/-- Whether all that a buffer declares is within the limits, as far as it is met when the buffer
    is read without limits: the number of records, and the lengths of their fields up to the one
    that cannot be read. -/
def DeclaresWithin (limits : Limits) (buffer : Bytes) : Prop :=
  ∀ count r, Reader.compact.run (.ofBytes buffer) = .ok count r →
    count ≤ limits.maxRecords ∧ ∀ size, Declares count.toNat r size → size ≤ limits.maxFieldLength

variable {limits : Limits} {buffer : Bytes} {p : Progress Reader} {n : Nat} {size : UInt64}

theorem settled_next (limits : Limits) (p : Progress Reader) :
    settled (Framing.next limits) p =
      (settled (Record.read limits p.records.size) p.reader).map fun (record, r) =>
        ((), { p with
          reader := r
          records := p.records.push record
          events := p.events.push
            (.decodedRecord p.records.size record.tag record.payload.length)
          begun := p.begun + 1 }) := by
  rw [settled, settled, Framing.next_eq]
  cases (Record.read limits p.records.size).run p.reader <;> rfl

theorem settled_readManyPlain_succ (index n : Nat) (r : Reader) :
    settled (readManyPlain index (n + 1)) r =
      (settled (Record.readPlain.adaptExcept (FrameError.inRecord index)) r).bind
        fun (record, r') =>
          (settled (readManyPlain (index + 1) n) r').map fun (c, r'') => (record :: c, r'') := by
  rw [readManyPlain, settled_bind]
  congr 1
  funext found
  obtain ⟨record, r'⟩ := found
  dsimp only
  rw [settled_bind]
  cases settled (readManyPlain (index + 1) n) r' <;> rfl

/-- A number of records without a length over the limit come to the same as read without
    limits. -/
theorem settled_nextMany (h : ∀ size, Declares n p.reader size → size ≤ limits.maxFieldLength) :
    (settled (Framing.nextMany limits n) p).map (·.2.records.toList) =
      (settled (readManyPlain p.records.size n) p.reader).map (p.records.toList ++ ·.1) := by
  induction n generalizing p with
  | zero => exact congrArg Except.ok (List.append_nil _).symm
  | succ n ih =>
    rw [Framing.nextMany_succ, settled_bind, settled_readManyPlain_succ, settled_next,
      Record.settled_read fun size hs => h size (.here hs)]
    cases hx : settled (Record.readPlain.adaptExcept (FrameError.inRecord p.records.size))
      p.reader with
    | error e => rfl
    | ok found =>
      obtain ⟨record, r⟩ := found
      have hread := adaptExcept_eq_ok_iff.1 (settled_eq_ok_iff.1 hx)
      refine (ih fun size hs => h size (.behind hread hs)).trans ?_
      simp only [Array.size_push, Array.toList_push, List.append_assoc, List.singleton_append]
      change _ = Except.map _ (Except.map _ (settled (readManyPlain (p.records.size + 1) n) r))
      cases settled (readManyPlain (p.records.size + 1) n) r <;> rfl

theorem exists_next_eq_error (h : Record.Declares p.reader size)
    (hlt : limits.maxFieldLength < size) :
    ∃ e p', (Framing.next limits).run p = .error e p' ∧ e.isLimit = true := by
  obtain ⟨size, hf⟩ := Record.exists_fault_of_declares h hlt
  obtain ⟨r, hr⟩ := Record.read_eq_error_iff.2 hf
  exact ⟨_, _, Framing.next_eq_error_iff.2 ⟨r, hr, rfl⟩, rfl⟩

/-- A number of records fail a limit if one of the lengths met without limits is over it. -/
theorem exists_nextMany_eq_error (h : Declares n p.reader size)
    (hlt : limits.maxFieldLength < size) :
    ∃ e p', (Framing.nextMany limits n).run p = .error e p' ∧ e.isLimit = true := by
  generalize hr : p.reader = r at h
  induction h generalizing p with
  | here h =>
    obtain ⟨e, p', hn, he⟩ := exists_next_eq_error (hr ▸ h) hlt
    exact ⟨e, p', bind_eq_error_iff.2 (.inl hn), he⟩
  | @behind n r r' record size hread _ ih =>
    subst hr
    -- It may be over the limit in this record already, or else the record is read as it is
    -- without limits.
    by_cases hall : ∀ size, Record.Declares p.reader size → size ≤ limits.maxFieldLength
    · have hp : settled (Record.read limits p.records.size) p.reader = .ok (record, r') :=
        (Record.settled_read hall).trans (settled_eq_ok_iff.2 (adaptExcept_eq_ok_iff.2 hread))
      have hnext : ∃ p₁, (Framing.next limits).run p = .ok () p₁ ∧ p₁.reader = r' := by
        rw [Framing.next_eq, settled_eq_ok_iff.1 hp]
        exact ⟨_, rfl, rfl⟩
      obtain ⟨p₁, hn, hr⟩ := hnext
      obtain ⟨e, p', hmany, he⟩ := ih hlt hr
      exact ⟨e, p', bind_eq_error_iff.2 (.inr ⟨(), p₁, hn, hmany⟩), he⟩
    · simp only [not_forall, UInt64.not_le] at hall
      obtain ⟨size', hs, hlt'⟩ := hall
      obtain ⟨e, p', hn, he⟩ := exists_next_eq_error hs hlt'
      exact ⟨e, p', bind_eq_error_iff.2 (.inl hn), he⟩

theorem settled_compact (buffer : Bytes) :
    settled (Reader.compact.adaptExcept FrameError.malformedCollection) (.ofBytes buffer) =
      match Compact.decode buffer with
      | .error cause => .error (.malformedCollection cause)
      | .ok (count, n) => .ok (count, (Reader.ofBytes buffer).advance n) := by
  rw [settled, EStateM.run_adaptExcept, Reader.compact_eq, Reader.ofBytes]
  cases Compact.decode buffer <;> rfl

theorem decode_eq_decodePlain (h : DeclaresWithin limits buffer) :
    decode limits buffer = decodePlain buffer := by
  rw [decode_eq, decodePlain, readPlain, settled_bind, settled_compact, Framing.collection_start]
  cases hd : Compact.decode buffer with
  | error cause => rfl
  | ok found =>
    obtain ⟨count, n⟩ := found
    have hc : Reader.compact.run (.ofBytes buffer) =
        .ok count ((Reader.ofBytes buffer).advance n) := by
      rw [Reader.compact_eq, Reader.ofBytes, hd]
    obtain ⟨hcount, hsize⟩ := h count _ hc
    have hmany := settled_nextMany (p := .ready buffer count n) hsize
    simp only [if_neg (UInt64.not_lt.2 hcount)]
    refine Eq.trans ?_ hmany
    rw [settled]
    cases (Framing.nextMany limits count.toNat).run (.ready buffer count n) with
    | ok _ p => exact congrArg (fun a => Except.ok a.toList) p.records_close
    | error e p => rfl

/-- A buffer that declares something over the limits fails one. -/
theorem exists_decode_eq_error (h : ¬DeclaresWithin limits buffer) :
    ∃ e, decode limits buffer = .error e ∧ e.isLimit = true := by
  simp only [DeclaresWithin, not_forall, not_and_or, UInt64.not_le, exists_prop] at h
  obtain ⟨count, r, hc, h⟩ := h
  obtain ⟨⟨t, ht⟩, rfl⟩ := Reader.compact_eq_ok_iff.1 hc
  replace ht : Compact.encode count ++ t = buffer := ht
  have hd : Compact.decode buffer = .ok (count, Compact.width count) :=
    ht ▸ Compact.decode_encode_append count t
  rw [decode_eq, Framing.collection_start, hd]
  dsimp only
  by_cases hlt : limits.maxRecords < count
  · rw [if_pos hlt]
    exact ⟨_, rfl, rfl⟩
  · obtain ⟨size, hs, hsize⟩ := h.resolve_left hlt
    obtain ⟨e, p, hmany, he⟩ := exists_nextMany_eq_error (p := .ready buffer count _) hs hsize
    rw [if_neg hlt, hmany]
    exact ⟨e, rfl, he⟩

/-- What comes of a buffer within limits is what comes of it when a reader reads a count, and
    then a text and a byte string for each record.

    * Under the greatest limits it is so for every buffer.
    * Under other limits it is so just when they hold for all that the buffer declares, as far
      as the reading without limits gets. When they do not, the buffer fails one. -/
theorem decode_eq_decodePlain_iff (buffer : Bytes) :
    decode .greatest buffer = decodePlain buffer ∧
      ∀ limits, (decode limits buffer = decodePlain buffer ↔ DeclaresWithin limits buffer) ∧
        (¬DeclaresWithin limits buffer →
          ∃ e, decode limits buffer = .error e ∧ e.isLimit = true) := by
  have hgreatest : decode .greatest buffer = decodePlain buffer :=
    decode_eq_decodePlain fun count _ _ =>
      ⟨Limits.le_greatest_word count, fun size _ => Limits.le_greatest_word size⟩
  refine ⟨hgreatest, fun limits =>
    ⟨⟨fun h => by_contra fun hw => ?_, decode_eq_decodePlain⟩, exists_decode_eq_error⟩⟩
  obtain ⟨e, hd, he⟩ := exists_decode_eq_error hw
  -- Without limits no limit is failed.
  rw [isLimit_eq_false_of_greatest (hgreatest.trans (h.symm.trans hd))] at he
  cases he

/-- A tag that is no text is refused for it, unless it is longer than the limit. -/
theorem decode_eq_decodePlain_iff_tag :
    ¬DeclaresWithin ⟨1, 1⟩ [4, 8, 255, 254] ∧
      (∃ e, decode ⟨1, 1⟩ [4, 8, 255, 254] = .error e ∧ e.isLimit = true) ∧
      decode .greatest [4, 8, 255, 254] = .error (.invalidTag 0) := by
  have hplain : decodePlain [4, 8, 255, 254] = .error (.invalidTag 0) := rfl
  have hlimit : decode ⟨1, 1⟩ [4, 8, 255, 254] = .error (.fieldTooLarge 0 2 1) := rfl
  obtain ⟨hgreatest, h⟩ := decode_eq_decodePlain_iff [4, 8, 255, 254]
  have hn : ¬DeclaresWithin ⟨1, 1⟩ [4, 8, 255, 254] := fun hw => by
    have heq := (h ⟨1, 1⟩).1.2 hw
    rw [hlimit, hplain] at heq
    cases heq
  exact ⟨hn, (h ⟨1, 1⟩).2 hn, hgreatest.trans hplain⟩

end Collection

end IntentWire
