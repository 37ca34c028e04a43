import IntentWire.Framing.Reading

/-!
# Truncated buffers

An encoded collection that is cut short, wherever the cut is, is not taken for a
collection, and not for one that is malformed: the bytes are found to end too early, in
the count or else in the first record that is not whole.

* `Record.Fault.exists_of_take`: a record that is cut short has that fault.
* `Collection.exists_whole`: the records in front of the cut, and the one that it hits.
* `Collection.wholeRecords`: how many are in front of it.
-/

namespace IntentWire

open Bytes

/-! ### Records -/

namespace Record

variable {limits : Limits} {n : Nat}

/-- A field within the limit that is cut short ends in its length, or behind it. -/
theorem FieldFault.exists_of_take (index : Nat) {b : Bytes}
    (hb : b.length ≤ limits.maxFieldLength.toNat) (hn : n < (field b).length) :
    ∃ needed available,
      FieldFault limits index ((field b).take n)
        (.truncatedRecord index (.truncated needed available)) := by
  have hl : (UInt64.ofNat b.length).toNat = b.length :=
    UInt64.toNat_ofNat_of_lt' (Nat.lt_of_le_of_lt hb limits.maxFieldLength.toNat_lt)
  have hw := Compact.length_encode (.ofNat b.length)
  rw [length_field, fieldSize] at hn
  rcases Nat.lt_or_ge n (Compact.width (.ofNat b.length)) with hlt | hge
  · rw [field, List.take_append_of_le_length (by omega)]
    exact ⟨_, _, .lengthTruncated (Compact.decode_take_encode hlt)⟩
  · have ht : (field b).take n = Compact.encode (.ofNat b.length) ++
        b.take (n - Compact.width (.ofNat b.length)) := by
      rw [field, List.take_append, hw, List.take_of_length_le (by omega)]
    have hd := Compact.decode_encode_append (.ofNat b.length)
      (b.take (n - Compact.width (.ofNat b.length)))
    rw [← ht] at hd
    refine ⟨_, _, .absent hd ?_ ?_⟩
    · rw [UInt64.le_iff_toNat_le, hl]
      exact hb
    · rw [ht, ← hw, List.drop_left, hl, List.length_take]
      omega

/-- A record within the limits that is cut short ends in its tag or in its payload. -/
theorem Fault.exists_of_take (index : Nat) {record : Record} (hw : record.IsWithin limits)
    (hn : n < record.encode.length) : ∃ needed available,
      Fault limits index (record.encode.take n)
        (.truncatedRecord index (.truncated needed available)) := by
  rw [encode, List.length_append] at hn
  rw [encode]
  rcases Nat.lt_or_ge n (field (ofText record.tag)).length with hlt | hge
  · rw [List.take_append_of_le_length (Nat.le_of_lt hlt)]
    obtain ⟨needed, available, hf⟩ := FieldFault.exists_of_take index hw.1 hlt
    exact ⟨needed, available, .tag hf⟩
  · rw [List.take_append, List.take_of_length_le hge]
    obtain ⟨needed, available, hf⟩ := FieldFault.exists_of_take index hw.2
      (show n - (field (ofText record.tag)).length < (field record.payload).length by omega)
    refine ⟨needed, available, .payload (List.prefix_append _ _) hw.1 ?_⟩
    rw [← length_field, List.drop_left]
    exact hf

end Record

/-! ### Collections -/

namespace Collection

variable {limits : Limits} {records : Collection} {buffer : Bytes} {n : Nat}

/-- The number of bytes of a collection up to the end of the record of index `i`. -/
def recordEnd (records : Collection) (i : Nat) : Nat :=
  Compact.width (.ofNat records.length) + recordsSize (records.take (i + 1))

/-- The number of records that lie wholly within the first `n` bytes of a collection. -/
def wholeRecords (records : Collection) (n : Nat) : Nat :=
  (List.range records.length).countP fun i => records.recordEnd i ≤ n

/-- A cut within the records leaves some of them whole, and hits the next. -/
theorem exists_whole (h : n < records.recordsSize) :
    ∃ (c₁ : Collection) (record : Record) (c₂ : Collection), records = c₁ ++ record :: c₂ ∧
      c₁.recordsSize ≤ n ∧ n < c₁.recordsSize + record.wireSize := by
  induction records generalizing n with
  | nil => exact absurd h (Nat.not_lt_zero n)
  | cons record c ih =>
    rw [recordsSize_cons] at h
    rcases Nat.lt_or_ge n record.wireSize with hlt | hge
    · exact ⟨[], record, c, rfl, Nat.zero_le n, by rwa [recordsSize_nil, Nat.zero_add]⟩
    · obtain ⟨c₁, r, c₂, rfl, hle, hlt⟩ := ih (show n - record.wireSize < recordsSize c by omega)
      refine ⟨record :: c₁, r, c₂, rfl, ?_, ?_⟩
      · rw [recordsSize_cons]
        omega
      · rw [recordsSize_cons]
        omega

/-- The records in front of a cut are those that lie wholly in front of it. -/
theorem wholeRecords_append {c₁ c₂ : Collection} {record : Record}
    (hle : Compact.width (.ofNat (c₁ ++ record :: c₂).length) + c₁.recordsSize ≤ n)
    (hlt : n < Compact.width (.ofNat (c₁ ++ record :: c₂).length) +
      (c₁.recordsSize + record.wireSize)) :
    wholeRecords (c₁ ++ record :: c₂) n = c₁.length := by
  have hfront : ∀ i ∈ List.range c₁.length, recordEnd (c₁ ++ record :: c₂) i ≤ n := by
    intro i hi
    have hi : i + 1 ≤ c₁.length := List.mem_range.1 hi
    have hs := recordsSize_append (c₁.take (i + 1)) (c₁.drop (i + 1))
    rw [List.take_append_drop] at hs
    rw [recordEnd, List.take_append_of_le_length hi]
    omega
  have hback : ∀ i, n < recordEnd (c₁ ++ record :: c₂) (c₁.length + i) := by
    intro i
    rw [recordEnd, Nat.add_assoc, List.take_length_add_append, List.take_succ_cons,
      recordsSize_append, recordsSize_cons]
    omega
  rw [wholeRecords, List.length_append, List.range_add, List.countP_append,
    List.countP_eq_length.2 (fun i hi => decide_eq_true (hfront i hi)), List.length_range,
    List.countP_eq_zero.2, Nat.add_zero]
  rintro _ hi
  obtain ⟨i, -, rfl⟩ := List.mem_map.1 hi
  rw [decide_eq_true_eq, Nat.not_le]
  exact hback i

/-- What is left of the records in front of a cut and of the one that it hits. -/
theorem take_flatMap_encode {c₁ : Collection} {record : Record} (c₂ : Collection)
    (hle : c₁.recordsSize ≤ n) (hlt : n < c₁.recordsSize + record.wireSize) :
    ((c₁ ++ record :: c₂).flatMap Record.encode).take n =
      c₁.flatMap Record.encode ++ record.encode.take (n - c₁.recordsSize) := by
  rw [List.flatMap_append, List.take_append, length_flatMap_encode,
    List.take_of_length_le (by rw [length_flatMap_encode]; exact hle), List.flatMap_cons,
    List.take_append_of_le_length (by rw [Record.length_encode]; omega)]

/-- A collection that is cut short in its count is uncounted. -/
theorem reading_take_of_lt_width (h : n < Compact.width (.ofNat records.length)) :
    Reading limits (records.encode.take n) (.error (.malformedCollection
      (.truncated (if n = 0 then 1 else Compact.width (.ofNat records.length)) n))) [] := by
  rw [encode, List.take_append_of_le_length (by rw [Compact.length_encode]; omega)]
  exact .uncounted (Compact.decode_take_encode h)

/-- A collection within the limits that is cut short behind its count opens with the
    records in front of the cut, and the next one ends too early. -/
theorem reading_take_of_width_le (hw : records.IsWithin limits)
    (hle : Compact.width (.ofNat records.length) ≤ n) (hlt : n < records.encode.length) :
    ∃ needed available c, Reading limits (records.encode.take n)
      (.error (.truncatedRecord (records.wholeRecords n) (.truncated needed available))) c := by
  have hcount := hw.toNat_length
  rw [length_encode, wireSize] at hlt
  obtain ⟨c₁, record, c₂, hr, hle₁, hlt₁⟩ := exists_whole
    (show n - Compact.width (.ofNat records.length) < records.recordsSize by omega)
  have hwithin := hw.2
  rw [hr] at hwithin
  obtain ⟨hw₁, hw₂⟩ := List.forall_mem_append.1 hwithin
  have hindex : records.wholeRecords n = c₁.length := by
    rw [hr] at hle hle₁ hlt₁ ⊢
    exact wholeRecords_append (by omega) (by omega)
  have ht : records.encode.take n = Compact.encode (.ofNat records.length) ++
      (records.flatMap Record.encode).take (n - Compact.width (.ofNat records.length)) := by
    rw [encode, List.take_append, Compact.length_encode,
      List.take_of_length_le (by rw [Compact.length_encode]; exact hle)]
  have ht₁ := take_flatMap_encode c₂ hle₁ hlt₁
  rw [← hr] at ht₁
  rw [ht₁] at ht
  obtain ⟨needed, available, hf⟩ := Record.Fault.exists_of_take c₁.length
    (hw₂ record List.mem_cons_self)
    (show n - Compact.width (.ofNat records.length) - c₁.recordsSize < record.encode.length by
      rw [Record.length_encode]; omega)
  refine ⟨needed, available, c₁, ?_⟩
  rw [hindex]
  refine .fault ⟨ht, ?_, hw₁⟩ ?_ hf
  · rw [UInt64.le_iff_toNat_le, hcount]
    exact hw.1
  · rw [hcount, hr, List.length_append, List.length_cons]
    omega

/-- A collection within the limits that is cut short is never read. When the cut is in
    the count, the buffer is malformed as a collection, as it ends too early. When the cut
    is behind the count, the record that ends too early is the first that does not lie
    wholly in front of the cut. -/
theorem decode_of_isPrefix_encode (hw : records.IsWithin limits) (hp : buffer <+: records.encode)
    (hne : buffer ≠ records.encode) :
    (buffer.length < Compact.width (.ofNat records.length) → ∃ needed available,
      decode limits buffer = .error (.malformedCollection (.truncated needed available))) ∧
    (Compact.width (.ofNat records.length) ≤ buffer.length → ∃ needed available,
      decode limits buffer = .error (.truncatedRecord (records.wholeRecords buffer.length)
        (.truncated needed available))) := by
  have hb : buffer = records.encode.take buffer.length := List.prefix_iff_eq_take.1 hp
  have hlt : buffer.length < records.encode.length :=
    Nat.lt_of_le_of_ne hp.length_le fun h => hne (hp.eq_of_length h)
  refine ⟨fun h => ?_, fun h => ?_⟩
  · have hr : Reading limits _ _ _ := reading_take_of_lt_width h
    rw [← hb] at hr
    exact ⟨_, _, hr.eq.1⟩
  · obtain ⟨needed, available, c, hr⟩ := reading_take_of_width_le hw h hlt
    rw [← hb] at hr
    exact ⟨needed, available, hr.eq.1⟩

/-- A cut in the only letter of the second tag: the first record is whole, and the tag ends
    too early, before it can be found to be no text. -/
theorem decode_of_isPrefix_encode_letter :
    IsWithin {} [⟨"a", []⟩, ⟨"é", [255]⟩] ∧
      [8, 4, 97, 0, 8, 195] <+: encode [⟨"a", []⟩, ⟨"é", [255]⟩] ∧
      ∃ needed available, decode {} [8, 4, 97, 0, 8, 195] =
        .error (.truncatedRecord 1 (.truncated needed available)) := by
  have hw : IsWithin {} [⟨"a", []⟩, ⟨"é", [255]⟩] := by decide +kernel
  have he : encode [⟨"a", []⟩, ⟨"é", [255]⟩] = [8, 4, 97, 0, 8, 195, 169, 4, 255] := by
    decide +kernel
  have hp : [8, 4, 97, 0, 8, 195] <+: encode [⟨"a", []⟩, ⟨"é", [255]⟩] := by
    rw [he]
    decide
  have hn : wholeRecords [⟨"a", []⟩, ⟨"é", [255]⟩] 6 = 1 := by decide +kernel
  refine ⟨hw, hp, ?_⟩
  rw [← hn]
  exact (decode_of_isPrefix_encode hw hp (by rw [he]; decide)).2 (by decide)

end Collection

end IntentWire
