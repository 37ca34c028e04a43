import IntentWire.Framing.Reading

/-!
# Room for records

A buffer may declare any number of records, within the limit, and hold few. Room is made for no
more of them than the bytes behind the count can hold, as the smallest record takes two bytes; and
as many bytes are behind each record that is read, no more records than these are begun, but for
the one that fails. Where all records are there, room is made for just as many.

* `Record.remaining_of_read`: a record takes its size from the bytes that are left.
* `Collection.Opens.two_mul_length_add_le`: what records leave of the bytes behind the count.
* `Collection.Reading.made_of_counted`: what the reading of a buffer makes room for and begins.
* `Collection.reading_bounded`: how much that is, whatever the buffer declares.
-/

namespace IntentWire

namespace Record

/-- Two empty fields take two bytes, and no record takes fewer. -/
theorem minSize_le_wireSize (r : Record) : minSize ≤ r.wireSize := by
  have htag : 0 < Compact.width (.ofNat r.tag.utf8ByteSize) := Compact.width_pos _
  have hpayload : 0 < Compact.width (.ofNat r.payload.length) := Compact.width_pos _
  rw [minSize, wireSize, Bytes.fieldSize, Bytes.fieldSize]
  omega

variable {limits : Limits} {index : Nat} {r r' : Reader} {record : Record}

/-- A record that is read takes its size from the bytes that are left. -/
theorem remaining_of_read (h : (read limits index).run r = .ok record r') :
    r'.remaining + record.wireSize = r.remaining := by
  obtain ⟨he, -, rfl⟩ := read_eq_ok_iff.1 h
  have hle := he.length_le
  rw [length_encode] at hle
  rw [Reader.remaining, Reader.rest_advance, List.length_drop, Reader.remaining]
  omega

end Record

namespace Collection

variable {limits : Limits} {buffer rest : Bytes} {count : UInt64} {c : Collection}

theorem two_mul_length_le (c : Collection) : 2 * c.length ≤ c.recordsSize := by
  induction c with
  | nil => exact Nat.le_refl 0
  | cons r c ih =>
    have hr : 2 ≤ r.wireSize := r.minSize_le_wireSize
    rw [List.length_cons, recordsSize_cons]
    omega

/-- Each record that is read takes two bytes at least of those behind the count. -/
theorem Opens.two_mul_length_add_le (h : Opens limits buffer count c rest) :
    2 * c.length + rest.length ≤ (buffer.drop (Compact.width count)).length := by
  have hc := c.two_mul_length_le
  rw [h.drop_width, List.length_append, length_flatMap_encode]
  omega

theorem Opens.length_le {count' : UInt64} {n : Nat} (h : Opens limits buffer count c rest)
    (hd : Compact.decode buffer = .ok (count', n)) : c.length ≤ (buffer.drop n).length / 2 := by
  have hle := h.two_mul_length_add_le
  rw [h.decode_eq] at hd
  cases hd
  omega

/-- As many records are read as the bytes behind the count can hold, at most. -/
theorem Reading.length_le {x : Except FrameError Collection} {n : Nat}
    (h : Reading limits buffer x c) (hd : Compact.decode buffer = .ok (count, n)) :
    c.length ≤ (buffer.drop n).length / 2 := by
  cases h with
  | uncounted | tooMany => exact Nat.zero_le _
  | whole ho | fault ho => exact ho.length_le hd

/-- A collection has as many records as its buffer declares. -/
theorem Reading.length_eq {c' : Collection} {n : Nat} (h : Reading limits buffer (.ok c) c')
    (hd : Compact.decode buffer = .ok (count, n)) : c' = c ∧ c.length = count.toNat := by
  cases h with
  | whole ho hc =>
    rw [ho.count_eq hd] at hc
    exact ⟨rfl, hc⟩

/-! ### What the reading comes to -/

/-- The number of records that the reading of a buffer makes room for. -/
def roomMade (limits : Limits) (buffer : Bytes) : Nat :=
  (Framing.stop limits buffer).room

/-- How many times the reading of a buffer begins to read a record. -/
def recordsBegun (limits : Limits) (buffer : Bytes) : Nat :=
  (Framing.stop limits buffer).begun

/-- A buffer whose number of records cannot be read, or is over the limit, makes no room, and no
    record is begun. -/
theorem made_of_not_counted
    (h : ∀ count n, Compact.decode buffer = .ok (count, n) → limits.maxRecords < count) :
    roomMade limits buffer = 0 ∧ recordsBegun limits buffer = 0 := by
  rw [roomMade, recordsBegun, Framing.stop, Framing.collection_start]
  cases hd : Compact.decode buffer with
  | error cause => exact ⟨rfl, rfl⟩
  | ok found =>
    dsimp only
    rw [if_pos (h _ _ hd)]
    exact ⟨rfl, rfl⟩

/-- Once the number of records is read and within the limit, room is made for those of them that
    can be there. As many are begun as are read, and one more that fails, if one does. -/
theorem Reading.made_of_counted {x : Except FrameError Collection} {n : Nat}
    (h : Reading limits buffer x c) (hd : Compact.decode buffer = .ok (count, n))
    (hle : count ≤ limits.maxRecords) :
    roomMade limits buffer = Framing.room count.toNat (buffer.drop n).length ∧
      (∀ c', x = .ok c' → recordsBegun limits buffer = c.length) ∧
      ∀ e, x = .error e → recordsBegun limits buffer = c.length + 1 := by
  rw [roomMade, recordsBegun, Framing.stop]
  cases h with
  | uncounted he => cases he.symm.trans hd
  | tooMany hd' hlt =>
    cases hd.symm.trans hd'
    exact absurd hlt (UInt64.not_lt.2 hle)
  | whole ho hc =>
    cases hd.symm.trans ho.decode_eq
    rw [ho.run_of_whole hc]
    exact ⟨(Progress.room_close _).trans (Progress.room_after_ready ..),
      fun _ _ => (Progress.begun_close _).trans (Progress.begun_after_ready ..),
      fun _ he => by cases he⟩
  | fault ho hc hf =>
    cases hd.symm.trans ho.decode_eq
    obtain ⟨r, hr⟩ := ho.run_of_fault hc hf
    rw [hr]
    exact ⟨Progress.room_after_ready .., fun _ he => (by cases he), fun _ _ => rfl⟩

/-- What the reading of a buffer comes to that declares `count` records and has `left` bytes
    behind the count. -/
structure IsBounded (limits : Limits) (buffer : Bytes) (count : UInt64) (left : Nat) : Prop where
  /-- Room is made once the count is within the limit. -/
  roomMade_eq : roomMade limits buffer =
    if limits.maxRecords < count then 0 else min count.toNat (left / 2)
  length_recordsRead_le : (recordsRead limits buffer).length ≤ left / 2
  recordsBegun_le : recordsBegun limits buffer ≤ left / 2 + 1
  /-- Where all records are there, they have just the room that is made. -/
  of_decode_ok : ∀ c, decode limits buffer = .ok c →
    count.toNat ≤ left / 2 ∧ roomMade limits buffer = c.length ∧
      recordsBegun limits buffer = c.length
  /-- Where one fails, it is the one behind those that are read. -/
  of_decode_error : ∀ e, decode limits buffer = .error e → count ≤ limits.maxRecords →
    recordsBegun limits buffer = (recordsRead limits buffer).length + 1

theorem isBounded {n : Nat} (limits : Limits) (hd : Compact.decode buffer = .ok (count, n)) :
    IsBounded limits buffer count (buffer.drop n).length := by
  have hread := reading_decode limits buffer
  have hle := hread.length_le hd
  by_cases hlt : limits.maxRecords < count
  · obtain ⟨hroom, hbegun⟩ : roomMade limits buffer = 0 ∧ recordsBegun limits buffer = 0 :=
      made_of_not_counted fun _ _ hd' => by
        cases hd.symm.trans hd'
        exact hlt
    refine ⟨by rw [hroom, if_pos hlt], hle, by rw [hbegun]; exact Nat.zero_le _, fun c hc => ?_,
      fun e _ hmax => absurd hlt (UInt64.not_lt.2 hmax)⟩
    cases (Reading.tooMany hd hlt).eq.1.symm.trans hc
  · obtain ⟨hroom, hok, herror⟩ := hread.made_of_counted hd (UInt64.not_lt.1 hlt)
    refine ⟨by rw [hroom, if_neg hlt]; rfl, hle, ?_, fun c hc => ?_, fun e he _ => herror e he⟩
    · cases hx : decode limits buffer with
      | ok c => exact hok c hx ▸ Nat.le_succ_of_le hle
      | error e => exact herror e hx ▸ Nat.succ_le_succ hle
    · have hbegun := hok c hc
      rw [hc] at hread
      obtain ⟨hrecords, hcount⟩ := hread.length_eq hd
      rw [hrecords] at hbegun
      rw [hrecords, hcount] at hle
      exact ⟨hle, hroom.trans ((Nat.min_eq_left hle).trans hcount.symm), hbegun⟩

/-- What the reading of a buffer comes to, whatever the buffer declares.

    * A record that is read takes its size from the bytes that are left, and two at least.
    * If the number of records cannot be read, no room is made and no record is begun.
    * Of the records that are declared, as many are made room for, and are read, as the bytes
      behind the count can hold, and one more is begun. If all are there, this is exact. -/
theorem reading_bounded (limits : Limits) (buffer : Bytes) :
    (∀ index r r' record, (Record.read limits index).run r = .ok record r' →
        r'.position = r.position + record.wireSize ∧ r'.rest = r.rest.drop record.wireSize ∧
          r'.remaining + record.wireSize = r.remaining ∧ 2 ≤ record.wireSize) ∧
      (∀ cause, Compact.decode buffer = .error cause →
        roomMade limits buffer = 0 ∧ recordsBegun limits buffer = 0) ∧
      ∀ count n, Compact.decode buffer = .ok (count, n) →
        IsBounded limits buffer count (buffer.drop n).length := by
  refine ⟨fun index r r' record h => ?_, fun cause hd => ?_, fun count n hd => ?_⟩
  · have hremaining := Record.remaining_of_read h
    obtain ⟨-, -, rfl⟩ := Record.read_eq_ok_iff.1 h
    exact ⟨rfl, rfl, hremaining, record.minSize_le_wireSize⟩
  · refine made_of_not_counted fun count n hd' => ?_
    cases hd.symm.trans hd'
  · exact isBounded limits hd

/-- The greatest count that there is, in front of one empty record; and two empty records, to
    the end of the buffer. -/
theorem reading_bounded_empty :
    (recordsRead ⟨18446744073709551615, 0⟩
        [19, 255, 255, 255, 255, 255, 255, 255, 255, 0, 0]).length ≤ 1 ∧
      roomMade ⟨18446744073709551615, 0⟩
        [19, 255, 255, 255, 255, 255, 255, 255, 255, 0, 0] = 1 ∧
      recordsBegun ⟨18446744073709551615, 0⟩
        [19, 255, 255, 255, 255, 255, 255, 255, 255, 0, 0] ≤ 2 ∧
      decode {} [8, 0, 0, 0, 0] = .ok [⟨"", []⟩, ⟨"", []⟩] ∧ roomMade {} [8, 0, 0, 0, 0] = 2 := by
  have hgreatest : Compact.decode [19, 255, 255, 255, 255, 255, 255, 255, 255, 0, 0] =
    .ok (18446744073709551615, 9) := by decide
  have hbounded := (reading_bounded ⟨18446744073709551615, 0⟩ _).2.2 _ _ hgreatest
  have htwo : decode {} [8, 0, 0, 0, 0] = .ok [⟨"", []⟩, ⟨"", []⟩] := rfl
  exact ⟨hbounded.length_recordsRead_le, hbounded.roomMade_eq, hbounded.recordsBegun_le, htwo,
    (((reading_bounded {} [8, 0, 0, 0, 0]).2.2 2 1 rfl).of_decode_ok _ htwo).2.1⟩

end Collection

end IntentWire
