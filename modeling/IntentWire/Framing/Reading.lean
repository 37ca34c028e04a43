import IntentWire.Framing.Fault

/-!
# The reading of a buffer

What comes of a buffer that is read as a collection, told from its bytes alone: the
outcome, and the records that are read on the way to it, be it an error
(`Collection.Reading`). The decoder comes to this and to nothing else, whatever the
buffer (`Collection.reading_iff`).

* `Framing.collection_start`: the decoder, once the count is read.
* `Collection.Opens`: a buffer starts with a count, and with some records behind it.
-/

namespace IntentWire

/-! ### The steps of the decoder -/

namespace Progress

/-- The progress when a count of `n` bytes is read, and no record yet. -/
def counted (buffer : Bytes) (n : Nat) : Progress Reader :=
  .atStart ((Reader.ofBytes buffer).advance n)

/-- The progress when room is made for the records that are counted. -/
def ready (buffer : Bytes) (count : UInt64) (n : Nat) : Progress Reader :=
  (counted buffer n).makeRoom (Framing.room count.toNat (buffer.drop n).length)

/-- The progress when the records are read, and the bytes left over are reported. -/
def close (p : Progress Reader) : Progress Reader :=
  if p.reader.remaining = 0 then p else p.report (.ignoredTrailing p.reader.remaining)

theorem records_close (p : Progress Reader) : p.close.records = p.records := by
  rw [close]
  split <;> rfl

theorem room_close (p : Progress Reader) : p.close.room = p.room := by
  rw [close]
  split <;> rfl

theorem begun_close (p : Progress Reader) : p.close.begun = p.begun := by
  rw [close]
  split <;> rfl

section

variable (buffer : Bytes) (count : UInt64) (n : Nat) (c : Collection)

theorem rest_after_ready : ((ready buffer count n).after c).reader.rest =
    (buffer.drop n).drop c.recordsSize := by
  rw [reader_after]
  rfl

theorem records_after_ready : ((ready buffer count n).after c).records.toList = c := by
  rw [records_after]
  rfl

theorem size_after_ready : ((ready buffer count n).after c).records.size = c.length := by
  rw [← Array.length_toList, records_after_ready]

theorem room_after_ready : ((ready buffer count n).after c).room =
    Framing.room count.toNat (buffer.drop n).length :=
  room_after _ c

theorem begun_after_ready : ((ready buffer count n).after c).begun = c.length :=
  (begun_after _ c).trans (Nat.zero_add _)

end

end Progress

namespace Framing

theorem count_eq (limits : Limits) (p : Progress Reader) : (count limits).run p =
    match Compact.decode p.reader.rest with
    | .error cause => .error (.malformedCollection cause) p
    | .ok (count, n) =>
      if limits.maxRecords < count then
        .error (.tooManyRecords count limits.maxRecords) { p with reader := p.reader.advance n }
      else .ok count.toNat
        ({ p with reader := p.reader.advance n }.makeRoom
          (room count.toNat (p.reader.rest.drop n).length)) := by
  change (reading (Reader.compact.adaptExcept .malformedCollection) >>= _).run p = _
  rw [EStateM.run_bind, reading_eq, EStateM.run_adaptExcept, Reader.compact_eq]
  cases Compact.decode p.reader.rest with
  | error cause => rfl
  | ok found =>
    dsimp only
    split <;> rfl

theorem collection_eq (limits : Limits) (p : Progress Reader) : (collection limits).run p =
    match (count limits).run p with
    | .error e p₁ => .error e p₁
    | .ok n p₁ =>
      match (nextMany limits n).run p₁ with
      | .error e p₂ => .error e p₂
      | .ok _ p₂ => .ok () p₂.close := by
  change (count limits >>= fun n => nextMany limits n >>= _).run p = _
  rw [EStateM.run_bind]
  cases (count limits).run p with
  | error e p₁ => rfl
  | ok n p₁ =>
    dsimp only
    rw [EStateM.run_bind]
    cases (nextMany limits n).run p₁ with
    | error e p₂ => rfl
    | ok _ p₂ =>
      change EStateM.run (if p₂.reader.remaining ≠ 0 then
        modify (·.report (.ignoredTrailing p₂.reader.remaining)) else pure ()) p₂ =
          .ok () p₂.close
      rw [Progress.close, ite_not]
      split <;> rfl

/-- A buffer is read as far as the count, and then as many records as it says. -/
theorem collection_start (limits : Limits) (buffer : Bytes) :
    (collection limits).run (.start buffer) = match Compact.decode buffer with
      | .error cause => .error (.malformedCollection cause) (.start buffer)
      | .ok (count, n) =>
        if limits.maxRecords < count then
          .error (.tooManyRecords count limits.maxRecords) (.counted buffer n)
        else match (nextMany limits count.toNat).run (.ready buffer count n) with
          | .error e p => .error e p
          | .ok _ p => .ok () p.close := by
  have hrest : (Progress.start buffer).reader.rest = buffer := rfl
  rw [collection_eq, count_eq, hrest]
  cases Compact.decode buffer with
  | error cause => rfl
  | ok found =>
    by_cases hlt : limits.maxRecords < found.1
    · simp only [if_pos hlt]
      rfl
    · simp only [if_neg hlt]
      rfl

/-- Where the reading of `buffer` ends, well or not. -/
def stop (limits : Limits) (buffer : Bytes) : Progress Reader :=
  match (collection limits).run (.start buffer) with
  | .ok _ p => p
  | .error _ p => p

end Framing

/-! ### What comes of a buffer -/

namespace Collection

/-- The records that are read of a buffer, whether or not something behind them is amiss. -/
def recordsRead (limits : Limits) (buffer : Bytes) : Collection :=
  (Framing.stop limits buffer).records.toList

/-- A buffer starts with a count, which is within the limit, and goes on with the records
    `c`, which are within theirs, and with `rest`. -/
structure Opens (limits : Limits) (buffer : Bytes) (count : UInt64) (c : Collection)
    (rest : Bytes) : Prop where
  eq_append : buffer = Compact.encode count ++ (c.flatMap Record.encode ++ rest)
  count_le : count ≤ limits.maxRecords
  isWithin : ∀ record ∈ c, record.IsWithin limits

/-- What comes of a buffer, and the records that are read of it. -/
inductive Reading (limits : Limits) (buffer : Bytes) :
    Except FrameError Collection → Collection → Prop
  /-- The buffer starts with no count. -/
  | uncounted {cause : ReadError} :
    Compact.decode buffer = .error cause →
      Reading limits buffer (.error (.malformedCollection cause)) []
  /-- The count is over the limit. -/
  | tooMany {count : UInt64} {n : Nat} :
    Compact.decode buffer = .ok (count, n) → limits.maxRecords < count →
      Reading limits buffer (.error (.tooManyRecords count limits.maxRecords)) []
  /-- There are as many records as the count says. -/
  | whole {count : UInt64} {c : Collection} {rest : Bytes} :
    Opens limits buffer count c rest → c.length = count.toNat → Reading limits buffer (.ok c) c
  /-- There are fewer, and what is behind them has a fault. -/
  | fault {count : UInt64} {c : Collection} {rest : Bytes} {e : FrameError} :
    Opens limits buffer count c rest → c.length < count.toNat →
      Record.Fault limits c.length rest e → Reading limits buffer (.error e) c

variable {limits : Limits} {buffer : Bytes} {count : UInt64} {c : Collection} {rest : Bytes}

namespace Opens

theorem decode_eq (h : Opens limits buffer count c rest) :
    Compact.decode buffer = .ok (count, Compact.width count) := by
  rw [h.eq_append, Compact.decode_encode_append]

theorem count_eq {count' : UInt64} {n : Nat} (h : Opens limits buffer count c rest)
    (hd : Compact.decode buffer = .ok (count', n)) : count = count' := by
  rw [h.decode_eq] at hd
  cases hd
  rfl

theorem drop_width (h : Opens limits buffer count c rest) :
    buffer.drop (Compact.width count) = c.flatMap Record.encode ++ rest := by
  rw [h.eq_append, ← Compact.length_encode, List.drop_left]

theorem prefix_drop (h : Opens limits buffer count c rest) :
    c.flatMap Record.encode <+: buffer.drop (Compact.width count) := by
  rw [h.drop_width]
  exact List.prefix_append _ rest

theorem drop_drop (h : Opens limits buffer count c rest) :
    (buffer.drop (Compact.width count)).drop c.recordsSize = rest := by
  rw [h.drop_width, ← length_flatMap_encode, List.drop_left]

end Opens

/-- What a buffer opens with, found behind the count. -/
theorem opens_of_prefix_drop {n : Nat} (hd : Compact.decode buffer = .ok (count, n))
    (hle : count ≤ limits.maxRecords) (he : c.flatMap Record.encode <+: buffer.drop n)
    (hw : ∀ record ∈ c, record.IsWithin limits) :
    Opens limits buffer count c ((buffer.drop n).drop c.recordsSize) := by
  obtain ⟨rest, hr⟩ := he
  obtain ⟨-, hb⟩ := Compact.eq_encode_append_of_decode hd
  refine ⟨?_, hle, hw⟩
  rw [← length_flatMap_encode, ← hr, List.drop_left, hr]
  exact hb

/-! ### The decoder comes to just this -/

theorem decode_eq (limits : Limits) (buffer : Bytes) : decode limits buffer =
    match (Framing.collection limits).run (.start buffer) with
    | .ok _ p => .ok p.records.toList
    | .error e _ => .error e := by
  rw [decode, decodeLogged]
  cases (Framing.collection limits).run (.start buffer) <;> rfl

theorem recordsRead_eq (limits : Limits) (buffer : Bytes) : recordsRead limits buffer =
    match (Framing.collection limits).run (.start buffer) with
    | .ok _ p => p.records.toList
    | .error _ p => p.records.toList := by
  rw [recordsRead, Framing.stop]
  cases (Framing.collection limits).run (.start buffer) <;> rfl

/-- The decoder comes to the outcome of the buffer. The records are gone through by
    `Framing.nextMany_eq_ok_iff` and `Framing.nextMany_eq_error_iff`. -/
theorem reading_decode (limits : Limits) (buffer : Bytes) :
    Reading limits buffer (decode limits buffer) (recordsRead limits buffer) := by
  rw [decode_eq, recordsRead_eq, Framing.collection_start]
  cases hd : Compact.decode buffer with
  | error cause => exact .uncounted hd
  | ok found =>
    obtain ⟨count, n⟩ := found
    by_cases hlt : limits.maxRecords < count
    · simp only [if_pos hlt]
      exact .tooMany hd hlt
    · have hle := UInt64.not_lt.1 hlt
      simp only [if_neg hlt]
      cases hr : (Framing.nextMany limits count.toNat).run (.ready buffer count n) with
      | ok _ p =>
        obtain ⟨c, hc, he, hw, rfl⟩ := Framing.nextMany_eq_ok_iff.1 hr
        dsimp only
        rw [Progress.records_close, Progress.records_after_ready]
        exact .whole (opens_of_prefix_drop hd hle he hw) hc
      | error e p =>
        -- The records before the one amiss are read, and it is the next.
        obtain ⟨c, hc, he, hw, hn⟩ := Framing.nextMany_eq_error_iff.1 hr
        obtain ⟨r, hf, rfl⟩ := Framing.next_eq_error_iff.1 hn
        have hf := Record.read_eq_error_iff.1 ⟨r, hf⟩
        rw [Progress.rest_after_ready, Progress.size_after_ready] at hf
        dsimp only
        rw [Progress.records_after_ready]
        exact .fault (opens_of_prefix_drop hd hle he hw) hc hf

/-- The decoder reads as many records as the count says, if there are as many. -/
theorem Opens.run_of_whole (h : Opens limits buffer count c rest) (hc : c.length = count.toNat) :
    (Framing.collection limits).run (.start buffer) =
      .ok () ((Progress.ready buffer count (Compact.width count)).after c).close := by
  have hr : (Framing.nextMany limits count.toNat).run
      (.ready buffer count (Compact.width count)) = .ok () (.after _ c) :=
    Framing.nextMany_eq_ok_iff.2 ⟨c, hc, h.prefix_drop, h.isWithin, rfl⟩
  rw [Framing.collection_start, h.decode_eq]
  dsimp only
  rw [if_neg (UInt64.not_lt.2 h.count_le), hr]

/-- The decoder reads the records in front of the fault, and fails for it. -/
theorem Opens.run_of_fault {e : FrameError} (h : Opens limits buffer count c rest)
    (hc : c.length < count.toNat) (hf : Record.Fault limits c.length rest e) :
    ∃ r, (Framing.collection limits).run (.start buffer) =
      .error e { (Progress.ready buffer count (Compact.width count)).after c with
        reader := r
        begun := c.length + 1 } := by
  rw [← h.drop_drop, ← Progress.rest_after_ready,
    ← Progress.size_after_ready buffer count (Compact.width count) c] at hf
  obtain ⟨r, hf⟩ := Record.read_eq_error_iff.2 hf
  have hr := Framing.nextMany_eq_error_iff.2
    ⟨c, hc, h.prefix_drop, h.isWithin, Framing.next_eq_error_iff.2 ⟨r, hf, rfl⟩⟩
  refine ⟨r, ?_⟩
  rw [Framing.collection_start, h.decode_eq]
  dsimp only
  rw [if_neg (UInt64.not_lt.2 h.count_le), hr, Progress.begun_after_ready]

/-- An outcome of the buffer is what the decoder comes to. -/
theorem Reading.eq {x : Except FrameError Collection} (h : Reading limits buffer x c) :
    decode limits buffer = x ∧ recordsRead limits buffer = c := by
  rw [decode_eq, recordsRead_eq]
  cases h with
  | uncounted hd =>
    rw [Framing.collection_start, hd]
    exact ⟨rfl, rfl⟩
  | tooMany hd hlt =>
    rw [Framing.collection_start, hd]
    dsimp only
    rw [if_pos hlt]
    exact ⟨rfl, rfl⟩
  | whole ho hc =>
    rw [ho.run_of_whole hc]
    dsimp only
    rw [Progress.records_close, Progress.records_after_ready]
    exact ⟨rfl, rfl⟩
  | fault ho hc hf =>
    obtain ⟨r, hr⟩ := ho.run_of_fault hc hf
    rw [hr]
    dsimp only
    rw [Progress.records_after_ready]
    exact ⟨rfl, rfl⟩

/-- The decoder comes to the outcome that the bytes of the buffer have, and reads the
    records that they hold. -/
theorem reading_iff {x : Except FrameError Collection} :
    Reading limits buffer x c ↔ decode limits buffer = x ∧ recordsRead limits buffer = c := by
  constructor
  · exact Reading.eq
  · rintro ⟨rfl, rfl⟩
    exact reading_decode limits buffer

theorem exists_reading {x : Except FrameError Collection} (h : decode limits buffer = x) :
    ∃ c, Reading limits buffer x c :=
  ⟨_, reading_iff.2 ⟨h, rfl⟩⟩

end Collection

end IntentWire
