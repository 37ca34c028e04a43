import IntentWire.Framing.Reading
import IntentWire.Intent

/-!
# Payloads are contained

What a payload says bears on its own statement and on nothing else. When the payload of
a record that is read is overwritten in place by as many other bytes, the reading comes
to the same error, or to the same collection but for this payload
(`Collection.decode_overwrite`), and so do the intents (`Collection.intents_overwrite`).

The bytes of a payload are thus never taken for a count, a length or a tag, whatever
they look like, and whatever is amiss in the records behind them.

* `Collection.Opens.overwrite`: what a buffer opens with when a payload is overwritten.
* `Collection.Reading.overwrite`: what comes of it.
-/

namespace IntentWire

open Bytes

/-! ### Overwriting in place -/

namespace Bytes

/-- The bytes `b`, with those from `start` on overwritten by `q`. -/
def overwrite (b : Bytes) (start : Nat) (q : Bytes) : Bytes :=
  b.take start ++ q ++ b.drop (start + q.length)

theorem overwrite_append {p q : Bytes} (h : q.length = p.length) (a b : Bytes) :
    overwrite (a ++ (p ++ b)) a.length q = a ++ (q ++ b) := by
  rw [overwrite, List.take_left, List.append_assoc, h, ← List.drop_drop, List.drop_left,
    List.drop_left]

end Bytes

namespace Record

/-- The number of bytes of a record before its payload. -/
def payloadStart (r : Record) : Nat :=
  fieldSize r.tag.utf8ByteSize + Compact.width (.ofNat r.payload.length)

/-- The record with another payload. -/
def withPayload (r : Record) (q : Bytes) : Record :=
  { r with payload := q }

/-- The bytes of a record before its payload. -/
def head (r : Record) : Bytes :=
  field (ofText r.tag) ++ Compact.encode (.ofNat r.payload.length)

theorem encode_eq_head_append (r : Record) : r.encode = r.head ++ r.payload := by
  rw [encode, head, List.append_assoc]
  rfl

theorem length_head (r : Record) : r.head.length = r.payloadStart := by
  rw [head, List.length_append, length_field, length_ofText, Compact.length_encode, payloadStart]

variable {r : Record} {q : Bytes}

/-- A payload as long as the one before leaves the bytes before it. -/
theorem head_withPayload (h : q.length = r.payload.length) : (r.withPayload q).head = r.head := by
  rw [head, head, withPayload, h]

theorem IsWithin.withPayload {limits : Limits} (hw : r.IsWithin limits)
    (h : q.length = r.payload.length) : (r.withPayload q).IsWithin limits := by
  refine ⟨hw.1, ?_⟩
  rw [Record.withPayload, h]
  exact hw.2

end Record

/-! ### Overwriting a payload -/

namespace Collection

/-- The records with another payload at index `i`. -/
def withPayload (records : Collection) (i : Nat) (q : Bytes) : Collection :=
  records.modify i (·.withPayload q)

/-- The number of bytes before the payload at index `i`, from the first record on. -/
def payloadStart (records : Collection) (i : Nat) : Nat :=
  recordsSize (records.take i) + records[i]?.elim 0 Record.payloadStart

/-- The number of bytes of the count that a buffer starts with. -/
def countSize (buffer : Bytes) : Nat :=
  match Compact.decode buffer with
  | .ok (_, n) => n
  | .error _ => 0

/-- The number of bytes before the payload of the record of index `i`, in a buffer of which
    it is read. -/
def payloadOffset (limits : Limits) (buffer : Bytes) (i : Nat) : Nat :=
  countSize buffer + (recordsRead limits buffer).payloadStart i

/-- A buffer with the payload of the record of index `i` overwritten by `q`. -/
def overwritePayload (limits : Limits) (buffer : Bytes) (i : Nat) (q : Bytes) : Bytes :=
  buffer.overwrite (payloadOffset limits buffer i) q

variable {limits : Limits} {buffer : Bytes} {count : UInt64} {records : Collection}
  {rest : Bytes} {i : Nat}

theorem payloadStart_append (c₁ : Collection) (r : Record) (c₂ : Collection) :
    payloadStart (c₁ ++ r :: c₂) c₁.length = recordsSize c₁ + r.payloadStart := by
  rw [payloadStart, List.take_left, List.getElem?_append_right (Nat.le_refl _), Nat.sub_self]
  rfl

theorem Opens.countSize_eq (h : Opens limits buffer count records rest) :
    countSize buffer = Compact.width count := by
  rw [countSize, h.decode_eq]

theorem withPayload_append (c₁ : Collection) (r : Record) (c₂ : Collection) (q : Bytes) :
    withPayload (c₁ ++ r :: c₂) c₁.length q = c₁ ++ r.withPayload q :: c₂ := by
  induction c₁ with
  | nil => rfl
  | cons r₁ c₁ ih => exact congrArg (r₁ :: ·) ih

/-- The bytes around a payload that a buffer opens with. They hold no less with any other
    payload as long as that between them. -/
theorem Opens.around_payload (h : Opens limits buffer count records rest)
    (hi : i < records.length) :
    ∃ front back, front.length = countSize buffer + records.payloadStart i ∧
      buffer = front ++ (records[i].payload ++ back) ∧
      ∀ q, q.length = records[i].payload.length →
        Opens limits (front ++ (q ++ back)) count (records.withPayload i q) rest := by
  rw [h.countSize_eq]
  obtain ⟨c₁, r, c₂, rfl, rfl, -⟩ := List.exists_of_modify id hi
  rw [List.getElem_of_append rfl rfl]
  -- Before the payload are the count, the records before, the tag and the length, which
  -- is that of any payload as long.
  refine ⟨Compact.encode count ++ (c₁.flatMap Record.encode ++ r.head),
    c₂.flatMap Record.encode ++ rest, ?_, ?_, fun q hq => ⟨?_, h.count_le, ?_⟩⟩
  · rw [List.length_append, List.length_append, Compact.length_encode, length_flatMap_encode,
      Record.length_head, payloadStart_append]
  · rw [h.eq_append, List.flatMap_append, List.flatMap_cons, Record.encode_eq_head_append]
    simp only [List.append_assoc]
  · rw [withPayload_append, List.flatMap_append, List.flatMap_cons,
      Record.encode_eq_head_append, Record.head_withPayload hq]
    simp only [List.append_assoc]
    rfl
  · rw [withPayload_append, List.forall_mem_append, List.forall_mem_cons]
    obtain ⟨h₁, hr⟩ := List.forall_mem_append.1 h.isWithin
    obtain ⟨hr, h₂⟩ := List.forall_mem_cons.1 hr
    exact ⟨h₁, hr.withPayload hq, h₂⟩

/-- What a buffer opens with when a payload is overwritten: the same, but for the payload. -/
theorem Opens.overwrite (h : Opens limits buffer count records rest)
    (hi : i < records.length) {q : Bytes} (hq : q.length = records[i].payload.length) :
    Opens limits (buffer.overwrite (countSize buffer + records.payloadStart i) q) count
      (records.withPayload i q) rest := by
  obtain ⟨front, back, hf, hb, ho⟩ := h.around_payload hi
  have hw := overwrite_append hq front back
  rw [hf, ← hb] at hw
  rw [hw]
  exact ho q hq

/-- The bytes where a payload starts are its own. -/
theorem Opens.take_payload (h : Opens limits buffer count records rest)
    (hi : i < records.length) :
    (buffer.drop (countSize buffer + records.payloadStart i)).take records[i].payload.length =
      records[i].payload := by
  obtain ⟨front, back, hf, hb, -⟩ := h.around_payload hi
  rw [← hf, hb, List.drop_left, List.take_left]

/-- A buffer of which records are read opens with them. -/
theorem Reading.exists_opens {x : Except FrameError Collection}
    (h : Reading limits buffer x records) (hi : i < records.length) :
    ∃ count rest, Opens limits buffer count records rest := by
  cases h with
  | uncounted => exact absurd hi (Nat.not_lt_zero i)
  | tooMany => exact absurd hi (Nat.not_lt_zero i)
  | whole ho => exact ⟨_, _, ho⟩
  | fault ho => exact ⟨_, _, ho⟩

/-- What comes of a buffer when a payload is overwritten: the same error, or the same
    records but for the payload. -/
theorem Reading.overwrite {x : Except FrameError Collection}
    (h : Reading limits buffer x records) (hi : i < records.length) {q : Bytes}
    (hq : q.length = records[i].payload.length) :
    Reading limits (buffer.overwrite (countSize buffer + records.payloadStart i) q)
      (x.map (·.withPayload i q)) (records.withPayload i q) := by
  have hl : (records.withPayload i q).length = records.length := List.length_modify ..
  cases h with
  | uncounted => exact absurd hi (Nat.not_lt_zero i)
  | tooMany => exact absurd hi (Nat.not_lt_zero i)
  | whole ho hc => exact .whole (ho.overwrite hi hq) (hl.trans hc)
  | fault ho hc hf => exact .fault (ho.overwrite hi hq) (hl ▸ hc) (hl ▸ hf)

/-! ### Intents -/

/-- The intents are those of the records one by one. -/
theorem value_intents (records : Collection) :
    records.intents.value = records.map fun r => (r.toIntent Statement.decode).value := by
  rw [intents, Logged.collect, List.map_map]
  rfl

/-- Another payload bears on no other intent. -/
theorem intents_withPayload_of_ne (records : Collection) (q : Bytes) {j : Nat} (h : j ≠ i) :
    (records.withPayload i q).intents.value[j]? = records.intents.value[j]? := by
  rw [value_intents, value_intents, List.getElem?_map, List.getElem?_map, withPayload,
    List.getElem?_modify_ne _ _ h.symm]

/-- Another payload does not bear on the type of its intent. -/
theorem tag_intents_withPayload (records : Collection) (i : Nat) (q : Bytes) :
    (records.withPayload i q).intents.value[i]?.map Intent.tag =
      records.intents.value[i]?.map Intent.tag := by
  rw [value_intents, value_intents, List.getElem?_map, List.getElem?_map, withPayload,
    List.getElem?_modify_eq]
  cases records[i]? <;> rfl

/-! ### Two readings -/

/-- When the payload of a record that is read is overwritten by as many bytes, the other
    records are read as before, and the reading fails as before, if it does. Else it is
    the same collection but for this payload, with the same intents but for what this one
    says. -/
theorem decode_overwritePayload {q : Bytes} (hi : i < (recordsRead limits buffer).length)
    (hq : q.length = (recordsRead limits buffer)[i].payload.length) :
    (buffer.drop (payloadOffset limits buffer i)).take q.length =
        (recordsRead limits buffer)[i].payload ∧
      recordsRead limits (overwritePayload limits buffer i q) =
        (recordsRead limits buffer).withPayload i q ∧
      (∀ e, decode limits buffer = .error e →
        decode limits (overwritePayload limits buffer i q) = .error e) ∧
      ∀ records, decode limits buffer = .ok records →
        decode limits (overwritePayload limits buffer i q) = .ok (records.withPayload i q) ∧
        (∀ j ≠ i, (records.withPayload i q).intents.value[j]? = records.intents.value[j]?) ∧
        (records.withPayload i q).intents.value[i]?.map Intent.tag =
          records.intents.value[i]?.map Intent.tag := by
  have hr := reading_decode limits buffer
  obtain ⟨count, rest, ho⟩ := hr.exists_opens hi
  obtain ⟨hd, hc⟩ := (hr.overwrite hi hq).eq
  refine ⟨?_, hc, fun e he => ?_, fun records h => ⟨?_, ?_, ?_⟩⟩
  · rw [hq]
    exact ho.take_payload hi
  · rw [he] at hd
    exact hd
  · rw [h] at hd
    exact hd
  · exact fun j hj => intents_withPayload_of_ne records q hj
  · exact tag_intents_withPayload records i q

/-- A buffer that fails behind a record: it fails alike whatever the payload is. -/
theorem decode_overwritePayload_truncated :
    0 < (recordsRead {} [8, 4, 97, 4, 1, 4]).length ∧
      decode {} [8, 4, 97, 4, 1, 4] = .error (.truncatedRecord 1 (.truncated 1 0)) ∧
      decode {} [8, 4, 97, 4, 255, 4] = .error (.truncatedRecord 1 (.truncated 1 0)) := by
  have hi : 0 < (recordsRead {} [8, 4, 97, 4, 1, 4]).length := by decide
  have he : decode {} [8, 4, 97, 4, 1, 4] = .error (.truncatedRecord 1 (.truncated 1 0)) := rfl
  have hb : overwritePayload {} [8, 4, 97, 4, 1, 4] 0 [255] = [8, 4, 97, 4, 255, 4] := by decide
  have hd := (decode_overwritePayload (q := [255]) hi rfl).2.2.1 _ he
  rw [hb] at hd
  exact ⟨hi, he, hd⟩

end Collection

end IntentWire
