import IntentWire.Proofs.Acceptance

/-!
# Collections in a stream

Collections are written one behind the other, with nothing between them that tells where
one ends: the size of each is told by its records, without its bytes. A reader that goes
on by that size finds the next one, so that it reads just the collections written, in
order, and ends where the buffer ends.

* `Collection.encodeInto_eq_append`: writing behind a buffer appends the encoding.
* `Collection.decodeFrom_append`: reading a stream goes through the collections at its
  start, whatever follows them.
-/

namespace IntentWire

open Bytes

/-! ### Writing -/

/-- A record is written behind a buffer as it is written alone. -/
theorem Record.put_eq_append (buffer : Bytes) (r : Record) :
    Record.put buffer r = buffer ++ r.encode := by
  rw [Record.put, putBytes, putText, putBytes, Record.encode, List.append_assoc]

namespace Collection

/-- A collection is written behind a buffer as it is written alone. -/
theorem encodeInto_eq_append (c : Collection) (buffer : Bytes) :
    c.encodeInto buffer = buffer ++ c.encode := by
  rw [encodeInto, foldl_eq_append Record.put_eq_append, putCompact, encode, List.append_assoc]

/-- As many bytes are written as the size of the collection says. -/
theorem length_encodeInto (c : Collection) (buffer : Bytes) :
    (c.encodeInto buffer).length = buffer.length + c.wireSize := by
  rw [encodeInto_eq_append, List.length_append, length_encode]

/-- Appends collections to a buffer, one behind the other. -/
def encodeAllInto (collections : List Collection) (buffer : Bytes) : Bytes :=
  collections.foldl (fun buffer c => c.encodeInto buffer) buffer

theorem encodeAllInto_eq_append (collections : List Collection) (buffer : Bytes) :
    encodeAllInto collections buffer = buffer ++ collections.flatMap encode :=
  foldl_eq_append (fun buffer c => encodeInto_eq_append c buffer) collections buffer

/-! ### Reading -/

theorem wireSize_pos (c : Collection) : 0 < c.wireSize :=
  Nat.add_pos_left (Compact.width_pos _) _

/-- Reads collections of a buffer from an offset on, as long as there are bytes: each where
    the one before ends, by its size. Gives them, and the offset behind the last. -/
def decodeFrom (limits : Limits) (buffer : Bytes) (offset : Nat) :
    Except FrameError (List Collection × Nat) :=
  if offset < buffer.length then
    match decode limits (buffer.drop offset) with
    | .error e => .error e
    | .ok c => (decodeFrom limits buffer (offset + c.wireSize)).map (Prod.map (c :: ·) id)
  else .ok ([], offset)
termination_by buffer.length - offset
decreasing_by
  have := c.wireSize_pos
  omega

variable {limits : Limits}

theorem decodeFrom_length (limits : Limits) (buffer : Bytes) :
    decodeFrom limits buffer buffer.length = .ok ([], buffer.length) := by
  rw [decodeFrom, if_neg (Nat.lt_irrefl _)]

/-- A collection that stands at the offset is read, and the reading goes on behind it. -/
theorem decodeFrom_append_encode {c : Collection} (hw : c.IsWithin limits) (front rest : Bytes) :
    decodeFrom limits (front ++ (c.encode ++ rest)) front.length =
      (decodeFrom limits (front ++ (c.encode ++ rest)) (front ++ c.encode).length).map
        (Prod.map (c :: ·) id) := by
  have hsize := c.wireSize_pos
  have hlt : front.length < (front ++ (c.encode ++ rest)).length := by
    rw [List.length_append, List.length_append, length_encode]
    omega
  have hd : decode limits ((front ++ (c.encode ++ rest)).drop front.length) = .ok c := by
    rw [List.drop_left]
    exact (reading_of_encode (List.prefix_append _ _) hw).eq.1
  rw [decodeFrom, if_pos hlt, hd, List.length_append, length_encode]

/-- The collections that stand at the offset, one behind the other, are read, and the
    reading goes on behind them. -/
theorem decodeFrom_append {collections : List Collection}
    (hw : ∀ c ∈ collections, c.IsWithin limits) (front rest : Bytes) :
    decodeFrom limits (front ++ (collections.flatMap encode ++ rest)) front.length =
      (decodeFrom limits (front ++ (collections.flatMap encode ++ rest))
        (front ++ collections.flatMap encode).length).map
        (Prod.map (collections ++ ·) id) := by
  induction collections generalizing front with
  | nil =>
    rw [List.flatMap_nil, List.append_nil]
    cases decodeFrom limits (front ++ ([] ++ rest)) front.length <;> rfl
  | cons c collections ih =>
    obtain ⟨hc, hw⟩ := List.forall_mem_cons.1 hw
    have h := ih hw (front ++ c.encode)
    simp only [List.flatMap_cons, List.append_assoc] at h ⊢
    rw [decodeFrom_append_encode hc, h]
    cases decodeFrom limits _ _ <;> rfl

/-- Collections that are written behind a buffer are appended to it in order, each with as
    many bytes as its size says. If they are within the limits, a reading from there on that
    goes on by their sizes finds them in order, and ends where the buffer ends. -/
theorem decodeFrom_encodeAllInto (collections : List Collection) (front : Bytes) :
    encodeAllInto collections front = front ++ collections.flatMap encode ∧
      (∀ (c : Collection) (buffer : Bytes), c.encodeInto buffer = buffer ++ c.encode ∧
        (c.encodeInto buffer).length = buffer.length + c.wireSize) ∧
      ∀ limits : Limits, (∀ c ∈ collections, c.IsWithin limits) →
        decodeFrom limits (encodeAllInto collections front) front.length =
          .ok (collections, (encodeAllInto collections front).length) := by
  refine ⟨encodeAllInto_eq_append collections front,
    fun c buffer => ⟨encodeInto_eq_append c buffer, length_encodeInto c buffer⟩,
    fun limits hw => ?_⟩
  have h := decodeFrom_append hw front []
  rw [List.append_nil, decodeFrom_length] at h
  rw [encodeAllInto_eq_append, h, Except.map, Prod.map_apply, List.append_nil, id_eq]

/-- Two empty collections around one with a record, behind a byte that is none of theirs. -/
theorem decodeFrom_encodeAllInto_around :
    (∀ c ∈ ([[], [⟨"a", [1]⟩], []] : List Collection), c.IsWithin {}) ∧
      encodeAllInto [[], [⟨"a", [1]⟩], []] [255] = [255, 0, 4, 4, 97, 4, 1, 0] ∧
      decodeFrom {} [255, 0, 4, 4, 97, 4, 1, 0] 1 = .ok ([[], [⟨"a", [1]⟩], []], 8) := by
  have hw : ∀ c ∈ ([[], [⟨"a", [1]⟩], []] : List Collection), c.IsWithin {} := by decide +kernel
  have he : encodeAllInto [[], [⟨"a", [1]⟩], []] [255] = [255, 0, 4, 4, 97, 4, 1, 0] := by
    decide +kernel
  have h := (decodeFrom_encodeAllInto [[], [⟨"a", [1]⟩], []] [255]).2.2 {} hw
  rw [he] at h
  exact ⟨hw, he, h⟩

end Collection

end IntentWire
