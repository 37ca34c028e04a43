import IntentWire.Reader.Operation

/-!
# Runs of a reader

Whatever operations are carried out one after the other, be they successful or not:

* the reader stays within the buffer, and what it has not read is the rest of the buffer
  (`Reader.IsAt`), and it never goes back (`Reader.Operation.position_le_reach`);
* an operation that fails might as well be left out
  (`Reader.Operation.next_of_result_eq_error`, `Reader.Operation.trace_of_sublist`);
* where the reader is in the buffer does not matter, only what is left of it
  (`Reader.Operation.result_ofBytes`, `Reader.Operation.position_next`).
-/

namespace IntentWire.Reader

/-- A reader is somewhere in a buffer, of which it has read the bytes in front of it. -/
structure IsAt (buffer : Bytes) (r : Reader) : Prop where
  position_le : r.position ≤ buffer.length
  position_add_remaining : r.position + r.remaining = buffer.length
  rest_eq : r.rest = buffer.drop r.position

theorem isAt_ofBytes (buffer : Bytes) : IsAt buffer (ofBytes buffer) :=
  ⟨Nat.zero_le _, Nat.zero_add _, rfl⟩

/-- A reader that has bytes left can be moved past some of them. -/
theorem IsAt.advance {buffer : Bytes} {r : Reader} (h : IsAt buffer r) {n : Nat}
    (hn : n ≤ r.rest.length) : IsAt buffer (r.advance n) := by
  have hr : r.position + r.rest.length = buffer.length := h.position_add_remaining
  refine ⟨?_, ?_, ?_⟩
  · rw [position_advance]
    omega
  · rw [position_advance, remaining, rest_advance, List.length_drop]
    omega
  · rw [position_advance, rest_advance, h.rest_eq, List.drop_drop]

namespace Operation

variable {buffer : Bytes} {r : Reader}

/-! ### Single operations -/

theorem position_le_next (op : Operation) (r : Reader) : r.position ≤ (op.next r).position := by
  rcases op.outcome r.rest with ⟨_, n, _, h⟩ | ⟨_, h⟩
  · rw [(h r.position).2]
    exact Nat.le_add_right r.position n
  · rw [(h r.position).2]

/-- An operation that fails does not move the reader. -/
theorem next_of_result_eq_error {op : Operation} {e : ReadError} (he : op.result r = .error e) :
    op.next r = r := by
  rcases op.outcome r.rest with ⟨_, _, _, h⟩ | ⟨_, h⟩
  · rw [(h r.position).1] at he
    cases he
  · exact (h r.position).2

theorem isAt_next (op : Operation) (h : IsAt buffer r) : IsAt buffer (op.next r) := by
  rcases op.outcome r.rest with ⟨_, n, hn, hr⟩ | ⟨_, hr⟩
  · rw [(hr r.position).2]
    exact h.advance hn
  · rw [(hr r.position).2]
    exact h

/-- What is found is the same in a buffer of which nothing but the rest is left. -/
theorem result_ofBytes (op : Operation) (r : Reader) :
    op.result (ofBytes r.rest) = op.result r := by
  rcases op.outcome r.rest with ⟨_, _, _, h⟩ | ⟨_, h⟩
  · exact (h 0).1.trans (h r.position).1.symm
  · exact (h 0).1.trans (h r.position).1.symm

/-- The reader moves as far as in a buffer of which nothing but the rest is left. -/
theorem position_next (op : Operation) (r : Reader) :
    (op.next r).position = r.position + (op.next (ofBytes r.rest)).position := by
  rcases op.outcome r.rest with ⟨_, n, _, h⟩ | ⟨_, h⟩
  · rw [ofBytes, (h 0).2, (h r.position).2, Nat.zero_add]
  · rw [ofBytes, (h 0).2, (h r.position).2, Nat.add_zero]

/-- A compact integer is read as it is at the position of the reader in the buffer. -/
theorem compact_eq_decodeAt (h : IsAt buffer r) :
    (compact.result r).map (fun a => (a, (compact.next r).position)) =
      (Compact.decodeAt buffer r.position).map (fun (v, n) => (.number v, r.position + n)) := by
  rw [Compact.decodeAt, if_neg (Nat.not_lt.2 h.position_le), ← h.rest_eq, result, next, read,
    map_eq, compact_eq]
  cases Compact.decode r.rest <;> rfl

/-! ### Operations one behind the other -/

theorem isAt_reach (ops : List Operation) (h : IsAt buffer r) : IsAt buffer (reach ops r) := by
  induction ops generalizing r with
  | nil => exact h
  | cons op ops ih => exact ih (op.isAt_next h)

theorem position_le_reach (ops : List Operation) (r : Reader) :
    r.position ≤ (reach ops r).position := by
  induction ops generalizing r with
  | nil => exact Nat.le_refl r.position
  | cons op ops ih => exact Nat.le_trans (op.position_le_next r) (ih (op.next r))

theorem filter_eq_of_filter_cons_eq {α : Type} {p : α → Bool} {a : α} {l l' : List α}
    (h : (a :: l).filter p = (a :: l').filter p) : l.filter p = l'.filter p := by
  by_cases hp : p a
  · rw [List.filter_cons_of_pos hp, List.filter_cons_of_pos hp] at h
    exact (List.cons.inj h).2
  · rwa [List.filter_cons_of_neg hp, List.filter_cons_of_neg hp] at h

/-- When operations that fail are left out, be it some or all of them, those that are kept
    find the same, and the reader ends in the same place. -/
theorem trace_of_sublist {ops : List Operation}
    {kept : List (Operation × Except ReadError Found)} (hs : kept.Sublist (trace ops r))
    (hk : kept.filter (·.2.isOk) = (trace ops r).filter (·.2.isOk)) :
    trace (kept.map Prod.fst) r = kept ∧ reach (kept.map Prod.fst) r = reach ops r := by
  induction ops generalizing r kept with
  | nil =>
    rw [trace, List.sublist_nil] at hs
    rw [hs]
    exact ⟨rfl, rfl⟩
  | cons op ops ih =>
    rw [trace] at hs hk
    rw [reach_cons]
    cases hs with
    | cons _ hs =>
      cases he : op.result r with
      | error e =>
        rw [he, List.filter_cons_of_neg Bool.false_ne_true] at hk
        rw [next_of_result_eq_error he] at hs hk ⊢
        exact ih hs hk
      | ok a =>
        -- All that succeed are kept, so it is not this one that is left out.
        rw [he, List.filter_cons_of_pos rfl] at hk
        have hl := (hs.filter (·.2.isOk)).length_le
        rw [hk, List.length_cons] at hl
        omega
    | cons_cons _ hs =>
      obtain ⟨ht, hr⟩ := ih hs (filter_eq_of_filter_cons_eq hk)
      rw [List.map_cons, trace, ht, reach_cons, hr]
      exact ⟨rfl, rfl⟩

/-- A run of a reader from the start of a buffer, and what comes next.

    * The reader is somewhere in the buffer.
    * It never goes back.
    * It is not moved by an operation that fails.
    * When operations that fail are left out, the others find the same, and the reader ends
      in the same place.
    * An operation finds the same as in a buffer of which nothing but the rest is left, or
      fails alike, and moves the reader as far.
    * A compact integer is read as it is at this position of the buffer. -/
theorem run_atomic (buffer : Bytes) (ops : List Operation) :
    let r := reach ops (ofBytes buffer)
    IsAt buffer r ∧
      (∀ more, r.position ≤ (reach (ops ++ more) (ofBytes buffer)).position) ∧
      (∀ (op : Operation) e, op.result r = .error e → op.next r = r) ∧
      (∀ kept, kept.Sublist (trace ops (ofBytes buffer)) →
        kept.filter (·.2.isOk) = (trace ops (ofBytes buffer)).filter (·.2.isOk) →
        trace (kept.map Prod.fst) (ofBytes buffer) = kept ∧
          reach (kept.map Prod.fst) (ofBytes buffer) = r) ∧
      (∀ op : Operation, op.result r = op.result (ofBytes (buffer.drop r.position)) ∧
        (op.next r).position =
          r.position + (op.next (ofBytes (buffer.drop r.position))).position) ∧
      (compact.result r).map (fun a => (a, (compact.next r).position)) =
        (Compact.decodeAt buffer r.position).map (fun (v, n) => (.number v, r.position + n)) := by
  intro r
  have hr : IsAt buffer r := isAt_reach ops (isAt_ofBytes buffer)
  refine ⟨hr, fun more => ?_, fun op e he => ?_, fun kept hs hk => ?_, fun op => ?_, ?_⟩
  · rw [reach_append]
    exact position_le_reach more r
  · exact next_of_result_eq_error he
  · exact trace_of_sublist hs hk
  · rw [← hr.rest_eq]
    exact ⟨(op.result_ofBytes r).symm, op.position_next r⟩
  · exact compact_eq_decodeAt hr

/-- A field that ends too early might as well not be read as a text: the byte behind the
    reader is read as it is after the field that is whole. -/
theorem run_atomic_truncated :
    trace [.bytes, .text, .slice 1] (ofBytes [0, 16, 1, 2]) =
        [(.bytes, .ok (.bytes [])), (.text, .error (.truncated 4 2)),
          (.slice 1, .ok (.bytes [16]))] ∧
      trace [.bytes, .slice 1] (ofBytes [0, 16, 1, 2]) =
        [(.bytes, .ok (.bytes [])), (.slice 1, .ok (.bytes [16]))] := by
  have ht : trace [.bytes, .text, .slice 1] (ofBytes [0, 16, 1, 2]) =
      [(.bytes, .ok (.bytes [])), (.text, .error (.truncated 4 2)),
        (.slice 1, .ok (.bytes [16]))] := rfl
  have hk := (run_atomic [0, 16, 1, 2] [.bytes, .text, .slice 1]).2.2.2.1
    [(.bytes, .ok (.bytes [])), (.slice 1, .ok (.bytes [16]))]
  rw [ht] at hk
  exact ⟨ht, (hk (by decide) rfl).1⟩

end Operation

end IntentWire.Reader
