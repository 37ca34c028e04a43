import IntentWire.Reader.Operation

/-!
# Reading with more bytes

When bytes are added behind the end of a buffer, what is found before does not change. An
error does not change either, unless it says that bytes are missing: it *stands* as long as
fewer are added than are missing, and then tells of just those added as available.

* `Compact.decode_append_of_ok`, `Compact.decode_append_of_error`: for compact integers.
* `Reader.IsStable`: what this means for a read. It is kept by reading in steps.
* `Reader.Operation.isStable_read`: it holds of every operation.
-/

namespace IntentWire

/-! ### Errors -/

namespace ReadError

/-- Whether an error is one still when `n` bytes more are there. If bytes are missing, it is
    as long as more of them are. -/
def Stands (n : Nat) : ReadError → Prop
  | .truncated needed available => available + n < needed
  | _ => True

/-- The error with `n` bytes more there. -/
def withMore (n : Nat) : ReadError → ReadError
  | .truncated needed available => .truncated needed (available + n)
  | e => e

/-- Whether an error is one whatever bytes are there more: it does not say that bytes are
    missing. -/
def isSettled : ReadError → Bool
  | .truncated .. => false
  | _ => true

theorem stands_of_isSettled {e : ReadError} (h : e.isSettled = true) (n : Nat) : e.Stands n := by
  cases e with
  | truncated => cases h
  | nonCanonical | overflow | invalidText => trivial

theorem withMore_of_isSettled {e : ReadError} (h : e.isSettled = true) (n : Nat) :
    e.withMore n = e := by
  cases e with
  | truncated => cases h
  | nonCanonical | overflow | invalidText => rfl

end ReadError

/-! ### Compact integers -/

namespace Compact

variable {s : Bytes} {v : UInt64} {n : Nat} {e : ReadError}

theorem decode_append_of_ok (h : decode s = .ok (v, n)) (t : Bytes) :
    decode (s ++ t) = .ok (v, n) := by
  obtain ⟨first, rest, t', rfl, hc, hn⟩ := decode_eq_ok_iff.1 h
  exact decode_eq_ok_iff.2 ⟨first, rest, t' ++ t, List.append_assoc _ _ _, hc, hn⟩

/-- An error is told by the first byte and the number of bytes, or by the bytes of the width
    that the first byte tells. -/
theorem decode_append_of_error (h : decode s = .error e) :
    e.Stands 0 ∧ ∀ t : Bytes, e.Stands t.length →
      decode (s ++ t) = .error (e.withMore t.length) := by
  cases s with
  | nil =>
    cases h
    refine ⟨Nat.zero_lt_one, fun t ht => ?_⟩
    rw [ReadError.Stands, Nat.zero_add, Nat.lt_one_iff] at ht
    rw [List.eq_nil_of_length_eq_zero ht]
    rfl
  | cons first s =>
    rw [decode_cons] at h
    simp only [List.cons_append, decode_cons]
    split at h
    · next hw =>
      cases h
      exact ⟨trivial, fun t _ => if_pos hw⟩
    next hw =>
    simp only [if_neg hw]
    split at h
    · next hs =>
      cases h
      rw [List.length_take] at hs
      refine ⟨show s.length + 1 + 0 < _ by omega, fun t ht => ?_⟩
      have ht : s.length + 1 + t.length < headerWidth first := ht
      rw [if_pos (by rw [List.length_take, List.length_append]; omega), List.length_append,
        ReadError.withMore, Nat.add_right_comm]
    next hs =>
    -- The bytes of the width are all there, and are the same with more behind them.
    have hl : headerWidth first - 1 ≤ s.length := by rw [List.length_take] at hs; omega
    simp only [List.take_append_of_le_length hl, if_neg hs]
    split at h
    · next hc =>
      cases h
      exact ⟨trivial, fun t _ => if_pos hc⟩
    · cases h

end Compact

/-! ### Reads -/

namespace Reader

variable {α β : Type} {r r' : Reader}

/-- The reader of a buffer with the bytes `t` added at its end. -/
def withMore (r : Reader) (t : Bytes) : Reader :=
  ⟨r.position, r.rest ++ t⟩

theorem withMore_advance {n : Nat} (h : n ≤ r.rest.length) (t : Bytes) :
    (r.withMore t).advance n = (r.advance n).withMore t := by
  rw [withMore, withMore, advance, advance, List.drop_append_of_le_length h]

/-- Whether a read finds the same when more bytes are there, or fails alike if its error
    stands. -/
structure IsStable (x : Read α) : Prop where
  ok {r r' : Reader} {a : α} : x.run r = .ok a r' →
    ∀ t, x.run (r.withMore t) = .ok a (r'.withMore t)
  error {r r' : Reader} {e : ReadError} : x.run r = .error e r' →
    e.Stands 0 ∧ ∀ t : Bytes, e.Stands t.length →
      x.run (r.withMore t) = .error (e.withMore t.length) (r'.withMore t)

theorem isStable_pure (a : α) : IsStable (pure a : Read α) where
  ok h t := by cases h; rfl
  error := nofun

theorem isStable_invalidText : IsStable (throw .invalidText : Read α) where
  ok := nofun
  error h := by
    cases h
    exact ⟨trivial, fun _ _ => rfl⟩

theorem isStable_compact : IsStable compact where
  ok h t := by
    obtain ⟨he, rfl⟩ := compact_eq_ok_iff.1 h
    refine compact_eq_ok_iff.2 ⟨he.trans (List.prefix_append _ t), ?_⟩
    rw [withMore_advance]
    rw [← Compact.length_encode]
    exact he.length_le
  error h := by
    obtain ⟨hd, rfl⟩ := compact_eq_error_iff.1 h
    obtain ⟨h0, ht⟩ := Compact.decode_append_of_error hd
    exact ⟨h0, fun t hs => compact_eq_error_iff.2 ⟨ht t hs, rfl⟩⟩

theorem isStable_array (n : Nat) : IsStable (array n) where
  ok {r r' a} h t := by
    rw [array_eq] at h
    split at h
    · next hl =>
      cases h
      have hn : n ≤ r.rest.length := by rw [List.length_take] at hl; omega
      have ht : (r.rest ++ t).take n = r.rest.take n := List.take_append_of_le_length hn
      rw [array_eq, dif_pos (by rw [withMore, ht]; exact hl), withMore_advance hn]
      congr 1
      exact Subtype.ext ht
    · cases h
  error {r r' e} h := by
    rw [array_eq] at h
    split at h
    · cases h
    · next hl =>
      cases h
      rw [List.length_take] at hl
      refine ⟨show r.rest.length + 0 < n by omega, fun t ht => ?_⟩
      have ht : r.rest.length + t.length < n := ht
      rw [array_eq, dif_neg (by rw [withMore, List.length_take, List.length_append]; omega)]
      rw [withMore, List.length_append]
      rfl

/-- Two stable reads one after the other make a stable one. -/
theorem IsStable.bind {x : Read α} {f : α → Read β} (hx : IsStable x)
    (hf : ∀ a, IsStable (f a)) : IsStable (x >>= f) where
  ok h t := by
    obtain ⟨a, r₁, ha, hb⟩ := bind_eq_ok_iff.1 h
    exact bind_eq_ok_iff.2 ⟨a, _, hx.ok ha t, (hf a).ok hb t⟩
  error h := by
    rcases bind_eq_error_iff.1 h with he | ⟨a, r₁, ha, he⟩
    · obtain ⟨h0, ht⟩ := hx.error he
      exact ⟨h0, fun t hs => bind_eq_error_iff.2 (.inl (ht t hs))⟩
    · obtain ⟨h0, ht⟩ := (hf a).error he
      exact ⟨h0, fun t hs => bind_eq_error_iff.2 (.inr ⟨a, _, hx.ok ha t, ht t hs⟩)⟩

theorem IsStable.map {x : Read α} (hx : IsStable x) (f : α → β) : IsStable (f <$> x) := by
  rw [map_eq_pure_bind]
  exact hx.bind fun a => isStable_pure (f a)

theorem IsStable.restoring {x : Read α} (hx : IsStable x) : IsStable (restoring x) where
  ok h t := restoring_eq_ok_iff.2 (hx.ok (restoring_eq_ok_iff.1 h) t)
  error {r r' e} h := by
    rw [restoring_eq] at h
    split at h
    · cases h
    · next e r₁ he =>
      cases h
      obtain ⟨h0, ht⟩ := hx.error he
      refine ⟨h0, fun t hs => ?_⟩
      rw [restoring_eq, ht t hs]

theorem isStable_slice (n : Nat) : IsStable (slice n) :=
  (isStable_array n).map _

theorem isStable_bytes : IsStable bytes :=
  (isStable_compact.bind fun size => isStable_slice size.toNat).restoring

theorem isStable_text : IsStable text := by
  refine (isStable_bytes.bind fun b => ?_).restoring
  cases Bytes.text? b with
  | none => exact isStable_invalidText
  | some s => exact isStable_pure s

namespace Operation

theorem isStable_read (op : Operation) : IsStable op.read := by
  cases op with
  | compact => exact isStable_compact.map _
  | fieldLength => exact isStable_compact.map _
  | slice n => exact (isStable_slice n).map _
  | array n => exact (isStable_array n).map _
  | bytes => exact isStable_bytes.map _
  | text => exact isStable_text.map _

/-- What an operation finds, it finds when more bytes are there, and gets as far. -/
theorem result_withMore_of_ok {op : Operation} {a : Found} (h : op.result r = .ok a) (t : Bytes) :
    op.result (r.withMore t) = .ok a ∧
      (op.next (r.withMore t)).position = (op.next r).position := by
  rw [result] at h
  split at h
  · next b r' hr =>
    cases h
    have ht := op.isStable_read.ok hr t
    rw [result, next, next, ht, hr]
    exact ⟨rfl, rfl⟩
  · cases h

/-- An operation fails alike when more bytes are there, if its error stands. -/
theorem result_withMore_of_error {op : Operation} {e : ReadError} (h : op.result r = .error e) :
    e.Stands 0 ∧ ∀ t : Bytes, e.Stands t.length →
      op.result (r.withMore t) = .error (e.withMore t.length) := by
  rw [result] at h
  split at h
  · cases h
  · next e' r' hr =>
    cases h
    obtain ⟨h0, ht⟩ := op.isStable_read.error hr
    refine ⟨h0, fun t hs => ?_⟩
    rw [result, ht t hs]

end Operation

end Reader

end IntentWire
