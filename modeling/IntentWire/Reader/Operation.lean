import IntentWire.Reader.Lemmas

/-!
# Operations of a reader

Every read of a reader is *atomic* (`Reader.IsAtomic`): what it finds, or why it fails, is
told by the bytes that are left alone, it moves the reader by as many of them as it takes,
and it does not move the reader if it fails. This holds of the reads in one step, and of
several steps one after the other if the reader is put back when one of them fails
(`Reader.IsAtomic.restoring_bind`).

The *operations* are the reads that a reader is made for, and a *run* carries out some of
them one after the other, whether they succeed or fail.

* `Reader.Operation.outcome`: what it means for an operation to be atomic.
-/

namespace IntentWire

/-! ### Atomic reads -/

namespace Reader

variable {α β : Type}

/-- Whether a read looks at the bytes that are left and at nothing else. Wherever the reader
    is, it finds the same in these bytes and takes as many of them, no more than there are,
    or it fails alike and does not move the reader. -/
def IsAtomic (x : Read α) : Prop :=
  ∀ s : Bytes, (∃ a n, n ≤ s.length ∧ ∀ p, x.run ⟨p, s⟩ = .ok a ⟨p + n, s.drop n⟩) ∨
    ∃ e, ∀ p, x.run ⟨p, s⟩ = .error e ⟨p, s⟩

theorem isAtomic_pure (a : α) : IsAtomic (pure a) :=
  fun s => .inl ⟨a, 0, Nat.zero_le s.length, fun _ => rfl⟩

theorem isAtomic_throw (e : ReadError) : IsAtomic (throw e : Read α) :=
  fun _ => .inr ⟨e, fun _ => rfl⟩

theorem isAtomic_compact : IsAtomic compact := by
  intro s
  simp only [compact_eq]
  cases hd : Compact.decode s with
  | error e => exact .inr ⟨e, fun _ => rfl⟩
  | ok found =>
    obtain ⟨v, n⟩ := found
    exact .inl ⟨v, n, Compact.le_length_of_decode hd, fun _ => rfl⟩

theorem isAtomic_array (n : Nat) : IsAtomic (array n) := by
  intro s
  simp only [array_eq]
  by_cases h : (s.take n).length = n
  · refine .inl ⟨⟨s.take n, h⟩, n, ?_, fun p => dif_pos h⟩
    rw [List.length_take] at h
    omega
  · exact .inr ⟨.truncated n s.length, fun p => dif_neg h⟩

theorem IsAtomic.map {x : Read α} (hx : IsAtomic x) (f : α → β) : IsAtomic (f <$> x) := by
  intro s
  rcases hx s with ⟨a, n, hn, hr⟩ | ⟨e, hr⟩
  · exact .inl ⟨f a, n, hn, fun p => by rw [map_eq, hr]⟩
  · exact .inr ⟨e, fun p => by rw [map_eq, hr]⟩

/-- Two atomic reads one after the other make an atomic one, if the reader is put back when
    the second fails. -/
theorem IsAtomic.restoring_bind {x : Read α} {f : α → Read β} (hx : IsAtomic x)
    (hf : ∀ a, IsAtomic (f a)) : IsAtomic (restoring (x >>= f)) := by
  intro s
  simp only [restoring_eq, EStateM.run_bind]
  rcases hx s with ⟨a, m, hm, hr⟩ | ⟨e, hr⟩
  · simp only [hr]
    rcases hf a (s.drop m) with ⟨b, n, hn, hr⟩ | ⟨e, hr⟩
    · refine .inl ⟨b, m + n, ?_, fun p => ?_⟩
      · rw [List.length_drop] at hn
        omega
      · rw [hr, List.drop_drop, Nat.add_assoc]
    -- The first read has moved the reader when the second fails.
    · exact .inr ⟨e, fun p => by rw [hr]⟩
  · exact .inr ⟨e, fun p => by rw [hr]⟩

theorem isAtomic_slice (n : Nat) : IsAtomic (slice n) :=
  (isAtomic_array n).map _

theorem isAtomic_bytes : IsAtomic bytes :=
  isAtomic_compact.restoring_bind fun size => isAtomic_slice size.toNat

theorem isAtomic_text : IsAtomic text := by
  refine isAtomic_bytes.restoring_bind fun b => ?_
  cases Bytes.text? b with
  | none => exact isAtomic_throw .invalidText
  | some s => exact isAtomic_pure s

/-! ### Operations -/

/-- What an operation finds. -/
inductive Found where
  | number (v : UInt64)
  | bytes (b : Bytes)
  | text (s : String)
  deriving DecidableEq

/-- An operation of a reader. -/
inductive Operation where
  | compact
  | fieldLength
  | slice (n : Nat)
  | array (n : Nat)
  | bytes
  | text
  deriving DecidableEq

namespace Operation

/-- The read that an operation is. -/
def read : Operation → Read Found
  | .compact => .number <$> Reader.compact
  | .fieldLength => .number <$> Reader.fieldLength
  | .slice n => .bytes <$> Reader.slice n
  | .array n => (fun b => .bytes b.val) <$> Reader.array n
  | .bytes => .bytes <$> Reader.bytes
  | .text => .text <$> Reader.text

/-- What an operation finds, or why it fails. -/
def result (op : Operation) (r : Reader) : Except ReadError Found :=
  match op.read.run r with
  | .ok a _ => .ok a
  | .error e _ => .error e

/-- The reader after an operation. -/
def next (op : Operation) (r : Reader) : Reader :=
  match op.read.run r with
  | .ok _ r' => r'
  | .error _ r' => r'

theorem isAtomic_read (op : Operation) : IsAtomic op.read := by
  cases op with
  | compact => exact Reader.isAtomic_compact.map _
  | fieldLength => exact Reader.isAtomic_compact.map _
  | slice n => exact (Reader.isAtomic_slice n).map _
  | array n => exact (Reader.isAtomic_array n).map _
  | bytes => exact Reader.isAtomic_bytes.map _
  | text => exact Reader.isAtomic_text.map _

/-- An operation finds something in the bytes that are left, wherever they are, and takes
    some of them, or it fails and does not move the reader. -/
theorem outcome (op : Operation) (s : Bytes) :
    (∃ a n, n ≤ s.length ∧
      ∀ p, op.result ⟨p, s⟩ = .ok a ∧ op.next ⟨p, s⟩ = ⟨p + n, s.drop n⟩) ∨
    ∃ e, ∀ p, op.result ⟨p, s⟩ = .error e ∧ op.next ⟨p, s⟩ = ⟨p, s⟩ := by
  simp only [result, next]
  rcases op.isAtomic_read s with ⟨a, n, hn, hr⟩ | ⟨e, hr⟩
  · exact .inl ⟨a, n, hn, fun p => by rw [hr]; exact ⟨rfl, rfl⟩⟩
  · exact .inr ⟨e, fun p => by rw [hr]; exact ⟨rfl, rfl⟩⟩

/-! ### Runs -/

/-- The reader after operations, one behind the other. -/
def reach (ops : List Operation) (r : Reader) : Reader :=
  ops.foldl (fun r op => op.next r) r

/-- Operations one behind the other, each with what it finds or why it fails. -/
def trace : List Operation → Reader → List (Operation × Except ReadError Found)
  | [], _ => []
  | op :: ops, r => (op, op.result r) :: trace ops (op.next r)

@[simp] theorem reach_nil (r : Reader) : reach [] r = r := rfl

@[simp] theorem reach_cons (op : Operation) (ops : List Operation) (r : Reader) :
    reach (op :: ops) r = reach ops (op.next r) := rfl

theorem reach_append (ops more : List Operation) (r : Reader) :
    reach (ops ++ more) r = reach more (reach ops r) :=
  List.foldl_append

end Operation

end Reader

end IntentWire
