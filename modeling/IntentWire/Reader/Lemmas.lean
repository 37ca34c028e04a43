import IntentWire.Compact.Lemmas
import IntentWire.Reader
import IntentWire.Writer

/-!
# Laws of readers

What a read finds is what was written there, and it moves the reader past just that:
each read succeeds exactly on a buffer that goes on with the encoding of the value
found. A read that fails leaves the reader where it was.

* `compact_eq_ok_iff`, `compact_eq_error_iff`: for compact integers.
* `slice_eq`, `slice_eq_ok_iff`: for byte strings of a given length.
* `bytes_eq_ok_iff`, `text_eq_ok_iff`: for fields.
-/

namespace IntentWire

/-! ### Reading in steps -/

section Steps

variable {ε ε' σ α β : Type} {s s' : σ}

/-- Two steps succeed if the second does after the first. -/
theorem bind_eq_ok_iff {x : EStateM ε σ α} {f : α → EStateM ε σ β} {b : β} :
    (x >>= f).run s = .ok b s' ↔ ∃ a s₁, x.run s = .ok a s₁ ∧ (f a).run s₁ = .ok b s' := by
  rw [EStateM.run_bind]
  cases hx : x.run s with
  | ok a s₁ =>
    exact ⟨fun h => ⟨a, s₁, rfl, h⟩, fun ⟨_, _, ha, h⟩ => by cases ha; exact h⟩
  | error e s₁ => exact ⟨nofun, nofun⟩

/-- Two steps fail if the first does, or else the second after it. -/
theorem bind_eq_error_iff {x : EStateM ε σ α} {f : α → EStateM ε σ β} {e : ε} :
    (x >>= f).run s = .error e s' ↔
      x.run s = .error e s' ∨ ∃ a s₁, x.run s = .ok a s₁ ∧ (f a).run s₁ = .error e s' := by
  rw [EStateM.run_bind]
  cases hx : x.run s with
  | ok a s₁ =>
    exact ⟨fun h => .inr ⟨a, s₁, rfl, h⟩,
      fun h => h.elim nofun fun ⟨_, _, ha, h⟩ => by cases ha; exact h⟩
  | error e₁ s₁ =>
    exact ⟨fun h => .inl (by cases h; rfl), fun h => h.elim (fun h => by cases h; rfl) nofun⟩

theorem adaptExcept_eq_ok_iff {x : EStateM ε σ α} {f : ε → ε'} {a : α} :
    (EStateM.adaptExcept f x).run s = .ok a s' ↔ x.run s = .ok a s' := by
  rw [EStateM.run_adaptExcept]
  cases x.run s with
  | ok b s₁ => exact ⟨fun h => by cases h; rfl, fun h => by cases h; rfl⟩
  | error e s₁ => exact ⟨nofun, nofun⟩

end Steps

/-! ### Byte strings one behind the other -/

namespace Bytes

theorem append_prefix_iff {a b s : Bytes} : a ++ b <+: s ↔ a <+: s ∧ b <+: s.drop a.length := by
  constructor
  · rintro ⟨t, rfl⟩
    rw [List.append_assoc, List.drop_left]
    exact ⟨List.prefix_append a _, List.prefix_append b t⟩
  · rintro ⟨⟨t, rfl⟩, h⟩
    rw [List.drop_left] at h
    exact (List.prefix_append_right_inj a).2 h

/-- Writing one thing behind the other appends their encodings, if writing appends one. -/
theorem foldl_eq_append {α : Type} {put : Bytes → α → Bytes} {encode : α → Bytes}
    (h : ∀ buffer a, put buffer a = buffer ++ encode a) (l : List α) (buffer : Bytes) :
    l.foldl put buffer = buffer ++ l.flatMap encode := by
  obtain rfl : put = fun buffer a => buffer ++ encode a := funext₂ h
  rw [List.foldl_append_eq_append, List.flatMap_def]

theorem length_field (b : Bytes) : (field b).length = fieldSize b.length := by
  rw [field, List.length_append, Compact.length_encode, fieldSize]

end Bytes

/-! ### Reads -/

namespace Reader

open Bytes

variable {r r' : Reader}

@[simp] theorem position_advance (r : Reader) (n : Nat) :
    (r.advance n).position = r.position + n := rfl

@[simp] theorem rest_advance (r : Reader) (n : Nat) : (r.advance n).rest = r.rest.drop n := rfl

theorem advance_advance (r : Reader) (m n : Nat) :
    (r.advance m).advance n = r.advance (m + n) := by
  simp [advance, Nat.add_assoc]

theorem map_eq {α β : Type} (f : α → β) (x : Read α) (r : Reader) : (f <$> x).run r =
    match x.run r with
    | .ok a r' => .ok (f a) r'
    | .error e r' => .error e r' := by
  change EStateM.map f x r = _
  rw [EStateM.map, EStateM.run]
  cases x r <;> rfl

theorem map_eq_ok_iff {α β : Type} {f : α → β} {x : Read α} {b : β} :
    (f <$> x).run r = .ok b r' ↔ ∃ a, x.run r = .ok a r' ∧ f a = b := by
  rw [map_eq]
  cases x.run r with
  | ok a r₁ =>
    exact ⟨fun h => by cases h; exact ⟨a, rfl, rfl⟩,
      fun ⟨_, h, hb⟩ => by cases h; exact hb ▸ rfl⟩
  | error e r₁ => exact ⟨nofun, nofun⟩

theorem compact_eq (r : Reader) : compact.run r =
    match Compact.decode r.rest with
    | .ok (v, n) => .ok v (r.advance n)
    | .error e => .error e r := by
  change EStateM.run (match Compact.decode r.rest with
    | .ok (v, n) => (do modify (advance · n); return v : Read UInt64)
    | .error e => throw e) r = _
  cases Compact.decode r.rest with
  | ok _ => rfl
  | error _ => rfl

theorem compact_eq_ok_iff {v : UInt64} :
    compact.run r = .ok v r' ↔ Compact.encode v <+: r.rest ∧ r' = r.advance (Compact.width v) := by
  rw [compact_eq]
  constructor
  · intro h
    split at h
    · next hd =>
      cases h
      obtain ⟨rfl, hs⟩ := Compact.eq_encode_append_of_decode hd
      exact ⟨⟨_, hs.symm⟩, rfl⟩
    · cases h
  · rintro ⟨⟨t, ht⟩, rfl⟩
    rw [← ht, Compact.decode_encode_append]

theorem compact_eq_error_iff {e : ReadError} :
    compact.run r = .error e r' ↔ Compact.decode r.rest = .error e ∧ r' = r := by
  rw [compact_eq]
  constructor
  · intro h
    split at h
    · cases h
    · next hd =>
      cases h
      exact ⟨hd, rfl⟩
  · rintro ⟨hd, rfl⟩
    rw [hd]

theorem array_eq (n : Nat) (r : Reader) : (array n).run r =
    if h : (r.rest.take n).length = n then .ok ⟨r.rest.take n, h⟩ (r.advance n)
    else .error (.truncated n r.rest.length) r := by
  change EStateM.run (if h : (r.rest.take n).length = n then
      (do set (r.advance n); return ⟨r.rest.take n, h⟩ : Read { b : Bytes // b.length = n })
    else throw (.truncated n r.remaining)) r = _
  split <;> rfl

theorem slice_eq (n : Nat) (r : Reader) : (slice n).run r =
    if r.rest.length < n then .error (.truncated n r.rest.length) r
    else .ok (r.rest.take n) (r.advance n) := by
  rw [slice, EStateM.run_bind, array_eq]
  by_cases h : r.rest.length < n
  · rw [dif_neg (by rw [List.length_take]; omega), if_pos h]
  · rw [dif_pos (by rw [List.length_take]; omega), if_neg h]
    rfl

theorem slice_eq_ok_iff {n : Nat} {b : Bytes} :
    (slice n).run r = .ok b r' ↔ b <+: r.rest ∧ b.length = n ∧ r' = r.advance n := by
  rw [slice_eq]
  constructor
  · intro h
    split at h
    · cases h
    · next hn =>
      cases h
      exact ⟨List.take_prefix n r.rest, by rw [List.length_take]; omega, rfl⟩
  · rintro ⟨hb, rfl, rfl⟩
    rw [if_neg (Nat.not_lt.2 hb.length_le), ← List.prefix_iff_eq_take.1 hb]

theorem restoring_eq {α : Type} (x : Read α) (r : Reader) : (restoring x).run r =
    match x.run r with
    | .ok a r' => .ok a r'
    | .error e _ => .error e r := rfl

theorem restoring_eq_ok_iff {α : Type} {x : Read α} {a : α} :
    (restoring x).run r = .ok a r' ↔ x.run r = .ok a r' := by
  rw [restoring_eq]
  cases x.run r with
  | ok b r₁ => exact Iff.rfl
  | error e r₁ => exact ⟨nofun, nofun⟩

theorem bytes_eq_ok_iff {b : Bytes} :
    bytes.run r = .ok b r' ↔
      field b <+: r.rest ∧ b.length < UInt64.size ∧ r' = r.advance (fieldSize b.length) := by
  rw [bytes, restoring_eq_ok_iff, bind_eq_ok_iff]
  constructor
  · rintro ⟨n, r₁, hc, hs⟩
    obtain ⟨hn, rfl⟩ := compact_eq_ok_iff.1 hc
    obtain ⟨hb, hl, rfl⟩ := slice_eq_ok_iff.1 hs
    have hn' : UInt64.ofNat b.length = n := by rw [hl, UInt64.ofNat_toNat]
    refine ⟨append_prefix_iff.2 ⟨hn' ▸ hn, ?_⟩, hl ▸ n.toNat_lt, ?_⟩
    · rw [Compact.length_encode, hn']
      exact hb
    · rw [advance_advance, fieldSize, hn', hl]
  · rintro ⟨hf, hb, rfl⟩
    have hl : (UInt64.ofNat b.length).toNat = b.length := UInt64.toNat_ofNat_of_lt' hb
    obtain ⟨hn, hb⟩ := append_prefix_iff.1 hf
    rw [Compact.length_encode] at hb
    exact ⟨_, _, compact_eq_ok_iff.2 ⟨hn, rfl⟩, slice_eq_ok_iff.2 ⟨hb, hl.symm, by
      rw [advance_advance, fieldSize, hl]⟩⟩

theorem text_eq_ok_iff {s : String} :
    text.run r = .ok s r' ↔
      field (ofText s) <+: r.rest ∧ (ofText s).length < UInt64.size ∧
        r' = r.advance (fieldSize (ofText s).length) := by
  rw [text, restoring_eq_ok_iff, bind_eq_ok_iff]
  constructor
  · rintro ⟨b, r₁, hb, hs⟩
    cases ht : text? b with
    | none => rw [ht] at hs; cases hs
    | some s' =>
      rw [ht] at hs
      cases hs
      exact text?_eq_some_iff.1 ht ▸ bytes_eq_ok_iff.1 hb
  · intro h
    refine ⟨ofText s, r', bytes_eq_ok_iff.2 h, ?_⟩
    rw [text?_ofText]
    rfl

end Reader

end IntentWire
