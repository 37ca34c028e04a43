import IntentWire.Checked.Lemmas
import IntentWire.Compact.Layout

/-!
# Accounts and balances in payloads

An account and its balance take 48 bytes, and may stand in a payload as they are or behind one
length, of which only the width is looked at. So every payload of 48 bytes is taken as it is,
even if it starts with what could be a length, and never more than one length is skipped.

* `Statement.HoldsTuple`: an account and its balance stand in a payload.
* `Statement.EndsInLength`: a payload is shorter than the length at its start.
* `Statement.value_decodePsp22_append`: what comes of the bytes behind a length.
* `Statement.value_decodePsp22_eq_iff`: what comes of a payload, in each case.
-/

namespace IntentWire.Statement

open IntentWire.Compact (IsWhole headerWidth)

/-- Whether a payload is an account and its balance, as they are or behind one length. What
    the length says does not matter, as long as it has the width that its first byte tells. -/
def HoldsTuple (payload : Bytes) (account : AccountId) (amount : Amount) : Prop :=
  payload = toTuple account amount ∨
    ∃ q, IsWhole q ∧ payload = q ++ toTuple account amount

/-- Whether a payload that is not taken as it is, nor too short to start with a length, is
    shorter than the length that its first byte tells. -/
def EndsInLength (payload : Bytes) : Prop :=
  2 ≤ payload.length ∧ payload.length ≠ tupleSize ∧
    ∃ first ∈ payload.head?, payload.length < headerWidth first

variable {payload : Bytes} {account : AccountId} {amount : Amount}

/-- A length is skipped by its width, and what is behind it is an account and its balance or
    makes no sense. -/
theorem value_decodePsp22_append {q rest : Bytes} (hq : IsWhole q) (h2 : 2 ≤ (q ++ rest).length)
    (hne : (q ++ rest).length ≠ tupleSize) :
    (decodePsp22 (q ++ rest)).value =
      if h : rest.length = tupleSize then ofTuple rest h else .invalid badTupleLength := by
  obtain ⟨first, q, rfl⟩ := hq.exists_cons
  have hw := Compact.isWhole_cons.1 hq
  have hd : (first :: q ++ rest).drop (headerWidth first) = rest := List.drop_left' hw
  have hle : ¬(first :: q ++ rest).length < headerWidth first := by
    rw [← hw, List.length_append]
    omega
  rw [List.cons_append] at h2 hne hd hle ⊢
  -- There is a second byte, whether it belongs to the length or not.
  cases hs : q ++ rest with
  | nil =>
    rw [hs] at h2
    exact absurd h2 (Nat.not_succ_le_self 1)
  | cons second more =>
    rw [hs] at hne hd hle
    rw [decodePsp22, dif_neg hne]
    dsimp only
    rw [if_neg hle, Logged.value_bind]
    simp only [hd]
    split <;> rfl

/-- An account and its balance are decoded of a payload that holds them. -/
theorem HoldsTuple.value_eq (h : HoldsTuple payload account amount) :
    (decodePsp22 payload).value = .accountBalance account amount := by
  rcases h with rfl | ⟨q, hq, rfl⟩
  · rw [decodePsp22_toTuple, Logged.value_pure]
  · obtain ⟨first, rest, rfl⟩ := hq.exists_cons
    have hl := length_toTuple account amount
    have hlen : (first :: rest ++ toTuple account amount).length = rest.length + 1 + 48 := by
      rw [List.length_append, hl]
      rfl
    rw [value_decodePsp22_append hq (by omega) (by rw [hlen, tupleSize, AccountId.size]; omega),
      dif_pos hl, ofTuple_toTuple]

/-- An account and its balance are the last bytes of a payload that holds them. -/
theorem HoldsTuple.exists_append (h : HoldsTuple payload account amount) :
    ∃ q, (q = [] ∨ IsWhole q) ∧ payload = q ++ toTuple account amount := by
  rcases h with h | ⟨q, hq, h⟩
  · exact ⟨[], .inl rfl, h⟩
  · exact ⟨q, .inr hq, h⟩

theorem EndsInLength.value_eq (h : EndsInLength payload) :
    (decodePsp22 payload).value = .invalid badLength := by
  obtain ⟨h2, hne, first, hf, hlt⟩ := h
  obtain ⟨rest, rfl⟩ := List.head?_eq_some_iff.1 hf
  rw [decodePsp22, dif_neg hne]
  cases rest with
  | nil => exact absurd h2 (Nat.not_succ_le_self 1)
  | cons second rest =>
    dsimp only
    rw [if_pos hlt, Logged.value_pure]

/-- A payload that does not hold an account and its balance has no other length. -/
theorem value_decodePsp22_of_not (hh : ∀ account amount, ¬HoldsTuple payload account amount)
    (he : ¬EndsInLength payload) : (decodePsp22 payload).value = .invalid badTupleLength := by
  have hne : payload.length ≠ tupleSize := fun h => by
    obtain ⟨account, amount, ht⟩ := exists_toTuple h
    exact hh account amount (.inl ht)
  rcases Nat.lt_or_ge payload.length 2 with h1 | h2
  · rcases payload with _ | ⟨first, _ | ⟨second, rest⟩⟩
    · rfl
    · rfl
    · simp only [List.length_cons] at h1
      omega
  · obtain ⟨first, rest, rfl⟩ := List.exists_cons_of_length_pos (Nat.lt_of_lt_of_le Nat.two_pos h2)
    have hw : headerWidth first ≤ (first :: rest).length :=
      Nat.not_lt.1 fun hlt => he ⟨h2, hne, first, rfl, hlt⟩
    have hq := Compact.isWhole_take hw
    have hs := List.take_append_drop (headerWidth first) (first :: rest)
    rw [← hs] at h2 hne
    rw [← hs, value_decodePsp22_append hq h2 hne, dif_neg]
    intro hl
    obtain ⟨account, amount, ht⟩ := exists_toTuple hl
    exact hh account amount (.inr ⟨_, hq, ht ▸ hs.symm⟩)

theorem value_decodePsp22_cases (payload : Bytes) :
    (∃ account amount, HoldsTuple payload account amount ∧
        (decodePsp22 payload).value = .accountBalance account amount) ∨
      EndsInLength payload ∧ (decodePsp22 payload).value = .invalid badLength ∨
      (∀ account amount, ¬HoldsTuple payload account amount) ∧ ¬EndsInLength payload ∧
        (decodePsp22 payload).value = .invalid badTupleLength := by
  by_cases hh : ∃ account amount, HoldsTuple payload account amount
  · obtain ⟨account, amount, hh⟩ := hh
    exact .inl ⟨account, amount, hh, hh.value_eq⟩
  by_cases he : EndsInLength payload
  · exact .inr (.inl ⟨he, he.value_eq⟩)
  · have hh : ∀ account amount, ¬HoldsTuple payload account amount := fun account amount h =>
      hh ⟨account, amount, h⟩
    exact .inr (.inr ⟨hh, he, value_decodePsp22_of_not hh he⟩)

/-- Behind two lengths an account and its balance make no sense. -/
theorem value_decodePsp22_append_append {q q' t : Bytes} (hq : IsWhole q) (hq' : IsWhole q')
    (ht : t.length = tupleSize) :
    (decodePsp22 (q ++ (q' ++ t))).value = .invalid badTupleLength := by
  have hpos := hq.length_pos
  have hpos' := hq'.length_pos
  have hlen : (q ++ (q' ++ t)).length = q.length + q'.length + tupleSize := by
    rw [List.length_append, List.length_append, ht, Nat.add_assoc]
  rw [value_decodePsp22_append hq (by omega) (by omega), dif_neg]
  rw [List.length_append, ht]
  omega

/-- What comes of a payload that is to be an account and its balance.

    * It is these just when the payload holds them.
    * Its length makes no sense just when the payload ends within it, and all other payloads
      have the wrong number of bytes.
    * Read one after the other, the account and the balance are all there.
    * Of 48 bytes each is part of an account or its balance, and no length is skipped. The
      same 48 bytes behind the encoding of any word come to the same, and behind two lengths
      they make no sense. -/
theorem value_decodePsp22_eq_iff (payload : Bytes) :
    (∀ account amount, (decodePsp22 payload).value = .accountBalance account amount ↔
        payload = toTuple account amount ∨
          ∃ q, IsWhole q ∧ payload = q ++ toTuple account amount) ∧
      ((decodePsp22 payload).value = .invalid badLength ↔ EndsInLength payload) ∧
      ((decodePsp22 payload).value = .invalid badTupleLength ↔
        (∀ account amount, ¬HoldsTuple payload account amount) ∧ ¬EndsInLength payload) ∧
      Checked.decodePsp22 payload = some (decodePsp22 payload) ∧
      ∀ t : Bytes, t.length = tupleSize →
        (∃ account amount, t = toTuple account amount ∧
          decodePsp22 t = pure (.accountBalance account amount)) ∧
        (∀ v, (decodePsp22 (Compact.encode v ++ t)).value = (decodePsp22 t).value) ∧
        ∀ q q', IsWhole q → IsWhole q' →
          (decodePsp22 (q ++ (q' ++ t))).value = .invalid badTupleLength := by
  have hreasons : badLength ≠ badTupleLength := by decide
  refine ⟨fun account amount => ⟨fun h => ?_, HoldsTuple.value_eq⟩,
    ⟨fun h => ?_, EndsInLength.value_eq⟩, ⟨fun h => ?_, fun h => value_decodePsp22_of_not h.1 h.2⟩,
    Checked.decodePsp22_eq payload, fun t ht => ⟨?_, fun v => ?_, fun q q' hq hq' =>
      value_decodePsp22_append_append hq hq' ht⟩⟩
  · rcases value_decodePsp22_cases payload with ⟨_, _, hh, hv⟩ | ⟨-, hv⟩ | ⟨-, -, hv⟩
    · rw [hv] at h
      cases h
      exact hh
    · cases hv.symm.trans h
    · cases hv.symm.trans h
  · rcases value_decodePsp22_cases payload with ⟨_, _, -, hv⟩ | ⟨he, -⟩ | ⟨-, -, hv⟩
    · cases hv.symm.trans h
    · exact he
    · exact absurd (Statement.invalid.inj (h.symm.trans hv)) hreasons
  · rcases value_decodePsp22_cases payload with ⟨_, _, -, hv⟩ | ⟨-, hv⟩ | ⟨hh, he, -⟩
    · cases hv.symm.trans h
    · exact absurd (Statement.invalid.inj (hv.symm.trans h)) hreasons
    · exact ⟨hh, he⟩
  · obtain ⟨account, amount, rfl⟩ := exists_toTuple ht
    exact ⟨account, amount, rfl, decodePsp22_toTuple account amount⟩
  · obtain ⟨account, amount, rfl⟩ := exists_toTuple ht
    rw [HoldsTuple.value_eq (.inl rfl),
      HoldsTuple.value_eq (.inr ⟨_, (Compact.carries_encode v).isWhole, rfl⟩)]

/-- 48 bytes of which the first is the length of the other ones, if it were one, alone and
    behind one length and two. -/
theorem value_decodePsp22_eq_iff_alike :
    (List.replicate 48 0xBC : Bytes).length = tupleSize ∧ IsWhole [0xC0] ∧ IsWhole [1, 0] ∧
      (decodePsp22 (List.replicate 48 0xBC)).events = [] ∧
      (decodePsp22 (Compact.encode 48 ++ List.replicate 48 0xBC)).value =
        (decodePsp22 (List.replicate 48 0xBC)).value ∧
      (decodePsp22 ([0xC0] ++ ([1, 0] ++ List.replicate 48 0xBC))).value =
        .invalid badTupleLength := by
  have hl : (List.replicate 48 0xBC : Bytes).length = tupleSize := by decide
  have hq : IsWhole [0xC0] := by decide
  have hq' : IsWhole [1, 0] := by decide
  obtain ⟨-, -, -, -, h⟩ := value_decodePsp22_eq_iff []
  obtain ⟨⟨_, _, -, hbare⟩, hwrapped, htwice⟩ := h _ hl
  exact ⟨hl, hq, hq', by rw [hbare, Logged.events_pure], hwrapped 48, htwice _ _ hq hq'⟩

end IntentWire.Statement
