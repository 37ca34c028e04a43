import IntentWire.Framing.Reading
import Mathlib.Order.Bounds.Defs

/-!
# The first fault

A buffer fails for the first thing amiss in it. If it starts with a count within the
limit, the records behind the count are gone through one by one, as far as they are
within the limits: when there are as many as the count says they are the collection, and
else the next fails the buffer, with its index, for its own first fault
(`Record.Fault`).

* `Collection.eq_of_flatMap_encode_prefix`: the records that bytes start with are told
  apart in one way only.
* `Collection.Opens.isGreatest_length`: behind as many as there are stands no other.
-/

namespace IntentWire

namespace Collection

variable {limits : Limits} {buffer s : Bytes} {count : UInt64} {c c' : Collection} {rest : Bytes}
  {e : FrameError}

/-- The records of a number that bytes start with are told apart in one way only. -/
theorem eq_of_flatMap_encode_prefix (hl : c.length = c'.length)
    (he : c.flatMap Record.encode <+: s) (hw : ∀ record ∈ c, record.IsWithin limits)
    (he' : c'.flatMap Record.encode <+: s) (hw' : ∀ record ∈ c', record.IsWithin limits) :
    c = c' := by
  -- Both are what the decoder reads.
  have h : (Framing.nextMany limits c'.length).run (.start s) =
      .ok () ((Progress.start s).after c) :=
    Framing.nextMany_eq_ok_iff.2 ⟨c, hl, he, hw, rfl⟩
  have h' : (Framing.nextMany limits c'.length).run (.start s) =
      .ok () ((Progress.start s).after c') :=
    Framing.nextMany_eq_ok_iff.2 ⟨c', rfl, he', hw', rfl⟩
  rw [h] at h'
  injection h' with _ hp
  have hr := congrArg (fun p => p.records.toList) hp
  simp only [Progress.records_after] at hr
  exact List.append_cancel_left hr

/-- Whether `s` starts with `k` records within the limits, one behind the other. -/
def StartsWithRecords (limits : Limits) (s : Bytes) (k : Nat) : Prop :=
  ∃ c : Collection, c.length = k ∧ c.flatMap Record.encode <+: s ∧
    ∀ record ∈ c, record.IsWithin limits

/-- The records that a buffer opens with are all that it starts with, if there is a fault
    behind them. -/
theorem Opens.le_length_of_fault (h : Opens limits buffer count c rest)
    (hf : Record.Fault limits c.length rest e) {k : Nat}
    (hk : StartsWithRecords limits (buffer.drop (Compact.width count)) k) : k ≤ c.length := by
  obtain ⟨c', rfl, he, hw⟩ := hk
  refine Nat.not_lt.1 fun hlt => ?_
  -- Of the records of `c'`, the first are those of `c`. The next stands where the fault is.
  obtain ⟨c₁, record, c₂, rfl, hl, -⟩ := List.exists_of_modify id hlt
  obtain ⟨hw₁, hw⟩ := List.forall_mem_append.1 hw
  rw [List.flatMap_append, List.flatMap_cons] at he
  obtain rfl : c₁ = c :=
    eq_of_flatMap_encode_prefix hl ((List.prefix_append _ _).trans he) hw₁ h.prefix_drop h.isWithin
  rw [h.drop_width, List.prefix_append_right_inj] at he
  exact hf.not_prefix_of_isWithin (hw _ List.mem_cons_self) ((List.prefix_append _ _).trans he)

theorem Opens.startsWithRecords (h : Opens limits buffer count c rest) :
    StartsWithRecords limits (buffer.drop (Compact.width count)) c.length :=
  ⟨c, rfl, h.prefix_drop, h.isWithin⟩

/-- A buffer is malformed as a collection if it does not start with a count. -/
theorem decode_eq_malformedCollection_iff {cause : ReadError} :
    decode limits buffer = .error (.malformedCollection cause) ↔
      Compact.decode buffer = .error cause := by
  constructor
  · intro h
    obtain ⟨_, hr⟩ := exists_reading h
    cases hr with
    | uncounted hd => exact hd
    | fault _ _ hf => exact nomatch hf.index?_eq
  · intro hd
    exact (Reading.uncounted hd).eq.1

/-- A buffer has too many records if its count is over the limit. -/
theorem decode_eq_tooManyRecords_iff {max : UInt64} :
    decode limits buffer = .error (.tooManyRecords count max) ↔
      (∃ n, Compact.decode buffer = .ok (count, n)) ∧ max < count ∧ max = limits.maxRecords := by
  constructor
  · intro h
    obtain ⟨_, hr⟩ := exists_reading h
    cases hr with
    | tooMany hd hlt => exact ⟨⟨_, hd⟩, hlt, rfl⟩
    | fault _ _ hf => exact nomatch hf.index?_eq
  · rintro ⟨⟨n, hd⟩, hlt, rfl⟩
    exact (Reading.tooMany hd hlt).eq.1

/-- What becomes of a buffer whose count can be read and is within the limit: there is a
    greatest number of records within the limits that it starts with, up to the count. -/
theorem decode_of_count {n : Nat} (hd : Compact.decode buffer = .ok (count, n))
    (hle : count ≤ limits.maxRecords) :
    ∃ c rest, Opens limits buffer count c rest ∧
      IsGreatest {k | k ≤ count.toNat ∧ StartsWithRecords limits (buffer.drop n) k} c.length ∧
      (c.length = count.toNat ∧ decode limits buffer = .ok c ∨
        c.length < count.toNat ∧
          ∃ e, Record.Fault limits c.length rest e ∧ decode limits buffer = .error e) := by
  have hr := reading_decode limits buffer
  generalize hx : decode limits buffer = x at hr
  generalize recordsRead limits buffer = c at hr
  obtain ⟨rfl, -⟩ := Compact.eq_encode_append_of_decode hd
  cases hr with
  | uncounted hd' =>
    rw [hd] at hd'
    cases hd'
  | tooMany hd' hlt =>
    rw [hd] at hd'
    cases hd'
    exact absurd hle (UInt64.not_le.2 hlt)
  | @whole count' _ rest ho hc =>
    obtain rfl := ho.count_eq hd
    refine ⟨c, rest, ho, ⟨⟨Nat.le_of_eq hc, ho.startsWithRecords⟩, ?_⟩, .inl ⟨hc, rfl⟩⟩
    -- No number above the count is asked for.
    rintro k ⟨hk, -⟩
    rw [hc]
    exact hk
  | @fault count' _ rest e ho hc hf =>
    obtain rfl := ho.count_eq hd
    refine ⟨c, rest, ho, ⟨⟨Nat.le_of_lt hc, ho.startsWithRecords⟩, ?_⟩,
      .inr ⟨hc, e, hf, rfl⟩⟩
    rintro k ⟨-, hk⟩
    exact ho.le_length_of_fault hf hk

/-- What a buffer fails for, and when it does.

    * It is malformed as a collection when it starts with no count.
    * It has too many records when its count is over the limit.
    * Else it is a collection when it starts with as many records within the limits as its
      count says. When it does not, it fails for the first record that is none, the one
      behind as many as there are, and for the first fault of that record. -/
theorem decode_first_fault (limits : Limits) (buffer : Bytes) :
    (∀ cause, decode limits buffer = .error (.malformedCollection cause) ↔
        Compact.decode buffer = .error cause) ∧
      (∀ count max, decode limits buffer = .error (.tooManyRecords count max) ↔
        (∃ n, Compact.decode buffer = .ok (count, n)) ∧ max < count ∧
          max = limits.maxRecords) ∧
      ∀ count n, Compact.decode buffer = .ok (count, n) → count ≤ limits.maxRecords →
        ∃ k, IsGreatest {k | k ≤ count.toNat ∧ StartsWithRecords limits (buffer.drop n) k} k ∧
          (k = count.toNat → ∃ c, decode limits buffer = .ok c) ∧
          (k < count.toNat → ∃ (c : Collection) (rest : Bytes) (e : FrameError), c.length = k ∧
            (∀ record ∈ c, record.IsWithin limits) ∧
            buffer.drop n = c.flatMap Record.encode ++ rest ∧
            decode limits buffer = .error e ∧ e.index? = some k ∧
            ∀ e', Record.Fault limits k rest e' ↔ e' = e) := by
  refine ⟨fun _ => decode_eq_malformedCollection_iff, fun _ _ => decode_eq_tooManyRecords_iff,
    fun count n hd hle => ?_⟩
  obtain ⟨c, rest, ho, hk, h⟩ := decode_of_count hd hle
  obtain ⟨rfl, -⟩ := Compact.eq_encode_append_of_decode hd
  refine ⟨c.length, hk, fun hc => ?_, fun hc => ?_⟩
  · rcases h with ⟨-, h⟩ | ⟨hlt, -⟩
    · exact ⟨c, h⟩
    · exact absurd hc (Nat.ne_of_lt hlt)
  · rcases h with ⟨heq, -⟩ | ⟨-, e, hf, h⟩
    · exact absurd heq (Nat.ne_of_lt hc)
    · refine ⟨c, rest, e, rfl, ho.isWithin, ho.drop_width, h, hf.index?_eq, fun e' => ?_⟩
      exact ⟨fun hf' => hf'.unique hf, fun he => he ▸ hf⟩

/-- Of two records the second has a tag that is no text, and no payload. It is the tag that
    the buffer fails for. -/
theorem decode_first_fault_tag :
    Compact.decode [8, 4, 97, 0, 4, 255] = .ok (2, 1) ∧
      ∃ k, IsGreatest {k | k ≤ 2 ∧ StartsWithRecords {} [4, 97, 0, 4, 255] k} k ∧
        decode {} [8, 4, 97, 0, 4, 255] = .error (.invalidTag k) := by
  have hd : Compact.decode [8, 4, 97, 0, 4, 255] = .ok (2, 1) := rfl
  have he : decode {} [8, 4, 97, 0, 4, 255] = .error (.invalidTag 1) := rfl
  obtain ⟨k, hk, hok, herr⟩ := (decode_first_fault {} [8, 4, 97, 0, 4, 255]).2.2 2 1 hd (by decide)
  refine ⟨hd, k, hk, ?_⟩
  rcases Nat.lt_or_eq_of_le hk.1.1 with hlt | heq
  · obtain ⟨_, _, e, -, -, -, h, hi, -⟩ := herr hlt
    rw [he] at h
    cases h
    cases hi
    exact he
  · obtain ⟨c, h⟩ := hok heq
    rw [he] at h
    cases h

end Collection

end IntentWire
