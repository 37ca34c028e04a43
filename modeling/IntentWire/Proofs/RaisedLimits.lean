import IntentWire.Command.Outcome
import IntentWire.Proofs.FirstFault

/-!
# Raised limits

A limit stands between a buffer and what comes of it, and bears on nothing else: when the
limits are raised, a buffer that does not fail a limit comes to the same collection or to
the same error. A buffer that fails a limit may come to anything that the limit has hidden,
be it a greater field further on, but not to the same error under a limit that is high
enough. Under the greatest limits there are, no buffer fails one.

So what the command says of a failure is right: a buffer that exceeds a limit may do with a
higher one, and a buffer that is not decoded for another reason does not, whatever the limits.

* `Record.Fault.raise`: faults, when the limits are raised.
* `Collection.Reading.raise`: what comes of a buffer, when the limits are raised.
* `Collection.index_le_of_raise`: the first field over the limit, when the limit is raised.
-/

namespace IntentWire

namespace Limits

/-- Limits are at most others when both of them are. -/
instance : LE Limits where
  le l m := l.maxRecords ≤ m.maxRecords ∧ l.maxFieldLength ≤ m.maxFieldLength

instance (l m : Limits) : Decidable (l ≤ m) :=
  inferInstanceAs (Decidable (_ ∧ _))

/-- The greatest limits there are. -/
def greatest : Limits where
  maxRecords := .ofNat (UInt64.size - 1)
  maxFieldLength := .ofNat (UInt64.size - 1)

theorem le_greatest_word (n : UInt64) : n ≤ .ofNat (UInt64.size - 1) := by
  rw [UInt64.le_iff_toNat_le, UInt64.toNat_ofNat_of_lt' (by decide)]
  exact Nat.le_sub_one_of_lt n.toNat_lt

theorem le_greatest (l : Limits) : l ≤ greatest :=
  ⟨le_greatest_word l.maxRecords, le_greatest_word l.maxFieldLength⟩

end Limits

/-! ### Records -/

namespace Record

variable {l m : Limits} {index : Nat} {s : Bytes} {e : FrameError}

theorem IsWithin.raise {record : Record} (h : record.IsWithin l)
    (hlm : l.maxFieldLength ≤ m.maxFieldLength) : record.IsWithin m := by
  rw [UInt64.le_iff_toNat_le] at hlm
  exact ⟨Nat.le_trans h.1 hlm, Nat.le_trans h.2 hlm⟩

/-- A field that is not over the limit has the same fault when the limit is raised. -/
theorem FieldFault.raise (h : FieldFault l index s e) (he : e.isLimit = false)
    (hlm : l.maxFieldLength ≤ m.maxFieldLength) : FieldFault m index s e := by
  cases h with
  | lengthTruncated hd => exact .lengthTruncated hd
  | lengthNonCanonical hd => exact .lengthNonCanonical hd
  | lengthOverflow hd => exact .lengthOverflow hd
  | tooLarge => cases he
  | absent hd hle habs => exact .absent hd (UInt64.le_trans hle hlm) habs

/-- A record without a field over the limit has the same fault when the limit is raised. -/
theorem Fault.raise (h : Fault l index s e) (he : e.isLimit = false)
    (hlm : l.maxFieldLength ≤ m.maxFieldLength) : Fault m index s e := by
  have hlm' := UInt64.le_iff_toNat_le.1 hlm
  cases h with
  | tag h => exact .tag (h.raise he hlm)
  | notText hf hl hb => exact .notText hf (Nat.le_trans hl hlm') hb
  | payload hf hl h => exact .payload hf (Nat.le_trans hl hlm') (h.raise he hlm)

/-- The only limit that a field fails is that on its length, which it is over. -/
theorem FieldFault.of_isLimit (h : FieldFault l index s e) (he : e.isLimit = true) :
    ∃ size, e = .fieldTooLarge index size l.maxFieldLength ∧ l.maxFieldLength < size := by
  cases h with
  | tooLarge _ hlt => exact ⟨_, rfl, hlt⟩
  | lengthTruncated | lengthNonCanonical | lengthOverflow | absent => cases he

theorem Fault.of_isLimit (h : Fault l index s e) (he : e.isLimit = true) :
    ∃ size, e = .fieldTooLarge index size l.maxFieldLength ∧ l.maxFieldLength < size := by
  cases h with
  | tag h => exact h.of_isLimit he
  | notText => cases he
  | payload _ _ h => exact h.of_isLimit he

end Record

/-! ### Collections -/

namespace Collection

variable {l m : Limits} {buffer : Bytes} {count : UInt64} {c : Collection} {rest : Bytes}

theorem Opens.raise (h : Opens l buffer count c rest) (hle : count ≤ m.maxRecords)
    (hlm : l.maxFieldLength ≤ m.maxFieldLength) : Opens m buffer count c rest :=
  ⟨h.eq_append, hle, fun record hr => (h.isWithin record hr).raise hlm⟩

/-- What comes of a buffer that does not fail a limit comes of it when the limits are
    raised. -/
theorem Reading.raise {x : Except FrameError Collection} (h : Reading l buffer x c)
    (hx : ∀ e, x = .error e → e.isLimit = false) (hlm : l ≤ m) : Reading m buffer x c := by
  cases h with
  | uncounted hd => exact .uncounted hd
  | tooMany => cases hx _ rfl
  | whole ho hc => exact .whole (ho.raise (UInt64.le_trans ho.count_le hlm.1) hlm.2) hc
  | fault ho hc hf =>
    exact .fault (ho.raise (UInt64.le_trans ho.count_le hlm.1) hlm.2) hc
      (hf.raise (hx _ rfl) hlm.2)

/-- A buffer with a field over the limit opens with the records before the one of this
    field, and goes on with it. -/
theorem exists_opens_of_fieldTooLarge {index : Nat} {size max : UInt64}
    (h : decode l buffer = .error (.fieldTooLarge index size max)) :
    max = l.maxFieldLength ∧ max < size ∧ ∃ count c rest, Opens l buffer count c rest ∧
      c.length = index ∧ Record.Fault l index rest (.fieldTooLarge index size max) := by
  obtain ⟨c, hr⟩ := exists_reading h
  cases hr with
  | @fault count _ rest _ ho hc hf =>
    obtain ⟨_, he, hlt⟩ := hf.of_isLimit rfl
    cases he
    exact ⟨rfl, hlt, count, c, rest, ho, rfl, hf⟩

/-- When the limit is raised up to the length of the first field over it, the first field
    over the new limit is not in a record before. -/
theorem index_le_of_raise {index index' : Nat} {size size' max max' : UInt64}
    (h : decode l buffer = .error (.fieldTooLarge index size max))
    (hm : size ≤ m.maxFieldLength)
    (h' : decode m buffer = .error (.fieldTooLarge index' size' max')) : index ≤ index' := by
  obtain ⟨rfl, hlt, count, c, rest, ho, rfl, -⟩ := exists_opens_of_fieldTooLarge h
  obtain ⟨-, -, count', c', rest', ho', rfl, hf'⟩ := exists_opens_of_fieldTooLarge h'
  obtain rfl := ho.count_eq ho'.decode_eq
  have hlm : l.maxFieldLength ≤ m.maxFieldLength :=
    UInt64.le_trans (UInt64.le_of_lt hlt) hm
  exact ho'.le_length_of_fault hf' (ho.raise ho'.count_le hlm).startsWithRecords

/-- Under the greatest limits no buffer fails one. -/
theorem isLimit_eq_false_of_greatest {e : FrameError}
    (h : decode .greatest buffer = .error e) : e.isLimit = false := by
  refine Bool.eq_false_iff.2 fun he => ?_
  obtain ⟨c, hr⟩ := exists_reading h
  cases hr with
  | uncounted => cases he
  | @tooMany count _ _ hlt => exact UInt64.not_lt.2 (Limits.le_greatest_word count) hlt
  | fault _ _ hf =>
    obtain ⟨size, -, hlt⟩ := hf.of_isLimit he
    exact UInt64.not_lt.2 (Limits.le_greatest_word size) hlt

/-- What a buffer that is not decoded fails is a limit just when it does not fail so under
    some raised limits. -/
theorem isLimit_iff_exists_raise {e : FrameError} (h : decode l buffer = .error e) :
    e.isLimit = true ↔ ∃ m, l ≤ m ∧ decode m buffer ≠ .error e := by
  constructor
  · intro he
    refine ⟨.greatest, l.le_greatest, fun hm => ?_⟩
    rw [isLimit_eq_false_of_greatest hm] at he
    cases he
  · rintro ⟨m, hlm, hm⟩
    refine Bool.of_not_eq_false fun he => hm ?_
    obtain ⟨c, hr⟩ := exists_reading h
    exact (hr.raise (fun e' he' => by cases he'; exact he) hlm).eq.1

end Collection

/-! ### The command -/

namespace Command

variable {host : Host} {format : Format} {l : Limits} {buffer : Bytes} {e : FrameError}
  {failure : Failure}

/-- A failure is said to exceed a limit just when raised limits can do away with it. -/
theorem limitExceeded_iff_exists_raise
    (h : (decodeBuffer host format l buffer).value = .error failure) :
    (∃ t, failure.message = "decode limit exceeded: " ++ t) ↔
      ∃ m, l ≤ m ∧ (decodeBuffer host format m buffer).value ≠ .error failure := by
  obtain ⟨e, hd, rfl⟩ := decodeBuffer_eq_error_iff.1 h
  simp only [limitExceeded_iff, Collection.isLimit_iff_exists_raise hd, ne_eq,
    decodeBuffer_eq_framing_iff]

/-- A failure is said to be another just when no raised limits do away with it. -/
theorem decodeFailed_iff_forall_raise
    (h : (decodeBuffer host format l buffer).value = .error failure) :
    (∃ t, failure.message = "decode failed: " ++ t) ↔
      ∀ m, l ≤ m → (decodeBuffer host format m buffer).value = .error failure := by
  obtain ⟨e, hd, rfl⟩ := decodeBuffer_eq_error_iff.1 h
  rw [decodeFailed_iff, Bool.eq_false_iff, ne_eq, Collection.isLimit_iff_exists_raise hd]
  simp only [decodeBuffer_eq_framing_iff, not_exists, not_and, not_not, ne_eq]

end Command

namespace Collection

open Command

/-- What comes of a buffer when the limits `l` are raised to `m`.

    * What does not fail a limit stays as it is.
    * A count over the limit is no longer over a limit that is at least the count.
    * A field over the limit is no longer over a limit that is at least its length. The
      next field over that limit, if there is one, is longer, and in no record before.
    * Under the greatest limits nothing fails a limit.
    * The command says of a failure that it exceeds a limit just when raised limits can do
      away with it, and that decoding failed just when they cannot. -/
theorem decode_of_raised_limits (l m : Limits) (buffer : Bytes) :
    (l ≤ m → (∀ e, decode l buffer = .error e → e.isLimit = false) →
        decode m buffer = decode l buffer) ∧
      (∀ count max, decode l buffer = .error (.tooManyRecords count max) →
        max < count ∧ max = l.maxRecords ∧
          (count ≤ m.maxRecords → ∀ count' max',
            decode m buffer ≠ .error (.tooManyRecords count' max'))) ∧
      (∀ index size max, decode l buffer = .error (.fieldTooLarge index size max) →
        max < size ∧ max = l.maxFieldLength ∧
          (size ≤ m.maxFieldLength → ∀ index' size' max',
            decode m buffer = .error (.fieldTooLarge index' size' max') →
              index ≤ index' ∧ size < size')) ∧
      (∀ e, decode .greatest buffer = .error e → e.isLimit = false) ∧
      ∀ host format failure, (decodeBuffer host format l buffer).value = .error failure →
        ((∃ t, failure.message = "decode limit exceeded: " ++ t) ↔
            ∃ m, l ≤ m ∧ (decodeBuffer host format m buffer).value ≠ .error failure) ∧
          ((∃ t, failure.message = "decode failed: " ++ t) ↔
            ∀ m, l ≤ m → (decodeBuffer host format m buffer).value = .error failure) := by
  refine ⟨fun hlm hx => ?_, fun count max h => ?_, fun index size max h => ?_, ?_, ?_⟩
  · exact ((reading_decode l buffer).raise hx hlm).eq.1
  · obtain ⟨⟨n, hd⟩, hlt, hmax⟩ := decode_eq_tooManyRecords_iff.1 h
    refine ⟨hlt, hmax, fun hle count' max' h' => ?_⟩
    obtain ⟨⟨n', hd'⟩, hlt', rfl⟩ := decode_eq_tooManyRecords_iff.1 h'
    rw [hd] at hd'
    cases hd'
    exact UInt64.not_lt.2 hle hlt'
  · obtain ⟨hmax, hlt, -⟩ := exists_opens_of_fieldTooLarge h
    refine ⟨hlt, hmax, fun hle index' size' max' h' => ⟨index_le_of_raise h hle h', ?_⟩⟩
    obtain ⟨rfl, hlt', -⟩ := exists_opens_of_fieldTooLarge h'
    exact UInt64.lt_of_le_of_lt hle hlt'
  · exact fun e => isLimit_eq_false_of_greatest
  · exact fun host format failure h =>
      ⟨limitExceeded_iff_exists_raise h, decodeFailed_iff_forall_raise h⟩

/-- Behind the limit on the records is one on a payload, and behind it one on the next tag,
    which is not there. This is what is left when no limit is in the way. -/
theorem decode_of_raised_limits_layers :
    decode ⟨1, 1⟩ [8, 4, 97, 8, 1, 2, 12] = .error (.tooManyRecords 2 1) ∧
      decode ⟨2, 1⟩ [8, 4, 97, 8, 1, 2, 12] = .error (.fieldTooLarge 0 2 1) ∧
      decode ⟨2, 2⟩ [8, 4, 97, 8, 1, 2, 12] = .error (.fieldTooLarge 1 3 2) ∧
      decode ⟨2, 3⟩ [8, 4, 97, 8, 1, 2, 12] = .error (.truncatedRecord 1 (.truncated 3 0)) ∧
      (∀ count max, decode ⟨2, 1⟩ [8, 4, 97, 8, 1, 2, 12] ≠ .error (.tooManyRecords count max)) ∧
      (0 ≤ 1 ∧ (2 : UInt64) < 3) ∧
      decode .greatest [8, 4, 97, 8, 1, 2, 12] = .error (.truncatedRecord 1 (.truncated 3 0)) ∧
      ∃ t, (Failure.framing (.fieldTooLarge 0 2 1)).message = "decode limit exceeded: " ++ t := by
  have hrecords : decode ⟨1, 1⟩ [8, 4, 97, 8, 1, 2, 12] = .error (.tooManyRecords 2 1) := rfl
  have hpayload : decode ⟨2, 1⟩ [8, 4, 97, 8, 1, 2, 12] = .error (.fieldTooLarge 0 2 1) := rfl
  have htag : decode ⟨2, 2⟩ [8, 4, 97, 8, 1, 2, 12] = .error (.fieldTooLarge 1 3 2) := rfl
  have hend : decode ⟨2, 3⟩ [8, 4, 97, 8, 1, 2, 12] =
    .error (.truncatedRecord 1 (.truncated 3 0)) := rfl
  obtain ⟨-, hcount, -⟩ := decode_of_raised_limits ⟨1, 1⟩ ⟨2, 1⟩ [8, 4, 97, 8, 1, 2, 12]
  obtain ⟨-, -, hfield, -, hmessage⟩ :=
    decode_of_raised_limits ⟨2, 1⟩ ⟨2, 2⟩ [8, 4, 97, 8, 1, 2, 12]
  obtain ⟨hstays, -⟩ := decode_of_raised_limits ⟨2, 3⟩ .greatest [8, 4, 97, 8, 1, 2, 12]
  refine ⟨hrecords, hpayload, htag, hend, (hcount 2 1 hrecords).2.2 (by decide),
    (hfield 0 2 1 hpayload).2.2 (by decide) 1 3 2 htag, ?_, ?_⟩
  · rw [hstays (Limits.le_greatest _) fun e he => by rw [hend] at he; cases he; rfl]
    exact hend
  · refine (hmessage {} .json _ (decodeBuffer_eq_framing_iff.2 hpayload)).1.2
      ⟨⟨2, 2⟩, by decide, ?_⟩
    rw [ne_eq, decodeBuffer_eq_framing_iff, htag]
    exact nofun

end Collection

end IntentWire
