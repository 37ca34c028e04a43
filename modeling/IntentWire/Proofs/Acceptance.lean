import IntentWire.Framing.Reading

/-!
# What is accepted

The decoders accept what the encoders write, and nothing else: a value is read of the
buffers that start with its encoding, and of no others. So decoding undoes encoding,
whatever comes after it, and encoding a value that is read gives back the bytes that it
is read from.

* `Compact.decode_ok_iff_encode_isPrefix`: for compact integers.
* `Collection.decode_ok_iff_isPrefix_and_within`: for collections, within the limits.
-/

namespace IntentWire

open Bytes

/-- A compact integer is read where its encoding stands, and takes as many bytes. -/
theorem Compact.decode_ok_iff_encode_isPrefix (s : Bytes) (v : UInt64) (n : Nat) :
    Compact.decode s = .ok (v, n) ↔ n = (Compact.encode v).length ∧ Compact.encode v <+: s := by
  constructor
  · intro h
    obtain ⟨rfl, hs⟩ := eq_encode_append_of_decode h
    exact ⟨(length_encode v).symm, _, hs.symm⟩
  · rintro ⟨rfl, t, rfl⟩
    rw [decode_encode_append, length_encode]

namespace Collection

variable {limits : Limits} {buffer : Bytes} {c : Collection}

/-- A collection within the limits is read where its encoding stands. -/
theorem reading_of_encode (h : c.encode <+: buffer) (hw : c.IsWithin limits) :
    Reading limits buffer (.ok c) c := by
  obtain ⟨rest, hb⟩ := h
  have hc := hw.toNat_length
  have ho : Opens limits buffer (.ofNat c.length) c rest := by
    refine ⟨?_, ?_, hw.2⟩
    · rw [← hb, encode, List.append_assoc]
    · rw [UInt64.le_iff_toNat_le, hc]
      exact hw.1
  exact .whole ho hc.symm

/-- A collection that is read stands there, and is within the limits. -/
theorem Reading.encode_isPrefix {c' : Collection} (h : Reading limits buffer (.ok c) c') :
    c.encode <+: buffer ∧ c.IsWithin limits := by
  cases h with
  | @whole count _ rest ho hc =>
    have hn : UInt64.ofNat c.length = count := by rw [hc, UInt64.ofNat_toNat]
    refine ⟨⟨rest, ?_⟩, ?_, ho.isWithin⟩
    · rw [encode, hn, List.append_assoc]
      exact ho.eq_append.symm
    · rw [hc]
      exact UInt64.le_iff_toNat_le.1 ho.count_le

/-- A collection is read of the buffers that start with its encoding, if it has no more
    records than the limit, and none of its fields is longer than the limit. -/
theorem decode_ok_iff_isPrefix_and_within (limits : Limits) (buffer : Bytes) (c : Collection) :
    decode limits buffer = .ok c ↔
      c.encode <+: buffer ∧ c.length ≤ limits.maxRecords.toNat ∧
        ∀ r ∈ c, (ofText r.tag).length ≤ limits.maxFieldLength.toNat ∧
          r.payload.length ≤ limits.maxFieldLength.toNat := by
  constructor
  · intro h
    obtain ⟨_, hr⟩ := exists_reading h
    exact hr.encode_isPrefix
  · rintro ⟨he, hw⟩
    exact (reading_of_encode he hw).eq.1

end Collection

end IntentWire
