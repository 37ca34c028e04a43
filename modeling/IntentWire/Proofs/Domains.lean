import IntentWire.Checked.Lemmas

/-!
# No input stops the decoding

Whatever bytes a buffer or a payload holds, decoding it takes no slice and no byte that is
not there, copies no bytes to a place of another length, and comes below zero or out of a
word in no sum or difference. The checked decoding, which would be stopped by any of these,
comes to a result or to an error, and to the same one as decoding does.
-/

namespace IntentWire.Checked

open IntentWire.Compact

/-- Decoding a buffer within any limits is never stopped, as long as a word can count its
    bytes, nor is decoding a payload of any type. In particular, the bytes of a value that
    are copied to the front of a word are four at least and eight at most, as many as the
    place that they are copied to, and there is a last one. -/
theorem decode_never_stopped :
    (∀ (limits : Limits) (buffer : Bytes), buffer.length < UInt64.size →
        decodeIntents limits buffer = some (decodeIntentsWithin limits buffer)) ∧
      (∀ (tag : String) (payload : Bytes),
        decode tag payload = some (Statement.decode tag payload)) ∧
      ∀ (first : UInt8) (s raw : Bytes), Mode.ofFirst first = .big →
        headerWidth first ≤ maxWidth → slice s 1 (headerWidth first) = some raw →
        4 ≤ raw.length ∧ raw.length ≤ 8 ∧
          (∃ front, slice (List.replicate 8 0) 0 (headerWidth first - 1) = some front ∧
            front.length = raw.length) ∧
          ∃ top, raw[headerWidth first - 1 - 1]? = some top := by
  refine ⟨fun limits _ h => decodeIntents_eq limits h, decode_eq, fun first s raw hm hw hr => ?_⟩
  have hl : raw.length = headerWidth first - 1 := length_of_slice hr
  obtain ⟨h4, h8⟩ := valueBytes_of_big hm hw
  have hfront : slice (List.replicate 8 0) 0 (headerWidth first - 1) = some _ :=
    slice_of_le (Nat.zero_le _) (by rwa [List.length_replicate])
  refine ⟨hl ▸ h4, hl ▸ h8, ⟨_, hfront, ?_⟩, raw[headerWidth first - 1 - 1], ?_⟩
  · rw [length_of_slice hfront, hl, Nat.sub_zero]
  · exact List.getElem?_eq_getElem (by omega)

/-- The tag of a record is declared with four bytes of value, and is not there. As a text,
    the same bytes are no length. -/
theorem decode_never_stopped_wide :
    ([4, 3, 0, 0, 0, 64] : Bytes).length < UInt64.size ∧
      decodeIntents {} [4, 3, 0, 0, 0, 64] =
        some ⟨.error (.fieldTooLarge 0 1073741824 16777216), []⟩ ∧
      decode "Note" [3, 0, 0, 0, 64] = some ⟨.plainText "\x03\x00\x00\x00@", []⟩ ∧
      slice [3, 0, 0, 0, 64] 1 (headerWidth 3) = some [0, 0, 0, 64] ∧
      4 ≤ ([0, 0, 0, 64] : Bytes).length ∧ ([0, 0, 0, 64] : Bytes).length ≤ 8 := by
  have hlen : ([4, 3, 0, 0, 0, 64] : Bytes).length < UInt64.size := by decide
  have hslice : slice [3, 0, 0, 0, 64] 1 (headerWidth 3) = some [0, 0, 0, 64] := by decide
  obtain ⟨hbuffer, hpayload, hraw⟩ := decode_never_stopped
  obtain ⟨h4, h8, -⟩ := hraw 3 _ _ (by decide) (by decide) hslice
  exact ⟨hlen, hbuffer {} _ hlen, hpayload "Note" _, hslice, h4, h8⟩

end IntentWire.Checked
