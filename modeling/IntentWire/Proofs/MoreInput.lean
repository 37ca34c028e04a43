import IntentWire.Framing.Reading
import IntentWire.Reader.Extension

/-!
# More input

A buffer of which only the start is there can be decoded as far as it goes. A collection
that is read, and an error that does not say that bytes are missing, are settled: whatever
comes after, it is the same. An error that says so tells how many bytes are needed and how
many available. With fewer more than are missing it stays in the same place, with these
counted as available too.

* `Record.Fault.append`: faults, with more bytes.
* `Collection.Reading.append_ok`, `Collection.Reading.append_error`: what comes of a
  buffer, with more bytes.
-/

namespace IntentWire

open Bytes

/-! ### Errors -/

namespace FrameError

/-- Whether an error is one still when `n` bytes more are there. -/
def Stands (n : Nat) : FrameError → Prop
  | .malformedCollection cause => cause.Stands n
  | .truncatedRecord _ cause => cause.Stands n
  | _ => True

/-- The error with `n` bytes more there. -/
def withMore (n : Nat) : FrameError → FrameError
  | .malformedCollection cause => .malformedCollection (cause.withMore n)
  | .truncatedRecord index cause => .truncatedRecord index (cause.withMore n)
  | e => e

/-- Whether an error is one whatever bytes are there more: it does not say that bytes are
    missing, of the count or of a record. -/
def isSettled : FrameError → Bool
  | .malformedCollection cause => cause.isSettled
  | .truncatedRecord _ cause => cause.isSettled
  | _ => true

theorem stands_of_isSettled {e : FrameError} (h : e.isSettled = true) (n : Nat) :
    e.Stands n := by
  cases e with
  | malformedCollection | truncatedRecord => exact ReadError.stands_of_isSettled h n
  | malformedRecord | invalidTag | tooManyRecords | fieldTooLarge => trivial

theorem withMore_of_isSettled {e : FrameError} (h : e.isSettled = true) (n : Nat) :
    e.withMore n = e := by
  cases e with
  | malformedCollection => exact congrArg _ (ReadError.withMore_of_isSettled h n)
  | truncatedRecord => exact congrArg _ (ReadError.withMore_of_isSettled h n)
  | malformedRecord | invalidTag | tooManyRecords | fieldTooLarge => rfl

end FrameError

/-! ### Records -/

namespace Record

variable {limits : Limits} {index : Nat} {s : Bytes} {e : FrameError}

/-- A fault of a field is the same with more bytes, if it stands. -/
theorem FieldFault.append (h : FieldFault limits index s e) :
    e.Stands 0 ∧ ∀ t : Bytes, e.Stands t.length →
      FieldFault limits index (s ++ t) (e.withMore t.length) := by
  cases h with
  | lengthTruncated hd =>
    obtain ⟨h0, ht⟩ := Compact.decode_append_of_error hd
    exact ⟨h0, fun t hs => .lengthTruncated (ht t hs)⟩
  | lengthNonCanonical hd =>
    obtain ⟨-, ht⟩ := Compact.decode_append_of_error hd
    exact ⟨trivial, fun t hs => .lengthNonCanonical (ht t hs)⟩
  | lengthOverflow hd =>
    obtain ⟨-, ht⟩ := Compact.decode_append_of_error hd
    exact ⟨trivial, fun t hs => .lengthOverflow (ht t hs)⟩
  | tooLarge hd hlt => exact ⟨trivial, fun t _ => .tooLarge (Compact.decode_append_of_ok hd t) hlt⟩
  | @absent size n hd hle habs =>
    refine ⟨habs, fun t hs => ?_⟩
    -- The bytes behind the length are followed by those added.
    have hdrop : (s ++ t).drop n = s.drop n ++ t :=
      List.drop_append_of_le_length (Compact.le_length_of_decode hd)
    have hlen : ((s ++ t).drop n).length = (s.drop n).length + t.length := by
      rw [hdrop, List.length_append]
    have hf : FieldFault limits index (s ++ t) _ :=
      .absent (Compact.decode_append_of_ok hd t) hle (hlen ▸ hs)
    rw [hlen] at hf
    exact hf

/-- A fault is the same with more bytes, if it stands. -/
theorem Fault.append (h : Fault limits index s e) :
    e.Stands 0 ∧ ∀ t : Bytes, e.Stands t.length →
      Fault limits index (s ++ t) (e.withMore t.length) := by
  cases h with
  | tag h =>
    obtain ⟨h0, ht⟩ := h.append
    exact ⟨h0, fun t hs => .tag (ht t hs)⟩
  | notText hf hl hb =>
    exact ⟨trivial, fun t _ => .notText (hf.trans (List.prefix_append s t)) hl hb⟩
  | @payload tag _ hf hl h =>
    obtain ⟨h0, ht⟩ := h.append
    refine ⟨h0, fun t hs => .payload (hf.trans (List.prefix_append s t)) hl ?_⟩
    rw [List.drop_append_of_le_length (length_field (ofText tag) ▸ hf.length_le)]
    exact ht t hs

end Record

/-! ### Collections -/

namespace Collection

variable {limits : Limits} {buffer : Bytes} {count : UInt64} {c : Collection} {rest : Bytes}

theorem Opens.append (h : Opens limits buffer count c rest) (t : Bytes) :
    Opens limits (buffer ++ t) count c (rest ++ t) := by
  refine ⟨?_, h.count_le, h.isWithin⟩
  rw [h.eq_append]
  simp only [List.append_assoc]

/-- A collection that is read is read with more bytes behind it. -/
theorem Reading.append_ok {c' : Collection} (h : Reading limits buffer (.ok c) c') (t : Bytes) :
    Reading limits (buffer ++ t) (.ok c) c' := by
  cases h with
  | whole ho hc => exact .whole (ho.append t) hc

/-- An error is the same with more bytes, if it stands, and so are the records that are
    read before it. -/
theorem Reading.append_error {e : FrameError} (h : Reading limits buffer (.error e) c) :
    e.Stands 0 ∧ ∀ t : Bytes, e.Stands t.length →
      Reading limits (buffer ++ t) (.error (e.withMore t.length)) c := by
  cases h with
  | uncounted hd =>
    obtain ⟨h0, ht⟩ := Compact.decode_append_of_error hd
    exact ⟨h0, fun t hs => .uncounted (ht t hs)⟩
  | tooMany hd hlt => exact ⟨trivial, fun t _ => .tooMany (Compact.decode_append_of_ok hd t) hlt⟩
  | fault ho hc hf =>
    obtain ⟨h0, ht⟩ := hf.append
    exact ⟨h0, fun t hs => .fault (ho.append t) hc (ht t hs)⟩

theorem decode_append_of_ok (h : decode limits buffer = .ok c) (t : Bytes) :
    decode limits (buffer ++ t) = .ok c := by
  obtain ⟨_, hr⟩ := exists_reading h
  exact (hr.append_ok t).eq.1

theorem decode_append_of_error {e : FrameError} (h : decode limits buffer = .error e) :
    e.Stands 0 ∧ ∀ t : Bytes, e.Stands t.length →
      decode limits (buffer ++ t) = .error (e.withMore t.length) := by
  obtain ⟨_, hr⟩ := exists_reading h
  obtain ⟨h0, ht⟩ := hr.append_error
  exact ⟨h0, fun t hs => (ht t hs).eq.1⟩

open Reader in
/-- What comes of a buffer with more bytes behind it, and of an operation of a reader
    anywhere in the buffer.

    * A collection that is read, and an error that is settled, are the same.
    * An error that tells of bytes missing tells of more bytes needed than available. With
      fewer more than are missing it is the same, but for those available.
    * So is what an operation finds, and why it fails. -/
theorem decode_append (limits : Limits) (buffer more : Bytes) :
    (∀ c, decode limits buffer = .ok c → decode limits (buffer ++ more) = .ok c) ∧
      (∀ e, decode limits buffer = .error e → e.isSettled = true →
        decode limits (buffer ++ more) = .error e) ∧
      (∀ needed available,
        decode limits buffer = .error (.malformedCollection (.truncated needed available)) →
        available < needed ∧ (more.length < needed - available →
          decode limits (buffer ++ more) =
            .error (.malformedCollection (.truncated needed (available + more.length))))) ∧
      (∀ index needed available,
        decode limits buffer = .error (.truncatedRecord index (.truncated needed available)) →
        available < needed ∧ (more.length < needed - available →
          decode limits (buffer ++ more) =
            .error (.truncatedRecord index (.truncated needed (available + more.length))))) ∧
      ∀ (op : Operation) (position : Nat), position ≤ buffer.length →
        let r := (ofBytes buffer).advance position
        let r' := (ofBytes (buffer ++ more)).advance position
        (∀ a, op.result r = .ok a →
          op.result r' = .ok a ∧ (op.next r').position = (op.next r).position) ∧
        (∀ e, op.result r = .error e → e.isSettled = true → op.result r' = .error e) ∧
        ∀ needed available, op.result r = .error (.truncated needed available) →
          available < needed ∧ (more.length < needed - available →
            op.result r' = .error (.truncated needed (available + more.length))) := by
  refine ⟨fun c h => decode_append_of_ok h more, fun e h he => ?_, fun needed available h => ?_,
    fun index needed available h => ?_, fun op position hp => ?_⟩
  · have ht := (decode_append_of_error h).2 more (FrameError.stands_of_isSettled he _)
    rwa [FrameError.withMore_of_isSettled he] at ht
  · obtain ⟨h0, ht⟩ := decode_append_of_error h
    exact ⟨h0, fun hm => ht more (Nat.add_lt_of_lt_sub' hm)⟩
  · obtain ⟨h0, ht⟩ := decode_append_of_error h
    exact ⟨h0, fun hm => ht more (Nat.add_lt_of_lt_sub' hm)⟩
  · intro r r'
    have hr : r' = r.withMore more := withMore_advance (r := ofBytes buffer) hp more
    rw [hr]
    refine ⟨fun a h => Operation.result_withMore_of_ok h more, fun e h he => ?_,
      fun needed available h => ?_⟩
    · have ht := (Operation.result_withMore_of_error h).2 more (ReadError.stands_of_isSettled he _)
      rwa [ReadError.withMore_of_isSettled he] at ht
    · obtain ⟨h0, ht⟩ := Operation.result_withMore_of_error h
      exact ⟨h0, fun hm => ht more (Nat.add_lt_of_lt_sub' hm)⟩

/-- A payload of five bytes of which two are there, and then two more: still one is
    missing, of the payload alone too. A length that has a shorter encoding is refused
    whatever comes after it. -/
theorem decode_append_payload :
    decode {} [4, 4, 97, 20, 1, 2] = .error (.truncatedRecord 0 (.truncated 5 2)) ∧
      decode {} [4, 4, 97, 20, 1, 2, 3, 4] = .error (.truncatedRecord 0 (.truncated 5 4)) ∧
      Reader.Operation.bytes.result ⟨3, [20, 1, 2, 3, 4]⟩ = .error (.truncated 5 4) ∧
      decode {} [4, 5, 0] = .error (.malformedRecord 0 (.nonCanonical 1 2)) ∧
      decode {} [4, 5, 0, 97, 0] = .error (.malformedRecord 0 (.nonCanonical 1 2)) := by
  have hpayload : decode {} [4, 4, 97, 20, 1, 2] =
    .error (.truncatedRecord 0 (.truncated 5 2)) := rfl
  have hfield : Reader.Operation.bytes.result ⟨3, [20, 1, 2]⟩ = .error (.truncated 5 2) := rfl
  have hlength : decode {} [4, 5, 0] = .error (.malformedRecord 0 (.nonCanonical 1 2)) := rfl
  obtain ⟨-, -, -, hrecord, hop⟩ := decode_append {} [4, 4, 97, 20, 1, 2] [3, 4]
  obtain ⟨-, hsettled, -⟩ := decode_append {} [4, 5, 0] [97, 0]
  exact ⟨hpayload, (hrecord 0 5 2 hpayload).2 (by decide),
    ((hop .bytes 3 (by decide)).2.2 5 2 hfield).2 (by decide), hlength, hsettled _ hlength rfl⟩

end Collection

end IntentWire
