import IntentWire.Statement.Lemmas

/-!
# What is reported of a payload

Decoding a payload reports at most two things: that a length in front of it is taken off,
and then that it makes no sense. Both are told from the type and the bytes alone
(`Statement.Remarks`), and neither needs the other: a payload may lose a length and make
no sense all the same.

* `Statement.Unwraps`: the length that is taken off a payload of a type.
* `Statement.remarks_decode`: decoding reports just this.
-/

namespace IntentWire.Statement

/-- The event of the length that is taken off a payload of the type `tag`. Of a payload of
    the known types other than `Tag.psp22` none is. -/
inductive Unwraps (tag : String) (payload : Bytes) : Event → Prop
  /-- An account and its balance lose a length of the width that the first byte tells,
      whatever it says, unless they are bare or too short to have one. -/
  | tuple {first : UInt8} {rest : Bytes} :
    tag = Tag.psp22 → payload = first :: rest → payload.length ∉ [0, 1, tupleSize] →
      Compact.headerWidth first ≤ payload.length →
      Unwraps tag payload (.skippedTupleLength (Compact.headerWidth first))
  /-- A text loses the encoding of the number of bytes after it. -/
  | text {declared : UInt64} {rest : Bytes} :
    tag ∉ Tag.known → payload = Compact.encode declared ++ rest →
      rest.length = declared.toNat →
      Unwraps tag payload (.strippedTextLength declared (Compact.encode declared).length)

/-- What is reported of a payload of the type `tag`: the length that is taken off, if one
    is, and then why there is no statement, if there is none. -/
def Remarks (tag : String) (payload : Bytes) (events : List Event) : Prop :=
  ∃ unwrapped complaint : Option Event, events = unwrapped.toList ++ complaint.toList ∧
    (∀ e, unwrapped = some e ↔ Unwraps tag payload e) ∧
    ∀ e, complaint = some e ↔ ∃ reason, (decode tag payload).value = .invalid reason ∧
      e = .undecodedStatement tag payload.length reason

theorem Unwraps.level_eq {tag : String} {payload : Bytes} {e : Event}
    (h : Unwraps tag payload e) : e.level = .trace := by
  cases h <;> rfl

/-- The event of a payload of the type `tag` that has no statement. -/
def complaint? (tag : String) (payload : Bytes) : Statement → Option Event
  | .invalid reason => some (.undecodedStatement tag payload.length reason)
  | _ => none

theorem complaint?_eq_some_iff {tag : String} {payload : Bytes} {s : Statement} {e : Event} :
    complaint? tag payload s = some e ↔
      ∃ reason, s = .invalid reason ∧ e = .undecodedStatement tag payload.length reason := by
  cases s <;> simp [complaint?, eq_comm]

/-- What a decoder reports comes first. -/
theorem events_decodeWith (decoder : Decoder) (tag : String) (payload : Bytes) :
    (decodeWith decoder tag payload).events =
      (decoder payload).events ++ (complaint? tag payload (decoder payload).value).toList := by
  rw [decodeWith, Logged.events_bind]
  congr 1
  cases (decoder payload).value <;> rfl

/-! ### Lengths that are taken off -/

theorem psp22_mem_known : Tag.psp22 ∈ Tag.known :=
  Tag.mem_known.2 (.inl rfl)

theorem unwraps_psp22_iff {payload : Bytes} {e : Event} :
    Unwraps Tag.psp22 payload e ↔ ∃ first rest, payload = first :: rest ∧
      payload.length ∉ [0, 1, tupleSize] ∧ Compact.headerWidth first ≤ payload.length ∧
      e = .skippedTupleLength (Compact.headerWidth first) := by
  constructor
  · intro h
    cases h with
    | tuple _ hp hl hw => exact ⟨_, _, hp, hl, hw, rfl⟩
    | text ht => exact absurd psp22_mem_known ht
  · rintro ⟨first, rest, hp, hl, hw, rfl⟩
    exact .tuple rfl hp hl hw

theorem unwraps_of_unknown_iff {tag : String} (ht : tag ∉ Tag.known) {payload : Bytes}
    {e : Event} : Unwraps tag payload e ↔ ∃ declared rest,
      payload = Compact.encode declared ++ rest ∧ rest.length = declared.toNat ∧
      e = .strippedTextLength declared (Compact.encode declared).length := by
  constructor
  · intro h
    cases h with
    | tuple h => exact absurd (h ▸ psp22_mem_known) ht
    | text _ hp hr => exact ⟨_, _, hp, hr, rfl⟩
  · rintro ⟨declared, rest, hp, hr, rfl⟩
    exact .text ht hp hr

theorem not_unwraps {tag : String} (hk : tag ∈ Tag.known) (h : tag ≠ Tag.psp22)
    {payload : Bytes} {e : Event} : ¬ Unwraps tag payload e := by
  intro hu
  cases hu with
  | tuple ht => exact h ht
  | text ht => exact ht hk

/-- Of an account and its balance the decoder reports the length that it skips. -/
theorem events_decodePsp22 (payload : Bytes) :
    ∃ unwrapped : Option Event, (decodePsp22 payload).events = unwrapped.toList ∧
      ∀ e, unwrapped = some e ↔ Unwraps Tag.psp22 payload e := by
  simp only [unwraps_psp22_iff]
  by_cases hl : payload.length = tupleSize
  · rw [decodePsp22, dif_pos hl]
    exact ⟨none, rfl, by simp [hl]⟩
  rw [decodePsp22, dif_neg hl]
  rcases payload with _ | ⟨first, _ | ⟨second, rest⟩⟩
  · exact ⟨none, rfl, by simp⟩
  · exact ⟨none, rfl, by simp⟩
  have hlen : (first :: second :: rest).length ∉ [0, 1, tupleSize] := by
    simpa using hl
  dsimp only
  by_cases hw : (first :: second :: rest).length < Compact.headerWidth first
  · rw [if_pos hw]
    refine ⟨none, rfl, fun e => iff_of_false (Option.some_ne_none e).symm ?_⟩
    rintro ⟨_, _, hp, -, hle, -⟩
    cases hp
    exact absurd hw (Nat.not_lt.2 hle)
  · rw [if_neg hw]
    refine ⟨some (.skippedTupleLength (Compact.headerWidth first)), ?_, fun e => ⟨?_, ?_⟩⟩
    · rw [Logged.events_bind]
      split <;> rfl
    · intro h
      cases h
      exact ⟨first, _, rfl, hlen, Nat.not_lt.1 hw, rfl⟩
    · rintro ⟨_, _, hp, -, -, rfl⟩
      cases hp
      rfl

/-- Of a text the decoder reports the length that it strips. -/
theorem events_stripLength {tag : String} (ht : tag ∉ Tag.known) (payload : Bytes) :
    ∃ unwrapped : Option Event, (stripLength payload).events = unwrapped.toList ∧
      ∀ e, unwrapped = some e ↔ Unwraps tag payload e := by
  simp only [unwraps_of_unknown_iff ht]
  by_cases h : ∃ declared rest,
      payload = Compact.encode declared ++ rest ∧ rest.length = declared.toNat
  · obtain ⟨declared, rest, rfl, hr⟩ := h
    rw [stripLength_encode_append hr]
    refine ⟨some (.strippedTextLength declared (Compact.width declared)), rfl, fun e => ⟨?_, ?_⟩⟩
    · intro he
      cases he
      exact ⟨declared, rest, rfl, hr, by rw [Compact.length_encode]⟩
    · rintro ⟨declared', rest', hp, -, rfl⟩
      obtain ⟨rfl, -⟩ := Compact.encode_append_inj hp
      rw [Compact.length_encode]
  · rw [stripLength_eq_self fun declared rest hp hr => h ⟨declared, rest, hp, hr⟩]
    refine ⟨none, rfl, fun e => iff_of_false (Option.some_ne_none e).symm ?_⟩
    rintro ⟨declared, rest, hp, hr, -⟩
    exact h ⟨declared, rest, hp, hr⟩

theorem events_decodePlainText (payload : Bytes) :
    (decodePlainText payload).events = (stripLength payload).events := by
  rw [decodePlainText, Logged.events_bind]
  cases Bytes.text? (stripLength payload).value <;> simp

/-! ### By type -/

theorem remarks_of_decodeWith (decoder : Decoder) {tag : String} {payload : Bytes}
    (hd : decode tag payload = decodeWith decoder tag payload)
    (hu : ∃ unwrapped : Option Event, (decoder payload).events = unwrapped.toList ∧
      ∀ e, unwrapped = some e ↔ Unwraps tag payload e) :
    Remarks tag payload (decode tag payload).events := by
  obtain ⟨unwrapped, he, hu⟩ := hu
  refine ⟨unwrapped, complaint? tag payload (decoder payload).value, ?_, hu, fun e => ?_⟩
  · rw [hd, events_decodeWith, he]
  · rw [hd, value_decodeWith, complaint?_eq_some_iff]

/-- Decoding a payload reports the length that is taken off and the payload that makes no
    sense, and nothing else. -/
theorem remarks_decode (tag : String) (payload : Bytes) :
    Remarks tag payload (decode tag payload).events := by
  by_cases hk : tag ∈ Tag.known
  · rcases Tag.mem_known.1 hk with rfl | rfl | rfl
    · exact remarks_of_decodeWith decodePsp22 rfl (events_decodePsp22 payload)
    · exact remarks_of_decodeWith decodePassword rfl ⟨none, rfl, fun _ =>
        iff_of_false (Option.some_ne_none _).symm (not_unwraps hk (by decide))⟩
    · exact remarks_of_decodeWith decodeSr25519 rfl ⟨none, rfl, fun _ =>
        iff_of_false (Option.some_ne_none _).symm (not_unwraps hk (by decide))⟩
  · refine remarks_of_decodeWith decodePlainText (decode_of_unknown hk payload) ?_
    rw [events_decodePlainText]
    exact events_stripLength hk payload

end IntentWire.Statement
