import IntentWire.Compact.Layout
import IntentWire.Statement.Lemmas
import Mathlib.Data.Set.Insert

/-!
# The payloads of a text

A text has two payloads at most: its bytes behind their length, and its bytes as they are. The
latter are no payload of it if they start with what counts the others themselves, as these bytes
are then taken off. Only the encoding of the number of the bytes behind it is: neither another
layout of this number, nor the encoding of another one.

* `Statement.IsWrapped`: a payload is a byte string behind its length.
* `Statement.isWrapped_append_iff`: when a payload that starts with a layout is wrapped.
* `Statement.value_decodePlainText_eq_iff`: the payloads of a text.
-/

namespace IntentWire.Statement

open Bytes

/-- Whether a payload is the encoding of a number and as many bytes. -/
def IsWrapped (payload : Bytes) : Prop :=
  ∃ n body, payload = Compact.encode n ++ body ∧ body.length = n.toNat

variable {payload b : Bytes} {s : String}

theorem isWrapped_field (h : b.length < UInt64.size) : IsWrapped (field b) :=
  ⟨.ofNat b.length, b, rfl, (UInt64.toNat_ofNat_of_lt' h).symm⟩

/-- A payload that is wrapped is the field of what is in it. -/
theorem IsWrapped.exists_eq_field (h : IsWrapped payload) :
    ∃ b, payload = field b ∧ b.length < UInt64.size := by
  obtain ⟨n, b, rfl, hl⟩ := h
  refine ⟨b, ?_, hl ▸ n.toNat_lt⟩
  rw [field, hl, UInt64.ofNat_toNat]

/-- Nothing is taken off a payload that is not wrapped. -/
theorem stripLength_of_not_isWrapped (h : ¬IsWrapped payload) :
    stripLength payload = pure payload :=
  stripLength_eq_self fun n b hb hl => h ⟨n, b, hb, hl⟩

/-- A payload that starts with a layout is wrapped just when this is the encoding of the number
    of the bytes behind it. -/
theorem isWrapped_append_iff {q rest : Bytes} {n : Nat} (hq : Compact.Carries q n) :
    IsWrapped (q ++ rest) ↔ n = rest.length ∧ ∃ v, q = Compact.encode v := by
  constructor
  · rintro ⟨v, body, he, hl⟩
    obtain ⟨rfl, rfl⟩ := hq.isWhole.append_inj (Compact.carries_encode v).isWhole he
    exact ⟨(hq.unique (Compact.carries_encode v)).trans hl.symm, v, rfl⟩
  · rintro ⟨rfl, v, rfl⟩
    exact ⟨v, rest, rfl, hq.unique (Compact.carries_encode v)⟩

/-- A payload is decoded to the text whose bytes are left of it. -/
theorem value_decodePlainText_eq_plainText_iff :
    (decodePlainText payload).value = .plainText s ↔ (stripLength payload).value = ofText s := by
  rw [value_decodePlainText, ← text?_eq_some_iff]
  cases text? (stripLength payload).value with
  | none => exact iff_of_false nofun nofun
  | some t => rw [Statement.plainText.injEq, Option.some.injEq]

/-- The bytes that are left of a payload are those in it if it is wrapped, and else all. -/
theorem value_stripLength_eq_iff :
    (stripLength payload).value = b ↔
      (payload = field b ∧ b.length < UInt64.size) ∨ (payload = b ∧ ¬IsWrapped payload) := by
  by_cases hw : IsWrapped payload
  · obtain ⟨c, rfl, hc⟩ := hw.exists_eq_field
    rw [value_stripLength_field hc]
    constructor
    · rintro rfl
      exact .inl ⟨rfl, hc⟩
    · rintro (⟨he, hl⟩ | ⟨-, hn⟩)
      · rw [← value_stripLength_field hc, he, value_stripLength_field hl]
      · exact absurd hw hn
  · rw [stripLength_of_not_isWrapped hw, Logged.value_pure]
    constructor
    · rintro rfl
      exact .inr ⟨rfl, hw⟩
    · rintro (⟨rfl, hl⟩ | ⟨rfl, -⟩)
      · exact absurd (isWrapped_field hl) hw
      · rfl

/-- The payloads of a text. The length of a text is a word.

    * A payload is decoded to a text just when it is the bytes of the text behind their length,
      or these bytes as they are, unless they are wrapped.
    * Of a byte string behind its length just the length is taken off, whatever the byte string
      holds, and even if it is wrapped itself.
    * Nothing is taken off a payload that is not wrapped. In particular, nothing is if it starts
      with a layout that is not an encoding, or one of another number than that of the bytes
      behind it.
    * So a text has two payloads at most. -/
theorem value_decodePlainText_eq_iff (payload : Bytes) (s : String) :
    ((decodePlainText payload).value = .plainText s ↔
        (payload = putText [] s ∧ (ofText s).length < UInt64.size) ∨
          (payload = ofText s ∧ ¬IsWrapped payload)) ∧
      (∀ b : Bytes, b.length < UInt64.size → (stripLength (putBytes [] b)).value = b) ∧
      (¬IsWrapped payload → stripLength payload = pure payload) ∧
      (∀ q n rest, Compact.Carries q n →
        (∀ v, q ≠ Compact.encode v) ∨ n ≠ rest.length →
          stripLength (q ++ rest) = pure (q ++ rest)) ∧
      {p | (decodePlainText p).value = .plainText s} ⊆ {putText [] s, ofText s} := by
  refine ⟨value_decodePlainText_eq_plainText_iff.trans value_stripLength_eq_iff,
    fun _ => value_stripLength_field, stripLength_of_not_isWrapped, fun q n rest hq h => ?_,
    fun p hp => ?_⟩
  · refine stripLength_of_not_isWrapped fun hw => ?_
    obtain ⟨hn, v, hv⟩ := (isWrapped_append_iff hq).1 hw
    exact h.elim (fun hne => hne v hv) fun hne => hne hn
  · rcases value_stripLength_eq_iff.1 (value_decodePlainText_eq_plainText_iff.1 hp) with h | h
    · exact .inl h.1
    · exact .inr h.1

/-- A letter that is wrapped twice, a letter alone, and one behind two bytes that are a layout
    of its number of bytes. -/
theorem value_decodePlainText_eq_iff_letter :
    ([4, 97] : Bytes).length < UInt64.size ∧ (stripLength (putBytes [] [4, 97])).value = [4, 97] ∧
      ¬IsWrapped [97] ∧ stripLength [97] = pure [97] ∧
      Compact.Carries [5, 0] 1 ∧ (∀ v, ([5, 0] : Bytes) ≠ Compact.encode v) ∧
      stripLength [5, 0, 97] = pure [5, 0, 97] := by
  have hl : ([4, 97] : Bytes).length < UInt64.size := by decide
  have hbare : ¬IsWrapped [97] := by
    rintro ⟨n, body, he, -⟩
    have hd : Compact.decode [97] = .error (.truncated 2 1) := by decide
    rw [he, Compact.decode_encode_append] at hd
    cases hd
  have hq : Compact.Carries [5, 0] 1 := Compact.carries_cons_iff.2 ⟨by decide, by decide⟩
  have hne : ∀ v, ([5, 0] : Bytes) ≠ Compact.encode v := by
    intro v he
    have hd : Compact.decode ([5, 0] ++ []) = .error (.nonCanonical 1 2) := by decide
    rw [he, Compact.decode_encode_append] at hd
    cases hd
  obtain ⟨-, htwice, halone, hpadded, -⟩ := value_decodePlainText_eq_iff [97] "a"
  exact ⟨hl, htwice _ hl, hbare, halone hbare, hq, hne, hpadded _ _ [97] hq (.inl hne)⟩

end IntentWire.Statement
