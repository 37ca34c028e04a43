import IntentWire.Bytes

/-!
# UTF-8

A text is carried by its UTF-8 bytes, `Bytes.ofText`. Not every byte string is
the UTF-8 of a text: `Bytes.text?` gives the text, if there is one.

* `text?_eq_some_iff`: reading gives a text exactly on the bytes of that text,
  so that no text has two byte strings.
* `isSome_text?_iff_firstByte`: what is behind a place within the bytes of a text is a text
  just when a character starts there, and then so is what is in front
  (`exists_append_of_ofText_eq`).
-/

namespace IntentWire.Bytes

/-- The UTF-8 bytes of a text. -/
def ofText (s : String) : Bytes :=
  s.toUTF8.data.toList

/-- The text whose UTF-8 bytes are `b`; there is none if `b` is not valid UTF-8. -/
def text? (b : Bytes) : Option String :=
  String.fromUTF8? ⟨b.toArray⟩

@[simp] theorem length_ofText (s : String) : (ofText s).length = s.utf8ByteSize := by
  simp [ofText]

theorem text?_eq_some_iff {b : Bytes} {s : String} : text? b = some s ↔ b = ofText s := by
  rw [text?, String.fromUTF8?]
  constructor
  · intro h
    split at h
    · cases h
      simp [ofText, String.fromUTF8]
    · cases h
  · rintro rfl
    have hs : (⟨(ofText s).toArray⟩ : ByteArray) = s.toByteArray := by
      simp [ofText]
    rw [dif_pos (hs ▸ s.isValidUTF8)]
    congr 1

@[simp] theorem text?_ofText (s : String) : text? (ofText s) = some s :=
  text?_eq_some_iff.2 rfl

theorem ofText_injective {s t : String} (h : ofText s = ofText t) : s = t :=
  Option.some.inj ((text?_ofText s).symm.trans (h ▸ text?_ofText t))

theorem ofText_append (s t : String) : ofText (s ++ t) = ofText s ++ ofText t := by
  simp [ofText]

theorem isSome_text?_iff {b : Bytes} :
    (text? b).isSome ↔ (⟨b.toArray⟩ : ByteArray).IsValidUTF8 := by
  rw [text?, String.fromUTF8?]
  split
  · next h => exact iff_of_true rfl h
  · next h => exact iff_of_false Bool.false_ne_true h

/-! ### Places within a text -/

/-- An ASCII character is a byte of its own. -/
theorem isUTF8FirstByte_of_lt {x : UInt8} (h : x < 128) : x.IsUTF8FirstByte := by
  have hand : ∀ n, n < 128 → n &&& 128 = 0 := by decide
  refine .inl (UInt8.toNat_inj.1 ?_)
  rw [UInt8.toNat_and]
  exact hand x.toNat (UInt8.lt_iff_toNat_lt.1 h)

theorem extract_toByteArray (s : String) (i j : Nat) :
    s.toByteArray.extract i j = ⟨((ofText s).extract i j).toArray⟩ := by
  apply ByteArray.ext
  apply Array.toList_inj.1
  simp [ofText, ByteArray.data_extract]

section Cut

variable {s : String} {p r : Bytes}

theorem utf8ByteSize_eq_of_append (h : ofText s = p ++ r) :
    s.utf8ByteSize = p.length + r.length := by
  rw [← length_ofText, h, List.length_append]

theorem le_rawEndPos_of_append (h : ofText s = p ++ r) : ⟨p.length⟩ ≤ s.rawEndPos := by
  rw [String.Pos.Raw.le_iff]
  exact Nat.le.intro (utf8ByteSize_eq_of_append h).symm

/-- The bytes behind a place within the bytes of a text are a text if the place is between two
    characters. -/
theorem isSome_text?_iff_isValid (h : ofText s = p ++ r) :
    (text? r).isSome ↔ String.Pos.Raw.IsValid s ⟨p.length⟩ := by
  have hr : (ofText s).extract p.length s.utf8ByteSize = r := by
    rw [utf8ByteSize_eq_of_append h, h]
    simp
  rw [isSome_text?_iff, String.Pos.Raw.isValid_iff_isValidUTF8_extract_utf8ByteSize,
    and_iff_right (le_rawEndPos_of_append h), extract_toByteArray, hr]

/-- A place is between two characters if no byte is behind it, or the first of a character. -/
theorem isSome_text?_iff_firstByte (h : ofText s = p ++ r) :
    (text? r).isSome ↔ ∀ x ∈ r.head?, x.IsUTF8FirstByte := by
  rw [isSome_text?_iff_isValid h, String.Pos.Raw.isValid_iff_isUTF8FirstByte]
  have hl := utf8ByteSize_eq_of_append h
  cases r with
  | nil => exact iff_of_true (.inl (congrArg String.Pos.Raw.mk hl.symm)) nofun
  | cons x r =>
    have hlt : (⟨p.length⟩ : String.Pos.Raw) < s.rawEndPos := by
      rw [String.Pos.Raw.lt_iff]
      change p.length < s.utf8ByteSize
      rw [hl, List.length_cons]
      omega
    have hx : s.getUTF8Byte ⟨p.length⟩ hlt = x := by
      have hs : s.toByteArray.data.toList = p ++ x :: r := h
      change s.toByteArray.data.toList.get ⟨p.length, _⟩ = x
      simp [hs]
    constructor
    · rintro (he | ⟨_, hf⟩)
      · exact absurd he (String.Pos.Raw.ne_of_lt hlt)
      · rw [hx] at hf
        exact fun _ hy => Option.some.inj hy ▸ hf
    · exact fun hf => .inr ⟨hlt, hx ▸ hf x rfl⟩

/-- What is in front of a text in the bytes of a text is a text, too. -/
theorem exists_append_of_ofText_eq {u : String} (h : ofText s = p ++ ofText u) :
    ∃ t, s = t ++ u ∧ p = ofText t := by
  have hv := (isSome_text?_iff_isValid h).1 (by rw [text?_ofText]; rfl)
  have hp : (ofText s).extract 0 p.length = p := by
    rw [h]
    simp
  have hp' := (String.Pos.Raw.isValid_iff_isValidUTF8_extract_zero.1 hv).2
  rw [extract_toByteArray, hp, ← isSome_text?_iff] at hp'
  obtain ⟨t, ht⟩ := Option.isSome_iff_exists.1 hp'
  obtain rfl := text?_eq_some_iff.1 ht
  exact ⟨t, ofText_injective (h.trans (ofText_append t u).symm), rfl⟩

end Cut

end IntentWire.Bytes
