import IntentWire.Statement.Lemmas

/-!
# Texts as they are

A payload of a type that is not known is a text, and may stand as it is or behind its length.
What is a length is told from the bytes: a text that happens to start with the bytes that
count the others loses them. Bytes are not characters, though. Where the length ends within
a character of the text, what is left of the text is none, and the payload makes no sense.

* `Statement.StartsWithCount`: a text starts with what counts its other bytes.
* `Statement.IsCutByCount`: what counts them ends within a character.
* `Statement.value_decodePlainText_ofText`: what comes of a text in each case.
* `Statement.value_decode_of_text`: when a text is decoded as one.
-/

namespace IntentWire.Statement

open Bytes

/-- Whether the bytes of a text are a compact integer `n` and `n` further bytes, `rest`. -/
def StartsWithCount (s : String) (n : UInt64) (rest : Bytes) : Prop :=
  ofText s = Compact.encode n ++ rest ∧ rest.length = n.toNat

/-- Whether a text starts with what counts its other bytes, and these start within a
    character. -/
def IsCutByCount (s : String) : Prop :=
  ∃ n x rest, StartsWithCount s n (x :: rest) ∧ ¬x.IsUTF8FirstByte

variable {s : String} {n : UInt64} {rest : Bytes}

/-- There is one compact integer at most at the start of a text. -/
theorem StartsWithCount.unique {n' : UInt64} {rest' : Bytes} (h : StartsWithCount s n rest)
    (h' : StartsWithCount s n' rest') : n = n' ∧ rest = rest' :=
  Compact.encode_append_inj (h.1.symm.trans h'.1)

/-- What counts the other bytes of a text ends between two characters unless it cuts one. -/
theorem StartsWithCount.isSome_text?_iff (h : StartsWithCount s n rest) :
    (text? rest).isSome ↔ ¬IsCutByCount s := by
  rw [isSome_text?_iff_firstByte h.1]
  constructor
  · rintro hf ⟨n', x, rest', h', hx⟩
    obtain ⟨-, rfl⟩ := h.unique h'
    exact hx (hf x rfl)
  · intro hcut x hx
    obtain ⟨rest, rfl⟩ := List.head?_eq_some_iff.1 hx
    exact Decidable.by_contra fun hf => hcut ⟨n, x, rest, h, hf⟩

/-- A text of ASCII characters has no character to cut. -/
theorem not_isCutByCount_of_lt (h : ∀ x ∈ ofText s, x < 128) : ¬IsCutByCount s := by
  rintro ⟨n, x, rest, ⟨hs, -⟩, hx⟩
  exact hx (isUTF8FirstByte_of_lt (h x (hs ▸ List.mem_append_right _ (List.mem_cons_self ..))))

/-- What comes of a text: the text, or what is behind its first characters if these count the
    bytes behind them, or nothing if what counts these bytes ends within a character. -/
theorem value_decodePlainText_ofText (s : String) :
    (IsCutByCount s ∧ (decodePlainText (ofText s)).value = .invalid badText) ∨
      ¬IsCutByCount s ∧ ∃ t, (decodePlainText (ofText s)).value = .plainText t ∧
        (t = s ∨ ∃ count n, s = count ++ t ∧ ofText count = Compact.encode n ∧
          (ofText t).length = n.toNat) := by
  rw [value_decodePlainText]
  by_cases hc : ∃ n rest, StartsWithCount s n rest
  · obtain ⟨n, rest, hs⟩ := hc
    rw [hs.1, stripLength_encode_append hs.2, Logged.value_bind, Logged.value_pure]
    cases ht : text? rest with
    | none =>
      refine .inl ⟨?_, rfl⟩
      have hn := hs.isSome_text?_iff.not
      rw [ht] at hn
      exact Classical.not_not.1 (hn.1 nofun)
    | some t =>
      obtain rfl := text?_eq_some_iff.1 ht
      obtain ⟨count, rfl, hcount⟩ := exists_append_of_ofText_eq hs.1
      refine .inr ⟨hs.isSome_text?_iff.1 (by rw [ht]; rfl), t, rfl, .inr ?_⟩
      exact ⟨count, n, rfl, hcount.symm, hs.2⟩
  · rw [stripLength_eq_self fun n b hb hl => hc ⟨n, b, hb, hl⟩, Logged.value_pure, text?_ofText]
    refine .inr ⟨?_, s, rfl, .inl rfl⟩
    rintro ⟨n, x, rest, hs, -⟩
    exact hc ⟨n, x :: rest, hs⟩

/-- What comes of a payload that is a text and of no known type.

    * Its statement is what the decoder of texts makes of it.
    * It is a text unless the payload starts with what counts its other bytes, and these
      start within a character. Then the payload makes no sense.
    * The text is that of the payload, or what is behind its first characters if these count
      the bytes behind them.
    * Of ASCII characters no payload is cut within one. -/
theorem value_decode_of_text {tag : String} (ht : tag ∉ Tag.known) {payload : Bytes}
    (hp : text? payload = some s) :
    (decode tag payload).value = (decodePlainText payload).value ∧
      ((∃ t, (decodePlainText payload).value = .plainText t) ↔ ¬IsCutByCount s) ∧
      ((decodePlainText payload).value = .invalid badText ↔ IsCutByCount s) ∧
      (∀ t, (decodePlainText payload).value = .plainText t →
        t = s ∨ ∃ count n, s = count ++ t ∧ ofText count = Compact.encode n ∧
          (ofText t).length = n.toNat) ∧
      ((∀ x ∈ payload, x < 128) → ¬IsCutByCount s) := by
  obtain rfl := text?_eq_some_iff.1 hp
  refine ⟨by rw [decode_of_unknown ht, value_decodeWith], ?_⟩
  rcases value_decodePlainText_ofText s with ⟨hc, hv⟩ | ⟨hc, t, hv, ht⟩
  · rw [hv]
    exact ⟨iff_of_false (fun ⟨_, h⟩ => nomatch h) (not_not_intro hc), iff_of_true rfl hc, nofun,
      not_isCutByCount_of_lt⟩
  · rw [hv]
    refine ⟨iff_of_true ⟨t, rfl⟩ hc, iff_of_false nofun hc, ?_, not_isCutByCount_of_lt⟩
    rintro _ ⟨⟩
    exact ht

/-- A parenthesis counts the ten characters behind it and is lost. -/
theorem value_decode_of_text_parenthesis :
    ∃ t, (decode "Note" (ofText "(hello wor)")).value = .plainText t ∧
      (t = "(hello wor)" ∨ ∃ count n, "(hello wor)" = count ++ t ∧
        ofText count = Compact.encode n ∧ (ofText t).length = n.toNat) := by
  have htag : "Note" ∉ Tag.known := by decide
  obtain ⟨hd, htext, -, hwhat, hascii⟩ := value_decode_of_text htag (text?_ofText "(hello wor)")
  obtain ⟨t, ht⟩ := htext.2 (hascii (by decide +kernel))
  exact ⟨t, hd.trans ht, hwhat t ht⟩

/-- The first byte of a character counts the second one and the 48 characters behind it. -/
theorem value_decode_cut :
    "Note" ∉ Tag.known ∧
      text? (0xC4 :: 0x80 :: List.replicate 48 0x61) =
        some (.ofList ('Ā' :: List.replicate 48 'a')) ∧
      (decodePlainText (0xC4 :: 0x80 :: List.replicate 48 0x61)).value = .invalid badText ∧
      (decode "Note" (0xC4 :: 0x80 :: List.replicate 48 0x61)).value = .invalid badText := by
  decide +kernel

end IntentWire.Statement
