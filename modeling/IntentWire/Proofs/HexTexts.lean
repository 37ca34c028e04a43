import IntentWire.Command.Buffer
import IntentWire.Statement.Lemmas

/-!
# Hexadecimal texts

A buffer is read of two digits for each of its bytes, each digit in either case, behind one mark
of hexadecimal or none and between blanks. It is read of no other text: those are a misuse of the
command. What is written of a buffer is one of these texts, and so is what a password is shown as.

* `HoldsDigits`: the digits of a buffer, and what may be around them.
* `parseHex_eq_ok_iff_holdsDigits`: what is read of a text, and of what is written.
-/

namespace IntentWire.Command

open Text

/-- Whether a text is the digits of a buffer, in either case and any mixture, behind one mark of
    hexadecimal or none, and between blanks. -/
def HoldsDigits (text : String) (b : Bytes) : Prop :=
  ∃ front mark digits back, text.toList = front ++ ((mark ++ digits) ++ back) ∧
    (∀ c ∈ front, isBlank c) ∧ mark ∈ hexMarks ∧ digits.length = 2 * b.length ∧
      digits.map Char.toLower = Hex.digits b ∧ ∀ c ∈ back, isBlank c

variable {text : String} {b : Bytes}

theorem spellsBuffer_iff : SpellsBuffer text b ↔ HoldsDigits text b := by
  constructor
  · rintro ⟨front, mark, digits, back, htext, hfront, hm, hd, hback⟩
    have hlower := Hex.spells_iff.1 hd
    have hlength : digits.length = 2 * b.length := by
      rw [← List.length_map Char.toLower, hlower, Hex.length_digits]
    exact ⟨front, mark, digits, back, htext, hfront, hm, hlength, hlower, hback⟩
  · rintro ⟨front, mark, digits, back, htext, hfront, hm, -, hlower, hback⟩
    exact ⟨front, mark, digits, back, htext, hfront, hm, Hex.spells_iff.2 hlower, hback⟩

/-- The digits of a buffer spell it with nothing around them. -/
theorem spellsBuffer_encode (b : Bytes) : SpellsBuffer (Hex.encode b) b := by
  have h : SpellsBuffer ("" ++ Hex.encode b) b := spellsBuffer_mark_append (by decide) b
  rwa [String.empty_append] at h

/-- What is read of a text as a buffer.

    * A buffer is read just of the texts that hold its digits.
    * A text that holds no digits of a buffer is a misuse of the command.
    * What is written of a buffer is read again, behind each mark and between any blanks.
    * What a password is shown as is read as the bytes of the password. -/
theorem parseHex_eq_ok_iff_holdsDigits (text : String) :
    (∀ b, parseHex text = .ok b ↔ HoldsDigits text b) ∧
      ((∃ failure, parseHex text = .error failure ∧ failure.code = 64) ↔
        ∀ b, ¬HoldsDigits text b) ∧
      (∀ b front mark back, (∀ c ∈ front.toList, isBlank c) → mark ∈ ["", "0x", "0X"] →
        (∀ c ∈ back.toList, isBlank c) →
          parseHex (front ++ (mark ++ Hex.encode b) ++ back) = .ok b) ∧
      ∀ payload, ∃ hex, (Statement.decode Tag.password payload).value = .hexBytes hex ∧
        (Statement.decode Tag.password payload).value.display = hex ∧
        parseHex hex = .ok payload := by
  have hok : ∀ b, parseHex text = .ok b ↔ HoldsDigits text b := fun b =>
    parseHex_eq_ok_iff.trans spellsBuffer_iff
  refine ⟨hok, ⟨?_, fun h => ?_⟩, fun b front mark back hfront hm hback => ?_, fun payload => ?_⟩
  · rintro ⟨failure, hf, -⟩ b hb
    cases hf.symm.trans ((hok b).2 hb)
  · obtain ⟨cause, hc⟩ := exists_parseHex_eq_error fun ⟨b, hb⟩ => h b (spellsBuffer_iff.1 hb)
    exact ⟨_, hc, rfl⟩
  · have hmarks : ∀ mark ∈ ["", "0x", "0X"], mark.toList ∈ hexMarks := by decide
    exact parseHex_eq_ok_iff.2 (spellsBuffer_append hfront (hmarks mark hm) hback b)
  · exact ⟨Hex.encode payload, rfl, rfl, parseHex_eq_ok_iff.2 (spellsBuffer_encode payload)⟩

/-- Digits in either case between blanks that are not of ASCII; and texts in which the mark
    stands twice, a blank stands between digits, or a digit is missing. -/
theorem parseHex_eq_ok_iff_holdsDigits_each :
    HoldsDigits "\u00a00XaBcD\u3000" [171, 205] ∧
      parseHex ("\t" ++ ("0X" ++ Hex.encode [171, 205]) ++ "\u2028") = .ok [171, 205] ∧
      (∀ text ∈ ["0x0xab", "ab cd", "0xabc"], ∀ b, ¬HoldsDigits text b) := by
  refine ⟨((parseHex_eq_ok_iff_holdsDigits _).1 _).1 rfl,
    (parseHex_eq_ok_iff_holdsDigits "").2.2.1 _ _ _ _ (by simp [isBlank]) (by decide)
      (by simp [isBlank]), ?_⟩
  simp only [List.forall_mem_cons]
  refine ⟨?_, ?_, ?_, List.forall_mem_nil _⟩
  · exact (parseHex_eq_ok_iff_holdsDigits _).2.1.1 ⟨_, rfl, rfl⟩
  · exact (parseHex_eq_ok_iff_holdsDigits _).2.1.1 ⟨_, rfl, rfl⟩
  · exact (parseHex_eq_ok_iff_holdsDigits _).2.1.1 ⟨_, rfl, rfl⟩

end IntentWire.Command
