import IntentWire.Command.Run
import IntentWire.Expression.Lemmas

/-!
# Buffers from outside

What an input gives, told from what is written there and not from how it is read.

* `SpellsBuffer`, `parseHex_eq_ok_iff`: the texts that spell a buffer. Two hexadecimal digits
  stand for each byte; a mark of hexadecimal may be in front of them, and blanks around both.
  What is written of a buffer is one of them (`spellsBuffer_append`).
* `Input.Gives`, `Input.buffer_eq_ok_iff`: the buffer that an input gives.
* `Input.Refused`, `Input.refused_of_buffer_eq_error`: an input that gives none, and the exit
  code of the command that has it.
-/

namespace IntentWire.Command

open Text Bytes

/-! ### Hexadecimal text -/

/-- The marks of hexadecimal that may be in front of a buffer, one of which is none. -/
def hexMarks : List (List Char) :=
  [[], ['0', 'x'], ['0', 'X']]

/-- Whether a text spells a buffer. -/
def SpellsBuffer (text : String) (b : Bytes) : Prop :=
  ∃ front mark digits back, text.toList = front ++ ((mark ++ digits) ++ back) ∧
    (∀ c ∈ front, isBlank c) ∧ mark ∈ hexMarks ∧ Hex.Spells digits b ∧ ∀ c ∈ back, isBlank c

/-- A text without the mark of hexadecimal in front of it. -/
def dropMark : List Char → List Char
  | '0' :: 'x' :: digits => digits
  | '0' :: 'X' :: digits => digits
  | digits => digits

variable {text : String} {b : Bytes}

theorem parseHex_eq (text : String) :
    parseHex text = (Hex.decode (dropMark (trim text.toList))).mapError .badHex :=
  rfl

theorem exists_eq_append_dropMark (s : List Char) : ∃ mark ∈ hexMarks, s = mark ++ dropMark s := by
  fun_cases dropMark s with
  | case1 s => exact ⟨['0', 'x'], by decide, rfl⟩
  | case2 s => exact ⟨['0', 'X'], by decide, rfl⟩
  | case3 => exact ⟨[], by decide, rfl⟩

/-- No digits are taken for a mark, and there is no second one. -/
theorem dropMark_append {mark digits : List Char} (hm : mark ∈ hexMarks)
    (h : Hex.Spells digits b) : dropMark (mark ++ digits) = digits := by
  have hx : Hex.value? 'x' = none := by decide
  have hX : Hex.value? 'X' = none := by decide
  simp only [hexMarks, List.mem_cons, List.not_mem_nil, or_false] at hm
  obtain rfl | rfl | rfl := hm
  · refine dropMark.eq_3 digits ?_ ?_
    · rintro t rfl
      cases h with
      | cons _ hd => cases hx.symm.trans hd
    · rintro t rfl
      cases h with
      | cons _ hd => cases hX.symm.trans hd
  · rfl
  · rfl

theorem isTrimmed_append {mark digits : List Char} (hm : mark ∈ hexMarks)
    (h : Hex.Spells digits b) : IsTrimmed (mark ++ digits) := by
  -- The characters are between the digit zero and `x`.
  have hbound : ∀ c ∈ mark ++ digits, '0'.toNat ≤ c.toNat ∧ c.toNat ≤ 'x'.toNat := by
    have hmark : ∀ mark ∈ hexMarks, ∀ c ∈ mark, '0'.toNat ≤ c.toNat ∧ c.toNat ≤ 'x'.toNat := by
      simp [hexMarks]
    have hfx : 'f'.toNat ≤ 'x'.toNat := by decide
    intro c hc
    rcases List.mem_append.1 hc with hc | hc
    · exact hmark mark hm c hc
    · obtain ⟨hl, hu⟩ := h.toNat_of_mem c hc
      exact ⟨hl, Nat.le_trans hu hfx⟩
  exact isTrimmed_of_toNat (by decide) (by decide) hbound

/-- A buffer is read of the texts that spell it. -/
theorem parseHex_eq_ok_iff : parseHex text = .ok b ↔ SpellsBuffer text b := by
  have hmap : parseHex text = .ok b ↔ Hex.decode (dropMark (trim text.toList)) = .ok b := by
    rw [parseHex_eq]
    cases Hex.decode (dropMark (trim text.toList)) <;> simp [Except.mapError]
  rw [hmap, Hex.decode_eq_ok_iff]
  constructor
  · intro h
    obtain ⟨front, back, hfront, hback, htext⟩ := exists_eq_append_trim text.toList
    obtain ⟨mark, hm, ht⟩ := exists_eq_append_dropMark (trim text.toList)
    refine ⟨front, mark, _, back, ?_, hfront, hm, h, hback⟩
    rw [← ht]
    exact htext
  · rintro ⟨front, mark, digits, back, htext, hfront, hm, hd, hback⟩
    rw [htext, trim_append_append hfront (isTrimmed_append hm hd) hback, dropMark_append hm hd]
    exact hd

/-- The digits of a buffer spell it, behind a mark or not and whatever blanks are around them. -/
theorem spellsBuffer_append {front mark back : String} (hfront : ∀ c ∈ front.toList, isBlank c)
    (hmark : mark.toList ∈ hexMarks) (hback : ∀ c ∈ back.toList, isBlank c) (b : Bytes) :
    SpellsBuffer (front ++ (mark ++ Hex.encode b) ++ back) b := by
  refine ⟨front.toList, mark.toList, Hex.digits b, back.toList, ?_, hfront, hmark,
    Hex.spells_digits b, hback⟩
  simp only [String.toList_append, Hex.toList_encode, List.append_assoc]

theorem spellsBuffer_mark_append {mark : String} (hmark : mark.toList ∈ hexMarks) (b : Bytes) :
    SpellsBuffer (mark ++ Hex.encode b) b := by
  refine ⟨[], mark.toList, Hex.digits b, [], ?_, nofun, hmark, Hex.spells_digits b, nofun⟩
  rw [String.toList_append, Hex.toList_encode, List.append_nil, List.nil_append]

/-- A text that spells no buffer is bad hexadecimal text. -/
theorem exists_parseHex_eq_error (h : ¬∃ b, SpellsBuffer text b) :
    ∃ cause, parseHex text = .error (.badHex cause) := by
  rw [parseHex_eq]
  cases hd : Hex.decode (dropMark (trim text.toList)) with
  | error cause => exact ⟨cause, rfl⟩
  | ok b => exact absurd ⟨b, parseHex_eq_ok_iff.1 (by rw [parseHex_eq, hd]; rfl)⟩ h

/-! ### Inputs -/

namespace Input

variable {around : Surroundings} {input : Input}

/-- Whether an input holds a text. -/
inductive HasText (around : Surroundings) : Input → String → Prop
  | argument (text : String) : HasText around (.hex text) text
  | stdin {text : String} : around.stdin = .ok (ofText text) → HasText around .stdin text

/-- Whether an input gives a buffer: by a text that spells it, or by the bytes of a file. -/
inductive Gives (around : Surroundings) : Input → Bytes → Prop
  | text {input : Input} {text : String} {b : Bytes} :
    HasText around input text → SpellsBuffer text b → Gives around input b
  | file {path : String} {b : Bytes} :
    around.contents path = .ok b → Gives around (.file path) b

/-- Whether an input cannot be read as it has to be, and the exit code of that. -/
inductive Unreadable (around : Surroundings) : Input → Nat → Prop
  | file {path : String} {cause : OsFailure} :
    around.contents path = .error cause → Unreadable around (.file path) cause.exitCode
  | stdin {cause : OsFailure} :
    around.stdin = .error cause → Unreadable around .stdin cause.exitCode
  /-- The standard input can be read and is not valid UTF-8. -/
  | noText {b : Bytes} :
    around.stdin = .ok b → (∀ text, b ≠ ofText text) → Unreadable around .stdin 1

/-- Whether an input gives no buffer, and the exit code of that. -/
inductive Refused (around : Surroundings) : Input → Nat → Prop
  /-- There is a text, and it spells no buffer. -/
  | badHex {input : Input} {text : String} :
    HasText around input text → (¬∃ b, SpellsBuffer text b) → Refused around input 64
  | missing : Refused around .missing 64
  | unreadable {input : Input} {code : Nat} :
    Unreadable around input code → Refused around input code

theorem Unreadable.code_eq {code : Nat} (h : Unreadable around input code) :
    code = 1 ∨ code = 50 := by
  have hos (cause : OsFailure) : cause.exitCode = 1 ∨ cause.exitCode = 50 := by
    unfold OsFailure.exitCode
    split
    · exact .inr rfl
    · exact .inl rfl
  cases h with
  | file => exact hos _
  | stdin => exact hos _
  | noText => exact .inl rfl

theorem HasText.buffer_eq (h : HasText around input text) :
    input.buffer around = parseHex text := by
  cases h with
  | argument => rfl
  | stdin h =>
    rw [buffer, h]
    dsimp only
    rw [text?_ofText]

theorem Gives.buffer_eq (h : Gives around input b) : input.buffer around = .ok b := by
  cases h with
  | text ht hs => rw [ht.buffer_eq, parseHex_eq_ok_iff.2 hs]
  | file h =>
    rw [buffer, h]
    rfl

theorem Unreadable.buffer_eq {code : Nat} (h : Unreadable around input code) :
    ∃ failure, input.buffer around = .error failure ∧ failure.code = code := by
  cases h with
  | file h =>
    rw [buffer, h]
    exact ⟨_, rfl, rfl⟩
  | stdin h =>
    rw [buffer, h]
    exact ⟨_, rfl, rfl⟩
  | noText h hb =>
    have ht : text? _ = none := Option.eq_none_iff_forall_ne_some.2 fun text ht =>
      hb text (text?_eq_some_iff.1 ht)
    rw [buffer, h]
    dsimp only
    rw [ht]
    exact ⟨_, rfl, rfl⟩

theorem Refused.buffer_eq {code : Nat} (h : Refused around input code) :
    ∃ failure, input.buffer around = .error failure ∧ failure.code = code := by
  cases h with
  | badHex ht hs =>
    obtain ⟨cause, hc⟩ := exists_parseHex_eq_error hs
    exact ⟨_, ht.buffer_eq.trans hc, rfl⟩
  | missing => exact ⟨_, rfl, rfl⟩
  | unreadable h => exact h.buffer_eq

theorem gives_or_refused_of_hasText (h : HasText around input text) :
    (∃ b, Gives around input b) ∨ ∃ code, Refused around input code := by
  by_cases hs : ∃ b, SpellsBuffer text b
  · obtain ⟨b, hb⟩ := hs
    exact .inl ⟨b, .text h hb⟩
  · exact .inr ⟨64, .badHex h hs⟩

/-- An input gives a buffer or ends the command. -/
theorem gives_or_refused (around : Surroundings) (input : Input) :
    (∃ b, Gives around input b) ∨ ∃ code, Refused around input code := by
  cases input with
  | hex text => exact gives_or_refused_of_hasText (.argument text)
  | missing => exact .inr ⟨64, .missing⟩
  | file path =>
    cases h : around.contents path with
    | error cause => exact .inr ⟨_, .unreadable (.file h)⟩
    | ok b => exact .inl ⟨b, .file h⟩
  | stdin =>
    cases h : around.stdin with
    | error cause => exact .inr ⟨_, .unreadable (.stdin h)⟩
    | ok b =>
      by_cases ht : ∃ text, b = ofText text
      · obtain ⟨text, rfl⟩ := ht
        exact gives_or_refused_of_hasText (.stdin h)
      · exact .inr ⟨1, .unreadable (.noText h fun text hb => ht ⟨text, hb⟩)⟩

/-- An input is read as the buffer that it gives. -/
theorem buffer_eq_ok_iff : input.buffer around = .ok b ↔ Gives around input b := by
  refine ⟨fun h => ?_, Gives.buffer_eq⟩
  rcases gives_or_refused around input with ⟨b', hb⟩ | ⟨code, hc⟩
  · obtain rfl := Except.ok.inj (hb.buffer_eq.symm.trans h)
    exact hb
  · obtain ⟨failure, hf, -⟩ := hc.buffer_eq
    cases h.symm.trans hf

/-- An input that is not read ends the command with the exit code of its failure. -/
theorem refused_of_buffer_eq_error {failure : Failure}
    (h : input.buffer around = .error failure) : Refused around input failure.code := by
  rcases gives_or_refused around input with ⟨b, hb⟩ | ⟨code, hc⟩
  · cases h.symm.trans hb.buffer_eq
  · obtain ⟨failure', hf, rfl⟩ := hc.buffer_eq
    obtain rfl := Except.error.inj (h.symm.trans hf)
    exact hc

end Input

end IntentWire.Command
