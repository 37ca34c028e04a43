/-!
# Decimal text

Numbers below a bound, read from decimal digits. A plus sign may stand in front
and zeros may lead; there is no minus sign, even for zero.

* `readDigits_eq_ok_iff`: digits are read as the number that they are the decimal form
  of, if that is below the bound, and nothing but digits is read.
* `read_eq_ok_iff`: a number is read of its digits, behind a plus sign or not.
* `read_eq_error_iff`: every other text is refused for the first thing amiss in it
  (`Misread`).
-/

namespace IntentWire.Decimal

/-- Why a text is not a number below the bound. -/
inductive Error where
  /-- The text is empty. -/
  | empty
  /-- A character is not a digit, or there is no digit. -/
  | invalidDigit
  /-- The number is not below the bound. -/
  | tooLarge
  deriving DecidableEq

/-- The wording of an error. -/
def Error.message : Error → String
  | .empty => "cannot parse integer from empty string"
  | .invalidDigit => "invalid digit found in string"
  | .tooLarge => "number too large to fit in target type"

/-- The number whose digits are those of `value` followed by those of a text. The
    text is read from left to right, so the first thing amiss is what is told. -/
def readDigits {bound : Nat} (value : Fin bound) : List Char → Except Error (Fin bound)
  | [] => .ok value
  | c :: s =>
    if c.isDigit then
      let next := 10 * value.val + (c.toNat - '0'.toNat)
      if h : next < bound then readDigits ⟨next, h⟩ s else .error .tooLarge
    else .error .invalidDigit

theorem le_ofDigitChars (s : List Char) (n : Nat) : n ≤ Nat.ofDigitChars 10 s n := by
  induction s generalizing n with
  | nil => exact Nat.le_refl n
  | cons c s ih =>
    rw [Nat.ofDigitChars_cons]
    exact Nat.le_trans (by omega) (ih _)

theorem readDigits_eq_ok_iff {bound : Nat} {value n : Fin bound} {s : List Char} :
    readDigits value s = .ok n ↔ (∀ c ∈ s, c.isDigit) ∧ Nat.ofDigitChars 10 s value = n.val := by
  induction s generalizing value with
  | nil => simp [readDigits, Nat.ofDigitChars, Fin.ext_iff]
  | cons c s ih =>
    rw [readDigits, List.forall_mem_cons, Nat.ofDigitChars_cons]
    by_cases hc : c.isDigit
    · have hle := le_ofDigitChars s (10 * value.val + (c.toNat - '0'.toNat))
      rw [if_pos hc]
      dsimp only
      split
      · simp [ih, hc]
      · next hb =>
        refine ⟨nofun, fun ⟨_, h⟩ => ?_⟩
        have := n.isLt
        omega
    · rw [if_neg hc]
      exact ⟨nofun, fun h => absurd h.1.1 hc⟩

/-- The number below the bound that a text is the decimal form of. -/
def read (bound : Nat) (h : 0 < bound) : List Char → Except Error (Fin bound)
  | [] => .error .empty
  | ['+'] => .error .invalidDigit
  | '+' :: s => readDigits ⟨0, h⟩ s
  | s => readDigits ⟨0, h⟩ s

theorem read_plus {bound : Nat} (h : 0 < bound) {s : List Char} (hs : s ≠ []) :
    read bound h ('+' :: s) = readDigits ⟨0, h⟩ s :=
  read.eq_3 bound h s hs

theorem read_cons {bound : Nat} (h : 0 < bound) {c : Char} (hc : c ≠ '+') (s : List Char) :
    read bound h (c :: s) = readDigits ⟨0, h⟩ (c :: s) :=
  read.eq_4 bound h (c :: s) nofun (fun he => hc (List.cons.inj he).1)
    fun _ he => hc (List.cons.inj he).1

/-- A number is read of its digits, of which there has to be one, behind a plus sign or
    not. -/
theorem read_eq_ok_iff {bound : Nat} {h : 0 < bound} {s : List Char} {n : Fin bound} :
    read bound h s = .ok n ↔
      ∃ sign digits, s = sign ++ digits ∧ (sign = [] ∨ sign = ['+']) ∧ digits ≠ [] ∧
        (∀ c ∈ digits, c.isDigit) ∧ Nat.ofDigitChars 10 digits 0 = n.val := by
  constructor
  · intro hr
    cases s with
    | nil => cases hr
    | cons c s =>
      by_cases hc : c = '+'
      · subst hc
        cases s with
        | nil => cases hr
        | cons d s =>
          rw [read_plus h (List.cons_ne_nil d s)] at hr
          exact ⟨['+'], d :: s, rfl, .inr rfl, List.cons_ne_nil d s, readDigits_eq_ok_iff.1 hr⟩
      · rw [read_cons h hc] at hr
        exact ⟨[], c :: s, rfl, .inl rfl, List.cons_ne_nil c s, readDigits_eq_ok_iff.1 hr⟩
  · rintro ⟨sign, digits, rfl, rfl | rfl, hne, hd, hn⟩
    · cases digits with
      | nil => exact absurd rfl hne
      | cons c s =>
        have hc : c ≠ '+' := by
          rintro rfl
          exact absurd (hd '+' List.mem_cons_self) (by decide)
        rw [List.nil_append, read_cons h hc]
        exact readDigits_eq_ok_iff.2 ⟨hd, hn⟩
    · rw [List.singleton_append, read_plus h hne]
      exact readDigits_eq_ok_iff.2 ⟨hd, hn⟩

/-! ### Texts that are no numbers -/

/-- A text without the plus sign in front of it. -/
def dropSign : List Char → List Char
  | '+' :: s => s
  | s => s

/-- What is amiss with a text that is no number below the bound: there are no digits, or else
    it is the first character that is none, or that makes the number too large. -/
inductive Misread (bound : Nat) (s : List Char) : Error → Prop
  | empty : s = [] → Misread bound s .empty
  | noDigit : s = ['+'] → Misread bound s .invalidDigit
  | invalidDigit {front back : List Char} {c : Char} :
    dropSign s = front ++ c :: back → (∀ d ∈ front, d.isDigit) →
      Nat.ofDigitChars 10 front 0 < bound → ¬c.isDigit → Misread bound s .invalidDigit
  | tooLarge {front back : List Char} {c : Char} :
    dropSign s = front ++ c :: back → (∀ d ∈ front, d.isDigit) →
      Nat.ofDigitChars 10 front 0 < bound → c.isDigit →
      bound ≤ Nat.ofDigitChars 10 (front ++ [c]) 0 → Misread bound s .tooLarge

/-- Past some digits, the number that they make is gone on with. -/
theorem readDigits_append {bound : Nat} {value : Fin bound} {front : List Char}
    (hf : ∀ d ∈ front, d.isDigit) (hlt : Nat.ofDigitChars 10 front value < bound)
    (s : List Char) :
    readDigits value (front ++ s) = readDigits ⟨Nat.ofDigitChars 10 front value, hlt⟩ s := by
  induction front generalizing value with
  | nil => rfl
  | cons d front ih =>
    obtain ⟨hd, hf⟩ := List.forall_mem_cons.1 hf
    have hle := le_ofDigitChars front (10 * value.val + (d.toNat - '0'.toNat))
    rw [Nat.ofDigitChars_cons] at hlt
    rw [List.cons_append, readDigits, if_pos hd]
    dsimp only
    rw [dif_pos (by omega), ih hf hlt]
    simp only [Nat.ofDigitChars_cons]

theorem readDigits_eq_error_iff {bound : Nat} {value : Fin bound} {s : List Char} {e : Error} :
    readDigits value s = .error e ↔
      ∃ front c back, s = front ++ c :: back ∧ (∀ d ∈ front, d.isDigit) ∧
        Nat.ofDigitChars 10 front value < bound ∧
          (¬c.isDigit ∧ e = .invalidDigit ∨
            c.isDigit ∧ bound ≤ Nat.ofDigitChars 10 (front ++ [c]) value ∧ e = .tooLarge) := by
  constructor
  · intro h
    fun_induction readDigits value s with
    | case1 => cases h
    | case2 value c s hc next hlt ih =>
      obtain ⟨front, d, back, rfl, hf, hb, he⟩ := ih h
      refine ⟨c :: front, d, back, rfl, List.forall_mem_cons.2 ⟨hc, hf⟩, ?_, ?_⟩
      · rw [Nat.ofDigitChars_cons]
        exact hb
      · rw [List.cons_append, Nat.ofDigitChars_cons]
        exact he
    | case3 value c s hc next hle =>
      cases h
      exact ⟨[], c, s, rfl, nofun, value.isLt, .inr ⟨hc, Nat.not_lt.1 hle, rfl⟩⟩
    | case4 value c s hc =>
      cases h
      exact ⟨[], c, s, rfl, nofun, value.isLt, .inl ⟨hc, rfl⟩⟩
  · rintro ⟨front, c, back, rfl, hf, hlt, he⟩
    rw [readDigits_append hf hlt, readDigits]
    rcases he with ⟨hc, rfl⟩ | ⟨hc, hle, rfl⟩
    · rw [if_neg hc]
    · rw [if_pos hc]
      rw [Nat.ofDigitChars_append, Nat.ofDigitChars_cons] at hle
      exact dif_neg (Nat.not_lt.2 hle)

theorem read_eq_readDigits {bound : Nat} (h : 0 < bound) {s : List Char} (hne : s ≠ [])
    (hp : s ≠ ['+']) : read bound h s = readDigits ⟨0, h⟩ (dropSign s) := by
  cases s with
  | nil => exact absurd rfl hne
  | cons c s =>
    by_cases hc : c = '+'
    · subst hc
      exact read_plus h fun hs => hp (hs ▸ rfl)
    · rw [read_cons h hc, dropSign.eq_2 _ fun _ he => hc (List.cons.inj he).1]

/-- A text that is no number below the bound is refused for the first thing amiss. -/
theorem read_eq_error_iff {bound : Nat} {h : 0 < bound} {s : List Char} {e : Error} :
    read bound h s = .error e ↔ Misread bound s e := by
  constructor
  · intro hr
    by_cases hne : s = []
    · rw [hne] at hr
      cases hr
      exact .empty hne
    by_cases hp : s = ['+']
    · rw [hp] at hr
      cases hr
      exact .noDigit hp
    rw [read_eq_readDigits h hne hp] at hr
    obtain ⟨front, c, back, hs, hf, hlt, ⟨hc, rfl⟩ | ⟨hc, hle, rfl⟩⟩ := readDigits_eq_error_iff.1 hr
    · exact .invalidDigit hs hf hlt hc
    · exact .tooLarge hs hf hlt hc hle
  · intro hm
    have hread {front back : List Char} {c : Char} (hs : dropSign s = front ++ c :: back) :
        read bound h s = readDigits ⟨0, h⟩ (dropSign s) := by
      refine read_eq_readDigits h ?_ ?_
      all_goals
        rintro rfl
        cases front <;> cases hs
    cases hm with
    | empty hs => rw [hs, read]
    | noDigit hs => rw [hs, read]
    | invalidDigit hs hf hlt hc =>
      rw [hread hs]
      exact readDigits_eq_error_iff.2 ⟨_, _, _, hs, hf, hlt, .inl ⟨hc, rfl⟩⟩
    | tooLarge hs hf hlt hc hle =>
      rw [hread hs]
      exact readDigits_eq_error_iff.2 ⟨_, _, _, hs, hf, hlt, .inr ⟨hc, hle, rfl⟩⟩

end IntentWire.Decimal
