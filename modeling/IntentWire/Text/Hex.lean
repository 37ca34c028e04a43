import IntentWire.Text.Quoted
import IntentWire.Text.Utf8

/-!
# Hexadecimal text

Two digits stand for a byte, the upper half first. Bytes are written with digits
in lower case, and read with digits in either.

* `encode b`: the digits of `b`.
* `decode s`: the bytes that `s` spells, unless it has an odd length or holds
  something else than digits.
* `decode_digits`: what is written is read back.
* `decode_eq_ok_iff`: bytes are read of the texts that spell them (`Spells`).
* `spells_iff`: these are their digits, in either case and any mixture. Those in lower case
  are the ones that are written (`spellsLower_iff`).
* `decode_eq_error_iff`: every other text is refused for the first thing amiss in it
  (`Misspells`).
-/

namespace IntentWire.Hex

open Text

/-- Why a text is not hexadecimal. -/
inductive Error where
  /-- The text takes an odd number of bytes. -/
  | oddLength
  /-- The byte `byte`, at `position`, is not a digit. -/
  | invalidDigit (byte : UInt8) (position : Nat)
  deriving DecidableEq

/-- The wording of an error. The byte is shown as the character of its number. -/
def Error.message : Error → String
  | .oddLength => "Odd number of digits"
  | .invalidDigit byte position =>
    s!"Invalid character {quotedChar (Char.ofNat byte.toNat)} at position {position}"

/-- The digit of a number below 16. -/
def digit (n : Nat) : Char :=
  Nat.digitChar n

/-- The number that a digit stands for. -/
def value? (c : Char) : Option Nat :=
  if '0' ≤ c ∧ c ≤ '9' then some (c.toNat - '0'.toNat)
  else if 'a' ≤ c ∧ c ≤ 'f' then some (c.toNat - 'a'.toNat + 10)
  else if 'A' ≤ c ∧ c ≤ 'F' then some (c.toNat - 'A'.toNat + 10)
  else none

theorem value?_digit : ∀ n, n < 16 → value? (digit n) = some n := by decide

/-- The digits of `b`. -/
def digits (b : Bytes) : List Char :=
  b.flatMap fun x => [digit (x.toNat / 16), digit (x.toNat % 16)]

/-- The text that spells `b`. -/
def encode (b : Bytes) : String :=
  String.ofList (digits b)

/-- The bytes that the digits of a text spell, after those in `done`. Reading stops
    at the first character that is not a digit: all those in front of it take one
    byte, so that its place among the characters is its place among the bytes. -/
def readPairs (done : Array UInt8) : List Char → Except Error Bytes
  | c :: d :: s =>
    match value? c, value? d with
    | some high, some low => readPairs (done.push (.ofNat (16 * high + low))) s
    | none, _ => .error (.invalidDigit (firstByte c) (2 * done.size))
    | _, none => .error (.invalidDigit (firstByte d) (2 * done.size + 1))
  | [c] => .error (.invalidDigit (firstByte c) (2 * done.size))
  | [] => .ok done.toList
where
  /-- The first byte of a character. -/
  firstByte (c : Char) : UInt8 :=
    (Bytes.ofText (String.singleton c)).headD 0

/-- The bytes that a text spells. -/
def decode (s : List Char) : Except Error Bytes :=
  if (String.ofList s).utf8ByteSize % 2 = 1 then .error .oddLength else readPairs #[] s

theorem length_digits (b : Bytes) : (digits b).length = 2 * b.length := by
  simp [digits, List.map_const', Nat.mul_comm]

/-- A text spells bytes by two digits for each of them, the upper half first. -/
inductive Spells : List Char → Bytes → Prop
  | nil : Spells [] []
  | cons {c d : Char} {high low : Nat} {s : List Char} {b : Bytes} :
    value? c = some high → value? d = some low → Spells s b →
      Spells (c :: d :: s) (.ofNat (16 * high + low) :: b)

theorem toNat_of_value? {c : Char} {n : Nat} (h : value? c = some n) :
    '0'.toNat ≤ c.toNat ∧ c.toNat ≤ 'f'.toNat := by
  have hle : ∀ a b : Char, a ≤ b → a.toNat ≤ b.toNat := fun _ _ => UInt32.le_iff_toNat_le.1
  have h9 : '9'.toNat ≤ 'f'.toNat := by decide
  have ha : '0'.toNat ≤ 'a'.toNat := by decide
  have hA : '0'.toNat ≤ 'A'.toNat := by decide
  have hF : 'F'.toNat ≤ 'f'.toNat := by decide
  rw [value?] at h
  split at h
  · next hc => exact ⟨hle _ _ hc.1, Nat.le_trans (hle _ _ hc.2) h9⟩
  split at h
  · next hc => exact ⟨Nat.le_trans ha (hle _ _ hc.1), hle _ _ hc.2⟩
  split at h
  · next hc => exact ⟨Nat.le_trans hA (hle _ _ hc.1), Nat.le_trans (hle _ _ hc.2) hF⟩
  · cases h

theorem utf8Size_of_value? {c : Char} {n : Nat} (h : value? c = some n) : c.utf8Size = 1 := by
  have hf : 'f'.toNat ≤ 127 := by decide
  exact Char.utf8Size_eq_one_iff.2
    (UInt32.le_iff_toNat_le.2 (Nat.le_trans (toNat_of_value? h).2 hf))

theorem utf8ByteSize_cons (c : Char) (s : List Char) :
    (String.ofList (c :: s)).utf8ByteSize = c.utf8Size + (String.ofList s).utf8ByteSize := by
  rw [show c :: s = [c] ++ s from rfl, String.ofList_append, String.utf8ByteSize_append]
  simp

theorem Spells.utf8ByteSize_eq {s : List Char} {b : Bytes} (h : Spells s b) :
    (String.ofList s).utf8ByteSize = 2 * b.length := by
  induction h with
  | nil => rfl
  | cons hc hd _ ih =>
    rw [utf8ByteSize_cons, utf8ByteSize_cons, utf8Size_of_value? hc, utf8Size_of_value? hd, ih,
      List.length_cons]
    omega

theorem Spells.toNat_of_mem {s : List Char} {b : Bytes} (h : Spells s b) :
    ∀ c ∈ s, '0'.toNat ≤ c.toNat ∧ c.toNat ≤ 'f'.toNat := by
  induction h with
  | nil => nofun
  | cons hc hd _ ih =>
    exact List.forall_mem_cons.2
      ⟨toNat_of_value? hc, List.forall_mem_cons.2 ⟨toNat_of_value? hd, ih⟩⟩

theorem readPairs_eq_ok_iff {done : Array UInt8} {s : List Char} {r : Bytes} :
    readPairs done s = .ok r ↔ ∃ b, r = done.toList ++ b ∧ Spells s b := by
  constructor
  · intro h
    fun_induction readPairs done s with
    | case1 done c d s high low hd hc ih =>
      obtain ⟨b, rfl, hb⟩ := ih h
      exact ⟨.ofNat (16 * high + low) :: b, by simp, .cons hc hd hb⟩
    | case2 => cases h
    | case3 => cases h
    | case4 => cases h
    | case5 done =>
      cases h
      exact ⟨[], (List.append_nil _).symm, .nil⟩
  · rintro ⟨b, rfl, h⟩
    induction h generalizing done with
    | nil => simp [readPairs]
    | @cons c d high low s b hc hd _ ih =>
      have hp := @ih (done.push (.ofNat (16 * high + low)))
      rw [readPairs, hc, hd]
      dsimp only
      rw [hp]
      simp

/-- Bytes are read of the texts that spell them. -/
theorem decode_eq_ok_iff {s : List Char} {b : Bytes} : decode s = .ok b ↔ Spells s b := by
  have hr : readPairs #[] s = .ok b ↔ Spells s b := by
    simp [readPairs_eq_ok_iff]
  rw [decode]
  constructor
  · intro h
    split at h
    · cases h
    · exact hr.1 h
  · intro h
    rw [if_neg (by rw [h.utf8ByteSize_eq]; omega)]
    exact hr.2 h

/-! ### Upper and lower case -/

/-- A digit stands for the same number in either case. -/
theorem value?_toLower (c : Char) : value? c.toLower = value? c := by
  have h : ∀ n < 91, value? (Char.ofNat n).toLower = value? (Char.ofNat n) := by decide +kernel
  by_cases hc : c.toNat < 91
  · have hn := h c.toNat hc
    rwa [Char.ofNat_toNat] at hn
  · have hlower : c.toLower = c := by
      refine dif_neg fun h => hc (Nat.lt_succ_of_le ?_)
      exact UInt32.le_iff_toNat_le.1 h.2
    rw [hlower]

/-- The digits of a number are the one that is written for it, and this in upper case. -/
theorem value?_eq_some_iff {c : Char} {n : Nat} :
    value? c = some n ↔ n < 16 ∧ c.toLower = digit n := by
  have h : ∀ k < 103, ∀ n ∈ value? (Char.ofNat k), n < 16 ∧ (Char.ofNat k).toLower = digit n := by
    decide +kernel
  constructor
  · intro hc
    have hle : c.toNat ≤ 102 := (toNat_of_value? hc).2
    have hn := h c.toNat (Nat.lt_succ_of_le hle) n
    rw [Char.ofNat_toNat] at hn
    exact hn hc
  · rintro ⟨hn, hc⟩
    rw [← value?_toLower, hc, value?_digit n hn]

theorem digits_cons (x : UInt8) (b : Bytes) :
    digits (x :: b) = digit (x.toNat / 16) :: digit (x.toNat % 16) :: digits b :=
  rfl

/-- Bytes are spelled by their digits, each of them in either case. -/
theorem spells_iff {s : List Char} {b : Bytes} : Spells s b ↔ s.map Char.toLower = digits b := by
  constructor
  · intro h
    induction h with
    | nil => rfl
    | @cons c d high low s b hc hd _ ih =>
      obtain ⟨hhigh, hc⟩ := value?_eq_some_iff.1 hc
      obtain ⟨hlow, hd⟩ := value?_eq_some_iff.1 hd
      have hx : (UInt8.ofNat (16 * high + low)).toNat = 16 * high + low :=
        UInt8.toNat_ofNat_of_lt' (by rw [UInt8.size]; omega)
      have hdiv : (16 * high + low) / 16 = high := by omega
      have hmod : (16 * high + low) % 16 = low := by omega
      rw [List.map_cons, List.map_cons, ih, digits_cons, hx, hdiv, hmod, hc, hd]
  · intro h
    induction b generalizing s with
    | nil =>
      rw [List.map_eq_nil_iff.1 h]
      exact .nil
    | cons x b ih =>
      rw [digits_cons, List.map_eq_cons_iff] at h
      obtain ⟨c, s, rfl, hc, h⟩ := h
      obtain ⟨d, s, rfl, hd, h⟩ := List.map_eq_cons_iff.1 h
      have hlt : x.toNat < 256 := x.toNat_lt
      have hs := Spells.cons (value?_eq_some_iff.2 ⟨by omega, hc⟩)
        (value?_eq_some_iff.2 ⟨by omega, hd⟩) (ih h)
      rwa [Nat.div_add_mod, UInt8.ofNat_toNat] at hs

/-! ### What is written -/

theorem map_toLower_eq_self {s : List Char} (h : ∀ c ∈ s, ¬c.isUpper) :
    s.map Char.toLower = s := by
  have hlower : ∀ c ∈ s, c.toLower = c := fun c hc =>
    dif_neg fun hupper => h c hc (decide_eq_true hupper)
  rw [List.map_congr_left hlower, List.map_id']

theorem not_isUpper_of_mem_digits {b : Bytes} {c : Char} (h : c ∈ digits b) : ¬c.isUpper := by
  have hdigit : ∀ n < 16, ¬(digit n).isUpper := by decide
  obtain ⟨x, -, hx⟩ := List.mem_flatMap.1 h
  have hlt : x.toNat < 256 := x.toNat_lt
  obtain rfl | hx := List.mem_cons.1 hx
  · exact hdigit _ (by omega)
  · obtain rfl := List.mem_singleton.1 hx
    exact hdigit _ (by omega)

/-- The digits of bytes spell them. -/
theorem spells_digits (b : Bytes) : Spells (digits b) b :=
  spells_iff.2 (map_toLower_eq_self fun _ => not_isUpper_of_mem_digits)

theorem toList_encode (b : Bytes) : (encode b).toList = digits b :=
  String.toList_ofList

/-- Whether a text spells bytes without a letter in upper case. -/
structure SpellsLower (s : String) (b : Bytes) : Prop where
  spells : Spells s.toList b
  not_isUpper : ∀ c ∈ s.toList, ¬c.isUpper

/-- Of all texts that spell bytes, the one without letters in upper case is written. -/
theorem spellsLower_iff {s : String} {b : Bytes} : SpellsLower s b ↔ s = encode b := by
  constructor
  · rintro ⟨hs, hupper⟩
    rw [encode, ← spells_iff.1 hs, map_toLower_eq_self hupper, String.ofList_toList]
  · rintro rfl
    constructor
    · rw [toList_encode]
      exact spells_digits b
    · rw [toList_encode]
      exact fun _ => not_isUpper_of_mem_digits

theorem decode_digits (b : Bytes) : decode (digits b) = .ok b :=
  decode_eq_ok_iff.2 (spells_digits b)

theorem digits_injective : Function.Injective digits := fun b b' h =>
  Except.ok.inj ((decode_digits b).symm.trans (h ▸ decode_digits b'))

/-! ### Texts that spell no bytes -/

/-- What is amiss with a text that spells no bytes: it takes an odd number of bytes, or else
    it has a character that is not a digit, and the first such is told, with the digits in
    front of it counted. -/
inductive Misspells (s : List Char) : Error → Prop
  | oddLength : (String.ofList s).utf8ByteSize % 2 = 1 → Misspells s .oddLength
  | invalidDigit {front back : List Char} {c : Char} :
    (String.ofList s).utf8ByteSize % 2 = 0 → s = front ++ c :: back →
      (∀ d ∈ front, (value? d).isSome) → value? c = none →
      Misspells s (.invalidDigit (readPairs.firstByte c) front.length)

/-- Digits are read two by two up to the first character that is none. -/
theorem readPairs_append_cons {c : Char} (hc : value? c = none) (back : List Char) :
    ∀ (front : List Char) (done : Array UInt8), (∀ d ∈ front, (value? d).isSome) →
      readPairs done (front ++ c :: back) =
        .error (.invalidDigit (readPairs.firstByte c) (2 * done.size + front.length))
  | [], done, _ => by
    cases back with
    | nil => rfl
    | cons d back =>
      rw [List.nil_append, readPairs, hc]
      rfl
  | [d], done, h => by
    obtain ⟨n, hd⟩ := Option.isSome_iff_exists.1 (h d (List.mem_singleton_self d))
    rw [List.singleton_append, readPairs, hd, hc]
    rfl
  | d :: d' :: front, done, h => by
    obtain ⟨hd, h⟩ := List.forall_mem_cons.1 h
    obtain ⟨hd', h⟩ := List.forall_mem_cons.1 h
    obtain ⟨high, hd⟩ := Option.isSome_iff_exists.1 hd
    obtain ⟨low, hd'⟩ := Option.isSome_iff_exists.1 hd'
    rw [List.cons_append, List.cons_append, readPairs, hd, hd']
    dsimp only
    rw [readPairs_append_cons hc back front _ h, Array.size_push, List.length_cons,
      List.length_cons]
    congr 2
    omega

theorem exists_of_readPairs_eq_error {done : Array UInt8} {s : List Char} {e : Error}
    (hs : (String.ofList s).utf8ByteSize % 2 = 0) (h : readPairs done s = .error e) :
    ∃ front c back, s = front ++ c :: back ∧ (∀ d ∈ front, (value? d).isSome) ∧
      value? c = none ∧
        e = .invalidDigit (readPairs.firstByte c) (2 * done.size + front.length) := by
  fun_induction readPairs done s with
  | case1 done c d s high low hd hc ih =>
    rw [utf8ByteSize_cons, utf8ByteSize_cons, utf8Size_of_value? hc, utf8Size_of_value? hd] at hs
    obtain ⟨front, x, back, rfl, hf, hx, rfl⟩ := ih (by omega) h
    refine ⟨c :: d :: front, x, back, rfl, ?_, hx, ?_⟩
    · exact List.forall_mem_cons.2
        ⟨Option.isSome_of_eq_some hc, List.forall_mem_cons.2 ⟨Option.isSome_of_eq_some hd, hf⟩⟩
    · rw [Array.size_push, List.length_cons, List.length_cons]
      congr 1
      omega
  | case2 done c d s hc =>
    cases h
    exact ⟨[], c, d :: s, rfl, nofun, hc, rfl⟩
  | case3 done c d s hd hc =>
    cases h
    refine ⟨[c], d, s, rfl, List.forall_mem_singleton.2 ?_, hd, rfl⟩
    exact Option.isSome_iff_ne_none.2 hc
  | case4 done c =>
    cases h
    -- A digit alone would take an odd number of bytes.
    refine ⟨[], c, [], rfl, nofun, ?_, rfl⟩
    refine Option.eq_none_iff_forall_ne_some.2 fun n hc => ?_
    rw [utf8ByteSize_cons, utf8Size_of_value? hc] at hs
    cases hs
  | case5 => cases h

/-- A text that spells no bytes is refused for the first thing amiss. -/
theorem decode_eq_error_iff {s : List Char} {e : Error} : decode s = .error e ↔ Misspells s e := by
  rw [decode]
  constructor
  · intro h
    split at h
    · next hodd =>
      cases h
      exact .oddLength hodd
    · next hodd =>
      have heven : (String.ofList s).utf8ByteSize % 2 = 0 := by omega
      obtain ⟨front, c, back, hs, hf, hc, rfl⟩ := exists_of_readPairs_eq_error heven h
      rw [Array.size_empty, Nat.mul_zero, Nat.zero_add]
      exact .invalidDigit heven hs hf hc
  · intro h
    cases h with
    | oddLength hodd => rw [if_pos hodd]
    | invalidDigit heven hs hf hc =>
      rw [if_neg (by omega), hs, readPairs_append_cons hc _ _ _ hf, Array.size_empty, Nat.mul_zero,
        Nat.zero_add]

end IntentWire.Hex
