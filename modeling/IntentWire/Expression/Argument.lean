import IntentWire.Expression.Lemmas
import IntentWire.Statement.Lemmas

/-!
# Arguments

What is built of an argument, by the type of the intent.

* `Payload.buildPsp22_of_comma`: an account and a balance are told by what stands around
  the first comma.
* `Payload.buildPsp22_eq_ok_iff`: an account and a balance are built of the texts that
  spell them, and of no others. There is a comma between the two, blanks are around
  either, and a mark of hexadecimal may be in front of the account, a plus sign in
  front of the balance (`TupleLayout`).
* `Payload.build_of_unknown`: what is built for every type that is not known.
-/

namespace IntentWire.Payload

open Text Bytes Expression

/-- An account and a balance as they are written. -/
structure TupleLayout where
  front : List Char
  mark : List Char
  account : List Char
  gap : List Char
  lead : List Char
  sign : List Char
  amount : List Char
  back : List Char

namespace TupleLayout

/-- The layout up to the comma. -/
def left (l : TupleLayout) : List Char :=
  l.front ++ ((l.mark ++ l.account) ++ l.gap)

/-- The layout behind the comma. -/
def right (l : TupleLayout) : List Char :=
  l.lead ++ ((l.sign ++ l.amount) ++ l.back)

/-- A layout as it is written. -/
def chars (l : TupleLayout) : List Char :=
  l.left ++ ',' :: l.right

/-- A layout spells an account by two digits for each byte, and a balance by its decimal
    digits, of which there is one at least. -/
structure Spells (l : TupleLayout) (account : AccountId) (amount : Amount) : Prop where
  blank_front : ∀ c ∈ l.front, isBlank c
  mark_eq : l.mark = [] ∨ l.mark = ['0', 'x']
  spells_account : Hex.Spells l.account account.bytes
  blank_gap : ∀ c ∈ l.gap, isBlank c
  blank_lead : ∀ c ∈ l.lead, isBlank c
  sign_eq : l.sign = [] ∨ l.sign = ['+']
  amount_ne_nil : l.amount ≠ []
  isDigit_amount : ∀ c ∈ l.amount, c.isDigit
  ofDigitChars_amount : Nat.ofDigitChars 10 l.amount 0 = amount.toNat
  blank_back : ∀ c ∈ l.back, isBlank c

end TupleLayout

/-! ### The mark -/

/-- No digits are taken for the mark. -/
theorem dropHexMark_of_spells {s : List Char} {b : Bytes} (h : Hex.Spells s b) :
    dropHexMark s = s := by
  -- The mark has an x, which is no digit.
  have hx : Hex.value? 'x' = none := by decide
  refine dropHexMark.eq_2 s ?_
  rintro t rfl
  cases h with
  | cons _ hd =>
    rw [hx] at hd
    cases hd

theorem dropHexMark_append {mark s : List Char} {b : Bytes}
    (hm : mark = [] ∨ mark = ['0', 'x']) (h : Hex.Spells s b) : dropHexMark (mark ++ s) = s := by
  obtain rfl | rfl := hm
  · exact dropHexMark_of_spells h
  · rfl

theorem exists_eq_append_dropHexMark (s : List Char) :
    ∃ mark, (mark = [] ∨ mark = ['0', 'x']) ∧ s = mark ++ dropHexMark s := by
  fun_cases dropHexMark s with
  | case1 s => exact ⟨['0', 'x'], .inr rfl, rfl⟩
  | case2 => exact ⟨[], .inl rfl, rfl⟩

/-! ### Accounts and balances -/

variable {argument : String} {payload : Bytes}

theorem buildPsp22_of_notMem (h : ',' ∉ argument.toList) :
    buildPsp22 argument = .error .missingComma := by
  rw [buildPsp22]
  dsimp only
  rw [dropWhile_bne_of_notMem h]
  rfl

/-- The account and the balance are told by the texts around the first comma. -/
theorem buildPsp22_of_comma {left right : List Char} (hs : argument.toList = left ++ ',' :: right)
    (hl : ',' ∉ left) : buildPsp22 argument =
      match Hex.decode (dropHexMark (trim left)) with
      | .error cause => .error (.badAccount cause)
      | .ok account =>
        if account.length ≠ AccountId.size then .error (.accountSize account.length)
        else match Decimal.read Amount.size (by decide) (trim right) with
          | .error cause => .error (.badBalance cause)
          | .ok amount => .ok (account ++ littleEndian 16 amount.val) := by
  rw [buildPsp22]
  dsimp only
  rw [hs, dropWhile_bne_append hl, takeWhile_bne_append hl]
  dsimp only
  cases Hex.decode (dropHexMark (trim left)) with
  | error cause => rfl
  | ok account =>
    dsimp only
    by_cases hsize : account.length ≠ AccountId.size
    · rw [if_pos hsize]
      exact if_pos hsize
    · rw [if_neg hsize]
      refine (if_neg hsize).trans ?_
      cases Decimal.read Amount.size (by decide) (trim right) <;> rfl

namespace TupleLayout.Spells

variable {l : TupleLayout} {account : AccountId} {amount : Amount}

/-- The mark and the digits of the account are between the digit zero and `x`. -/
theorem toNat_of_mem_left (h : l.Spells account amount) :
    ∀ c ∈ l.mark ++ l.account, '0'.toNat ≤ c.toNat ∧ c.toNat ≤ 'x'.toNat := by
  have hfx : 'f'.toNat ≤ 'x'.toNat := by decide
  refine List.forall_mem_append.2 ⟨?_, fun c hc => ?_⟩
  · obtain hm | hm := h.mark_eq
    · rw [hm]
      nofun
    · rw [hm]
      exact List.forall_mem_cons.2 ⟨by decide, List.forall_mem_singleton.2 (by decide)⟩
  · obtain ⟨hl, hu⟩ := h.spells_account.toNat_of_mem c hc
    exact ⟨hl, Nat.le_trans hu hfx⟩

/-- The sign and the digits of the balance are between the plus sign and the digit nine. -/
theorem toNat_of_mem_right (h : l.Spells account amount) :
    ∀ c ∈ l.sign ++ l.amount, '+'.toNat ≤ c.toNat ∧ c.toNat ≤ '9'.toNat := by
  refine List.forall_mem_append.2 ⟨?_, fun c hc => ?_⟩
  · obtain hs | hs := h.sign_eq
    · rw [hs]
      nofun
    · rw [hs]
      exact List.forall_mem_singleton.2 (by decide)
  · have hd := h.isDigit_amount c hc
    have h0 : '+'.toNat ≤ '0'.toNat := by decide
    simp only [Char.isDigit, Bool.and_eq_true, decide_eq_true_eq] at hd
    exact ⟨Nat.le_trans h0 (UInt32.le_iff_toNat_le.1 hd.1), UInt32.le_iff_toNat_le.1 hd.2⟩

theorem comma_notMem_left (h : l.Spells account amount) : ',' ∉ l.left := by
  have hblank : ¬isBlank ',' := by decide
  rw [left, List.mem_append, List.mem_append]
  rintro (hc | hc | hc)
  · exact hblank (h.blank_front _ hc)
  · exact absurd (h.toNat_of_mem_left _ hc).1 (by decide)
  · exact hblank (h.blank_gap _ hc)

theorem trim_left (h : l.Spells account amount) : trim l.left = l.mark ++ l.account :=
  trim_append_append h.blank_front
    (isTrimmed_of_toNat (by decide) (by decide) h.toNat_of_mem_left) h.blank_gap

theorem trim_right (h : l.Spells account amount) : trim l.right = l.sign ++ l.amount :=
  trim_append_append h.blank_lead
    (isTrimmed_of_toNat (by decide) (by decide) h.toNat_of_mem_right) h.blank_back

end TupleLayout.Spells

/-- An account and a balance are built of a text that spells them. -/
theorem TupleLayout.Spells.buildPsp22_eq {l : TupleLayout} {account : AccountId} {amount : Amount}
    (h : l.Spells account amount) (hs : argument.toList = l.chars) :
    buildPsp22 argument = .ok (Statement.toTuple account amount) := by
  have hsize : amount.toNat < Amount.size := amount.isLt
  have hread : Decimal.read Amount.size (by decide) (l.sign ++ l.amount) =
      .ok ⟨amount.toNat, hsize⟩ :=
    Decimal.read_eq_ok_iff.2
      ⟨l.sign, l.amount, rfl, h.sign_eq, h.amount_ne_nil, h.isDigit_amount, h.ofDigitChars_amount⟩
  rw [buildPsp22_of_comma hs h.comma_notMem_left, h.trim_left, h.trim_right,
    dropHexMark_append h.mark_eq h.spells_account, Hex.decode_eq_ok_iff.2 h.spells_account, hread]
  exact if_neg (not_not.2 account.length_bytes)

/-- What is built for an account and a balance is what is in front of the first comma and
    what is behind it. -/
theorem exists_of_buildPsp22_eq_ok (h : buildPsp22 argument = .ok payload) :
    ∃ left right account amount, argument.toList = left ++ ',' :: right ∧
      Hex.Spells (dropHexMark (trim left)) account ∧ account.length = AccountId.size ∧
      Decimal.read Amount.size (by decide) (trim right) = .ok amount ∧
      payload = account ++ littleEndian 16 amount.val := by
  by_cases hm : ',' ∈ argument.toList
  · obtain ⟨left, right, hs, hl⟩ := List.eq_append_cons_of_mem hm
    rw [buildPsp22_of_comma hs hl] at h
    split at h
    · cases h
    next account hd =>
    split at h
    · cases h
    next hsize =>
    split at h
    · cases h
    next amount hr =>
    cases h
    exact ⟨left, right, account, amount, hs, Hex.decode_eq_ok_iff.1 hd, not_not.1 hsize, hr, rfl⟩
  · rw [buildPsp22_of_notMem hm] at h
    cases h

/-- An account and a balance are built of the texts that spell them. -/
theorem buildPsp22_eq_ok_iff :
    buildPsp22 argument = .ok payload ↔
      ∃ (l : TupleLayout) (account : AccountId) (amount : Amount),
        argument.toList = l.chars ∧ l.Spells account amount ∧
          payload = Statement.toTuple account amount := by
  constructor
  · intro h
    obtain ⟨left, right, account, amount, hs, ha, hl, hm, rfl⟩ := exists_of_buildPsp22_eq_ok h
    obtain ⟨front, gap, hfront, hgap, hleft⟩ := exists_eq_append_trim left
    obtain ⟨lead, back, hlead, hback, hright⟩ := exists_eq_append_trim right
    obtain ⟨mark, hmark, htrim⟩ := exists_eq_append_dropHexMark (trim left)
    obtain ⟨sign, digits, hnumber, hsign, hne, hdigits, hvalue⟩ := Decimal.read_eq_ok_iff.1 hm
    refine ⟨⟨front, mark, dropHexMark (trim left), gap, lead, sign, digits, back⟩, ⟨account, hl⟩,
      ⟨amount⟩, ?_, ⟨hfront, hmark, ha, hgap, hlead, hsign, hne, hdigits, hvalue, hback⟩, rfl⟩
    rw [htrim] at hleft
    rw [hnumber] at hright
    exact hs.trans (congrArg₂ (· ++ ',' :: ·) hleft hright)
  · rintro ⟨l, account, amount, hs, h, rfl⟩
    exact h.buildPsp22_eq hs

/-! ### By type -/

/-- The hash function, the size of the digest and the digest. -/
theorem buildPassword_eq (argument : String) :
    buildPassword argument = .ok (0x12 :: 0x20 :: Sha256.digest (ofText argument)) := by
  rw [buildPassword, Sha256.length_digest]
  rfl

theorem map_fst_builtin : builtin.map (·.1) = Tag.known :=
  rfl

/-- The arguments of the types that are not known are built as texts. -/
theorem build_of_unknown {tag : String} (h : tag ∉ Tag.known) (argument : String) :
    build tag argument = .ok (field (ofText argument)) := by
  rw [build, Tag.lookup_of_notMem_known map_fst_builtin h, Option.getD_none]
  rfl

end IntentWire.Payload
