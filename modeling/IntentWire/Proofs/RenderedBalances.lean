import IntentWire.Expression.Argument
import IntentWire.Proofs.Tuples

/-!
# Balances that are shown and read back

An account is shown by its digits and a balance by its decimal ones, and these, with a comma
between them, are an argument that the same account and balance are built of. What is built is
the bare 48 bytes, whether the payload shown had them bare or behind a length.

* `Payload.shown`: an account and a balance as they are shown, written as an argument.
* `Payload.buildPsp22_shown`: what is built of it.
* `Statement.value_eq_of_display_eq`: no other payload is shown like an account and a balance.
* `Statement.toRecord_shown_of_decodePsp22`: what is decoded, shown and built again.
-/

namespace IntentWire

open Text Bytes Expression

namespace Payload

variable {mark blanks : String} {account : AccountId} {amount : Amount}

/-- An account and a balance as they are shown, written as an argument: a mark is in front of
    the account, and blanks are behind the comma. -/
def shown (mark blanks : String) (account : AccountId) (amount : Amount) : String :=
  mark ++ account.hex ++ "," ++ blanks ++ toString amount.toNat

/-- The layout of what is shown. -/
def TupleLayout.ofShown (mark blanks : String) (account : AccountId) (amount : Amount) :
    TupleLayout where
  front := []
  mark := mark.toList
  account := Hex.digits account.bytes
  gap := []
  lead := blanks.toList
  sign := []
  amount := Nat.toDigits 10 amount.toNat
  back := []

theorem toList_shown :
    (shown mark blanks account amount).toList =
      (TupleLayout.ofShown mark blanks account amount).chars := by
  simp [shown, TupleLayout.ofShown, TupleLayout.chars, TupleLayout.left, TupleLayout.right,
    AccountId.hex, Hex.encode]

/-- The digits that an account and a balance are shown by spell them. -/
theorem TupleLayout.spells_ofShown (hm : mark = "" ∨ mark = "0x")
    (hb : ∀ c ∈ blanks.toList, isBlank c) :
    (ofShown mark blanks account amount).Spells account amount where
  blank_front := nofun
  mark_eq := hm.imp (congrArg String.toList) (congrArg String.toList)
  spells_account := Hex.spells_digits account.bytes
  blank_gap := nofun
  blank_lead := hb
  sign_eq := .inl rfl
  amount_ne_nil := Nat.toDigits_ne_nil
  isDigit_amount _ := Nat.isDigit_of_mem_toDigits (by decide) (by decide)
  ofDigitChars_amount := Nat.ofDigitChars_ten_toDigits
  blank_back := nofun

theorem buildPsp22_shown (hm : mark = "" ∨ mark = "0x") (hb : ∀ c ∈ blanks.toList, isBlank c) :
    buildPsp22 (shown mark blanks account amount) = .ok (Statement.toTuple account amount) :=
  (TupleLayout.spells_ofShown hm hb).buildPsp22_eq toList_shown

end Payload

namespace Statement

open IntentWire.Compact (IsWhole)

variable {account account' : AccountId} {amount amount' : Amount} {payload : Bytes}

theorem display_accountBalance (account : AccountId) (amount : Amount) :
    display (.accountBalance account amount) =
      "account=" ++ account.hex ++ " amount=" ++ toString amount.toNat :=
  rfl

theorem display_invalid (reason : String) :
    display (.invalid reason) = "(invalid statement: " ++ reason ++ ")" :=
  rfl

/-- No other account and balance are shown in the same way. -/
theorem display_accountBalance_inj
    (h : display (.accountBalance account amount) = display (.accountBalance account' amount')) :
    account = account' ∧ amount = amount' := by
  have hl := account.length_toList_hex.trans account'.length_toList_hex.symm
  rw [display_accountBalance, display_accountBalance, String.append_assoc, String.append_assoc,
    String.append_assoc, String.append_assoc, String.append_right_inj, ← String.toList_inj,
    String.toList_append, String.toList_append (s := account'.hex)] at h
  -- Accounts are shown by as many digits, so they are told apart from what is behind.
  obtain ⟨ha, hn⟩ := List.append_inj h hl
  rw [String.toList_inj] at ha hn
  rw [String.append_right_inj] at hn
  exact ⟨AccountId.hex_inj.1 ha, Amount.toString_inj.1 hn⟩

/-- A payload that makes no sense is shown in another way. -/
theorem display_invalid_ne (reason : String) :
    display (.invalid reason) ≠ display (.accountBalance account amount) := by
  intro h
  rw [display_accountBalance, display_invalid, ← String.toList_inj] at h
  have hc := congrArg List.head? h
  simp at hc

/-- No other payload is shown like one that holds an account and its balance. -/
theorem value_eq_of_display_eq
    (h : (decodePsp22 payload).value.display = display (.accountBalance account amount)) :
    (decodePsp22 payload).value = .accountBalance account amount := by
  rcases value_decodePsp22_cases payload with ⟨account', amount', -, hv⟩ | ⟨-, hv⟩ | ⟨-, -, hv⟩
  · rw [hv] at h
    obtain ⟨rfl, rfl⟩ := display_accountBalance_inj h
    exact hv
  · exact absurd (hv ▸ h) (display_invalid_ne _)
  · exact absurd (hv ▸ h) (display_invalid_ne _)

theorem holdsTuple_of_value_eq
    (h : (decodePsp22 payload).value = .accountBalance account amount) :
    HoldsTuple payload account amount := by
  rcases value_decodePsp22_cases payload with ⟨_, _, hh, hv⟩ | ⟨-, hv⟩ | ⟨-, -, hv⟩
  · obtain ⟨rfl, rfl⟩ := Statement.accountBalance.inj (hv.symm.trans h)
    exact hh
  · cases hv.symm.trans h
  · cases hv.symm.trans h

/-- What comes of an account and its balance that are decoded, shown and read back.

    * They are decoded of every payload of 48 bytes.
    * Of whatever payload they are decoded, they are built again as its last 48 bytes `t`, which
      are what is in it but for a length. The text that they are built of is what shows the
      account, with or without a mark of hexadecimal, then a comma and any blanks, then what
      shows the balance.
    * No other statement of a payload is shown like theirs. -/
theorem toRecord_shown_of_decodePsp22 (payload : Bytes) :
    (payload.length = tupleSize → ∃ account amount,
        (decodePsp22 payload).value = .accountBalance account amount) ∧
      ∀ account amount, (decodePsp22 payload).value = .accountBalance account amount →
        (∃ q t, payload = q ++ t ∧ (q = [] ∨ IsWhole q) ∧ t.length = tupleSize ∧
          (decodePsp22 t).value = .accountBalance account amount ∧
          ∀ mark blanks, (mark = "" ∨ mark = "0x") → (∀ c ∈ blanks.toList, isBlank c) →
            (Clause.mk Tag.psp22 (Payload.shown mark blanks account amount)).toRecord =
              .ok ⟨Tag.psp22, t⟩) ∧
        ∀ other, (decodePsp22 other).value.display = (decodePsp22 payload).value.display →
          (decodePsp22 other).value = (decodePsp22 payload).value := by
  refine ⟨fun hl => ?_, fun account amount hv => ⟨?_, fun other h => ?_⟩⟩
  · obtain ⟨account, amount, rfl⟩ := exists_toTuple hl
    exact ⟨account, amount, HoldsTuple.value_eq (.inl rfl)⟩
  · obtain ⟨q, hq, h⟩ := (holdsTuple_of_value_eq hv).exists_append
    exact ⟨q, toTuple account amount, h, hq, length_toTuple account amount,
      HoldsTuple.value_eq (.inl rfl), fun mark blanks hm hb =>
        Clause.toRecord_eq_ok_iff.2 ⟨rfl, Payload.buildPsp22_shown hm hb⟩⟩
  · rw [hv] at h ⊢
    exact value_eq_of_display_eq h

/-- An account and its balance behind one byte that could be a length, shown with a mark and
    a blank. -/
theorem toRecord_shown_of_decodePsp22_wrapped :
    (decodePsp22 (0xC0 :: toTuple ⟨.replicate 32 0xAB, rfl⟩ 1000)).value =
        .accountBalance ⟨.replicate 32 0xAB, rfl⟩ 1000 ∧
      (Clause.mk Tag.psp22 (Payload.shown "0x" "\t" ⟨.replicate 32 0xAB, rfl⟩ 1000)).toRecord =
        .ok ⟨Tag.psp22, toTuple ⟨.replicate 32 0xAB, rfl⟩ 1000⟩ := by
  have hv : (decodePsp22 (0xC0 :: toTuple ⟨.replicate 32 0xAB, rfl⟩ 1000)).value =
      .accountBalance ⟨.replicate 32 0xAB, rfl⟩ 1000 :=
    HoldsTuple.value_eq (.inr ⟨[0xC0], by decide, rfl⟩)
  obtain ⟨⟨q, t, ht, -, hl, -, hrebuild⟩, -⟩ :=
    (toRecord_shown_of_decodePsp22 (0xC0 :: toTuple ⟨.replicate 32 0xAB, rfl⟩ 1000)).2 _ _ hv
  replace ht : [0xC0] ++ toTuple _ _ = q ++ t := ht
  obtain ⟨-, rfl⟩ := List.append_inj' ht ((length_toTuple _ _).trans hl.symm)
  exact ⟨hv, hrebuild "0x" "\t" (.inr rfl) (List.forall_mem_singleton.2 (by decide))⟩

end Statement

end IntentWire
