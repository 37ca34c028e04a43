import IntentWire.Expression.Argument

/-!
# Arguments for accounts and balances

An account and a balance are written with a comma between them: the 64 hexadecimal digits of
the account, and the decimal digits of the balance. An argument that is not written so is
refused, and what it is refused for is the first check that it fails, whatever it would fail
after it: there is a comma, the account in front of it is hexadecimal and has 32 bytes, and the
balance behind it is a number that fits.

* `Payload.TupleFault`: the first check that an argument fails.
* `Payload.buildPsp22_eq_error_iff`: an argument is refused for it.
* `Clause.toRecord_psp22_eq_iff`: what comes of an argument, in each case.
-/

namespace IntentWire

open Text Bytes Expression

namespace Payload

/-- The first check that an argument fails as an account and a balance. -/
inductive TupleFault (s : List Char) : ArgumentError → Prop
  /-- There is no comma. -/
  | missingComma : ',' ∉ s → TupleFault s .missingComma
  /-- What stands in front of the first comma is not hexadecimal. -/
  | badAccount {left right : List Char} {cause : Hex.Error} :
    s = left ++ ',' :: right → ',' ∉ left → Hex.Misspells (dropHexMark (trim left)) cause →
      TupleFault s (.badAccount cause)
  /-- It spells bytes, but fewer or more than an account has. -/
  | accountSize {left right : List Char} {b : Bytes} :
    s = left ++ ',' :: right → ',' ∉ left → Hex.Spells (dropHexMark (trim left)) b →
      b.length ≠ AccountId.size → TupleFault s (.accountSize b.length)
  /-- It spells an account, and what stands behind the comma is no balance. -/
  | badBalance {left right : List Char} {b : Bytes} {cause : Decimal.Error} :
    s = left ++ ',' :: right → ',' ∉ left → Hex.Spells (dropHexMark (trim left)) b →
      b.length = AccountId.size → Decimal.Misread Amount.size (trim right) cause →
      TupleFault s (.badBalance cause)

variable {argument : String} {reason : ArgumentError}

/-- An argument is refused for the first check that it fails. -/
theorem buildPsp22_eq_error_iff :
    buildPsp22 argument = .error reason ↔ TupleFault argument.toList reason := by
  constructor
  · intro h
    by_cases hm : ',' ∈ argument.toList
    · obtain ⟨left, right, hs, hl⟩ := List.eq_append_cons_of_mem hm
      rw [buildPsp22_of_comma hs hl] at h
      split at h
      · next hd =>
        cases h
        exact .badAccount hs hl (Hex.decode_eq_error_iff.1 hd)
      next account hd =>
      have hd := Hex.decode_eq_ok_iff.1 hd
      split at h
      · next hsize =>
        cases h
        exact .accountSize hs hl hd hsize
      next hsize =>
      split at h
      · next hr =>
        cases h
        exact .badBalance hs hl hd (not_not.1 hsize) (Decimal.read_eq_error_iff.1 hr)
      · cases h
    · rw [buildPsp22_of_notMem hm] at h
      cases h
      exact .missingComma hm
  · intro h
    cases h with
    | missingComma hm => exact buildPsp22_of_notMem hm
    | badAccount hs hl hd => rw [buildPsp22_of_comma hs hl, Hex.decode_eq_error_iff.2 hd]
    | accountSize hs hl hd hsize =>
      rw [buildPsp22_of_comma hs hl, Hex.decode_eq_ok_iff.2 hd]
      exact if_pos hsize
    | badBalance hs hl hd hsize hr =>
      rw [buildPsp22_of_comma hs hl, Hex.decode_eq_ok_iff.2 hd]
      dsimp only
      rw [if_neg (not_not.2 hsize), Decimal.read_eq_error_iff.2 hr]

end Payload

namespace Clause

open Payload

/-- What comes of an argument that is to be an account and a balance.

    * It makes a payload if it spells an account and a balance, with blanks around either, a
      mark of hexadecimal or none, and a plus sign or none. The payload has the bytes of the
      account and the 16 bytes of the balance, the least significant first.
    * Otherwise it is refused, and for the first check that it fails. -/
theorem toRecord_psp22_eq_iff (argument : String) :
    (∀ payload, (Clause.mk Tag.psp22 argument).toRecord = .ok ⟨Tag.psp22, payload⟩ ↔
        ∃ (l : TupleLayout) (account : AccountId) (amount : Amount),
          argument.toList = l.chars ∧ l.Spells account amount ∧
            payload = account.bytes ++ littleEndian 16 amount.toNat) ∧
      ((∀ payload, (Clause.mk Tag.psp22 argument).toRecord ≠ .ok ⟨Tag.psp22, payload⟩) ↔
        ∃ reason, TupleFault argument.toList reason) ∧
      ∀ e, (Clause.mk Tag.psp22 argument).toRecord = .error e ↔
        ∃ reason, TupleFault argument.toList reason ∧ e = .invalidArgument Tag.psp22 reason := by
  have hbuild : build Tag.psp22 argument = buildPsp22 argument := rfl
  refine ⟨fun payload => ?_, ?_, fun e => ?_⟩
  · rw [toRecord_eq_ok_iff, hbuild, buildPsp22_eq_ok_iff]
    exact and_iff_right rfl
  · simp only [ne_eq, toRecord_eq_ok_iff, hbuild, true_and, ← buildPsp22_eq_error_iff]
    cases buildPsp22 argument with
    | ok payload => exact iff_of_false (fun h => h payload rfl) nofun
    | error reason => exact iff_of_true nofun ⟨reason, rfl⟩
  · simp only [toRecord_eq_error_iff, hbuild, buildPsp22_eq_error_iff]

/-- Of an account and a balance that are both amiss, the account is told. -/
example : (Clause.mk Tag.psp22 "\t0xfg,340282366920938463463374607431768211456").toRecord =
    .error (.invalidArgument Tag.psp22 (.badAccount (.invalidDigit 103 1))) := rfl

end Clause

end IntentWire
