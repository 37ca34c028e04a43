import IntentWire.Bytes.Lemmas
import IntentWire.Compact.Lemmas
import IntentWire.Statement.Decoder
import IntentWire.Writer
import Mathlib.Data.List.Basic
import Mathlib.Data.Prod.Basic

/-!
# Laws of decoding payloads

* `decodePsp22_toTuple`: an account and its balance are decoded of their 48 bytes.
* `stripLength_encode_append`: a length in front of a payload is stripped, and what is in
  the payload is not looked at. In particular, no second length is.
* `stripLength_eq_self`: nothing else is stripped.
* `decode_of_unknown`: what every type that is not known is decoded as.
* `toJson_injective`: no two statements are reported alike.
-/

namespace IntentWire

open Bytes

namespace Tag

/-- The types that are known. -/
def known : List String :=
  [psp22, password, sr25519]

theorem mem_known {tag : String} :
    tag ∈ known ↔ tag = psp22 ∨ tag = password ∨ tag = sr25519 := by
  simp [known]

/-- A table of the known types has nothing on the others. -/
theorem lookup_of_notMem_known {α : Type} {table : List (String × α)} {tag : String}
    (ht : table.map (·.1) = known) (h : tag ∉ known) : table.lookup tag = none := by
  refine List.lookup_eq_none_iff.2 fun entry he => bne_iff_ne.2 ?_
  rintro rfl
  exact h (ht ▸ List.mem_map_of_mem he)

end Tag

namespace AccountId

theorem length_toList_hex (a : AccountId) : a.hex.toList.length = 2 * size := by
  rw [hex, Hex.toList_encode, Hex.length_digits, a.length_bytes]
  rfl

/-- Accounts are told apart by what they are shown as. -/
theorem hex_inj {a a' : AccountId} : a.hex = a'.hex ↔ a = a' := by
  refine ⟨fun h => ?_, congrArg hex⟩
  cases a
  cases a'
  congr 1
  exact Hex.digits_injective (String.ofList_inj.1 h)

end AccountId

/-- Amounts are told apart by what they are shown as. -/
theorem Amount.toString_inj {n n' : Amount} : toString n.toNat = toString n'.toNat ↔ n = n' := by
  refine ⟨fun h => BitVec.eq_of_toNat_eq ?_, fun h => h ▸ rfl⟩
  rw [Nat.toString_eq_ofList_toDigits, Nat.toString_eq_ofList_toDigits, String.ofList_inj] at h
  have hn := congrArg (Nat.ofDigitChars 10 · 0) h
  simpa only [Nat.ofDigitChars_ten_toDigits] using hn

namespace Statement

/-! ### Accounts and balances -/

/-- The 48 bytes of an account and its balance. -/
def toTuple (account : AccountId) (amount : Amount) : Bytes :=
  account.bytes ++ littleEndian 16 amount.toNat

theorem length_toTuple (account : AccountId) (amount : Amount) :
    (toTuple account amount).length = tupleSize := by
  rw [toTuple, List.length_append, account.length_bytes, length_littleEndian]
  rfl

theorem ofTuple_toTuple (account : AccountId) (amount : Amount) :
    ofTuple (toTuple account amount) (length_toTuple account amount) =
      .accountBalance account amount := by
  have hamount : amount.toNat < 256 ^ 16 := amount.isLt
  have ht : (toTuple account amount).take 32 = account.bytes :=
    List.take_left' account.length_bytes
  have hd : (toTuple account amount).drop 32 = littleEndian 16 amount.toNat :=
    List.drop_left' account.length_bytes
  simp only [ofTuple, ht, hd, ofLittleEndian_littleEndian hamount, BitVec.ofNat_toNat,
    BitVec.setWidth_eq]

/-- There are 48 bytes of no other kind. -/
theorem exists_toTuple {t : Bytes} (h : t.length = tupleSize) :
    ∃ account amount, t = toTuple account amount := by
  have hr : (t.drop 32).length = 16 := by rw [List.length_drop, h]; rfl
  have hlt := ofLittleEndian_lt (t.drop 32)
  rw [hr] at hlt
  have hamount : (BitVec.ofNat 128 (ofLittleEndian (t.drop 32))).toNat =
      ofLittleEndian (t.drop 32) := by
    rw [BitVec.toNat_ofNat]
    exact Nat.mod_eq_of_lt hlt
  refine ⟨⟨t.take 32, by rw [List.length_take, h]; rfl⟩,
    .ofNat 128 (ofLittleEndian (t.drop 32)), ?_⟩
  rw [toTuple, hamount, ← hr, littleEndian_ofLittleEndian, List.take_append_drop]

theorem decodePsp22_toTuple (account : AccountId) (amount : Amount) :
    decodePsp22 (toTuple account amount) = pure (.accountBalance account amount) := by
  rw [decodePsp22, dif_pos (length_toTuple account amount), ofTuple_toTuple]

/-! ### Texts -/

/-- What counts the bytes behind it is stripped, once, and reported, whatever these bytes are. -/
theorem stripLength_encode_append {n : UInt64} {b : Bytes} (h : b.length = n.toNat) :
    stripLength (Compact.encode n ++ b) = do
      Logged.report (.strippedTextLength n (Compact.width n))
      return b := by
  have hd : (Compact.encode n ++ b).drop (Compact.width n) = b := by
    rw [← Compact.length_encode, List.drop_left]
  rw [stripLength, Compact.decode_encode_append]
  dsimp only
  rw [hd, if_pos h.symm]

theorem value_stripLength_field {b : Bytes} (h : b.length < UInt64.size) :
    (stripLength (field b)).value = b := by
  rw [field, stripLength_encode_append (UInt64.toNat_ofNat_of_lt' h).symm, Logged.value_bind,
    Logged.value_pure]

/-- Nothing is stripped of a payload that does not start with what counts its other bytes. -/
theorem stripLength_eq_self {payload : Bytes}
    (h : ∀ n b, payload = Compact.encode n ++ b → b.length ≠ n.toNat) :
    stripLength payload = pure payload := by
  rw [stripLength]
  cases hd : Compact.decode payload with
  | error cause => rfl
  | ok found =>
    obtain ⟨declared, consumed⟩ := found
    have hne := h declared _ (Compact.eq_encode_append_of_decode hd).2
    dsimp only
    rw [if_neg fun he => hne he.symm]

theorem value_decodePlainText (payload : Bytes) :
    (decodePlainText payload).value = match text? (stripLength payload).value with
      | some text => .plainText text
      | none => .invalid badText := by
  rw [decodePlainText, Logged.value_bind]
  cases text? (stripLength payload).value <;> rfl

theorem value_decodePlainText_field {s : String} (h : (ofText s).length < UInt64.size) :
    (decodePlainText (field (ofText s))).value = .plainText s := by
  rw [value_decodePlainText, value_stripLength_field h, text?_ofText]

/-! ### By type -/

/-- What is reported does not bear on the statement. -/
@[simp] theorem value_decodeWith (decoder : Decoder) (tag : String) (payload : Bytes) :
    (decodeWith decoder tag payload).value = (decoder payload).value := by
  rw [decodeWith, Logged.value_bind]
  cases (decoder payload).value <;> rfl

theorem map_fst_builtin : builtin.map (·.1) = Tag.known :=
  rfl

theorem decode_psp22 (payload : Bytes) :
    decode Tag.psp22 payload = decodeWith decodePsp22 Tag.psp22 payload :=
  rfl

theorem value_decode_password (payload : Bytes) :
    (decode Tag.password payload).value = .hexBytes (Hex.encode payload) :=
  rfl

/-- Payloads of the types that are not known are decoded as texts. -/
theorem decode_of_unknown {tag : String} (h : tag ∉ Tag.known) (payload : Bytes) :
    decode tag payload = decodeWith decodePlainText tag payload := by
  rw [decode, Tag.lookup_of_notMem_known map_fst_builtin h, Option.getD_none]

/-! ### What is reported of statements -/

/-- A statement is told by the name of its kind and its value, as all kinds have names of their
    own. -/
theorem eq_of_kind_eq {s s' : Statement} (hk : s.kind = s'.kind) (hv : s.value? = s'.value?) :
    s = s' := by
  cases s with
  | accountBalance account amount =>
    cases s' with
    | accountBalance account' amount' =>
      simp only [value?, Option.some.injEq, Json.object.injEq, List.cons.injEq, Prod.mk.injEq,
        Json.text.injEq, true_and, and_true] at hv
      rw [AccountId.hex_inj.1 hv.1, Amount.toString_inj.1 hv.2]
    | hexBytes | empty | plainText | invalid => simp [kind] at hk
  | hexBytes hex =>
    cases s' with
    | hexBytes hex' =>
      cases hv
      rfl
    | accountBalance | empty | plainText | invalid => simp [kind] at hk
  | empty =>
    cases s' with
    | empty => rfl
    | accountBalance | hexBytes | plainText | invalid => simp [kind] at hk
  | plainText text =>
    cases s' with
    | plainText text' =>
      cases hv
      rfl
    | accountBalance | hexBytes | empty | invalid => simp [kind] at hk
  | invalid reason =>
    cases s' with
    | invalid reason' =>
      cases hv
      rfl
    | accountBalance | hexBytes | empty | plainText => simp [kind] at hk

/-- No two statements are reported as the same value. -/
theorem toJson_injective : Function.Injective toJson := by
  intro s s' h
  rw [toJson, toJson, Json.object.injEq, List.cons.injEq] at h
  obtain ⟨hk, hv⟩ := h
  simp only [Prod.mk.injEq, Json.text.injEq, true_and] at hk
  replace hv := congrArg List.head? ((Prod.mk_right_injective "value").list_map hv)
  rw [Option.head?_toList, Option.head?_toList] at hv
  exact eq_of_kind_eq hk hv

end Statement

end IntentWire
