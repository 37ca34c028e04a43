import IntentWire.Text.Hex
import IntentWire.Text.Json

/-!
# Statements

A *statement* is what the payload of an intent says, as far as its type is known:
an account and the balance it must hold, bytes, nothing, a text; or that the
payload makes no sense.
-/

namespace IntentWire

/-- An account, by its 32 bytes. -/
structure AccountId where
  bytes : Bytes
  length_bytes : bytes.length = 32
  deriving DecidableEq

namespace AccountId

/-- The number of bytes of an account. -/
def size : Nat := 32

/-- An account as it is shown. -/
def hex (a : AccountId) : String :=
  Hex.encode a.bytes

/-- An account as it is shown to a programmer. -/
def describe (a : AccountId) : String :=
  s!"AccountId({a.hex})"

end AccountId

/-- A token amount, a word of 128 bits. -/
abbrev Amount := BitVec 128

/-- The number of amounts. -/
def Amount.size : Nat := 340282366920938463463374607431768211456

/-- What the payload of an intent says. -/
inductive Statement where
  /-- The account holds at least the amount. -/
  | accountBalance (account : AccountId) (amount : Amount)
  /-- Bytes, by their hexadecimal digits. -/
  | hexBytes (hex : String)
  /-- The type of the intent says it all. -/
  | empty
  | plainText (text : String)
  /-- The payload makes no sense. -/
  | invalid (reason : String)
  deriving DecidableEq

namespace Statement

/-- The name of the kind of a statement. -/
def kind : Statement → String
  | .accountBalance .. => "account_balance"
  | .hexBytes .. => "hex_bytes"
  | .empty => "empty"
  | .plainText .. => "plain_text"
  | .invalid .. => "invalid"

/-- Whether the payload made no sense. -/
def isInvalid : Statement → Bool
  | .invalid .. => true
  | _ => false

/-- A statement as it is shown on a line. -/
def display : Statement → String
  | .accountBalance account amount => s!"account={account.hex} amount={amount.toNat}"
  | .hexBytes hex => hex
  | .empty => ""
  | .plainText text => text
  | .invalid reason => s!"(invalid statement: {reason})"

/-- The value that a report gives for a statement. Amounts are texts, as they may be
    too large for readers of JSON numbers. -/
def value? : Statement → Option Json
  | .accountBalance account amount =>
    some (.object [("account", .text account.hex), ("amount", .text (toString amount.toNat))])
  | .hexBytes hex => some (.text hex)
  | .empty => none
  | .plainText text => some (.text text)
  | .invalid reason => some (.text reason)

/-- A statement as it is reported: its kind, and its value if it has one. -/
def toJson (s : Statement) : Json :=
  .object (("kind", .text s.kind) :: s.value?.toList.map (("value", ·)))

end Statement

end IntentWire
