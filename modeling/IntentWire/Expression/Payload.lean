import IntentWire.Sha256
import IntentWire.Statement.Decoder
import IntentWire.Text.Blank
import IntentWire.Text.Decimal
import IntentWire.Writer

/-!
# Building payloads

The payload of an intent is built from an argument, which is a text. How depends on
the type, as it does for decoding (`Statement.builtin`): the table here has the same
types, and every other type carries its argument as a text.
-/

namespace IntentWire

open Text

/-- Why an argument makes no account and balance. -/
inductive ArgumentError where
  /-- No comma sets the account apart from the balance. -/
  | missingComma
  | badAccount (cause : Hex.Error)
  /-- The account does not have 32 bytes. -/
  | accountSize (size : Nat)
  | badBalance (cause : Decimal.Error)
  deriving DecidableEq

/-- The wording of an argument error. -/
def ArgumentError.message : ArgumentError → String
  | .missingComma => "expected \"<account>, <min_balance>\""
  | .badAccount cause => s!"account is not hex: {cause.message}"
  | .accountSize size => s!"account must be {AccountId.size} bytes, got {size}"
  | .badBalance cause => s!"invalid min_balance: {cause.message}"

/-- Builds a payload of an argument. -/
abbrev Builder := String → Except ArgumentError Bytes

namespace Payload

/-- The code of SHA-256 among the hash functions of multihashes. -/
def sha256Code : UInt8 := 0x12

/-- A text without the mark of hexadecimal in front of it. -/
def dropHexMark : List Char → List Char
  | '0' :: 'x' :: s => s
  | s => s

/-- Builds an account and its balance, which are set apart by the first comma. -/
def buildPsp22 : Builder := fun argument => do
  let s := argument.toList
  match s.dropWhile (· != ',') with
  | [] => throw .missingComma
  | _ :: balance =>
    let account := dropHexMark (trim (s.takeWhile (· != ',')))
    let account ← (Hex.decode account).mapError .badAccount
    if account.length ≠ AccountId.size then
      throw (.accountSize account.length)
    let amount ← (Decimal.read Amount.size (by decide) (trim balance)).mapError .badBalance
    return account ++ Bytes.littleEndian 16 amount.val

/-- Builds the multihash of a password: the hash function, the size of the digest, and
    the digest. -/
def buildPassword : Builder := fun argument =>
  let digest := Sha256.digest (Bytes.ofText argument)
  return sha256Code :: UInt8.ofNat digest.length :: digest

/-- Builds a payload that says nothing. -/
def buildSr25519 : Builder := fun _ =>
  return []

/-- Builds a text behind its length. -/
def buildText : Builder := fun argument =>
  return Bytes.field (Bytes.ofText argument)

/-- The known types and their builders. -/
def builtin : List (String × Builder) :=
  [(Tag.psp22, buildPsp22), (Tag.password, buildPassword), (Tag.sr25519, buildSr25519)]

/-- Builds the payload of an intent of the type `tag`. -/
def build (tag : String) : Builder :=
  (builtin.lookup tag).getD buildText

end Payload

end IntentWire
