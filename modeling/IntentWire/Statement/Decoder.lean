import IntentWire.Compact
import IntentWire.Logged
import IntentWire.Statement

/-!
# Decoding payloads

A *decoder* makes a statement of a payload. It never fails: of a payload that makes
no sense it makes the statement that says so.

There are three known types of intents, each with a decoder, and every other type
is decoded as text (`builtin`, `decodePlainText`). Payloads may come wrapped in
their length, and the decoders unwrap them:

* `Psp22` takes 48 bytes as they are, and skips the length in front of them
  without looking at its value;
* texts lose a length that is that of the bytes after it, which leaves open whether
  a text was wrapped or starts with such bytes itself.
-/

namespace IntentWire

/-- Makes a statement of a payload. -/
abbrev Decoder := Bytes → Logged Statement

/-! ### Known types -/

namespace Tag

/-- An account holds at least a balance of a token. -/
def psp22 : String := "Psp22"

/-- A password is known; the statement is its SHA-256 multihash. -/
def password : String := "Password"

/-- A signature can be made; there is no statement. -/
def sr25519 : String := "Sr25519"

end Tag

namespace Statement

/-- The reason for a payload that is too long or too short for an account and its
    balance. -/
def badTupleLength : String := "bad psp22 payload length"

/-- The reason for a payload that ends within its length. -/
def badLength : String := "invalid length prefix"

/-- The reason for a text that is not valid UTF-8. -/
def badText : String := "invalid utf-8"

/-- The number of bytes of an account and its balance. -/
def tupleSize : Nat := AccountId.size + 16

/-- The account and the balance in 48 bytes, the account first. -/
def ofTuple (t : Bytes) (h : t.length = tupleSize) : Statement :=
  .accountBalance ⟨t.take 32, by rw [List.length_take, h]; rfl⟩
    (.ofNat 128 (Bytes.ofLittleEndian (t.drop 32)))

/-- Decodes an account and its balance. -/
def decodePsp22 : Decoder := fun payload =>
  if h : payload.length = tupleSize then pure (ofTuple payload h)
  else
    match payload with
    | [] | [_] => pure (.invalid badTupleLength)
    | first :: _ =>
      let width := Compact.headerWidth first
      if payload.length < width then pure (.invalid badLength)
      else do
        Logged.report (.skippedTupleLength width)
        let rest := payload.drop width
        if h : rest.length = tupleSize then pure (ofTuple rest h)
        else pure (.invalid badTupleLength)

/-- Decodes the bytes of a payload as they are. -/
def decodePassword : Decoder := fun payload =>
  pure (.hexBytes (Hex.encode payload))

/-- Decodes a payload that says nothing. -/
def decodeSr25519 : Decoder := fun _ =>
  pure .empty

/-- A text without the length in front of it. There is one if the bytes start with a
    compact integer that counts the bytes after it. -/
def stripLength (payload : Bytes) : Logged Bytes :=
  match Compact.decode payload with
  | .ok (declared, consumed) =>
    let rest := payload.drop consumed
    if declared.toNat = rest.length then do
      Logged.report (.strippedTextLength declared consumed)
      pure rest
    else pure payload
  | .error _ => pure payload

/-- Decodes a text. -/
def decodePlainText : Decoder := fun payload => do
  match Bytes.text? (← stripLength payload) with
  | some text => pure (.plainText text)
  | none => pure (.invalid badText)

/-! ### By type -/

/-- The known types and their decoders. -/
def builtin : List (String × Decoder) :=
  [(Tag.psp22, decodePsp22), (Tag.password, decodePassword), (Tag.sr25519, decodeSr25519)]

/-- Decodes a payload of the type `tag` with a decoder, and reports a payload that makes
    no sense. -/
def decodeWith (decoder : Decoder) (tag : String) (payload : Bytes) : Logged Statement := do
  let statement ← decoder payload
  if let .invalid reason := statement then
    Logged.report (.undecodedStatement tag payload.length reason)
  return statement

/-- Decodes a payload of the type `tag`, with the decoder of the type if it is known and
    as text otherwise. -/
def decode (tag : String) (payload : Bytes) : Logged Statement :=
  decodeWith ((builtin.lookup tag).getD decodePlainText) tag payload

end Statement

end IntentWire
