/-!
# Read errors

The ways in which a number or a field cannot be read from a buffer, and their
wording.
-/

namespace IntentWire

/-- Why a number or a field cannot be read. -/
inductive ReadError where
  /-- The encoding takes more bytes than there are. -/
  | truncated (needed available : Nat)
  /-- The value has a shorter encoding than the one of `width` bytes. -/
  | nonCanonical (value : UInt64) (width : Nat)
  /-- The encoding takes `width` bytes, more than any word of 64 bits needs. -/
  | overflow (width : Nat)
  /-- The bytes of a text field are not valid UTF-8. -/
  | invalidText
  deriving DecidableEq

/-- The wording of a read error. -/
def ReadError.message : ReadError → String
  | .truncated needed available =>
    s!"truncated input ({needed} bytes needed, {available} available)"
  | .nonCanonical value width =>
    s!"non-canonical compact encoding ({value} encoded in {width} bytes)"
  | .overflow width => s!"compact integer too wide ({width} bytes, max 9)"
  | .invalidText => "text field is not valid UTF-8"

end IntentWire
