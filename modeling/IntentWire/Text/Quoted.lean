import IntentWire.Text.Property.GraphemeExtend
import IntentWire.Text.Property.Ignorable
import IntentWire.Text.Property.Unprintable

/-!
# Quoted text

Text within quotes, as messages show it: the quote and the backslash stand behind
a backslash, and a character that does not show by itself is written out, by a
letter if it has one and by its code point otherwise.
-/

namespace IntentWire.Text

/-- Whether a character shows by itself. -/
def isShown (c : Char) : Bool :=
  !(unprintable.contains c || isExtending c || ignorable.contains c)

/-- A character between quotes of the given kind. -/
def escaped (quote c : Char) : String :=
  match c with
  | '\x00' => "\\0"
  | '\t' => "\\t"
  | '\n' => "\\n"
  | '\r' => "\\r"
  | '\\' => "\\\\"
  | c =>
    if c = quote then "\\".push c
    else if isShown c then String.singleton c
    else "\\u\x7b" ++ String.ofList (Nat.toDigits 16 c.toNat) ++ "\x7d"

/-- A text in double quotes. -/
def quoted (s : String) : String :=
  s.toList.foldl (fun shown c => shown ++ escaped '"' c) "\"" ++ "\""

/-- A character in single quotes. -/
def quotedChar (c : Char) : String :=
  "'" ++ escaped '\'' c ++ "'"

end IntentWire.Text
