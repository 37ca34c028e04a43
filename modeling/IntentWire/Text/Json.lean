/-!
# JSON text

The values that reports are made of, and their text without blanks. In a text
value, the quote and the backslash stand behind a backslash, and a character below
the blank is written out; every other character stands for itself.
-/

namespace IntentWire

/-- A JSON value. -/
inductive Json where
  | number (n : Nat)
  | text (s : String)
  | list (items : List Json)
  /-- Named values, in the order in which they are written. -/
  | object (fields : List (String × Json))

namespace Json

/-- A character within a JSON text value. -/
def escaped (c : Char) : String :=
  match c with
  | '"' => "\\\""
  | '\\' => "\\\\"
  | '\x08' => "\\b"
  | '\t' => "\\t"
  | '\n' => "\\n"
  | '\x0c' => "\\f"
  | '\r' => "\\r"
  | c =>
    if c.toNat < 0x20 then
      "\\u00" ++ String.ofList [Nat.digitChar (c.toNat / 16), Nat.digitChar (c.toNat % 16)]
    else String.singleton c

/-- A JSON text value. -/
def quoted (s : String) : String :=
  s.toList.foldl (fun shown c => shown ++ escaped c) "\"" ++ "\""

mutual

/-- Appends the text of a value. -/
def renderOnto (shown : String) : Json → String
  | .number n => shown ++ toString n
  | .text s => shown ++ quoted s
  | .list items => renderItems (shown.push '[') true items ++ "]"
  | .object fields => renderFields (shown ++ "\x7b") true fields ++ "\x7d"

/-- Appends the values of a list, with a comma in front of each but the first. -/
def renderItems (shown : String) (isFirst : Bool) : List Json → String
  | [] => shown
  | v :: items =>
    renderItems (renderOnto (if isFirst then shown else shown.push ',') v) false items

/-- Appends the fields of an object, with a comma in front of each but the first. -/
def renderFields (shown : String) (isFirst : Bool) : List (String × Json) → String
  | [] => shown
  | (name, v) :: fields =>
    let shown := if isFirst then shown else shown.push ','
    renderFields (renderOnto ((shown ++ quoted name).push ':') v) false fields

end

/-- The text of a value. -/
def render (v : Json) : String :=
  renderOnto "" v

/-- The value of a name in an object, where it has one. -/
def field? (name : String) : Json → Option Json
  | .object fields => fields.lookup name
  | _ => none

end Json

end IntentWire
