import IntentWire.Collection
import IntentWire.Expression.Payload

/-!
# Expressions

An *expression* lists intents as clauses, joined by `&&`:

    Password(correct horse) && Psp22(0x<64 hex digits>, 100)

A clause is a type and an argument in parentheses, which may hold further ones as
long as they match. White space around the type and the clause does not count, that
within the argument does. The pieces between the `&&` are told first, wherever these
stand, so no argument holds one.

Parsing ends at the first piece that is not a clause (`Clause.parse`). Only then are
the payloads built of the arguments.
-/

namespace IntentWire

open Text

/-- A type of intents and an argument. -/
structure Clause where
  tag : String
  argument : String
  deriving DecidableEq

/-- Why an expression makes no collection. -/
inductive ExpressionError where
  /-- The clause has no parenthesis. -/
  | missingOpenParen (clause : Nat)
  /-- The argument of the clause does not end. -/
  | unbalancedParens (clause : Nat)
  /-- No type stands in front of the argument. -/
  | emptyTag (clause : Nat)
  /-- Something stands behind the argument. -/
  | trailingInput (clause : Nat) (rest : String)
  /-- The argument makes no payload of the type. -/
  | invalidArgument (tag : String) (reason : ArgumentError)
  deriving DecidableEq

/-- The wording of an expression error. -/
def ExpressionError.message : ExpressionError → String
  | .missingOpenParen clause => s!"clause {clause}: expected '(' after the intent type"
  | .unbalancedParens clause => s!"clause {clause}: unbalanced parentheses"
  | .emptyTag clause => s!"clause {clause}: missing intent type"
  | .trailingInput clause rest =>
    s!"clause {clause}: unexpected input after ')': {quoted rest}"
  | .invalidArgument tag reason => s!"invalid {tag} argument: {reason.message}"

/-! ### Clauses -/

namespace Clause

/-- What joins clauses. -/
def delimiter : String := "&&"

/-- The pieces between the delimiters of a text, after those in `done` and with the
    piece under way in `current`, backwards. Of three ampersands, the first two are the
    delimiter. -/
def splitOnto (done : Array (List Char)) (current : List Char) : List Char → List (List Char)
  | [] => (done.push current.reverse).toList
  | '&' :: '&' :: s => splitOnto (done.push current.reverse) [] s
  | c :: s => splitOnto done (c :: current) s

/-- The pieces between the delimiters of a text. -/
def split (s : List Char) : List (List Char) :=
  splitOnto #[] [] s

/-- Splits a text at the parenthesis that closes it, `depth` more being open within it,
    with the text read so far in `before`, backwards. -/
def splitCloseOnto (depth : Nat) (before : List Char) :
    List Char → Option (List Char × List Char)
  | [] => none
  | c :: s =>
    if c = '(' then splitCloseOnto (depth + 1) (c :: before) s
    else if c = ')' then
      match depth with
      | 0 => some (before.reverse, s)
      | depth + 1 => splitCloseOnto depth (c :: before) s
    else splitCloseOnto depth (c :: before) s

/-- The text up to the parenthesis that closes it, and the text behind that. -/
def splitClose (s : List Char) : Option (List Char × List Char) :=
  splitCloseOnto 0 [] s

/-- The clause that the piece of the given index is. -/
def parse (index : Nat) (piece : List Char) : Except ExpressionError Clause :=
  match piece.dropWhile (· != '(') with
  | [] => .error (.missingOpenParen index)
  | _ :: body =>
    let tag := trim (piece.takeWhile (· != '('))
    if tag.isEmpty then .error (.emptyTag index)
    else
      match splitClose body with
      | none => .error (.unbalancedParens index)
      | some (argument, behind) =>
        let rest := trim behind
        if rest.isEmpty then .ok ⟨.ofList tag, .ofList argument⟩
        else .error (.trailingInput index (.ofList rest))

/-- The record of a clause. -/
def toRecord (c : Clause) : Except ExpressionError Record :=
  match Payload.build c.tag c.argument with
  | .ok payload => .ok ⟨c.tag, payload⟩
  | .error reason => .error (.invalidArgument c.tag reason)

end Clause

/-! ### Expressions -/

namespace Expression

/-- The clauses of an expression. -/
def parse (s : String) : Except ExpressionError (List Clause) :=
  (Clause.split s.toList).zipIdx.mapM fun (piece, index) => Clause.parse index piece

/-- The collection of an expression, with a record for each clause. -/
def build (s : String) : Except ExpressionError Collection := do
  (← parse s).mapM Clause.toRecord

end Expression

end IntentWire
