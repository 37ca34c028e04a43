import IntentWire.Text.Following

/-!
# Width of text

The number of columns that a line of text takes on a terminal. It is the sum of the
widths of its characters, but for those that join with what is behind them
(`Following.join`), and for those whose form a variation selector behind them picks
(`Selector`).
-/

namespace IntentWire.Text

/-- What a variation selector asks of the character in front of it. -/
inductive Selector where
  /-- To be shown as text. -/
  | text
  /-- To be shown as an emoji. -/
  | emoji
  /-- To be as wide as a wide character, if it is a quotation mark. -/
  | wide
  deriving DecidableEq

/-- The selector that a character is. -/
def Selector.ofChar? (c : Char) : Option Selector :=
  match c with
  | '\ufe01' => some .wide
  | '\ufe0e' => some .text
  | '\ufe0f' => some .emoji
  | _ => none

/-- Whether a character is one of the quotation marks with a wide form. -/
def isCurlyQuote (c : Char) : Bool :=
  ['‘', '’', '“', '”'].contains c

/-- Whether a character takes a column when it is shown as text, and two as an emoji. The
    ideographs in squares are wide in either form. -/
def isNarrowAsText (c : Char) : Bool :=
  emojiVariation.contains c && emojiPresentation.contains c &&
    !(0x1F200 ≤ c.toNat && c.toNat ≤ 0x1F2FF)

namespace Following

/-- Whether the character in front of a selector can join across it. -/
def isJoinedAcross : Following → Bool
  | .alef => true
  | .ligature .. => true
  | _ => false

/-- Whether a joiner asks the character in front for a single emoji. -/
def isEmojiJoiner : Following → Bool
  | .joiner => true
  | .keycap => true
  | _ => false

end Following

/-- What stands behind a character: a selector, if there is one, and what follows it. -/
structure Context where
  selector : Option Selector
  following : Following
  deriving DecidableEq

namespace Context

/-- The end of a text. -/
def atEnd : Context :=
  ⟨none, .plain⟩

/-- What stands behind a character that is none that the selector picks a form of. -/
def unselected (k : Context) : Following :=
  if k.selector.isNone || k.following.isJoinedAcross then k.following else .plain

/-- What stands behind the character in front of a selector. -/
def select (f : Following) (s : Selector) : Context :=
  if f.isJoinedAcross || (s = .emoji && f.isEmojiJoiner) then ⟨some s, f⟩ else ⟨some s, .plain⟩

/-- How the columns change by `c`, and what then stands behind the character in front of
    it. -/
def step (k : Context) (c : Char) : Int × Context :=
  if k.selector = some .emoji && emojiVariation.contains c then
    (if k.following.isEmojiJoiner then 0 else 2, ⟨none, .emoji⟩)
  else if c.toNat ≤ 0xA0 then (1, atEnd)
  else
    match Selector.ofChar? c with
    | some s => (0, select k.unselected s)
    | none =>
      if k.selector = some .text && isNarrowAsText c then (1, atEnd)
      else if k.selector = some .wide && isCurlyQuote c then (2, atEnd)
      else
        let (change, f) := k.unselected.join c
        (change, ⟨none, f⟩)

end Context

/-- The columns of a text, counted from its end, and what stands behind the character in
    front of it. -/
def measure (s : List Char) : Int × Context :=
  s.foldr (fun c (columns, k) =>
    let (change, k) := k.step c
    (columns + change, k)) (0, .atEnd)

/-- The number of columns that a line of text takes. -/
def width (s : List Char) : Nat :=
  (measure s).1.toNat

end IntentWire.Text
