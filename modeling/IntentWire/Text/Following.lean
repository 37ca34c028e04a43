import IntentWire.Text.CharWidth
import IntentWire.Text.Property.Emoji
import IntentWire.Text.Property.Joining

/-!
# What follows a character

The columns of a text are counted from its end to its start, as it is often what stands
behind a character that changes its width. What stands there matters in as far as it
joins with the character, and is told by `Following`:

* letters that make a ligature with the letter in front of them (`Ligature`);
* the end of a sequence that is shown as one emoji: a skin tone, a flag, a tagged flag,
  or an emoji behind a joiner;
* the vowel signs of Kirat Rai that are written as one.

`Following.join` is a step to the left: how the columns change by the next character,
and what then follows the one in front of it.
-/

namespace IntentWire.Text

/-- The joiner of zero width, which asks for a ligature or for a single emoji. -/
def joiner : Nat := 0x200D

/-- Letters that make a ligature with what stands in front of them. -/
inductive Ligature where
  /-- Hebrew lamed, joined to an alef. -/
  | lamed
  /-- Buginese ya, joined to the vowel sign i. -/
  | ya
  /-- Buginese ya with the vowel sign i in front of it. -/
  | vowelYa
  /-- A consonant of Tifinagh, joined to another one. -/
  | tifinagh
  /-- A consonant of Tifinagh with the joiner of this script in front of it. -/
  | joinedTifinagh
  /-- One of the last two tone letters of Lisu. -/
  | lisuTone
  /-- The letter i of Old Turkic, joined to the letter ec. -/
  | orkhonI
  /-- A letter of Khmer that can be written below another one. -/
  | subscript
  deriving DecidableEq

/-- What stands behind a character, in as far as it can join with it. -/
inductive Following where
  /-- Nothing that joins. -/
  | plain
  | skinTone
  /-- A single letter of a flag. -/
  | flagLetter
  /-- Several letters of flags. -/
  | flagLetters
  | emoji
  /-- A joiner, and an emoji behind it. -/
  | joiner
  /-- The frame of a keycap in front of a joiner and an emoji. -/
  | keycap
  /-- A letter of a flag in front of a joiner and an emoji. -/
  | joinedFlagLetter
  /-- Several letters of flags in front of a joiner and an emoji. -/
  | joinedFlagLetters (odd : Bool)
  /-- The end of a tag in front of a joiner and an emoji, with its last letters, or else
      its digits. -/
  | tag (letters digits : Nat)
  /-- The vowel sign e of Kirat Rai. -/
  | kiratE
  /-- The vowel sign ai of Kirat Rai. -/
  | kiratAi
  /-- The Arabic letter alef. -/
  | alef
  /-- Letters that make a ligature, and whether a joiner stands in front of them. -/
  | ligature (letters : Ligature) (joined : Bool)
  deriving DecidableEq

/-! ### Characters that join -/

/-- Whether a character is a form of the Arabic letter lam. -/
def isLam (c : Char) : Bool :=
  let n := c.toNat
  n == 0x644 || (0x6B5 ≤ n && n ≤ 0x6B8) || n == 0x76A || n == 0x8A6 || n == 0x8C7

/-- Whether a character is a form of the Arabic letter alef. -/
def isAlef (c : Char) : Bool :=
  let n := c.toNat
  [0x622, 0x623, 0x625, 0x627, 0x671, 0x672, 0x673, 0x675, 0x773, 0x774].contains n ||
    (0x870 ≤ n && n ≤ 0x882)

/-- Whether Arabic letters are joined across a character. -/
def isJoinTransparent (c : Char) : Bool :=
  charWidth c == 0 && !joinBreaking.contains c

/-- Whether a character is a mark that is not shown, and that no ligature minds. -/
def isIgnorableMark (c : Char) : Bool :=
  let n := c.toNat
  n == 0x34F || n == 0x17B4 || n == 0x17B5 || (0x180B ≤ n && n ≤ 0x180D) || n == 0x180F ||
    (0xFE00 ≤ n && n ≤ 0xFE0F) || (0xE0100 ≤ n && n ≤ 0xE01EF)

/-- The letters of Khmer that can be written below another one. -/
def subscriptLetter : CodeRanges :=
  [(0x1780, 0x1782), (0x1784, 0x1787), (0x1789, 0x178C), (0x178E, 0x1793), (0x1795, 0x1798),
   (0x179B, 0x179D), (0x17A0, 0x17A0), (0x17A2, 0x17A2), (0x17A7, 0x17A7), (0x17AB, 0x17AC),
   (0x17AF, 0x17AF)]

/-- Whether a character is a consonant of Tifinagh. -/
def isTifinagh (c : Char) : Bool :=
  let n := c.toNat
  (0x2D31 ≤ n && n ≤ 0x2D65) || n == 0x2D6F

/-- Whether a character is a letter of a flag. -/
def isFlagLetter (c : Char) : Bool :=
  0x1F1E6 ≤ c.toNat && c.toNat ≤ 0x1F1FF

/-- Whether a character is a skin tone. -/
def isSkinTone (c : Char) : Bool :=
  0x1F3FB ≤ c.toNat && c.toNat ≤ 0x1F3FF

/-- Whether a character is a letter of a tag. -/
def isTagLetter (c : Char) : Bool :=
  0xE0061 ≤ c.toNat && c.toNat ≤ 0xE007A

/-- Whether a character is a digit of a tag. -/
def isTagDigit (c : Char) : Bool :=
  0xE0030 ≤ c.toNat && c.toNat ≤ 0xE0039

namespace Following

/-- What follows the character in front of `c`, if `c` joins with nothing behind it. -/
def ofChar (c : Char) : Following :=
  let n := c.toNat
  if isSkinTone c then .skinTone
  else if isFlagLetter c then .flagLetter
  else if emojiPresentation.contains c then .emoji
  else if n = 0x16D67 then .kiratE
  else if n = 0x16D68 then .kiratAi
  else if isAlef c then .alef
  else if n = 0x5DC then .ligature .lamed false
  else if n = 0x1A10 then .ligature .ya false
  else if isTifinagh c then .ligature .tifinagh false
  else if n = 0xA4FC || n = 0xA4FD then .ligature .lisuTone false
  else if n = 0x10C03 then .ligature .orkhonI false
  else if subscriptLetter.contains c then .ligature .subscript false
  else .plain

end Following

/-! ### Joining -/

/-- How the columns change when `c` makes a ligature with `l`, and what then follows the
    character in front of `c`. -/
def Ligature.join? (l : Ligature) (joined : Bool) (c : Char) : Option (Int × Following) :=
  let n := c.toNat
  match l with
  | .lamed => if joined && n = 0x5D0 then some (0, .plain) else none
  | .ya => if joined && n = 0x1A17 then some (0, .ligature .vowelYa true) else none
  | .vowelYa => if n = 0x1A15 then some (0, .plain) else none
  | .tifinagh =>
    if n = 0x2D7F then some (1, .ligature .joinedTifinagh true)
    else if joined && isTifinagh c then some (0, .plain)
    else none
  | .joinedTifinagh => if isTifinagh c then some (-1, .plain) else none
  | .lisuTone => if 0xA4F8 ≤ n && n ≤ 0xA4FB then some (0, .plain) else none
  | .orkhonI => if joined && n = 0x10C32 then some (0, .plain) else none
  -- The letter is written below the one in front of the sign, and takes no column.
  | .subscript => if n = 0x17D2 then some (-1, .plain) else none

namespace Following

/-- How the columns change when `c` joins with what is behind it, and what then follows
    the character in front of `c`. -/
def join? (f : Following) (c : Char) : Option (Int × Following) :=
  let n := c.toNat
  match f with
  | .plain => none
  | .skinTone =>
    if emojiModifierBase.contains c then some (0, .emoji)
    else if n = Text.joiner then some (0, .joiner)
    else none
  | .flagLetter => if isFlagLetter c then some (1, .flagLetters) else none
  | .flagLetters =>
    if isFlagLetter c then some (1, .flagLetters)
    else if n = Text.joiner then some (0, .joiner)
    else none
  | .emoji => if n = Text.joiner then some (0, .joiner) else none
  | .joiner =>
    if n = 0x20E3 then some (0, .keycap)
    else if isFlagLetter c then some (1, .joinedFlagLetter)
    else if isSkinTone c then some (0, .skinTone)
    else if n = 0xE007F then some (0, .tag 0 0)
    else if emojiPresentation.contains c then some (0, .emoji)
    else none
  | .keycap => none
  -- Letters pair up to flags from the left, so that only with an even number of them is
  -- it a flag that is joined to the emoji.
  | .joinedFlagLetter => if isFlagLetter c then some (-1, .joinedFlagLetters false) else none
  | .joinedFlagLetters odd =>
    if isFlagLetter c then some (if odd then -1 else 3, .joinedFlagLetters !odd)
    else if n = Text.joiner then some (0, .joiner)
    else none
  | .tag letters digits =>
    if isTagLetter c && digits = 0 && letters < 6 then some (0, .tag (letters + 1) 0)
    else if isTagDigit c && (digits = 0 && letters ≤ 4 || 0 < digits && digits < 3) then
      some (0, .tag 0 (digits + 1))
    else if n = 0x1F3F4 && (3 ≤ letters || digits = 3) then some (0, .emoji)
    else none
  | .kiratE =>
    if n = 0x16D63 || n = 0x16D69 then some (0, .plain)
    else if n = 0x16D67 then some (0, .kiratAi)
    else if n = 0x16D68 then some (1, .kiratE)
    else none
  | .kiratAi => if n = 0x16D63 then some (0, .plain) else none
  | .alef =>
    if isLam c then some (0, .plain)
    else if isJoinTransparent c then some (0, .alef)
    else none
  | .ligature l joined =>
    if n = Text.joiner then some (0, .ligature l true)
    else if isIgnorableMark c then some (0, .ligature l joined)
    else l.join? joined c

/-- How the columns change by `c`, in front of what is behind it, and what then follows
    the character in front of `c`. -/
def join (f : Following) (c : Char) : Int × Following :=
  (f.join? c).getD (charWidth c, ofChar c)

end Following

end IntentWire.Text
