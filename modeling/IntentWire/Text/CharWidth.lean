import IntentWire.Text.Property.GraphemeExtend
import IntentWire.Text.Property.Ignorable
import IntentWire.Text.Property.Wide

/-!
# Width of characters

The number of columns that a character takes on a terminal by itself: none for marks
and for what is not shown, two for wide characters, and one for all others, but for a
few letters that combine in a way of their own.
-/

namespace IntentWire.Text

/-- The characters whose Unicode property `Hangul_Syllable_Type` is that of a vowel or of a
    final consonant: they combine into a syllable with the consonant in front of them. -/
def hangulEnding : CodeRanges :=
  [(0x1160, 0x11FF), (0xD7B0, 0xD7C6), (0xD7CB, 0xD7FB)]

/-- The characters whose Unicode property `Grapheme_Cluster_Break` is `Prepend`, but for
    those that are drawn along with any number of characters: they combine with the letter
    behind them. -/
def prepended : CodeRanges :=
  [(0xD4E, 0xD4E), (0x111C2, 0x111C3), (0x113D1, 0x113D1), (0x1193F, 0x1193F),
   (0x11941, 0x11941), (0x11A84, 0x11A89), (0x11D46, 0x11D46), (0x11F02, 0x11F02)]

/-- The signs that are drawn above or below the characters behind them, and the caret
    of Devanagari. -/
def overhanging : CodeRanges :=
  [(0x605, 0x605), (0x70F, 0x70F), (0x890, 0x891), (0x8E2, 0x8E2), (0xA8FA, 0xA8FA)]

/-- Whether a character is one that takes no column. -/
def isZeroWidth (c : Char) : Bool :=
  ignorable.contains c || isExtending c || hangulEnding.contains c || prepended.contains c ||
    overhanging.contains c

/-- The number of columns that a character takes by itself. The joiner of Tifinagh is
    shown where it joins nothing, and the filler of Hangul stands for a consonant. -/
def charWidth (c : Char) : Nat :=
  let n := c.toNat
  if n < 0xA0 || n = 0x2D7F then 1
  else if n = 0x115F || n = 0x17A4 then 2
  else if n = 0x17D8 then 3
  else if isZeroWidth c then 0
  else if wide.contains c then 2
  else 1

end IntentWire.Text
