import Reminders.Text.Property.EastAsian
import Reminders.Text.Property.Extending

namespace Reminders

/-!
# Widths of characters

How many columns of a terminal a character fills.  Most fill one and wide ones two.  A character
fills none if it is a control, is invisible by default, or is drawn over or into a neighbour.
Characters whose width depends on the surrounding text, the ambiguous ones, count as narrow.
-/

/-- Characters that are invisible by default: the Default_Ignorable_Code_Point property of
Unicode 17. -/
def ignorableRanges : List (Nat × Nat) := [
  (0xAD, 0xAD), (0x34F, 0x34F), (0x61C, 0x61C), (0x115F, 0x1160), (0x17B4, 0x17B5),
  (0x180B, 0x180F), (0x200B, 0x200F), (0x202A, 0x202E), (0x2060, 0x206F), (0x3164, 0x3164),
  (0xFE00, 0xFE0F), (0xFEFF, 0xFEFF), (0xFFA0, 0xFFA0), (0xFFF0, 0xFFF8), (0x1BCA0, 0x1BCA3),
  (0x1D173, 0x1D17A), (0xE0000, 0xE0FFF)]

/-- Vowels and final consonants that are drawn into the Hangul syllable they belong to. -/
def innerJamoRanges : List (Nat × Nat) := [
  (0x1160, 0x11FF), (0xD7B0, 0xD7C6), (0xD7CB, 0xD7FB)]

/-- Signs that are drawn around, or joined to, the characters after them. -/
def joiningSignRanges : List (Nat × Nat) := [
  (0x605, 0x605), (0x70F, 0x70F), (0x890, 0x891), (0x8E2, 0x8E2), (0xD4E, 0xD4E), (0xA8FA, 0xA8FA),
  (0x111C2, 0x111C3), (0x113D1, 0x113D1), (0x1193F, 0x1193F), (0x11941, 0x11941),
  (0x11A84, 0x11A89), (0x11D46, 0x11D46), (0x11F02, 0x11F02)]

/-- Whether a character is a control. -/
def isControl (c : Char) : Bool :=
  let code := c.toNat
  code < 0x20 || (0x7F ≤ code && code < 0xA0)

/-- Whether a character fills no column. -/
def isZeroWidth (c : Char) : Bool :=
  isControl c || isExtending c || inRanges c.toNat ignorableRanges ||
    inRanges c.toNat innerJamoRanges || inRanges c.toNat joiningSignRanges

/-- The number of columns a character fills.  The filler that stands for a leading consonant is
invisible and yet keeps the place of one, the joiner of Tifinagh consonants shows where it joins
nothing, and one Khmer sign is drawn as three. -/
def charWidth (c : Char) : Nat :=
  if c.toNat = 0x115F then 2
  else if c.toNat = 0x2D7F then 1
  else if c.toNat = 0x17D8 then 3
  else if isZeroWidth c then 0
  else if isWide c then 2
  else 1

end Reminders
