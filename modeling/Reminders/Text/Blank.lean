namespace Reminders

/-!
# Blank characters

Everything that is trimmed from a line, or skipped between its parts, is judged by one class of
characters: the White_Space property of the Unicode character database.  The class is wider than
the blanks a keyboard types.  It holds the no-break space, the ideographic space and the two
separators U+2028 and U+2029.
-/

/-- The White_Space property. -/
def isBlank (c : Char) : Bool :=
  let code := c.toNat
  (0x09 ≤ code && code ≤ 0x0D) || code == 0x20 || code == 0x85 || code == 0xA0 ||
    code == 0x1680 || (0x2000 ≤ code && code ≤ 0x200A) || code == 0x2028 || code == 0x2029 ||
    code == 0x202F || code == 0x205F || code == 0x3000

/-- Drop the blanks at the front. -/
def trimStart (text : List Char) : List Char := text.dropWhile isBlank

/-- Drop the blanks at the back. -/
def trimEnd (text : List Char) : List Char := (text.reverse.dropWhile isBlank).reverse

/-- Drop the blanks on both sides. -/
def trim (text : List Char) : List Char := trimEnd (trimStart text)

end Reminders
