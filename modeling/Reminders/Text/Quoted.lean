import Reminders.Text.Property.Extending
import Reminders.Text.Property.Printable

namespace Reminders

/-!
# Quoted text

Text that is shown inside a message stands in double quotes.  A quote or backslash in it is written
with a backslash before it, and so are tab, line feed, carriage return and the null character by a
letter or digit.  Any other character that would not show, or that would attach to the one before
it, is written as its code point in hexadecimal.
-/

/-- A character as it stands inside quotes. -/
def quotedChar (c : Char) : List Char :=
  match c with
  | '"' => ['\\', '"']
  | '\\' => ['\\', '\\']
  | '\t' => ['\\', 't']
  | '\n' => ['\\', 'n']
  | '\r' => ['\\', 'r']
  | '\x00' => ['\\', '0']
  | c =>
      if isExtending c || !isPrintable c then
        ['\\', 'u', '\x7b'] ++ Nat.toDigits 16 c.toNat ++ ['\x7d']
      else [c]

/-- A text in quotes. -/
def quoted (text : String) : String :=
  String.ofList (['"'] ++ text.toList.flatMap quotedChar ++ ['"'])

end Reminders
