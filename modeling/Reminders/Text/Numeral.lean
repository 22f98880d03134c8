namespace Reminders

/-!
# Decimal numerals

Numbers are read from, and written as, ASCII digits.  Fields of a fixed width are written with
leading zeros; a number that needs more digits than its field keeps all of them.
-/

/-- The number a run of digits stands for, most significant digit first. -/
def numeralValue (digits : List Char) : Nat := Nat.ofDigitChars 10 digits 0

/-- Read exactly `count` digits and return their value with the rest of the text.  A digit that
follows them is left in the rest: the field ends by its width. -/
def readDigits (count : Nat) (text : List Char) : Option (Nat × List Char) :=
  let digits := text.take count
  if digits.length = count ∧ digits.all Char.isDigit then
    some (numeralValue digits, text.drop count)
  else none

/-- A number in decimal, without leading zeros. -/
def numeral (value : Nat) : String := String.ofList (Nat.toDigits 10 value)

/-- A number in decimal, filled up with leading zeros to `width` digits. -/
def paddedNumeral (width value : Nat) : String :=
  let digits := Nat.toDigits 10 value
  String.ofList (List.replicate (width - digits.length) '0' ++ digits)

end Reminders
