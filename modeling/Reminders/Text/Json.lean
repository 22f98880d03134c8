namespace Reminders

/-!
# JSON

JSON values, and their written form on indented lines.
-/

/-- A JSON value.  Objects keep the order of their members. -/
inductive JsonValue where
  | null
  | boolean (value : Bool)
  | number (value : Nat)
  | string (value : String)
  | array (items : List JsonValue)
  | object (members : List (String × JsonValue))

namespace JsonValue

/-- A number below 65536 as four hexadecimal digits. -/
def hexQuad (value : Nat) : List Char :=
  let digits := Nat.toDigits 16 value
  List.replicate (4 - digits.length) '0' ++ digits

/-- A character as it stands inside a string.  Controls are escaped, some of them by a letter. -/
def escapedChar (c : Char) : List Char :=
  match c with
  | '"' => ['\\', '"']
  | '\\' => ['\\', '\\']
  | '\x08' => ['\\', 'b']
  | '\x0c' => ['\\', 'f']
  | '\n' => ['\\', 'n']
  | '\r' => ['\\', 'r']
  | '\t' => ['\\', 't']
  | c => if c.toNat < 0x20 then '\\' :: 'u' :: hexQuad c.toNat else [c]

/-- The written form of a string. -/
def stringText (value : String) : String :=
  String.ofList (['"'] ++ value.toList.flatMap escapedChar ++ ['"'])

/-- The start of a line at the given depth, two spaces for each level. -/
def lineStart (depth : Nat) : String := "\n" ++ String.ofList (List.replicate (2 * depth) ' ')

/-- Items between brackets, each on a line of its own; no items leave the brackets closed up. -/
def bracketed (depth : Nat) (opening closing : String) (items : List String) : String :=
  if items.isEmpty then opening ++ closing
  else
    opening ++ ",".intercalate (items.map (lineStart (depth + 1) ++ ·)) ++ lineStart depth ++
      closing

mutual

/-- The written form of a value that stands at the given depth. -/
def textAt (depth : Nat) : JsonValue -> String
  | null => "null"
  | boolean true => "true"
  | boolean false => "false"
  | number value => String.ofList (Nat.toDigits 10 value)
  | string value => stringText value
  | array items => bracketed depth "[" "]" (itemTexts (depth + 1) items)
  | object members => bracketed depth "\x7b" "\x7d" (memberTexts (depth + 1) members)

/-- The written forms of the items of an array. -/
def itemTexts (depth : Nat) : List JsonValue -> List String
  | [] => []
  | item :: rest => textAt depth item :: itemTexts depth rest

/-- The written forms of the members of an object. -/
def memberTexts (depth : Nat) : List (String × JsonValue) -> List String
  | [] => []
  | (name, value) :: rest =>
      (stringText name ++ ": " ++ textAt depth value) :: memberTexts depth rest

end

/-- The written form of a value. -/
def text (value : JsonValue) : String := value.textAt 0

end JsonValue

end Reminders
