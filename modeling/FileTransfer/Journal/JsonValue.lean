import FileTransfer.Decimal.Digits

namespace FileTransfer

/-!
# Records in JSON

The part of JSON that records need, written without blanks.  A text is written
between quotes; a quote, a backslash and every control below the blank are
escaped, and nothing else is.
-/

/-- A value of a record. -/
inductive JsonValue where
  | null
  | integer (value : Nat)
  | fraction (value : Binary64)
  | text (value : String)
  | object (fields : List (String × JsonValue))

namespace JsonValue

/-- The four hexadecimal digits of a small code point. -/
def hexCode (code : Nat) : List Char :=
  let digits := Nat.toDigits 16 code
  List.replicate (4 - digits.length) '0' ++ digits

/-- How a character is written inside a text. -/
def escaped (char : Char) : List Char :=
  if char = '"' then ['\\', '"']
  else if char = '\\' then ['\\', '\\']
  else if char = '\x08' then ['\\', 'b']
  else if char = '\x0c' then ['\\', 'f']
  else if char = '\n' then ['\\', 'n']
  else if char = '\r' then ['\\', 'r']
  else if char = '\t' then ['\\', 't']
  else if char.toNat < 32 then '\\' :: 'u' :: hexCode char.toNat
  else [char]

/-- A text between quotes. -/
def quotedChars (text : String) : List Char :=
  '"' :: (text.toList.flatMap escaped ++ ['"'])

mutual

/-- The characters that write a value. -/
def chars : JsonValue → List Char
  | .null => "null".toList
  | .integer value => Decimal.digitsOf value
  | .fraction value => (Decimal.recorded value).toList
  | .text value => quotedChars value
  | .object fields => '\x7b' :: (fieldChars fields ++ ['\x7d'])

/-- The characters that write the fields of an object. -/
def fieldChars : List (String × JsonValue) → List Char
  | [] => []
  | [(key, value)] => quotedChars key ++ ':' :: chars value
  | (key, value) :: next :: more =>
      quotedChars key ++ ':' :: (chars value ++ ',' :: fieldChars (next :: more))

end

/-- The text that writes a value. -/
def render (value : JsonValue) : String :=
  String.ofList value.chars

end JsonValue

end FileTransfer
