import FileTransfer.Text.Visible

namespace FileTransfer.Text

/-!
# Quoted text

A name inside a message stands between double quotes.  A quote and a backslash
take a backslash, four controls have a letter, and every other character
without a form of its own is written as its code point.
-/

/-- The code point of a character in hexadecimal, between braces. -/
def codePoint (char : Char) : List Char :=
  '\\' :: 'u' :: '\x7b' :: (Nat.toDigits 16 char.toNat ++ ['\x7d'])

/-- How a character is written inside double quotes. -/
def quotedChar (char : Char) : List Char :=
  if char = '"' then ['\\', '"']
  else if char = '\\' then ['\\', '\\']
  else if char = '\n' then ['\\', 'n']
  else if char = '\r' then ['\\', 'r']
  else if char = '\t' then ['\\', 't']
  else if char = '\x00' then ['\\', '0']
  else if isVisible char then [char]
  else codePoint char

def quoted (text : String) : String :=
  String.ofList ('"' :: (text.toList.flatMap quotedChar ++ ['"']))

end FileTransfer.Text
