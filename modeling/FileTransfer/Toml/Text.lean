import FileTransfer.Toml.Scan

namespace FileTransfer.Toml

/-!
# Quoted text in a configuration

A text stands between double quotes, with escapes, or between single quotes,
without.  Three quotes on each side make it a text of several lines, whose first
line break does not count, and which can end in one or two quotes of its own.
-/

/-- The value of a hexadecimal digit. -/
def hexValue? (char : Char) : Option Nat :=
  if '0' ≤ char ∧ char ≤ '9' then some (char.toNat - '0'.toNat)
  else if 'a' ≤ char ∧ char ≤ 'f' then some (char.toNat - 'a'.toNat + 10)
  else if 'A' ≤ char ∧ char ≤ 'F' then some (char.toNat - 'A'.toNat + 10)
  else none

/-- The character with a code point in hexadecimal, if there is one. -/
def codePoint? (digits : List Char) : Option Char := do
  let values ← digits.mapM hexValue?
  let code := values.foldl (fun code value => code * 16 + value) 0
  if code.isValidChar then some (Char.ofNat code) else none

/-- A character that stands for itself between double quotes. -/
def isPlain (char : Char) : Bool :=
  char = '\t' || (' ' ≤ char && char ≤ '~' && char ≠ '"' && char ≠ '\\') ||
    isForeign char

/-- A character that stands for itself between single quotes. -/
def isLiteral (char : Char) : Bool :=
  char = '\t' || (' ' ≤ char && char ≤ '~' && char ≠ '\'') || isForeign char

/-- The character that a letter after a backslash stands for. -/
def letterEscape? (char : Char) : Option Char :=
  match char with
  | 'b' => some '\x08'
  | 't' => some '\t'
  | 'n' => some '\n'
  | 'f' => some '\x0c'
  | 'r' => some '\r'
  | '"' => some '"'
  | '\\' => some '\\'
  | _ => none

/-- The character that so many digits stand for, and the rest. -/
def codeEscape? (count : Nat) (chars : List Char) : Option (Char × List Char) :=
  if (chars.take count).length = count then
    (codePoint? (chars.take count)).map (·, chars.drop count)
  else none

/-- What follows the digits of an escape is not longer than the whole. -/
theorem length_codeEscape?
    {count : Nat}
    {chars rest : List Char}
    {char : Char}
    (escaped : codeEscape? count chars = some (char, rest)) :
    rest.length ≤ chars.length := by
  unfold codeEscape? at escaped
  split at escaped
  · obtain ⟨_, _, shape⟩ := Option.map_eq_some_iff.mp escaped
    simp only [Prod.mk.injEq] at shape
    simp only [← shape.2, List.length_drop]
    omega
  · cases escaped

/-- The character that what follows a backslash stands for, and the rest. -/
def escape? : List Char → Option (Char × List Char)
  | 'u' :: rest => codeEscape? 4 rest
  | 'U' :: rest => codeEscape? 8 rest
  | char :: rest => (letterEscape? char).map (·, rest)
  | [] => none

/-- An escape takes at least one character. -/
theorem length_escape?
    {chars rest : List Char}
    {char : Char}
    (escaped : escape? chars = some (char, rest)) :
    rest.length < chars.length := by
  unfold escape? at escaped
  split at escaped
  · exact Nat.lt_succ_of_le (length_codeEscape? escaped)
  · exact Nat.lt_succ_of_le (length_codeEscape? escaped)
  · obtain ⟨_, _, shape⟩ := Option.map_eq_some_iff.mp escaped
    simp only [Prod.mk.injEq] at shape
    simp [← shape.2]
  · cases escaped

/-- The rest of a text of one line between double quotes. -/
def quotedLine (chars : List Char) : Option (List Char × List Char) :=
  match chars with
  | [] => none
  | '"' :: rest => some ([], rest)
  | '\\' :: rest =>
      match _ : escape? rest with
      | none => none
      | some (char, after) =>
          (quotedLine after).map fun (text, last) => (char :: text, last)
  | char :: rest =>
      if isPlain char then
        (quotedLine rest).map fun (text, last) => (char :: text, last)
      else none
termination_by chars.length
decreasing_by
  · have shorter := length_escape? ‹_›
    simp only [List.length_cons]
    omega
  · simp

/-- The rest of a text of one line between single quotes. -/
def literalLine : List Char → Option (List Char × List Char)
  | [] => none
  | '\'' :: rest => some ([], rest)
  | char :: rest =>
      if isLiteral char then
        (literalLine rest).map fun (text, last) => (char :: text, last)
      else none

/-- Whether only blanks stand before the end of a line. -/
def endsLine (chars : List Char) : Bool :=
  atLineBreak (chars.dropWhile isBlank)

/--
The rest of a text of several lines between double quotes.  A backslash at the
end of a line takes the line break and all blanks after it away; `folding`
tells whether that is going on.
-/
def quotedLines (folding : Bool) (chars : List Char) :
    Option (List Char × List Char) :=
  match chars with
  | [] => none
  | '\r' :: '\n' :: rest =>
      if folding then quotedLines true rest
      else (quotedLines false rest).map fun (text, last) => ('\n' :: text, last)
  | '"' :: '"' :: '"' :: '"' :: '"' :: rest => some (['"', '"'], rest)
  | '"' :: '"' :: '"' :: '"' :: rest => some (['"'], rest)
  | '"' :: '"' :: '"' :: rest => some ([], rest)
  | '\\' :: rest =>
      if endsLine rest then quotedLines true rest
      else
        match _ : escape? rest with
        | none => none
        | some (char, after) =>
            (quotedLines false after).map fun (text, last) => (char :: text, last)
  | char :: rest =>
      if folding ∧ (isBlank char ∨ char = '\n') then quotedLines true rest
      else if isPlain char ∨ char = '"' ∨ char = '\n' then
        (quotedLines false rest).map fun (text, last) => (char :: text, last)
      else none
termination_by chars.length
decreasing_by
  · simp only [List.length_cons]
    omega
  · simp only [List.length_cons]
    omega
  · simp
  · have shorter := length_escape? ‹_›
    simp only [List.length_cons]
    omega
  · simp
  · simp

/-- The rest of a text of several lines between single quotes. -/
def literalLines : List Char → Option (List Char × List Char)
  | [] => none
  | '\r' :: '\n' :: rest =>
      (literalLines rest).map fun (text, last) => ('\n' :: text, last)
  | '\'' :: '\'' :: '\'' :: '\'' :: '\'' :: rest => some (['\'', '\''], rest)
  | '\'' :: '\'' :: '\'' :: '\'' :: rest => some (['\''], rest)
  | '\'' :: '\'' :: '\'' :: rest => some ([], rest)
  | char :: rest =>
      if isLiteral char ∨ char = '\'' ∨ char = '\n' then
        (literalLines rest).map fun (text, last) => (char :: text, last)
      else none

/-- Characters without a line break in front. -/
def dropLineBreak : List Char → List Char
  | '\n' :: rest => rest
  | '\r' :: '\n' :: rest => rest
  | chars => chars

def lineText : List Char → Option (List Char × List Char)
  | '"' :: rest => quotedLine rest
  | '\'' :: rest => literalLine rest
  | _ => none

/-- A text of one line or several, with its quotes. -/
def anyText : List Char → Option (List Char × List Char)
  | '"' :: '"' :: '"' :: rest => quotedLines false (dropLineBreak rest)
  | '\'' :: '\'' :: '\'' :: rest => literalLines (dropLineBreak rest)
  | chars => lineText chars

end FileTransfer.Toml
