namespace FileTransfer.Text

/-!
# Natural numbers in arguments

A number in an argument is a run of decimal digits, before which one plus sign
may stand.  Its size is not limited here.
-/

/-- The number that decimal digits show. -/
def valueOf (digits : List Char) : Nat :=
  digits.foldl (fun value digit => value * 10 + (digit.toNat - 48)) 0

/-- The digits of a number without the plus sign in front. -/
def unsigned : List Char → List Char
  | '+' :: digits => digits
  | digits => digits

/-- The number that a text shows, if it shows one. -/
def natural? (text : String) : Option Nat :=
  let digits := unsigned text.toList
  if digits ≠ [] ∧ digits.all Char.isDigit then some (valueOf digits) else none

end FileTransfer.Text
