namespace FileTransfer.Toml

/-!
# Reading characters in order

A scan takes characters off the front of a text and yields what it has read, or
refuses the text as a whole.  Repetition is bounded by the number of characters
that are left, of which every round takes at least one.
-/

/-- What reads the front of a text. -/
abbrev Scan := StateT (List Char) Option

namespace Scan

def refuse {α : Type} : Scan α :=
  fun _ => none

/-- Read by a function on the characters that are left. -/
def ofRead {α : Type} (read : List Char → Option (α × List Char)) : Scan α :=
  read

/-- The next character, which is left in place. -/
def peek? : Scan (Option Char) :=
  fun chars => some (chars.head?, chars)

def next : Scan Char
  | [] => none
  | char :: rest => some (char, rest)

/-- Take some given characters. -/
def expect (front : List Char) : Scan Unit :=
  fun chars =>
    if front.isPrefixOf chars then some ((), chars.drop front.length) else none

/-- Take some given characters if the text goes on with them. -/
def accept (front : List Char) : Scan Bool :=
  fun chars =>
    if front.isPrefixOf chars then some (true, chars.drop front.length)
    else some (false, chars)

def takeAll (belongs : Char → Bool) : Scan (List Char) :=
  fun chars => some (chars.takeWhile belongs, chars.dropWhile belongs)

/-- Take one or more characters of one class. -/
def takeSome (belongs : Char → Bool) : Scan (List Char) := do
  let taken ← takeAll belongs
  if taken = [] then refuse else pure taken

/-- Go from state to state until there is a result, once more than a list is long. -/
def repeatAlong
    {σ α : Type}
    (step : σ → Scan (σ ⊕ α)) :
    List Char → σ → Scan α
  | [], state => do
      match ← step state with
      | .inl _ => refuse
      | .inr result => pure result
  | _ :: fewer, state => do
      match ← step state with
      | .inl following => repeatAlong step fewer following
      | .inr result => pure result

/-- Go from state to state until there is a result. -/
def repeatUntil {σ α : Type} (step : σ → Scan (σ ⊕ α)) (state : σ) : Scan α :=
  fun chars => repeatAlong step chars state chars

end Scan

/-- A blank inside a line. -/
def isBlank (char : Char) : Bool :=
  char = ' ' || char = '\t'

/-- A character outside of ASCII. -/
def isForeign (char : Char) : Bool :=
  0x80 ≤ char.toNat

/-- A character that a comment can hold. -/
def isComment (char : Char) : Bool :=
  char = '\t' || (' ' ≤ char && char ≤ '~') || isForeign char

/-- Whether a line ends here. -/
def atLineBreak : List Char → Bool
  | '\n' :: _ => true
  | '\r' :: '\n' :: _ => true
  | _ => false

namespace Scan

def blanks : Scan Unit := do
  let _ ← takeAll isBlank

def lineBreak : Scan Unit
  | '\n' :: rest => some ((), rest)
  | '\r' :: '\n' :: rest => some ((), rest)
  | _ => none

/-- Take a comment, up to the end of its line, if there is one. -/
def comment : Scan Unit := do
  if ← accept ['#'] then
    let _ ← takeAll isComment

/-- Take what may follow the last value of a line, and the end of the line. -/
def lineEnd : Scan Unit := do
  blanks
  comment
  match ← peek? with
  | none => pure ()
  | some _ => lineBreak

/-- Take blanks, line breaks and comments. -/
def gap : Scan Unit :=
  repeatUntil
    (fun () => do
      blanks
      comment
      let broken ← fun chars => some (atLineBreak chars, chars)
      if broken then
        lineBreak
        pure (.inl ())
      else
        pure (.inr ()))
    ()

end Scan

end FileTransfer.Toml
