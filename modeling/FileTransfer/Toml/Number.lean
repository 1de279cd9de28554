import FileTransfer.Toml.Node
import FileTransfer.Toml.Text

namespace FileTransfer.Toml

/-!
# Numbers and moments in a configuration

Underscores may stand between two digits and nowhere else.  An integer fits
into sixty-four bits with a sign; one in another base has no sign.  A fraction
is rounded to double precision; one that is too great for it is refused, and
one that is too small counts as negative infinity.  Digits that cannot change a
number are not multiplied out, so a long number is read as fast as a short one
for its length.
-/

/-- Digits after the first one, with underscores only between digits. -/
def moreDigits (isDigit : Char → Bool) : List Char → Option (List Char × List Char)
  | [] => some ([], [])
  | ['_'] => none
  | '_' :: char :: rest =>
      if isDigit char then
        (moreDigits isDigit rest).map fun (digits, last) => (char :: digits, last)
      else none
  | char :: rest =>
      if isDigit char then
        (moreDigits isDigit rest).map fun (digits, last) => (char :: digits, last)
      else some ([], char :: rest)

/-- One or more digits, with underscores only between digits. -/
def someDigits (isDigit : Char → Bool) : List Char → Option (List Char × List Char)
  | [] => none
  | char :: rest =>
      if isDigit char then
        (moreDigits isDigit rest).map fun (digits, last) => (char :: digits, last)
      else none

/-- Decimal digits of which the first is zero only if it is the only one. -/
def decimalDigits : List Char → Option (List Char × List Char)
  | '0' :: rest => some (['0'], rest)
  | chars => someDigits Char.isDigit chars

/-- The number that digits of some base stand for. -/
def valueOf (base : Nat) (digits : List Char) : Nat :=
  digits.foldl (fun value digit => value * base + (hexValue? digit).getD 0) 0

/-- The number that digits of some base stand for, if it is at most a limit. -/
def valueWithin? (base limit : Nat) (digits : List Char) : Option Nat :=
  digits.foldlM
    (fun value digit =>
      let next := value * base + (hexValue? digit).getD 0
      if next ≤ limit then some next else none)
    0

/-- The greatest integer that a configuration can hold. -/
def maxInteger : Nat := 9223372036854775807

/-- The integer that a sign and digits of some base stand for, if it is allowed. -/
def integer? (negative : Bool) (base : Nat) (digits : List Char) : Option Node :=
  if negative then
    (valueWithin? base (maxInteger + 1) digits).map fun size => .integer (-size)
  else
    (valueWithin? base maxInteger digits).map fun size => .integer size

/-- The digits of a base, by the letter that announces it. -/
def baseOf? (letter : Char) : Option (Nat × (Char → Bool)) :=
  match letter with
  | 'x' => some (16, fun char => (hexValue? char).isSome)
  | 'o' => some (8, fun char => '0' ≤ char && char ≤ '7')
  | 'b' => some (2, fun char => char = '0' || char = '1')
  | _ => none

/-- The decimal exponent beyond which a fraction is zero or not finite. -/
def exponentLimit : Int := 400

/--
A count of significant digits that a point halfway between two fractions never
exceeds.
-/
def decisiveDigits : Nat := 800

/--
Some digits times a power of ten without the digits that cannot decide how it
is rounded: the zeros in front, and all beyond the decisive ones, for which a
single one stands in unless they are zeros.
-/
def significant (digits : List Char) (exponent : Int) : List Char × Int :=
  let digits := digits.dropWhile (· = '0')
  let beyond := digits.drop decisiveDigits
  if beyond.all (· = '0') then
    (digits.take decisiveDigits, exponent + beyond.length)
  else
    (digits.take decisiveDigits ++ ['1'], exponent + beyond.length - 1)

/-- The nearest fraction to some digits times a power of ten, if it is finite. -/
def roundDecimal? (digits : List Char) (exponent : Int) : Option Binary64 :=
  let (digits, exponent) := significant digits exponent
  let leading := exponent + digits.length
  if digits = [] ∨ leading < -exponentLimit then some (Binary64.ofNat 0)
  else if exponentLimit < leading then none
  else
    let (above, under) := Decimal.Scaled.toRatio ⟨valueOf 10 digits, exponent⟩
    let rounded := Binary64.ofRatio above under
    if rounded.isFinite then some rounded else none

/-- The fraction that a sign, some digits and a power of ten make, if it is allowed. -/
def fraction? (negative : Bool) (digits : List Char) (exponent : Int) :
    Option Fraction :=
  match roundDecimal? digits exponent with
  | some size => some (.finite negative size)
  | none => if negative then some (.infinite true) else none

/-- An optional sign; the first part tells whether it is a minus. -/
def sign : List Char → Bool × List Char
  | '-' :: rest => (true, rest)
  | '+' :: rest => (false, rest)
  | chars => (false, chars)

def places : List Char → Option (List Char × List Char)
  | '.' :: rest => someDigits Char.isDigit rest
  | chars => some ([], chars)

/-- The size at which an exponent takes no more digits. -/
def fullExponent : Nat := 65536

/-- The size of an exponent; digits after it has become full do not count. -/
def exponentSize (digits : List Char) : Nat :=
  digits.foldl
    (fun size digit =>
      if size < fullExponent then valueOf 10 [digit] + size * 10 else size)
    0

def exponent (chars : List Char) : Option (Int × List Char) :=
  let read (rest : List Char) : Option (Int × List Char) :=
    let (negative, digits) := sign rest
    (someDigits Char.isDigit digits).map fun (digits, last) =>
      let size : Int := exponentSize digits
      (if negative then -size else size, last)
  match chars with
  | 'e' :: rest => read rest
  | 'E' :: rest => read rest
  | _ => some (0, chars)

/-- Whether a fraction or an exponent follows the digits of a number. -/
def goesOn : List Char → Bool
  | '.' :: _ => true
  | 'e' :: _ => true
  | 'E' :: _ => true
  | _ => false

def decimal (negative : Bool) (chars : List Char) : Option (Node × List Char) := do
  let (whole, rest) ← decimalDigits chars
  if goesOn rest then
    let (behind, rest) ← places rest
    let (power, rest) ← exponent rest
    let value ← fraction? negative (whole ++ behind) (power - behind.length)
    return (.fraction value, rest)
  else
    let node ← integer? negative 10 whole
    return (node, rest)

def number (chars : List Char) : Option (Node × List Char) :=
  match chars with
  | '0' :: letter :: rest =>
      match baseOf? letter with
      | some (base, isDigit) => do
          let (digits, last) ← someDigits isDigit rest
          let node ← integer? false base digits
          return (node, last)
      | none => decimal false chars
  | _ =>
      let (negative, rest) := sign chars
      match rest with
      | 'i' :: 'n' :: 'f' :: last => some (.fraction (.infinite negative), last)
      | 'n' :: 'a' :: 'n' :: last => some (.fraction .notANumber, last)
      | _ => decimal negative rest

/-- A number of exactly `count` digits within bounds. -/
def fixedDigits
    (count low high : Nat)
    (chars : List Char) :
    Option (Nat × List Char) :=
  let digits := chars.take count
  let value := valueOf 10 digits
  if digits.length = count ∧ digits.all Char.isDigit ∧ low ≤ value ∧ value ≤ high then
    some (value, chars.drop count)
  else none

def after? (char : Char) : List Char → Option (List Char)
  | found :: rest => if found = char then some rest else none
  | [] => none

def daysOf (year month : Nat) : Nat :=
  if month = 2 then
    if year % 4 = 0 ∧ (year % 100 ≠ 0 ∨ year % 400 = 0) then 29 else 28
  else if month = 4 ∨ month = 6 ∨ month = 9 ∨ month = 11 then 30
  else 31

def day? (chars : List Char) : Option (List Char) := do
  let (year, rest) ← fixedDigits 4 0 9999 chars
  let rest ← after? '-' rest
  let (month, rest) ← fixedDigits 2 1 12 rest
  let rest ← after? '-' rest
  let (_, rest) ← fixedDigits 2 1 (daysOf year month) rest
  return rest

/-- The parts of a second after the point, if there are any. -/
def secondPart? : List Char → Option (List Char)
  | '.' :: rest =>
      if (rest.takeWhile Char.isDigit) = [] then none
      else some (rest.dropWhile Char.isDigit)
  | chars => some chars

def time? (chars : List Char) : Option (List Char) := do
  let (_, rest) ← fixedDigits 2 0 23 chars
  let rest ← after? ':' rest
  let (_, rest) ← fixedDigits 2 0 59 rest
  let rest ← after? ':' rest
  let (_, rest) ← fixedDigits 2 0 60 rest
  secondPart? rest

/-- The distance of a time from the common one, if it is given. -/
def offset? (chars : List Char) : Option (List Char) :=
  let read (rest : List Char) : Option (List Char) := do
    let (_, rest) ← fixedDigits 2 0 23 rest
    let rest ← after? ':' rest
    let (_, rest) ← fixedDigits 2 0 59 rest
    return rest
  match chars with
  | 'Z' :: rest => some rest
  | 'z' :: rest => some rest
  | '+' :: rest => read rest
  | '-' :: rest => read rest
  | _ => some chars

/-- Whether a moment begins here, and not a number. -/
def startsMoment (chars : List Char) : Bool :=
  let dated := (chars.take 4).all Char.isDigit && chars[4]? = some '-'
  let timed := (chars.take 2).all Char.isDigit && chars[2]? = some ':'
  dated || timed

/-- Whether a time of day follows a day after a mark that stays in place. -/
def hasTime : List Char → Bool
  | 'T' :: _ => true
  | 't' :: _ => true
  | ' ' :: first :: second :: ':' :: _ => first.isDigit && second.isDigit
  | _ => false

/-- A day, a time of day, or both. -/
def moment (chars : List Char) : Option (Node × List Char) :=
  if chars[2]? = some ':' then (time? chars).map (.moment, ·)
  else do
    let rest ← day? chars
    if hasTime rest then
      let rest ← time? (rest.drop 1)
      let rest ← offset? rest
      return (.moment, rest)
    else
      return (.moment, rest)

end FileTransfer.Toml
