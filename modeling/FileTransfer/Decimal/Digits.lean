import FileTransfer.Decimal.Binary64

namespace FileTransfer.Decimal

/-!
# Decimal digits of binary fractions

A number is written with a fixed count of places, or with the fewest digits
that no other number is nearer to.  The fewest digits are found on decimal
grids of one, two, … seventeen digits: the first grid with a point in the
interval of values that round to the number wins, and of two such points the
nearer one.  Two points that are equally near are told apart by a rule that the
format of the text chooses.
-/

/-- Which of two equally near decimal numbers is taken. -/
inductive Tie where
  /-- The one whose last digit is even. -/
  | toEven
  /-- The greater one. -/
  | upward
  deriving Repr, DecidableEq

/-- The number `digits * 10 ^ exponent`. -/
structure Scaled where
  digits : Nat
  exponent : Int
  deriving Repr, DecidableEq

/-- The ratio that a decimal number stands for. -/
def Scaled.toRatio (number : Scaled) : Nat × Nat :=
  match number.exponent with
  | .ofNat power => (number.digits * Nat.pow 10 power, 1)
  | .negSucc less => (number.digits, Nat.pow 10 (less + 1))

/-- Whether one ratio is at most another. -/
def ratioLe (first second : Nat × Nat) : Bool :=
  first.1 * second.2 ≤ second.1 * first.2

/-- Whether one ratio is less than another. -/
def ratioLt (first second : Nat × Nat) : Bool :=
  first.1 * second.2 < second.1 * first.2

/-- The distance between two ratios. -/
def ratioGap (first second : Nat × Nat) : Nat × Nat :=
  (max (first.1 * second.2) (second.1 * first.2) -
    min (first.1 * second.2) (second.1 * first.2), first.2 * second.2)

/-- The values that round to one number. -/
structure Interval where
  low : Nat × Nat
  high : Nat × Nat
  /-- Whether the ends round to the number too. -/
  closed : Bool

/-- The values that round to a number that is not zero. -/
def Interval.around (number : Binary64) : Interval where
  low :=
    if number.mantissa = Nat.pow 2 (Binary64.precision - 1) ∧
        Binary64.minExponent < number.exponent then
      Binary64.toRatio ⟨4 * number.mantissa - 1, number.exponent - 2⟩
    else
      Binary64.toRatio ⟨2 * number.mantissa - 1, number.exponent - 1⟩
  high := Binary64.toRatio ⟨2 * number.mantissa + 1, number.exponent - 1⟩
  closed := number.mantissa % 2 = 0

/-- Whether a value rounds to the number of an interval. -/
def Interval.holds (interval : Interval) (value : Nat × Nat) : Bool :=
  if interval.closed then
    ratioLe interval.low value && ratioLe value interval.high
  else
    ratioLt interval.low value && ratioLt value interval.high

/-- The number of decimal places by which one ratio exceeds one. -/
def magnitude (value : Nat × Nat) : Int :=
  if ratioLe (1, 1) value then
    ((Nat.toDigits 10 (value.1 / value.2)).length : Int)
  else
    1 - ((Nat.toDigits 10 ((value.2 + value.1 - 1) / value.1 - 1)).length : Int)

/-- The one that is taken of two neighbours that are equally near. -/
def Tie.choose (tie : Tie) (lower upper : Scaled) : Scaled :=
  match tie with
  | .toEven => if lower.digits % 2 = 0 then lower else upper
  | .upward => upper

def nearer (tie : Tie) (value : Nat × Nat) (lower upper : Scaled) : Scaled :=
  let down := ratioGap value lower.toRatio
  let up := ratioGap value upper.toRatio
  if ratioLt down up then lower
  else if ratioLt up down then upper
  else tie.choose lower upper

/-- The point of a grid with `count` digits that rounds to a number, if any does. -/
def onGrid?
    (tie : Tie)
    (interval : Interval)
    (value : Nat × Nat)
    (count : Nat) :
    Option Scaled :=
  let exponent := magnitude value - count
  let unit := Scaled.toRatio ⟨1, exponent⟩
  let lower : Scaled := ⟨value.1 * unit.2 / (value.2 * unit.1), exponent⟩
  let upper : Scaled := ⟨lower.digits + 1, exponent⟩
  match interval.holds lower.toRatio, interval.holds upper.toRatio with
  | true, true => some (nearer tie value lower upper)
  | true, false => some lower
  | false, true => some upper
  | false, false => none

/-- A decimal number without zeros at its end. -/
def trim (fuel : Nat) (number : Scaled) : Scaled :=
  match fuel with
  | 0 => number
  | fuel + 1 =>
      if number.digits % 10 = 0 then
        trim fuel ⟨number.digits / 10, number.exponent + 1⟩
      else
        number

/-- The digits that always suffice to tell numbers apart. -/
def mostDigits : Nat := 17

/-- The decimal number with the fewest digits that reads back as a number. -/
def shortest (tie : Tie) (number : Binary64) : Scaled :=
  if number.mantissa = 0 then ⟨0, 0⟩
  else
    let value := number.toRatio
    let interval := Interval.around number
    let found :=
      (List.range mostDigits).findSome? fun fewer =>
        onGrid? tie interval value (fewer + 1)
    trim mostDigits (found.getD ⟨0, 0⟩)

def digitsOf (value : Nat) : List Char :=
  Nat.toDigits 10 value

/-- Some digits with a point before the last `places` of them. -/
def pointed (places : Nat) (digits : List Char) : String :=
  let padded := List.replicate (places + 1 - digits.length) '0' ++ digits
  let whole := padded.take (padded.length - places)
  let fraction := padded.drop (padded.length - places)
  String.ofList (whole ++ '.' :: fraction)

/-- A number with a fixed positive count of places; a tie goes to the even digit. -/
def fixed (places : Nat) (number : Binary64) : String :=
  let (above, under) := number.toRatio
  pointed places (digitsOf (roundHalfEven (above * Nat.pow 10 places) under))

/-- A decimal number without an exponent and with at least one place. -/
def positional (number : Scaled) : String :=
  match number.exponent with
  | .ofNat power =>
      String.ofList (digitsOf (number.digits * Nat.pow 10 power)) ++ ".0"
  | .negSucc less => pointed (less + 1) (digitsOf number.digits)

/-- A decimal number as one digit, a fraction if there is one, and an exponent. -/
def exponential (number : Scaled) : String :=
  let digits := digitsOf number.digits
  let exponent := number.exponent + (digits.length - 1 : Nat)
  let mark := if exponent < 0 then "e-" else "e+"
  let fraction := digits.drop 1
  String.ofList (digits.take 1) ++
    (if fraction = [] then "" else "." ++ String.ofList fraction) ++
    mark ++ String.ofList (digitsOf exponent.natAbs)

/--
The text of a number in a record: the fewest digits, without an exponent as
long as the leading digit stands between the fifth place after the point and
the sixteenth before it.  A tie goes to the even digit.
-/
def recorded (number : Binary64) : String :=
  let digits := shortest .toEven number
  let leading := digits.exponent + ((digitsOf digits.digits).length - 1 : Nat)
  if -5 ≤ leading ∧ leading < 16 then positional digits else exponential digits

end FileTransfer.Decimal
