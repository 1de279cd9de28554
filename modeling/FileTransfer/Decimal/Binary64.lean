namespace FileTransfer

/-!
# Binary fractions of double precision

A duration in seconds and a rate are kept as the binary fraction of 53
significant bits that lies nearest to the exact value; of two that are equally
near, the one with an even mantissa.  Arithmetic goes through the exact ratio,
so every operation rounds once.
-/

/-- The nearest whole number to a ratio; a tie goes to the even one. -/
def roundHalfEven (numerator denominator : Nat) : Nat :=
  let quotient := numerator / denominator
  let twice := numerator % denominator * 2
  if twice < denominator then quotient
  else if denominator < twice then quotient + 1
  else if quotient % 2 = 0 then quotient
  else quotient + 1

/-- The nonnegative number `mantissa * 2 ^ exponent`. -/
structure Binary64 where
  mantissa : Nat
  exponent : Int
  deriving Repr, DecidableEq

namespace Binary64

/-- The significant bits of a number. -/
def precision : Nat := 53

/-- The least exponent of a number. -/
def minExponent : Int := -1074

/-- The greatest exponent of a number that is not infinite. -/
def maxExponent : Int := 971

/-- The ratio of two numbers after division by a power of two. -/
def scale (numerator denominator : Nat) (exponent : Int) : Nat × Nat :=
  match exponent with
  | .ofNat power => (numerator, denominator * Nat.pow 2 power)
  | .negSucc less => (numerator * Nat.pow 2 (less + 1), denominator)

/-- The exponent at which a ratio has all its significant bits. -/
def exponentOf (numerator denominator : Nat) : Int :=
  let guess : Int :=
    (numerator.log2 : Int) - denominator.log2 - (precision - 1 : Nat)
  let (above, under) := scale numerator denominator guess
  let exact := if above / under < Nat.pow 2 (precision - 1) then guess - 1 else guess
  max minExponent exact

/-- The nearest number to a ratio. -/
def ofRatio (numerator denominator : Nat) : Binary64 :=
  if numerator = 0 then ⟨0, minExponent⟩
  else
    let exponent := exponentOf numerator denominator
    let (above, under) := scale numerator denominator exponent
    let mantissa := roundHalfEven above under
    if mantissa = Nat.pow 2 precision then ⟨Nat.pow 2 (precision - 1), exponent + 1⟩
    else ⟨mantissa, exponent⟩

/-- The nearest number to a whole number. -/
def ofNat (value : Nat) : Binary64 :=
  ofRatio value 1

/-- The exact ratio that a number stands for. -/
def toRatio (number : Binary64) : Nat × Nat :=
  match number.exponent with
  | .ofNat power => (number.mantissa * Nat.pow 2 power, 1)
  | .negSucc less => (number.mantissa, Nat.pow 2 (less + 1))

/-- Whether a number lies within the range of double precision. -/
def isFinite (number : Binary64) : Bool :=
  number.exponent ≤ maxExponent

/-- The sum of two numbers, rounded. -/
def add (first second : Binary64) : Binary64 :=
  let (above, under) := first.toRatio
  let (otherAbove, otherUnder) := second.toRatio
  ofRatio (above * otherUnder + otherAbove * under) (under * otherUnder)

/-- The quotient of two numbers, rounded; zero if there is nothing to divide by. -/
def div (first second : Binary64) : Binary64 :=
  if second.mantissa = 0 then ⟨0, minExponent⟩
  else
    let (above, under) := first.toRatio
    let (otherAbove, otherUnder) := second.toRatio
    ofRatio (above * otherUnder) (under * otherAbove)

def bits (number : Binary64) : Nat :=
  if number.mantissa < Nat.pow 2 (precision - 1) then number.mantissa
  else
    let biased := (number.exponent - minExponent).toNat + 1
    biased * Nat.pow 2 (precision - 1) + (number.mantissa - Nat.pow 2 (precision - 1))

end Binary64

end FileTransfer
