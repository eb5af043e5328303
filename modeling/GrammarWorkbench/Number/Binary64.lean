/-!
# Binary floating-point numbers of 64 bits

A finite number is `mantissa · 2 ^ exponent` with a sign, the mantissa below `2 ^ 53` and the
exponent at least `-1074`. Everything is computed exactly on natural numbers: a ratio is rounded
once, to the nearest number, and a half goes to the even mantissa.
-/

set_option autoImplicit false

namespace GrammarWorkbench.Number

/-- The quotient of two natural numbers to the nearest one, a half to the even neighbour. -/
def roundDiv (num den : Nat) : Nat :=
  let low := num / den
  let twice := 2 * (num % den)
  if twice < den then low
  else if den < twice then low + 1
  else if low % 2 = 0 then low else low + 1

/-- A size: a finite number `mantissa · 2 ^ exponent`, or beyond all finite numbers. -/
inductive Magnitude where
  | finite (mantissa : Nat) (exponent : Int)
  | infinite
  deriving DecidableEq

namespace Magnitude

/-- The least exponent of a finite number. -/
def minExponent : Int := -1074

/-- The greatest exponent of a finite number. -/
def maxExponent : Int := 971

/-- The number zero. -/
def zero : Magnitude := .finite 0 minExponent

/-- The ratio `num / (den · 2 ^ exponent)` as two natural numbers. -/
def scaled (num den : Nat) (exponent : Int) : Nat × Nat :=
  if exponent < 0 then (num * Nat.pow 2 exponent.natAbs, den)
  else (num, den * Nat.pow 2 exponent.natAbs)

/-- The exponent at which a positive ratio has a mantissa of 53 bits, or the least exponent when
that is greater. -/
def exponentOf (num den : Nat) : Int :=
  let guess := max ((num.log2 : Int) - den.log2 - 53) minExponent
  let (n, d) := scaled num den guess
  if Nat.pow 2 53 ≤ n / d then guess + 1 else guess

/-- The number nearest to a ratio with a positive denominator. -/
def ofRatio (num den : Nat) : Magnitude :=
  if num = 0 then zero
  else
    let exponent := exponentOf num den
    let (n, d) := scaled num den exponent
    let mantissa := roundDiv n d
    let (mantissa, exponent) :=
      if mantissa = Nat.pow 2 53 then (Nat.pow 2 52, exponent + 1) else (mantissa, exponent)
    if maxExponent < exponent then .infinite else .finite mantissa exponent

/-- A finite number as a ratio of natural numbers. -/
def ratio (mantissa : Nat) (exponent : Int) : Nat × Nat :=
  if exponent < 0 then (mantissa, Nat.pow 2 exponent.natAbs)
  else (mantissa * Nat.pow 2 exponent.natAbs, 1)

/-- The product with a natural number, rounded. -/
def scale (m : Magnitude) (factor : Nat) : Magnitude :=
  match m with
  | .infinite => .infinite
  | .finite mantissa exponent =>
    let (num, den) := ratio mantissa exponent
    ofRatio (num * factor) den

/-- The number nearest to `digits · 10 ^ exponent`. Beyond 400 places on either side the answer is
known without computing the power: larger than every finite number, or below half of the least
positive one. -/
def ofDecimal (digits : Nat) (exponent : Int) : Magnitude :=
  let places : Int := (Nat.toDigits 10 digits).length
  if digits = 0 then zero
  else if 400 < exponent + places then .infinite
  else if exponent + places < -400 then zero
  else if exponent < 0 then ofRatio digits (Nat.pow 10 exponent.natAbs)
  else ofRatio (digits * Nat.pow 10 exponent.natAbs) 1

end Magnitude

/-- A number with its sign, or the value that is no number. -/
inductive Binary64 where
  | number (negative : Bool) (magnitude : Magnitude)
  | notANumber
  deriving DecidableEq

/-- The integer a number is equal to, if it is one. -/
def Binary64.toInt? : Binary64 → Option Int
  | .number negative (.finite mantissa exponent) =>
    let (num, den) := Magnitude.ratio mantissa exponent
    if num % den = 0 then
      some (if negative then -((num / den : Nat) : Int) else ((num / den : Nat) : Int))
    else none
  | _ => none

end GrammarWorkbench.Number
