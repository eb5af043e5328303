import GrammarWorkbench.Number.Binary64

/-!
# The shortest decimal of a number

A number is written with the fewest decimal digits that read back as the same number, and with the
nearest such decimal where several read back. Decimals from `10 ^ -4` up to `10 ^ 16` are written
positionally with at least one place after the point, the others with an exponent.
-/

set_option autoImplicit false

namespace GrammarWorkbench.Number

/-- A decimal `digits · 10 ^ exponent`. -/
structure Decimal where
  digits : Nat
  exponent : Int

namespace Decimal

/-- The number of digits of a natural number. -/
def width (n : Nat) : Nat :=
  (Nat.toDigits 10 n).length

/-- The ratio `num / (den · 10 ^ exponent)` as two natural numbers. -/
def scaled (num den : Nat) (exponent : Int) : Nat × Nat :=
  if exponent < 0 then (num * Nat.pow 10 exponent.natAbs, den)
  else (num, den * Nat.pow 10 exponent.natAbs)

/-- The power of ten of the leading digit of a positive ratio. -/
def leadingPower (num den : Nat) : Int :=
  let guess : Int := (width num : Int) - width den
  let (n, d) := scaled num den guess
  if n < d then guess - 1 else guess

/-- The decimals with `count` digits on both sides of a ratio, the nearer one first. -/
def neighbours (num den : Nat) (leading : Int) (count : Nat) : List Decimal :=
  let exponent := leading - (count - 1 : Nat)
  let (n, d) := scaled num den exponent
  let low : Decimal := ⟨n / d, exponent⟩
  let high : Decimal := ⟨n / d + 1, exponent⟩
  if roundDiv n d = n / d then [low, high] else [high, low]

/-- Whether a decimal reads back as a finite number. -/
def readsBack (mantissa : Nat) (exponent : Int) (decimal : Decimal) : Bool :=
  Magnitude.ofDecimal decimal.digits decimal.exponent = .finite mantissa exponent

/-- The shortest decimal of a finite number; seventeen digits are always enough. -/
def shortest (mantissa : Nat) (exponent : Int) : Decimal :=
  let (num, den) := Magnitude.ratio mantissa exponent
  if num = 0 then ⟨0, 0⟩
  else
    let leading := leadingPower num den
    let candidates := (List.range 17).flatMap fun n => neighbours num den leading (n + 1)
    (candidates.find? (readsBack mantissa exponent)).getD ⟨num, 0⟩

/-- The digits without zeros at their end, and the power of ten of the leading digit; zero has one
digit before the point. -/
def normal (decimal : Decimal) : List Char × Int :=
  let digits := Nat.toDigits 10 decimal.digits
  if decimal.digits = 0 then (digits, 0)
  else
    ((digits.reverse.dropWhile (· = '0')).reverse, decimal.exponent + (digits.length - 1 : Nat))

/-- The text of an exponent: a sign and at least two digits. -/
def exponentText (exponent : Int) : List Char :=
  let digits := Nat.toDigits 10 exponent.natAbs
  (if exponent < 0 then '-' else '+') :: (if digits.length < 2 then '0' :: digits else digits)

/-- The decimal in positional form where its leading digit stands between the fourth place after
the point and the sixteenth before it, and with an exponent elsewhere. -/
def text (decimal : Decimal) : String :=
  let (digits, leading) := decimal.normal
  let body :=
    if leading < -4 ∨ 16 ≤ leading then
      digits.take 1 ++ (if digits.length = 1 then [] else '.' :: digits.drop 1) ++
        'e' :: exponentText leading
    else if leading < 0 then
      ['0', '.'] ++ List.replicate (leading.natAbs - 1) '0' ++ digits
    else
      let whole := leading.toNat + 1
      let shown := digits ++ List.replicate (whole - digits.length) '0'
      let fraction := shown.drop whole
      shown.take whole ++ '.' :: (if fraction.isEmpty then ['0'] else fraction)
  String.ofList body

end Decimal

/-- The text of a size. -/
def Magnitude.text : Magnitude → String
  | .infinite => "inf"
  | .finite mantissa exponent => (Decimal.shortest mantissa exponent).text

/-- The text of a number. -/
def Binary64.text : Binary64 → String
  | .notANumber => "nan"
  | .number negative magnitude => (if negative then "-" else "") ++ magnitude.text

/-- The text of a size rounded to hundredths, a half of the exact value to the even neighbour, with
one or two places after the point. -/
def Magnitude.hundredthsText : Magnitude → String
  | .infinite => "inf"
  | .finite mantissa exponent =>
    let (num, den) := ratio mantissa exponent
    (Decimal.mk (roundDiv (num * 100) den) (-2)).text

end GrammarWorkbench.Number
