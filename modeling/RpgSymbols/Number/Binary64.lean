import RpgSymbols.Number.Digits

/-!
Decimal numbers read as 64-bit binary floating point: the nearest multiple of a power of two with
53 bits, ties to the even one. Only three things are ever asked of such a number: whether it is
finite, whether it is whole, and which whole number it is.
-/

namespace RpgSymbols.Number

inductive Rounded where
  | infinite
  | fractional
  | whole (value : Int)
  deriving DecidableEq, Repr

/-- A decimal: its sign, its digits as a number, and the power of ten they are multiplied by. -/
structure Decimal where
  negative : Bool
  mantissa : Nat
  exponent : Int
  deriving DecidableEq, Repr

/-- `numerator / denominator` to the nearest whole number, a half to the even neighbour. -/
def divideToNearest (numerator denominator : Nat) : Nat :=
  let quotient := numerator / denominator
  let twice := 2 * (numerator % denominator)
  if twice < denominator then quotient
  else if denominator < twice then quotient + 1
  else if quotient % 2 = 0 then quotient else quotient + 1

/-- The nearest `bits * 2 ^ power` to a positive ratio. The power is the least that leaves at most
53 bits, and never below that of the smallest subnormal number. -/
def nearestBinary (numerator denominator : Nat) : Nat × Int :=
  let scaled (power : Int) : Nat × Nat :=
    if power < 0 then (numerator * Nat.pow 2 power.natAbs, denominator)
    else (numerator, denominator * Nat.pow 2 power.natAbs)
  let guess : Int := (Nat.log2 numerator : Int) - Nat.log2 denominator - 53
  let (n, d) := scaled guess
  let fitted := if d * Nat.pow 2 53 ≤ n then guess + 1 else guess
  let power := max fitted (-1074)
  let (n, d) := scaled power
  (divideToNearest n d, power)

def Decimal.rounded (decimal : Decimal) : Rounded :=
  let magnitude : Int := (digits decimal.mantissa).length + decimal.exponent
  let signed (n : Nat) : Int := if decimal.negative then -n else n
  if decimal.mantissa = 0 then .whole 0
  else if 310 < magnitude then .infinite
  else if magnitude < -330 then .whole 0
  else
    let scale := Nat.pow 10 decimal.exponent.natAbs
    let (bits, power) :=
      if decimal.exponent < 0 then nearestBinary decimal.mantissa scale
      else nearestBinary (decimal.mantissa * scale) 1
    if power < 0 then
      let unit := Nat.pow 2 power.natAbs
      if bits % unit = 0 then .whole (signed (bits / unit)) else .fractional
    else
      let value := bits * Nat.pow 2 power.natAbs
      if Nat.pow 2 1024 ≤ value then .infinite else .whole (signed value)

/-- Reads `[sign]digits[.digits][e[sign]digits]`; the caller has checked the form. -/
def Decimal.ofChars (chars : List Char) : Decimal :=
  let unsigned := chars.dropWhile fun c => c == '+' || c == '-'
  let isMark (c : Char) : Bool := c == 'e' || c == 'E'
  let figures := unsigned.takeWhile fun c => !isMark c
  let power := (unsigned.dropWhile fun c => !isMark c).drop 1
  let integral := figures.takeWhile (· != '.')
  let fraction := (figures.dropWhile (· != '.')).drop 1
  let magnitude : Int := ofDigits (power.dropWhile fun c => c == '+' || c == '-')
  let exponent := if power.head? == some '-' then -magnitude else magnitude
  ⟨chars.head? == some '-', ofDigits (integral ++ fraction), exponent - fraction.length⟩

end RpgSymbols.Number
