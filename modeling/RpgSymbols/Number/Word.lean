/-!
Whole numbers that 64 bits can hold.
-/

namespace RpgSymbols.Number

def fitsSigned (value : Int) : Bool :=
  -9223372036854775808 ≤ value && value ≤ 9223372036854775807

/-- Whether a number is a 64-bit one, signed or not. -/
def fitsWord (value : Int) : Bool :=
  -9223372036854775808 ≤ value && value ≤ 18446744073709551615

/-- Whether a floating point number can be turned into a signed 64-bit one. The bounds themselves
cannot: the upper one rounds to a number that is too large, and both are treated alike. -/
def insideSigned (value : Int) : Bool :=
  -9223372036854775808 < value && value < 9223372036854775808

end RpgSymbols.Number
