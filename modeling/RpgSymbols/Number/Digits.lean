/-!
Whole numbers in decimal notation.
-/

namespace RpgSymbols.Number

def digitChar (value : Nat) : Char := Char.ofNat (0x30 + value)

def digitValue (c : Char) : Nat := c.toNat - 0x30

def isDigit (c : Char) : Bool := 0x30 ≤ c.toNat && c.toNat ≤ 0x39

/-- The decimal digits of a number, highest first and without leading zeros. -/
def digits (n : Nat) : List Char :=
  if n < 10 then [digitChar n] else digits (n / 10) ++ [digitChar (n % 10)]
termination_by n

def ofDigitValues (base : Nat) (values : List Nat) : Nat :=
  values.foldl (fun total value => total * base + value) 0

def ofDigits (chars : List Char) : Nat := ofDigitValues 10 (chars.map digitValue)

def intDigits (n : Int) : List Char :=
  if n < 0 then '-' :: digits n.natAbs else digits n.natAbs

/-- The most digits that are read as one number where a text may be of any length. -/
def digitLimit : Nat := 4300

def natText (n : Nat) : String := String.ofList (digits n)

end RpgSymbols.Number
