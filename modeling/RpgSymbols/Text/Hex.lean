/-!
Hexadecimal numbers of a fixed width, as escapes in quoted texts write them.
-/

namespace RpgSymbols.Text

def hexDigit (value : Nat) : Char :=
  if value < 10 then Char.ofNat (0x30 + value) else Char.ofNat (0x57 + value)

/-- The `width` lowest hexadecimal digits of a number, highest first. -/
def hexDigits : Nat → Nat → List Char
  | 0, _ => []
  | width + 1, value => hexDigits width (value / 16) ++ [hexDigit (value % 16)]

def hexValue? (c : Char) : Option Nat :=
  let code := c.toNat
  if 0x30 ≤ code && code ≤ 0x39 then some (code - 0x30)
  else if 0x41 ≤ code && code ≤ 0x46 then some (code - 0x37)
  else if 0x61 ≤ code && code ≤ 0x66 then some (code - 0x57)
  else none

def hexNumber? (digits : List Char) : Option Nat :=
  digits.foldl (fun total c => do return (← total) * 16 + (← hexValue? c)) (some 0)

end RpgSymbols.Text
