import StackScript.Number.Binary

namespace StackScript.Number

/-!
# Remainders with the sign of the divisor

The truncated remainder is exact: both operands are whole numbers of units, and so is the remainder
of those.  The remainder of the language then moves into the range between zero and the divisor, and
a zero remainder takes the sign of the divisor.
-/

/-- The exact remainder of a division toward zero; it has the sign of the dividend. -/
def truncatedRemainder (dividend divisor : Float) : Float :=
  if dividend.isNaN || divisor.isNaN || dividend.isInf || divisor == 0 then
    ofMagnitude false undefinedBits
  else if divisor.isInf then
    dividend
  else
    ofMagnitude (isNegative dividend) (bitsOfUnits (units dividend % units divisor) 1)

/-- The remainder with the sign of the divisor. -/
def remainder (dividend divisor : Float) : Float :=
  let rest := truncatedRemainder dividend divisor
  if rest == 0 then
    ofMagnitude (isNegative divisor) 0
  else if (divisor < 0) != (rest < 0) then
    rest + divisor
  else
    rest

end StackScript.Number
