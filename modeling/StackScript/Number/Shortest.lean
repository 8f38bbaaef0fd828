import StackScript.Number.Decimal

namespace StackScript.Number

/-!
# The shortest decimal that reads back

Every finite magnitude is printed with the fewest decimal digits that read back as the same number,
and among those with the digits nearest to it.  On the grid of numbers with a given count of digits
only the two neighbours of the magnitude can be nearest, so each grid needs two trials.  Should no
grid succeed, the exact decimal expansion is used.
-/

/-- A natural number and a power of ten. -/
abbrev Scaled :=
  Nat × Int

/-- A magnitude in units over one step of a decimal grid, as a quotient. -/
def gridQuotient (units : Nat) (step : Int) : Nat × Nat :=
  match step with
  | .ofNat power =>
      (units, unitsPerOne * Nat.pow 10 power)
  | .negSucc power =>
      (units * Nat.pow 10 (power + 1), unitsPerOne)

/--
The decimal exponent of the leading digit of a positive number of units.

The binary exponent times the logarithm of two, `0.30103`, gives the exponent or one less.
-/
def leadingExponent (units : Nat) : Int :=
  let estimate := ((units.log2 : Int) - unitPlaces) * 30103 / 100000
  let (numerator, denominator) := gridQuotient units (estimate + 1)
  if denominator ≤ numerator then
    estimate + 1
  else
    estimate

/-- The nearer of the neighbours on a grid that reads back as the given pattern, if one does. -/
def neighbour? (bits : Nat) (step : Int) : Option Scaled :=
  let (numerator, denominator) := gridQuotient (unitsOfBits bits) step
  let below := numerator / denominator
  let twice := 2 * (numerator % denominator)
  let readsBack := fun digits => Decimal.bitsOf digits step == bits
  match readsBack below, readsBack (below + 1) with
  | true, false =>
      some (below, step)
  | false, true =>
      some (below + 1, step)
  | true, true =>
      if twice < denominator ∨ (twice = denominator ∧ below % 2 = 0) then
        some (below, step)
      else
        some (below + 1, step)
  | false, false =>
      none

/-- The exact decimal expansion of a pattern. -/
def exactDecimal (bits : Nat) : Scaled :=
  (unitsOfBits bits * Nat.pow 5 unitPlaces, -(unitPlaces : Int))

/-- Drop the trailing zeros of the digits, at most `fuel` of them. -/
def dropZeros : (fuel : Nat) → Scaled → Scaled
  | 0, scaled =>
      scaled
  | fuel + 1, (digits, exponent) =>
      if digits % 10 = 0 then
        dropZeros fuel (digits / 10, exponent + 1)
      else
        (digits, exponent)

/-- The shortest decimal that reads back as a positive finite pattern. -/
def shortest (bits : Nat) : Scaled :=
  let leading := leadingExponent (unitsOfBits bits)
  let found := (List.range 17).findSome? fun (more : Nat) => neighbour? bits (leading - more)
  dropZeros 1100 (found.getD (exactDecimal bits))

end StackScript.Number
