namespace StackScript.Number

/-!
# Binary floating-point numbers as whole numbers of units

The magnitude of a finite 64-bit number is a whole number of units of 2^-1074, the least positive
number.  With that unit every magnitude is a natural number, so reading, printing and remainders
are exact computations with natural numbers.  The bit pattern of a magnitude is `binade * 2^52 + m`,
where `m * 2^binade` is the number of units.

Powers are written `Nat.pow b n`, so that they mean the same whichever algebra is in scope.
-/

/-- How many binary places the unit lies below one. -/
def unitPlaces : Nat :=
  1074

/-- How many units make one. -/
def unitsPerOne : Nat :=
  Nat.pow 2 unitPlaces

/-- How many patterns share a binade, `2^52`. -/
def binadeSize : Nat :=
  0x10000000000000

/-- The sign bit, `2^63`; magnitude patterns lie below it. -/
def signBit : Nat :=
  0x8000000000000000

/-- The bit pattern of positive infinity. -/
def infinityBits : Nat :=
  0x7FF0000000000000

/-- The bit pattern of the undefined number. -/
def undefinedBits : Nat :=
  0x7FF8000000000000

/-- The bits of a number without its sign. -/
def magnitudeBits (x : Float) : Nat :=
  x.toBits.toNat % signBit

/-- Whether the sign bit is set. -/
def isNegative (x : Float) : Bool :=
  signBit ≤ x.toBits.toNat

/-- The number with a given sign and magnitude pattern. -/
def ofMagnitude (negative : Bool) (bits : Nat) : Float :=
  Float.ofBits (UInt64.ofNat (if negative then signBit + bits else bits))

/-- How often the units of a pattern are doubled. -/
def binade (bits : Nat) : Nat :=
  bits / binadeSize - 1

/-- The number of units that a finite magnitude pattern stands for. -/
def unitsOfBits (bits : Nat) : Nat :=
  (bits - binade bits * binadeSize) * Nat.pow 2 (binade bits)

/-- The magnitude of a finite number in units. -/
def units (x : Float) : Nat :=
  unitsOfBits (magnitudeBits x)

/-- The whole number nearest to a quotient; halves go to the even neighbour. -/
def roundDiv (numerator denominator : Nat) : Nat :=
  let quotient := numerator / denominator
  let twice := 2 * (numerator % denominator)
  if twice < denominator then
    quotient
  else if denominator < twice then
    quotient + 1
  else
    quotient + quotient % 2

/-- The magnitude pattern nearest to a quotient of units; what is too large becomes infinity. -/
def bitsOfUnits (numerator denominator : Nat) : Nat :=
  let doublings := (numerator / denominator).log2 - 52
  min infinityBits
    (doublings * binadeSize + roundDiv numerator (denominator * Nat.pow 2 doublings))

/-- The magnitude pattern nearest to a quotient of whole numbers. -/
def bitsOfRatio (numerator denominator : Nat) : Nat :=
  bitsOfUnits (numerator * unitsPerOne) denominator

/-- Whether a finite number has no fraction. -/
def isIntegral (x : Float) : Bool :=
  units x % unitsPerOne == 0

/-- The magnitude of a finite number without its fraction. -/
def wholePart (x : Float) : Nat :=
  units x / unitsPerOne

end StackScript.Number
