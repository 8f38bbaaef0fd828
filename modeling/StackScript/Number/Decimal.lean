import StackScript.Number.Binary
import StackScript.Text.Blank
import StackScript.Text.Digit

namespace StackScript.Number

/-!
# Decimal numbers and their binary values

A decimal number is a sign, a natural number and a power of ten.  Its binary value is the nearest
64-bit number, halves going to the even neighbour.  The numeral grammar is a sign, digits with an
optional point and at least one digit, and an optional exponent.
-/

/-- The number `± digits * 10 ^ exponent`. -/
structure Decimal where
  negative : Bool
  digits : Nat
  exponent : Int
  deriving Repr, DecidableEq

namespace Decimal

/--
The magnitude pattern nearest to `digits * 10 ^ exponent`.

Powers beyond the range of 64-bit numbers are decided without computing them.
-/
def bitsOf (digits : Nat) (exponent : Int) : Nat :=
  if digits = 0 then
    0
  else if 400 < exponent then
    infinityBits
  else if exponent + digits.log2 + 401 < 0 then
    0
  else
    match exponent with
    | .ofNat power =>
        bitsOfRatio (digits * Nat.pow 10 power) 1
    | .negSucc power =>
        bitsOfRatio digits (Nat.pow 10 (power + 1))

/-- The 64-bit number nearest to a decimal number. -/
def toFloat (decimal : Decimal) : Float :=
  ofMagnitude decimal.negative (bitsOf decimal.digits decimal.exponent)

end Decimal

/-- An optional sign, and what follows it. -/
def takeSign : List Char → Bool × List Char
  | '-' :: rest =>
      (true, rest)
  | '+' :: rest =>
      (false, rest)
  | rest =>
      (false, rest)

/-- The exponent that ends a numeral: nothing, or a mark, an optional sign and digits. -/
def exponentOf? : List Char → Option Int
  | [] =>
      some 0
  | mark :: rest =>
      let (negative, digits) := takeSign rest
      if (mark = 'e' ∨ mark = 'E') ∧ digits ≠ [] ∧ digits.all Text.isDigit then
        some (if negative then -(Text.digitsValue digits : Int) else Text.digitsValue digits)
      else
        none

/-- The digits behind a decimal point, and what follows them. -/
def takeFraction : List Char → List Char × List Char
  | '.' :: rest =>
      (rest.takeWhile Text.isDigit, rest.dropWhile Text.isDigit)
  | rest =>
      ([], rest)

/-- Read a whole text as a numeral. -/
def numeral? (chars : List Char) : Option Decimal :=
  let (negative, body) := takeSign chars
  let whole := body.takeWhile Text.isDigit
  let (fraction, tail) := takeFraction (body.dropWhile Text.isDigit)
  if whole.isEmpty && fraction.isEmpty then
    none
  else
    (exponentOf? tail).map fun exponent =>
      { negative
        digits := Text.digitsValue (whole ++ fraction)
        exponent := exponent - fraction.length }

/-- Whether every underscore stands between two digits. -/
def underscoresSeparateDigits : (afterDigit : Bool) → List Char → Bool
  | _, [] =>
      true
  | afterDigit, '_' :: next :: rest =>
      afterDigit && Text.isDigit next && underscoresSeparateDigits true rest
  | _, '_' :: [] =>
      false
  | _, c :: rest =>
      underscoresSeparateDigits (Text.isDigit c) rest

/-- The magnitude pattern of a special number, named without regard to case. -/
def specialBits? (word : List Char) : Option Nat :=
  let lower := String.ofList (word.map Char.toLower)
  if lower = "inf" ∨ lower = "infinity" then
    some infinityBits
  else if lower = "nan" then
    some undefinedBits
  else
    none

/--
Read a whole text as a number.

Padding around it is ignored, digits may be grouped by underscores, and infinities and the
non-number are written by name.
-/
def ofText? (text : String) : Option Float :=
  let chars := Text.dropPadding text.toList
  if underscoresSeparateDigits false chars then
    let plain := chars.filter (· ≠ '_')
    let (negative, word) := takeSign plain
    match specialBits? word with
    | some bits =>
        some (ofMagnitude negative bits)
    | none =>
        (numeral? plain).map Decimal.toFloat
  else
    none

/-- The most digits that an integer text may have. -/
def maxIntegerDigits : Nat :=
  4300

/--
Read a whole text as an integer: padding around it is ignored, one sign may stand in front, and
single underscores may stand between digits.
-/
def integer? (text : String) : Option Int :=
  let chars := Text.dropPadding text.toList
  let (negative, body) := takeSign chars
  let digits := body.filter (· ≠ '_')
  if digits ≠ [] ∧
      digits.length ≤ maxIntegerDigits ∧
      digits.all Text.isDigit ∧
      underscoresSeparateDigits false body then
    some (if negative then -(Text.digitsValue digits : Int) else Text.digitsValue digits)
  else
    none

end StackScript.Number
