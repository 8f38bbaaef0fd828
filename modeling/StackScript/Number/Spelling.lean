import StackScript.Number.Shortest

namespace StackScript.Number

/-!
# How numbers are written

Numbers are written in two ways.  The full spelling always shows that the number is a
floating-point number; the display form, used by programs, drops the fraction of whole numbers and
then writes every digit.
-/

/-- The decisions of the full spelling. -/
structure Style where
  /-- The least decimal exponent that is written with a plain point. -/
  leastPlain : Int
  /-- The first decimal exponent that is written with an exponent again. -/
  plainLimit : Int
  /-- The fewest digits of an exponent. -/
  exponentDigits : Nat
  infinity : String
  undefined : String

/-- A plain point from 0.0001 up to sixteen whole digits, and signed exponents of two digits. -/
def fullStyle : Style where
  leastPlain := -4
  plainLimit := 16
  exponentDigits := 2
  infinity := "inf"
  undefined := "nan"

/-- The decimal digits of a natural number. -/
def digitChars (value : Nat) : List Char :=
  Nat.toDigits 10 value

/-- Digits with a plain point after the first `point` of them. -/
def plainPoint (digits : List Char) (point : Int) : List Char :=
  match point with
  | .ofNat 0 =>
      '0' :: '.' :: digits
  | .negSucc gap =>
      '0' :: '.' :: (List.replicate (gap + 1) '0' ++ digits)
  | .ofNat place =>
      if place < digits.length then
        digits.take place ++ '.' :: digits.drop place
      else
        digits ++ List.replicate (place - digits.length) '0' ++ ['.', '0']

/-- Digits with a point after the first and a signed exponent. -/
def withExponent (style : Style) (digits : List Char) (exponent : Int) : List Char :=
  let mantissa :=
    match digits with
    | first :: second :: rest =>
        first :: '.' :: second :: rest
    | few =>
        few
  let shown := digitChars exponent.natAbs
  let padding := List.replicate (style.exponentDigits - shown.length) '0'
  mantissa ++ 'e' :: (if exponent < 0 then '-' else '+') :: (padding ++ shown)

/-- A positive decimal number in the given style. -/
def spellDecimal (style : Style) (scaled : Scaled) : List Char :=
  let digits := digitChars scaled.1
  let point := (digits.length : Int) + scaled.2
  if style.leastPlain < point ∧ point ≤ style.plainLimit then
    plainPoint digits point
  else
    withExponent style digits (point - 1)

/-- The sign that is written in front of a number. -/
def signChars (x : Float) : List Char :=
  if isNegative x then ['-'] else []

/-- The magnitude of a finite number in full. -/
def spellMagnitude (style : Style) (bits : Nat) : List Char :=
  if bits = 0 then
    ['0', '.', '0']
  else
    spellDecimal style (shortest bits)

/-- The full spelling of a number. -/
def spelling (x : Float) : String :=
  if x.isNaN then
    fullStyle.undefined
  else if x.isInf then
    String.ofList (signChars x) ++ fullStyle.infinity
  else
    String.ofList (signChars x ++ spellMagnitude fullStyle (magnitudeBits x))

/-- The display form of a number: whole numbers are exact and unfractioned, and zero has no sign. -/
def display (x : Float) : String :=
  if x.isFinite && isIntegral x then
    let whole := wholePart x
    String.ofList ((if isNegative x && whole != 0 then ['-'] else []) ++ digitChars whole)
  else
    spelling x

end StackScript.Number
