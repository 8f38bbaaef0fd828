import StackScript.Text.Digit

namespace StackScript.Number

/-!
# The shape of numerals

A numeral is an optional sign, digits with an optional point among or around them, and an optional
exponent.  It can be followed one character at a time: the stage reached after some characters tells
whether they are a complete numeral and which characters may come next.
-/

/-- How far a numeral has been followed. -/
inductive NumeralStage where
  | start
  | signed
  | whole
  /-- A point without a digit in front of it. -/
  | barePoint
  | fraction
  /-- The mark of an exponent. -/
  | mark
  | markSigned
  | exponent
  deriving Repr, DecidableEq

namespace NumeralStage

/-- Whether the characters up to a stage are a numeral. -/
def isComplete : NumeralStage → Bool
  | .whole | .fraction | .exponent =>
      true
  | _ =>
      false

/-- The stage after a digit. -/
def afterDigit : NumeralStage → NumeralStage
  | .start | .signed | .whole =>
      .whole
  | .barePoint | .fraction =>
      .fraction
  | .mark | .markSigned | .exponent =>
      .exponent

/-- The stage after a point, if a point may come next. -/
def afterPoint? : NumeralStage → Option NumeralStage
  | .start | .signed =>
      some .barePoint
  | .whole =>
      some .fraction
  | _ =>
      none

/-- The stage after the mark of an exponent, if a mark may come next. -/
def afterMark? : NumeralStage → Option NumeralStage
  | .whole | .fraction =>
      some .mark
  | _ =>
      none

/-- The stage after a sign, if a sign may come next. -/
def afterSign? : NumeralStage → Option NumeralStage
  | .start =>
      some .signed
  | .mark =>
      some .markSigned
  | _ =>
      none

/-- The stage after a character, if the character may come next. -/
def next? (stage : NumeralStage) (c : Char) : Option NumeralStage :=
  if Text.isDigit c then
    some stage.afterDigit
  else if c = '.' then
    stage.afterPoint?
  else if c = 'e' ∨ c = 'E' then
    stage.afterMark?
  else if c = '+' ∨ c = '-' then
    stage.afterSign?
  else
    none

end NumeralStage

end StackScript.Number
