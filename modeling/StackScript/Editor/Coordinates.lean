namespace StackScript

/-!
# Coordinates sent by an editor

An editor names a place in a document by the numbers of its line and of its character, both counted
from zero.  The numbers of the editor protocol have 31 bits; a request with any other number is
refused before it is looked at, and the line is checked first.
-/

/-- A place in a document as an editor names it. -/
structure Coordinates where
  line : Nat
  character : Nat
  deriving Repr, DecidableEq

/-- A number that cannot be a coordinate. -/
inductive CoordinateFault where
  | line (number : Int)
  | character (number : Int)
  deriving Repr, DecidableEq

namespace Coordinates

/-- The greatest number of a line or of a character. -/
def greatest : Nat :=
  2147483647

/-- Whether a number can be a coordinate. -/
def accepts (number : Int) : Bool :=
  0 ≤ number && number ≤ greatest

/-- The coordinates with two given numbers. -/
def ofNumbers (line character : Int) : Except CoordinateFault Coordinates :=
  if !accepts line then
    .error (.line line)
  else if !accepts character then
    .error (.character character)
  else
    .ok ⟨line.toNat, character.toNat⟩

end Coordinates

namespace CoordinateFault

/-- The report of a number that is out of range. -/
def report (name : String) (number : Int) : String :=
  "Position." ++ name ++ " should be in range [0:" ++ toString Coordinates.greatest ++
    "], but was " ++ toString number ++ "."

/-- The wording of a refusal. -/
def message : CoordinateFault → String
  | .line number =>
      report "line" number
  | .character number =>
      report "character" number

end CoordinateFault

end StackScript
