import StackScript.Text.Lines

namespace StackScript

/-!
# The word at a place

Hovering asks for the word around a place of a document.  Words end at spaces, tabs, braces and
comment signs.  Lines and characters are counted from zero; a negative number counts from the end,
and one that lies before the beginning is a fault.  So is a negative number of more than 64 bits,
which is too small to count with at all.
-/

/-- A place that lies before the beginning of a document or of a line, or too far before it. -/
inductive PlaceFault where
  | line
  | character
  | tooSmall
  deriving Repr, DecidableEq

namespace PlaceFault

/-- The wording of a fault. -/
def message : PlaceFault → String
  | .line =>
      "list index out of range"
  | .character =>
      "string index out of range"
  | .tooSmall =>
      "cannot fit 'int' into an index-sized integer"

/-- The least number that can be counted with. -/
def leastIndex : Int :=
  -9223372036854775808

/-- The fault of an index before the beginning. -/
def before (index : Int) (usual : PlaceFault) : PlaceFault :=
  if index < leastIndex then
    .tooSmall
  else
    usual

end PlaceFault

namespace Word

/-- Whether a character ends a word. -/
def isStop (c : Char) : Bool :=
  c == ' ' || c == '\t' || c == '\x7b' || c == '\x7d' || c == '#'

/-- An index that may count from the end, as a position; below the beginning there is none. -/
def fromEnd? (length : Nat) (index : Int) : Option Nat :=
  if 0 ≤ index then
    some index.toNat
  else if 0 ≤ index + length then
    some (index + length).toNat
  else
    none

/-- The part of a line between two indices that may count from the end. -/
def slice (chars : List Char) (start stop : Int) : List Char :=
  let bound := fun index => (fromEnd? chars.length index).getD 0
  (chars.take (bound stop)).drop (bound start)

/-- How many characters directly in front of a position belong to its word. -/
def reachBack (chars : List Char) (position : Nat) : Nat :=
  ((chars.take position).reverse.takeWhile fun c => !isStop c).length

/--
The characters that are met from an index on.

Behind the last character counted from the end, counting goes on at the beginning of the line.
-/
def charsFrom (chars : List Char) (index : Int) : Except PlaceFault (List Char) :=
  match fromEnd? chars.length index with
  | none =>
      .error (PlaceFault.before index .character)
  | some position =>
      .ok (chars.drop position ++ if index < 0 then chars else [])

/-- How many characters from an index on belong to its word. -/
def reachAhead (chars : List Char) (index : Int) : Except PlaceFault Nat :=
  (charsFrom chars index).map fun met => (met.takeWhile fun c => !isStop c).length

/-- The word of a line around an index. -/
def inLine (chars : List Char) (character : Int) : Except PlaceFault (Option String) :=
  let index := min character chars.length
  let start := index - reachBack chars index.toNat
  match reachAhead chars index with
  | .error fault =>
      .error fault
  | .ok ahead =>
      match slice chars start (index + ahead) with
      | [] =>
          .ok none
      | word =>
          .ok (some (String.ofList word))

/-- The word of a document around a place. -/
def atPlace (text : String) (line character : Int) : Except PlaceFault (Option String) :=
  let lines := Text.documentLines text.toList
  if (lines.length : Int) ≤ line then
    .ok none
  else
    match fromEnd? lines.length line with
    | none =>
        .error (PlaceFault.before line .line)
    | some number =>
        inLine (lines.getD number []) character

end Word

end StackScript
