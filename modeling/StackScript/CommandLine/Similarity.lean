namespace StackScript

/-!
# Similar words

A misspelt option is answered with the options that resemble it.  Two words resemble each other by
the number of characters they have in common when the longest common stretch is taken first and the
parts on either side of it are compared in the same way.
-/

namespace Similarity

/-- The length of the common beginning of two words. -/
def commonStart : List Char → List Char → Nat
  | left :: lefts, right :: rights =>
      if left = right then commonStart lefts rights + 1 else 0
  | _, _ =>
      0

/-- A common stretch: where it begins in either word, and its length. -/
structure Stretch where
  left : Nat
  right : Nat
  size : Nat

/-- The better of a stretch and the stretches from place `i` of one word and `j` on of the other. -/
def improve (best : Stretch) (left : List Char) (i j : Nat) : (right : List Char) → Stretch
  | [] =>
      best
  | first :: rest =>
      let size := commonStart left (first :: rest)
      improve (if best.size < size then ⟨i, j, size⟩ else best) left i (j + 1) rest

/-- The better of a stretch and the stretches from place `i` on of one word. -/
def improveAll (best : Stretch) (right : List Char) (i : Nat) : (left : List Char) → Stretch
  | [] =>
      best
  | first :: rest =>
      improveAll (improve best (first :: rest) i 0 right) right (i + 1) rest

/-- The longest common stretch, the earliest one if there are several. -/
def longestStretch (left right : List Char) : Stretch :=
  improveAll ⟨0, 0, 0⟩ right 0 left

/-- The number of characters in common; `fuel` bounds the number of stretches in a row. -/
def commonCount : (fuel : Nat) → List Char → List Char → Nat
  | 0, _, _ =>
      0
  | fuel + 1, left, right =>
      let best := longestStretch left right
      if best.size = 0 then
        0
      else
        best.size +
          commonCount fuel (left.take best.left) (right.take best.right) +
          commonCount fuel (left.drop (best.left + best.size)) (right.drop (best.right + best.size))

/-- How much a known word resembles a typed one: common characters and characters in total. -/
structure Score where
  common : Nat
  total : Nat
  word : String

/-- The score of a known word. -/
def score (typed known : String) : Score where
  common :=
    commonCount known.length known.toList typed.toList
  total :=
    known.length + typed.length
  word :=
    known

/-- Whether the words share three fifths of their characters or more. -/
def Score.isClose (score : Score) : Bool :=
  3 * score.total ≤ 10 * score.common

/-- Whether a score comes before another: the greater share first, then the later word. -/
def Score.precedes (first second : Score) : Bool :=
  let left := first.common * second.total
  let right := second.common * first.total
  right < left || (left == right && !(first.word < second.word))

/-- At most three known words that resemble a typed one, in alphabetical order. -/
def closeWords (typed : String) (known : List String) : List String :=
  let scores := (known.map (score typed)).filter Score.isClose
  let best := ((scores.mergeSort Score.precedes).take 3).map Score.word
  best.mergeSort fun left right => !(right < left)

end Similarity

end StackScript
