import StackScript.Proofs.NumeralValues
import StackScript.Proofs.SpacedTokens

namespace StackScript

/-!
# Number tokens

A number token is the longest beginning of a text that is a numeral and is not followed by a
character that would continue a word or a number.  Digits may be of any script but only ASCII
characters continue, so a numeral may end in the middle of digits.  Every number token is a text
that reads as a number, and the number is never undefined.
-/

/-- The longest beginning of a text that has a property in view of what follows it. -/
structure IsLongest
    (holds : (behind text : List Char) → Prop)
    (chars text : List Char) : Prop where
  begins :
    ∃ behind, chars = text ++ behind ∧ holds behind text
  longest :
    ∀ other behind, chars = other ++ behind → holds behind other → other.length ≤ text.length

/-- There is at most one longest beginning. -/
theorem IsLongest.unique
    {holds : (behind text : List Char) → Prop}
    {chars text other : List Char}
    (isLongest : IsLongest holds chars text)
    (otherLongest : IsLongest holds chars other) :
    text = other := by
  obtain ⟨⟨behind, shape, holdsText⟩, longest⟩ := isLongest
  obtain ⟨⟨otherBehind, otherShape, holdsOther⟩, otherIsLongest⟩ := otherLongest
  have sameLength : text.length = other.length :=
    Nat.le_antisymm (otherIsLongest text behind shape holdsText)
      (longest other otherBehind otherShape holdsOther)
  exact (List.append_inj (shape.symm.trans otherShape) sameLength).1

theorem IsLongest.holds
    {holds : (behind text : List Char) → Prop}
    {text behind : List Char}
    (isLongest : IsLongest holds (text ++ behind) text) :
    holds behind text := by
  obtain ⟨otherBehind, shape, holdsText⟩ := isLongest.begins
  rwa [List.append_cancel_left shape]

namespace Lexer

/-- The characters lead from a stage to a numeral that may end in front of what follows. -/
structure EndsNumber (stage : Number.NumeralStage) (behind text : List Char) : Prop where
  complete :
    ∃ last, stage.follow? text = some last ∧ last.isComplete = true
  ended :
    ∀ next ∈ behind.head?, continuesNumber next = false

section Steps

variable {stage next : Number.NumeralStage} {behind text : List Char} {c : Char}

theorem endsNumber_nil_iff :
    EndsNumber stage (c :: behind) [] ↔
      stage.isComplete = true ∧ continuesNumber c = false := by
  constructor
  · rintro ⟨⟨last, follows, complete⟩, ended⟩
    cases follows
    exact ⟨complete, ended c rfl⟩
  · rintro ⟨complete, ended⟩
    exact ⟨⟨stage, rfl, complete⟩, by simpa using ended⟩

theorem endsNumber_cons_iff
    (leads : stage.next? c = some next) :
    EndsNumber stage behind (c :: text) ↔ EndsNumber next behind text := by
  have follows : stage.follow? (c :: text) = next.follow? text := by
    simp [Number.NumeralStage.follow?, leads]
  exact
    ⟨fun ends => ⟨follows ▸ ends.complete, ends.ended⟩,
      fun ends => ⟨follows ▸ ends.complete, ends.ended⟩⟩

theorem not_endsNumber_cons
    (leads : stage.next? c = none) :
    ¬EndsNumber stage behind (c :: text) := by
  rintro ⟨⟨last, follows, _⟩, _⟩
  simp [Number.NumeralStage.follow?, leads] at follows

end Steps

/-- The size of the longest beginning with a property, counted on, or that of none. -/
inductive SizeOfLongest
    (holds : (behind text : List Char) → Prop)
    (chars : List Char)
    (size fallback : Nat) : Nat → Prop where
  | found
      {text : List Char}
      (isLongest : IsLongest holds chars text) :
      SizeOfLongest holds chars size fallback (size + text.length)
  | none
      (noText : ∀ text behind, chars = text ++ behind → ¬holds behind text) :
      SizeOfLongest holds chars size fallback fallback

/-- If no numeral goes on behind a character, one may still end in front of it. -/
theorem sizeOfLongest_in_front
    {stage : Number.NumeralStage}
    {c : Char}
    {rest : List Char}
    (noLonger : ∀ text behind, rest = text ++ behind → ¬EndsNumber stage behind (c :: text))
    (size longest : Nat) :
    SizeOfLongest (EndsNumber stage) (c :: rest) size longest
      (if stage.isComplete && !continuesNumber c then size else longest) := by
  by_cases ends : stage.isComplete = true ∧ continuesNumber c = false
  · have isLongest : IsLongest (EndsNumber stage) (c :: rest) [] := by
      refine ⟨⟨c :: rest, rfl, endsNumber_nil_iff.mpr ends⟩, ?_⟩
      intro other behind shape otherEnds
      rcases List.cons_eq_append_iff.mp shape with ⟨rfl, _⟩ | ⟨text, rfl, isRest⟩
      · exact Nat.le_refl 0
      · exact (noLonger text behind isRest otherEnds).elim
    rw [if_pos (by simpa using ends)]
    exact .found isLongest
  · rw [if_neg (by simpa using ends)]
    refine .none ?_
    intro text behind shape textEnds
    rcases List.cons_eq_append_iff.mp shape with ⟨rfl, rfl⟩ | ⟨shorter, rfl, isRest⟩
    · exact ends (endsNumber_nil_iff.mp textEnds)
    · exact noLonger shorter behind isRest textEnds

/-- A numeral that goes on behind a character is longest if it is so behind that character. -/
theorem isLongest_cons
    {stage next : Number.NumeralStage}
    {c : Char}
    {rest text : List Char}
    (leads : stage.next? c = some next)
    (isLongest : IsLongest (EndsNumber next) rest text) :
    IsLongest (EndsNumber stage) (c :: rest) (c :: text) := by
  obtain ⟨⟨behind, rfl, ends⟩, longest⟩ := isLongest
  refine ⟨⟨behind, rfl, (endsNumber_cons_iff leads).mpr ends⟩, ?_⟩
  intro other otherBehind shape otherEnds
  rcases List.cons_eq_append_iff.mp shape with ⟨rfl, _⟩ | ⟨shorter, rfl, isRest⟩
  · exact Nat.zero_le _
  · have shorterEnds := (endsNumber_cons_iff leads).mp otherEnds
    exact Nat.succ_le_succ (longest shorter otherBehind isRest shorterEnds)

/-- The size of a number token is that of the longest numeral that may end where it does. -/
theorem numberSize_isLongest
    (stage : Number.NumeralStage)
    (size longest : Nat)
    (chars : List Char) :
    SizeOfLongest (EndsNumber stage) chars size longest
      (numberSize stage size longest chars) := by
  induction chars generalizing stage size longest with
  | nil =>
      rw [numberSize]
      split
      · next complete =>
        refine @SizeOfLongest.found _ _ _ _ [] ⟨⟨[], rfl, ⟨stage, rfl, complete⟩, by simp⟩, ?_⟩
        intro other behind shape _
        simp [(List.append_eq_nil_iff.mp shape.symm).1]
      · next notComplete =>
        refine .none ?_
        rintro text behind shape ⟨⟨last, follows, lastComplete⟩, _⟩
        obtain ⟨rfl, rfl⟩ := List.append_eq_nil_iff.mp shape.symm
        cases follows
        exact notComplete lastComplete
  | cons c rest inductionHypothesis =>
      rw [numberSize]
      split
      · next stops =>
        exact sizeOfLongest_in_front (fun _ _ _ => not_endsNumber_cons stops) size longest
      · next next leads =>
        generalize isFound :
          (if stage.isComplete && !continuesNumber c then size else longest) = found
        have goesOn := inductionHypothesis next (size + 1) found
        generalize numberSize next (size + 1) found rest = result at goesOn ⊢
        cases goesOn with
        | @found text isLongest =>
            have counted : size + 1 + text.length = size + (c :: text).length := by
              rw [List.length_cons]
              omega
            rw [counted]
            exact .found (isLongest_cons leads isLongest)
        | none noText =>
            rw [← isFound]
            refine sizeOfLongest_in_front ?_ size longest
            intro text behind isRest ends
            exact noText text behind isRest ((endsNumber_cons_iff leads).mp ends)

theorem endsNumber_start_iff
    {behind text : List Char} :
    EndsNumber .start behind text ↔
      Number.IsNumeral text ∧ ∀ next ∈ behind.head?, continuesNumber next = false := by
  constructor
  · rintro ⟨complete, ended⟩
    exact ⟨Number.isNumeral_iff.mpr complete, ended⟩
  · rintro ⟨isNumeral, ended⟩
    exact ⟨Number.isNumeral_iff.mp isNumeral, ended⟩

/-- Where there is a number the lexer finds it, and its text reads as its value. -/
theorem number?_of_isLongest
    {chars text : List Char}
    (isSize : numberSize .start 0 0 chars = text.length)
    (isLongest : IsLongest (EndsNumber .start) chars text) :
    ∃ decimal,
      number? chars = some (decimal, text.length) ∧
        Number.ofText? (String.ofList text) = some decimal.toFloat := by
  obtain ⟨behind, rfl, ends⟩ := isLongest.begins
  have isNumeral := (endsNumber_start_iff.mp ends).1
  obtain ⟨decimal, isDecimal⟩ := isNumeral.read
  refine ⟨decimal, number?_eq_some_iff.mpr ⟨isSize, ?_, by rwa [List.take_left]⟩, ?_⟩
  · exact fun isEmpty => isNumeral.ne_nil (List.length_eq_zero_iff.mp isEmpty)
  · rw [Number.ofText?_of_isNumeral isNumeral, isDecimal, Option.map_some]

theorem number?_eq_none_iff_size
    {chars : List Char} :
    number? chars = none ↔ numberSize .start 0 0 chars = 0 := by
  constructor
  · intro isNone
    have isSize := numberSize_isLongest .start 0 0 chars
    generalize found : numberSize .start 0 0 chars = size at isSize ⊢
    cases isSize with
    | none =>
        rfl
    | found isLongest =>
        rw [Nat.zero_add] at found
        obtain ⟨decimal, isNumber, _⟩ := number?_of_isLongest found isLongest
        rw [isNone] at isNumber
        cases isNumber
  · intro isZero
    simp [number?, isZero]

/-- The number that the lexer finds is the longest one. -/
theorem isLongest_of_number?
    {text behind : List Char}
    {decimal : Number.Decimal}
    (found : number? (text ++ behind) = some (decimal, text.length)) :
    IsLongest (EndsNumber .start) (text ++ behind) text := by
  obtain ⟨isSize, positive, _⟩ := number?_eq_some_iff.mp found
  have sizeOf := numberSize_isLongest .start 0 0 (text ++ behind)
  rw [isSize] at sizeOf
  generalize isLength : text.length = size at sizeOf positive
  cases sizeOf with
  | none =>
      exact (positive rfl).elim
  | @found other isLongest =>
      rw [Nat.zero_add] at isLength
      obtain ⟨otherBehind, shape, _⟩ := isLongest.begins
      obtain ⟨rfl, _⟩ := List.append_inj shape isLength
      exact isLongest

end Lexer

end StackScript
