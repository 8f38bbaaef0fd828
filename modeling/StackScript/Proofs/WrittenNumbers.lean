import StackScript.Number.Spelling
import StackScript.Proofs.FiniteNumbers
import StackScript.Proofs.NearestPatterns
import StackScript.Proofs.NumberTokens

namespace StackScript

/-!
# Written numbers read back

A finite number is written as an integer, with a point among its digits, or with an exponent behind
them, each after an optional minus sign.  Every such text is a numeral, so the lexer takes all of it
as one token, and the decimal that it is read as is told by its figures.  That decimal is nearest to
the number it was written for; only the sign of zero is lost, because zero is written without one.
-/

namespace Text

/-- Figures from 0 to 9, possibly none. -/
def AreFigures (chars : List Char) : Prop :=
  ∀ c ∈ chars, c.isDigit = true

/-- At least one figure. -/
structure IsFigureRun (chars : List Char) : Prop where
  nonempty :
    chars ≠ []
  figures :
    AreFigures chars

theorem digitValue?_of_isFigure
    {c : Char}
    (isFigure : c.isDigit = true) :
    digitValue? c = some (c.toNat - '0'.toNat) := by
  have within : 48 ≤ c.toNat ∧ c.toNat ≤ 57 := by
    simpa [Char.isDigit, UInt32.le_iff_toNat_le] using isFigure
  rw [digitValue?, digitZeros, List.findSome?_cons, if_pos (by omega)]
  rfl

theorem AreFigures.append
    {chars more : List Char}
    (areFigures : AreFigures chars)
    (moreFigures : AreFigures more) :
    AreFigures (chars ++ more) :=
  List.forall_mem_append.mpr ⟨areFigures, moreFigures⟩

theorem areFigures_zeros
    (count : Nat) :
    AreFigures (List.replicate count '0') := by
  intro c member
  rw [List.eq_of_mem_replicate member]
  decide

theorem isFigureRun_zero : IsFigureRun ['0'] :=
  ⟨List.cons_ne_nil _ _, areFigures_zeros 1⟩

theorem AreFigures.areDigits
    {chars : List Char}
    (areFigures : AreFigures chars) :
    Number.AreDigits chars := by
  intro c member
  simp [isDigit, digitValue?_of_isFigure (areFigures c member)]

theorem IsFigureRun.isDigitRun
    {chars : List Char}
    (isRun : IsFigureRun chars) :
    Number.IsDigitRun chars :=
  ⟨isRun.nonempty, isRun.figures.areDigits⟩

/-- Figures are read as the number that they write. -/
theorem AreFigures.digitsValue
    {chars : List Char}
    (areFigures : AreFigures chars) :
    Text.digitsValue chars = Nat.ofDigitChars 10 chars 0 := by
  rw [Nat.ofDigitChars_eq_foldl, Text.digitsValue]
  refine List.foldl_ext _ _ _ ?_
  intro value c member
  rw [digitValue?_of_isFigure (areFigures c member), Option.getD_some]

end Text

namespace Number

open Text (AreFigures IsFigureRun)

/-- The sign in front of a negative number. -/
def minus (negative : Bool) : List Char :=
  if negative then ['-'] else []

/-- Figures behind a point, which is left out if there are none. -/
def pointed : List Char → List Char
  | [] =>
      []
  | fraction =>
      '.' :: fraction

/-- The forms in which finite numbers are written. -/
inductive WrittenForm where
  | integer
  | positional
  | scientific
  deriving Repr, DecidableEq

/-- The texts of every form, each with the decimal that its figures say. -/
inductive IsWritten : WrittenForm → List Char → Decimal → Prop where
  | integer
      {whole : List Char}
      (negative : Bool)
      (isWhole : IsFigureRun whole) :
      IsWritten .integer
        (minus negative ++ whole)
        ⟨negative, Nat.ofDigitChars 10 whole 0, 0⟩
  | positional
      {whole fraction : List Char}
      (negative : Bool)
      (isWhole : IsFigureRun whole)
      (isFraction : IsFigureRun fraction) :
      IsWritten .positional
        (minus negative ++ whole ++ '.' :: fraction)
        ⟨negative, Nat.ofDigitChars 10 (whole ++ fraction) 0, -fraction.length⟩
  | scientific
      {lead : Char}
      {fraction exponent : List Char}
      (negative below : Bool)
      (isLead : lead.isDigit = true)
      (isFraction : AreFigures fraction)
      (isExponent : AreFigures exponent)
      (twoOrMore : 2 ≤ exponent.length) :
      IsWritten .scientific
        (minus negative ++ lead :: pointed fraction ++
          'e' :: (if below then '-' else '+') :: exponent)
        ⟨negative, Nat.ofDigitChars 10 (lead :: fraction) 0,
          (if below then -1 else 1) * (Nat.ofDigitChars 10 exponent 0 : Int) - fraction.length⟩

section Reading

variable {whole fraction exponent : List Char}

theorem isSign_minus
    (negative : Bool) :
    IsSign (minus negative) := by
  cases negative with
  | false =>
      exact .none
  | true =>
      exact .minus

theorem isMantissa_pointed
    (isWhole : IsFigureRun whole)
    (isFraction : AreFigures fraction) :
    IsMantissa (whole ++ pointed fraction) := by
  cases fraction with
  | nil =>
      rw [pointed, List.append_nil]
      exact .whole isWhole.isDigitRun
  | cons first rest =>
      exact .point isWhole.isDigitRun isFraction.areDigits

theorem takeSign_minus
    {body : List Char}
    (negative : Bool)
    (unsigned : ∀ c ∈ body.head?, c ≠ '+' ∧ c ≠ '-') :
    takeSign (minus negative ++ body) = (negative, body) := by
  cases negative with
  | true =>
      rfl
  | false =>
      cases body with
      | nil =>
          rfl
      | cons first rest =>
          obtain ⟨notPlus, notMinus⟩ := unsigned first rfl
          simp [minus, takeSign, notPlus, notMinus]

theorem takeFraction_pointed
    (isFraction : AreFigures fraction)
    (isExponent : IsExponent exponent) :
    takeFraction (pointed fraction ++ exponent) = (fraction, exponent) := by
  cases fraction with
  | nil =>
      exact takeFraction_exponent isExponent
  | cons first rest =>
      exact takeFraction_point isFraction.areDigits isExponent

theorem not_digit_pointed
    (isExponent : IsExponent exponent) :
    ∀ c ∈ (pointed fraction ++ exponent).head?, Text.isDigit c = false := by
  cases fraction with
  | nil =>
      exact isExponent.not_digit
  | cons first rest =>
      intro c isHead
      cases isHead
      exact isDigit_punctuation '.' (by simp [punctuation])

/-- The parts that are written are the parts that are read. -/
theorem numeral?_of_parts
    {power : Int}
    (negative : Bool)
    (isWhole : IsFigureRun whole)
    (isFraction : AreFigures fraction)
    (isExponent : IsExponent exponent)
    (isPower : exponentOf? exponent = some power) :
    numeral? (minus negative ++ (whole ++ pointed fraction ++ exponent)) =
      some ⟨negative, Nat.ofDigitChars 10 (whole ++ fraction) 0, power - fraction.length⟩ := by
  have signTaken :=
    takeSign_minus negative ((isMantissa_pointed isWhole isFraction).unsigned exponent)
  obtain ⟨wholeTaken, left⟩ :=
    isWhole.figures.areDigits.span (@not_digit_pointed fraction exponent isExponent)
  have notBare : ¬(whole.isEmpty && fraction.isEmpty) = true := by
    simp [isWhole.nonempty]
  rw [List.append_assoc] at signTaken
  simp only [numeral?, List.append_assoc, signTaken, wholeTaken, left,
    takeFraction_pointed isFraction isExponent]
  rw [if_neg notBare, isPower, Option.map_some, (isWhole.figures.append isFraction).digitsValue]

theorem isExponent_signed
    (below : Bool)
    (isRun : IsFigureRun exponent) :
    IsExponent ('e' :: (if below then '-' else '+') :: exponent) := by
  cases below with
  | false =>
      exact .marked (.inl rfl) .plus isRun.isDigitRun
  | true =>
      exact .marked (.inl rfl) .minus isRun.isDigitRun

theorem exponentOf?_signed
    (below : Bool)
    (isRun : IsFigureRun exponent) :
    exponentOf? ('e' :: (if below then '-' else '+') :: exponent) =
      some ((if below then -1 else 1) * (Nat.ofDigitChars 10 exponent 0 : Int)) := by
  have allDigits : exponent.all Text.isDigit = true :=
    List.all_eq_true.mpr isRun.figures.areDigits
  cases below <;>
    simp [exponentOf?, takeSign, isRun.nonempty, allDigits, isRun.figures.digitsValue]

end Reading

namespace IsWritten

variable {form : WrittenForm} {chars : List Char} {decimal : Decimal}

/-- All forms are figures, a fraction and an exponent, of which the last two may be missing. -/
theorem parts
    (written : IsWritten form chars decimal) :
    ∃ whole fraction exponent power,
      IsFigureRun whole ∧ AreFigures fraction ∧ IsExponent exponent ∧
        exponentOf? exponent = some power ∧
        chars = minus decimal.negative ++ (whole ++ pointed fraction ++ exponent) ∧
        decimal =
          ⟨decimal.negative, Nat.ofDigitChars 10 (whole ++ fraction) 0, power - fraction.length⟩ := by
  have noFigures : AreFigures [] := by
    simp [AreFigures]
  cases written with
  | @integer whole negative isWhole =>
      exact ⟨whole, [], [], 0, isWhole, noFigures, .none, rfl, by simp [pointed], by simp⟩
  | @positional whole fraction negative isWhole isFraction =>
      refine ⟨whole, fraction, [], 0, isWhole, isFraction.figures, .none, rfl, ?_, by simp⟩
      cases fraction with
      | nil =>
          exact (isFraction.nonempty rfl).elim
      | cons first rest =>
          simp [pointed]
  | @scientific lead fraction exponent negative below isLead isFraction isExponent twoOrMore =>
      have isRun : IsFigureRun exponent :=
        ⟨List.ne_nil_of_length_pos (by omega), isExponent⟩
      have isWhole : IsFigureRun [lead] :=
        ⟨List.cons_ne_nil _ _, by simpa [AreFigures] using isLead⟩
      exact ⟨[lead], fraction, _, _, isWhole, isFraction, isExponent_signed below isRun,
        exponentOf?_signed below isRun, by simp, rfl⟩

theorem isNumeral
    (written : IsWritten form chars decimal) :
    IsNumeral chars := by
  obtain ⟨whole, fraction, exponent, power, isWhole, isFraction, isExponent, _, shape, _⟩ :=
    written.parts
  rw [shape]
  exact .parts (isSign_minus _) (isMantissa_pointed isWhole isFraction) isExponent

theorem numeral?_eq
    (written : IsWritten form chars decimal) :
    numeral? chars = some decimal := by
  obtain ⟨whole, fraction, exponent, power, isWhole, isFraction, isExponent, isPower, shape, said⟩ :=
    written.parts
  rw [shape, numeral?_of_parts _ isWhole isFraction isExponent isPower, ← said]

end IsWritten

section Spelling

variable {digits : List Char}

theorem isFigureRun_digitChars
    (value : Nat) :
    IsFigureRun (digitChars value) :=
  ⟨Nat.toDigits_ne_nil, fun _ => Nat.isDigit_of_mem_toDigits (by decide) (by decide)⟩

theorem ofDigitChars_digitChars
    (value : Nat) :
    Nat.ofDigitChars 10 (digitChars value) 0 = value :=
  Nat.ofDigitChars_ten_toDigits

theorem ofDigitChars_zeros_append
    (count : Nat)
    (digits : List Char) :
    Nat.ofDigitChars 10 (List.replicate count '0' ++ digits) 0 = Nat.ofDigitChars 10 digits 0 := by
  rw [Nat.ofDigitChars_append, Nat.ofDigitChars_replicate_zero, Nat.mul_zero]

theorem ofDigitChars_append_zeros
    (count : Nat)
    (digits : List Char) :
    Nat.ofDigitChars 10 (digits ++ List.replicate count '0') 0 =
      Nat.ofDigitChars 10 digits 0 * 10 ^ count := by
  rw [Nat.ofDigitChars_append, Nat.ofDigitChars_replicate_zero, Nat.mul_comm]

/-- A text with a point or an exponent whose decimal has a given sign and magnitude pattern. -/
def Writes (chars : List Char) (negative : Bool) (bits : Nat) : Prop :=
  ∃ form decimal,
    IsWritten form chars decimal ∧
      form ≠ .integer ∧
      decimal.negative = negative ∧
      Decimal.bitsOf decimal.digits decimal.exponent = bits

theorem writes_positional
    {whole fraction : List Char}
    (negative : Bool)
    (isWhole : IsFigureRun whole)
    (isFraction : IsFigureRun fraction) :
    Writes
      (minus negative ++ (whole ++ '.' :: fraction))
      negative
      (Decimal.bitsOf (Nat.ofDigitChars 10 (whole ++ fraction) 0) (-fraction.length)) := by
  have written := IsWritten.positional negative isWhole isFraction
  rw [List.append_assoc] at written
  exact ⟨_, _, written, nofun, rfl, rfl⟩

/-- Behind a point and zeros the digits stand for a fraction. -/
theorem zerosInFront_writes
    (negative : Bool)
    (isRun : IsFigureRun digits)
    (count : Nat) :
    Writes
      (minus negative ++ '0' :: '.' :: (List.replicate count '0' ++ digits))
      negative
      (Decimal.bitsOf (Nat.ofDigitChars 10 digits 0) (-(count + digits.length))) := by
  have isFraction : IsFigureRun (List.replicate count '0' ++ digits) :=
    ⟨by simp [isRun.nonempty], (Text.areFigures_zeros count).append isRun.figures⟩
  have written := writes_positional negative Text.isFigureRun_zero isFraction
  have sameDigits :
      Nat.ofDigitChars 10 (['0'] ++ (List.replicate count '0' ++ digits)) 0 =
        Nat.ofDigitChars 10 digits 0 :=
    (ofDigitChars_zeros_append 1 _).trans (ofDigitChars_zeros_append count digits)
  rw [sameDigits, List.length_append, List.length_replicate, Nat.cast_add] at written
  exact written

/-- A point between digits makes those behind it a fraction. -/
theorem pointInside_writes
    (negative : Bool)
    (isRun : IsFigureRun digits)
    {place : Nat}
    (positive : place ≠ 0)
    (inside : place < digits.length) :
    Writes
      (minus negative ++ (digits.take place ++ '.' :: digits.drop place))
      negative
      (Decimal.bitsOf (Nat.ofDigitChars 10 digits 0) (place - digits.length)) := by
  have isWhole : IsFigureRun (digits.take place) :=
    ⟨by simp [isRun.nonempty, positive],
      fun c member => isRun.figures c (List.mem_of_mem_take member)⟩
  have isFraction : IsFigureRun (digits.drop place) :=
    ⟨by simpa using inside, fun c member => isRun.figures c (List.mem_of_mem_drop member)⟩
  have written := writes_positional negative isWhole isFraction
  have places : -((digits.drop place).length : Int) = place - digits.length := by
    rw [List.length_drop]
    omega
  rwa [places, List.take_append_drop] at written

/-- Zeros behind the digits stand for a power of ten. -/
theorem zerosBehind_writes
    (negative : Bool)
    (isRun : IsFigureRun digits)
    (count : Nat) :
    Writes
      (minus negative ++ (digits ++ List.replicate count '0' ++ ['.', '0']))
      negative
      (Decimal.bitsOf (Nat.ofDigitChars 10 digits 0) count) := by
  have isWhole : IsFigureRun (digits ++ List.replicate count '0') :=
    ⟨by simp [isRun.nonempty], isRun.figures.append (Text.areFigures_zeros count)⟩
  have written := writes_positional negative isWhole Text.isFigureRun_zero
  have moreDigits :
      Nat.ofDigitChars 10 (digits ++ List.replicate count '0' ++ ['0']) 0 =
        Nat.ofDigitChars 10 digits 0 * 10 ^ count * 10 ^ 1 := by
    rw [← ofDigitChars_append_zeros, ← ofDigitChars_append_zeros]
    rfl
  have places : -1 + ((1 : Nat) : Int) + (count : Int) = count := by
    omega
  have samePattern :
      Decimal.bitsOf (Nat.ofDigitChars 10 digits 0 * 10 ^ count * 10 ^ 1) (-1) =
        Decimal.bitsOf (Nat.ofDigitChars 10 digits 0) count := by
    rw [Decimal.bitsOf_mul_ten_pow, Decimal.bitsOf_mul_ten_pow, places]
  rw [moreDigits] at written
  rw [← samePattern]
  exact written

/-- With a point among its digits, or among zeros around them, a number keeps its pattern. -/
theorem plainPoint_writes
    (negative : Bool)
    (isRun : IsFigureRun digits)
    (exponent : Int) :
    Writes
      (minus negative ++ plainPoint digits (digits.length + exponent))
      negative
      (Decimal.bitsOf (Nat.ofDigitChars 10 digits 0) exponent) := by
  generalize isPoint : (digits.length : Int) + exponent = point
  match point with
  | .ofNat 0 =>
      have places : exponent = -(((0 : Nat) : Int) + digits.length) := by
        simp only [Int.ofNat_eq_natCast] at isPoint
        omega
      rw [places]
      exact zerosInFront_writes negative isRun 0
  | .negSucc gap =>
      have places : exponent = -(((gap + 1 : Nat) : Int) + digits.length) := by
        omega
      rw [places]
      exact zerosInFront_writes negative isRun (gap + 1)
  | .ofNat (place + 1) =>
      simp only [Int.ofNat_eq_natCast] at isPoint
      rw [plainPoint]
      · split
        · next inside =>
          have places : exponent = ((place + 1 : Nat) : Int) - digits.length := by
            omega
          rw [places]
          exact pointInside_writes negative isRun (Nat.succ_ne_zero place) inside
        · next beyond =>
          have places : exponent = ((place + 1 - digits.length : Nat) : Int) := by
            omega
          rw [places]
          exact zerosBehind_writes negative isRun _
      · simp

/-- A whole number is a sign and a size. -/
theorem sign_mul_natAbs
    (value : Int) :
    (if value < 0 then -1 else 1) * (value.natAbs : Int) = value := by
  split <;> omega

/-- With an exponent behind its digits a number keeps its pattern. -/
theorem withExponent_writes
    (negative : Bool)
    (isRun : IsFigureRun digits)
    (exponent : Int) :
    Writes
      (minus negative ++ withExponent fullStyle digits (digits.length + exponent - 1))
      negative
      (Decimal.bitsOf (Nat.ofDigitChars 10 digits 0) exponent) := by
  generalize isShown : (digits.length : Int) + exponent - 1 = shown
  obtain ⟨lead, fraction, rfl⟩ := List.exists_cons_of_ne_nil isRun.nonempty
  obtain ⟨isLead, isFraction⟩ := List.forall_mem_cons.mp isRun.figures
  generalize isFigures :
    List.replicate (2 - (digitChars shown.natAbs).length) '0' ++ digitChars shown.natAbs = figures
  have areFigures : AreFigures figures :=
    isFigures ▸ (Text.areFigures_zeros _).append (isFigureRun_digitChars _).figures
  have twoOrMore : 2 ≤ figures.length := by
    rw [← isFigures, List.length_append, List.length_replicate]
    omega
  have isSize : Nat.ofDigitChars 10 figures 0 = shown.natAbs := by
    rw [← isFigures, ofDigitChars_zeros_append, ofDigitChars_digitChars]
  have shape :
      minus negative ++ withExponent fullStyle (lead :: fraction) shown =
        minus negative ++ lead :: pointed fraction ++
          'e' :: (if decide (shown < 0) then '-' else '+') :: figures := by
    rw [← isFigures]
    cases fraction <;> simp [withExponent, pointed, fullStyle]
  have places : shown - fraction.length = exponent := by
    rw [List.length_cons] at isShown
    omega
  have written := IsWritten.scientific negative (shown < 0) isLead isFraction areFigures twoOrMore
  rw [shape]
  refine ⟨_, _, written, nofun, rfl, ?_⟩
  simp only [isSize, decide_eq_true_eq, sign_mul_natAbs, places]

/-- Both ways of writing a decimal keep its pattern. -/
theorem spellDecimal_writes
    (negative : Bool)
    (scaled : Scaled) :
    Writes
      (minus negative ++ spellDecimal fullStyle scaled)
      negative
      (Decimal.bitsOf scaled.1 scaled.2) := by
  have isRun := isFigureRun_digitChars scaled.1
  have plain := plainPoint_writes negative isRun scaled.2
  have exponential := withExponent_writes negative isRun scaled.2
  rw [ofDigitChars_digitChars] at plain exponential
  rw [spellDecimal]
  split
  · exact plain
  · exact exponential

end Spelling

end Number

namespace Lexer

section Numerals

variable {chars : List Char} (isNumeral : Number.IsNumeral chars)

include isNumeral

/-- A numeral with nothing behind it is the longest one that begins where it does. -/
theorem numberSize_of_isNumeral :
    numberSize .start 0 0 chars = chars.length := by
  have ends : EndsNumber .start [] chars :=
    endsNumber_start_iff.mpr ⟨isNumeral, by simp⟩
  have isLongest : IsLongest (EndsNumber .start) chars chars := by
    refine ⟨⟨[], by simp, ends⟩, ?_⟩
    rintro other behind rfl _
    simp
  have sizeOf := numberSize_isLongest .start 0 0 chars
  generalize numberSize .start 0 0 chars = size at sizeOf ⊢
  cases sizeOf with
  | found otherLongest =>
      rw [isLongest.unique otherLongest, Nat.zero_add]
  | none noText =>
      exact (noText chars [] (by simp) ends).elim

/-- In a numeral there are no blanks, and no comment begins. -/
theorem solid_of_isNumeral :
    ∀ c ∈ chars, Text.isBlank c = false ∧ c ≠ '#' := by
  have solidPunctuation :
      (Number.punctuation.all fun c => !Text.isBlank c && c != '#') = true := by
    decide
  intro c member
  rcases isNumeral.digit_or_punctuation c member with isDigit | isPunctuation
  · refine ⟨Number.isBlank_of_isDigit isDigit, ?_⟩
    rintro rfl
    revert isDigit
    decide
  · simpa using List.all_eq_true.mp solidPunctuation c isPunctuation

/-- A numeral with nothing behind it is taken as a whole. -/
theorem standsAlone_of_isNumeral
    {decimal : Number.Decimal}
    (isRead : Number.numeral? chars = some decimal) :
    StandsAlone (.number decimal.toFloat) chars := by
  have positive : chars.length ≠ 0 :=
    mt List.length_eq_zero_iff.mp isNumeral.ne_nil
  have isNumber : number? chars = some (decimal, chars.length) :=
    number?_eq_some_iff.mpr
      ⟨numberSize_of_isNumeral isNumeral, positive, by rwa [List.take_length]⟩
  have solid := solid_of_isNumeral isNumeral
  cases chars with
  | nil =>
      exact (positive rfl).elim
  | cons first rest =>
      obtain ⟨notBlank, notHash⟩ := solid first List.mem_cons_self
      refine .intro (by simp [notBlank]) ?_
      simp only [piece, notHash, if_false, isNumber, List.length_cons]

end Numerals

end Lexer

namespace Number

open Text (IsFigureRun)

section Finite

variable {x : Float}

/-- A finite number with a fraction is written with a point or an exponent, and keeps its pattern. -/
theorem spelling_writes
    (isFinite : x.isFinite = true) :
    Writes (spelling x).toList (isNegative x) (magnitudeBits x) := by
  have inRange : magnitudeBits x ≤ infinityBits :=
    Nat.le_of_lt (magnitudeBits_lt isFinite)
  rw [spelling, isNaN_of_isFinite isFinite, isInf_of_isFinite isFinite]
  simp only [Bool.false_eq_true, if_false, String.toList_ofList]
  change Writes (minus (isNegative x) ++ _) _ _
  rw [spellMagnitude]
  split
  · next isZero =>
    have written :=
      writes_positional (isNegative x) Text.isFigureRun_zero Text.isFigureRun_zero
    rw [isZero]
    exact written
  · have written := spellDecimal_writes (isNegative x) (shortest (magnitudeBits x))
    rwa [bitsOf_shortest inRange] at written

/-- A finite number without a fraction is the whole number that its digits write. -/
theorem bitsOf_wholePart
    (isFinite : x.isFinite = true)
    (whole : isIntegral x = true) :
    Decimal.bitsOf (wholePart x) 0 = magnitudeBits x := by
  have inRange : magnitudeBits x ≤ infinityBits :=
    Nat.le_of_lt (magnitudeBits_lt isFinite)
  have isExact : wholePart x * unitsPerOne = units x :=
    Nat.div_mul_cancel (Nat.dvd_of_mod_eq_zero (beq_iff_eq.mp whole))
  rw [Decimal.bitsOf_eq_bitsOfRatio]
  change bitsOfRatio (wholePart x * 1) 1 = magnitudeBits x
  rw [Nat.mul_one, bitsOfRatio, isExact]
  exact bitsOfUnits_unitsOfBits inRange

end Finite

/-- A text in one of the forms is one number token. -/
theorem IsWritten.lex
    {form : WrittenForm}
    {text : String}
    {decimal : Decimal}
    (written : IsWritten form text.toList decimal) :
    StackScript.lex text = ⟨[.inSource (.number decimal.toFloat) text .start], none⟩ := by
  have alone := Lexer.standsAlone_of_isNumeral written.isNumeral written.numeral?_eq
  simpa [StackScript.lex] using alone.lexFrom .start

/-- What a finite number reads back as. -/
structure ReadsAs (x value : Float) : Prop where
  equal :
    (value == x) = true
  same :
    x ≠ -0 → value = x
  unsigned :
    x = -0 → value = 0

theorem readsAs_self
    {x : Float}
    (isFinite : x.isFinite = true)
    (signed : x ≠ -0) :
    ReadsAs x x :=
  ⟨beq_self_of_isFinite isFinite, fun _ => rfl, fun isZero => (signed isZero).elim⟩

theorem readsAs_zero
    (negative : Bool) :
    ReadsAs (ofMagnitude negative 0) (ofMagnitude false 0) := by
  rw [ofMagnitude_zero, ofMagnitude_zero]
  cases negative with
  | false =>
      exact ⟨by decide +kernel, fun _ => rfl, fun _ => rfl⟩
  | true =>
      exact ⟨by decide +kernel, fun signed => (signed rfl).elim, fun _ => rfl⟩

theorem isIntegral_negative_zero :
    isIntegral (-0) = true ∧ wholePart (-0) = 0 := by
  decide +kernel

/-- A number without a fraction reads back from its whole part, which has a sign unless it is zero. -/
theorem readsAs_wholePart
    {x : Float}
    (isFinite : x.isFinite = true)
    (whole : isIntegral x = true) :
    ReadsAs x (Decimal.toFloat ⟨isNegative x && wholePart x != 0, wholePart x, 0⟩) := by
  have samePattern := bitsOf_wholePart isFinite whole
  have sameNumber := ofMagnitude_magnitudeBits x
  by_cases isZero : wholePart x = 0
  · have noMagnitude : magnitudeBits x = 0 := by
      rw [← samePattern, isZero]
      rfl
    rw [noMagnitude] at sameNumber
    have readsAs := readsAs_zero (isNegative x)
    rw [sameNumber] at readsAs
    simpa [Decimal.toFloat, Decimal.bitsOf, isZero] using readsAs
  · have signed : x ≠ -0 := by
      rintro rfl
      exact isZero isIntegral_negative_zero.2
    have isSign : (isNegative x && wholePart x != 0) = isNegative x := by
      simp [isZero]
    rw [Decimal.toFloat, isSign, samePattern, sameNumber]
    exact readsAs_self isFinite signed

/-- A finite number is displayed in one of the forms, and its decimal reads as the number. -/
theorem display_isWritten
    {x : Float}
    (isFinite : x.isFinite = true) :
    ∃ form decimal,
      IsWritten form (display x).toList decimal ∧
        (form = .integer ↔ isIntegral x = true) ∧
        (form = .integer → decimal.digits * unitsPerOne = units x) ∧
        ReadsAs x decimal.toFloat := by
  by_cases whole : isIntegral x = true
  · have shown :
        (display x).toList =
          minus (isNegative x && wholePart x != 0) ++ digitChars (wholePart x) := by
      simp [display, isFinite, whole, minus]
    have written := IsWritten.integer (isNegative x && wholePart x != 0)
      (isFigureRun_digitChars (wholePart x))
    rw [← shown, ofDigitChars_digitChars] at written
    have isExact : wholePart x * unitsPerOne = units x :=
      Nat.div_mul_cancel (Nat.dvd_of_mod_eq_zero (beq_iff_eq.mp whole))
    exact ⟨.integer, _, written, by simp [whole], fun _ => isExact,
      readsAs_wholePart isFinite whole⟩
  · obtain ⟨form, decimal, written, fractional, isSign, isPattern⟩ := spelling_writes isFinite
    have shown : display x = spelling x := by
      simp [display, whole]
    have sameNumber : decimal.toFloat = x := by
      rw [Decimal.toFloat, isSign, isPattern, ofMagnitude_magnitudeBits]
    have signed : x ≠ -0 := by
      rintro rfl
      exact whole isIntegral_negative_zero.1
    rw [shown]
    refine ⟨form, decimal, written, by simp [whole, fractional], fun isInteger =>
      (fractional isInteger).elim, ?_⟩
    rw [sameNumber]
    exact readsAs_self isFinite signed

/--
What a finite number is displayed as is one number token, and that number equals it.

Numbers without a fraction are displayed as exact integers and all others with a point or an
exponent; the only number that does not read back as itself is negative zero.
-/
theorem display_reads_back
    (x : Float)
    (isFinite : x.isFinite = true) :
    ∃ form decimal,
      IsWritten form (display x).toList decimal ∧
        (form = .integer ↔ isIntegral x = true) ∧
        (form = .integer → decimal.digits * unitsPerOne = units x) ∧
        lex (display x) =
          ⟨[.inSource (.number decimal.toFloat) (display x) .start], none⟩ ∧
        ReadsAs x decimal.toFloat := by
  obtain ⟨form, decimal, written, whole, isExact, readsAs⟩ := display_isWritten isFinite
  exact ⟨form, decimal, written, whole, isExact, written.lex, readsAs⟩

/-- The least positive number is displayed with an exponent of three digits. -/
theorem display_reads_back_least :
    Float.isFinite 5e-324 = true ∧
      display 5e-324 = "5e-324" ∧
      ∃ form decimal,
        IsWritten form (display 5e-324).toList decimal ∧
          (form = .integer ↔ isIntegral 5e-324 = true) ∧
          (form = .integer → decimal.digits * unitsPerOne = units 5e-324) ∧
          lex (display 5e-324) =
            ⟨[.inSource (.number decimal.toFloat) (display 5e-324) .start], none⟩ ∧
          ReadsAs 5e-324 decimal.toFloat :=
  ⟨by decide +kernel, by decide +kernel, display_reads_back 5e-324 (by decide +kernel)⟩

end Number

end StackScript
