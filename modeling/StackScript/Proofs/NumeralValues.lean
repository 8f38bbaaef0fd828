import StackScript.Proofs.NumeralGrammar
import StackScript.Number.Decimal

namespace StackScript.Number

/-!
# Reading numerals

Every numeral is read as a number.  The grammar says where its parts begin and end, and the reader
takes the same parts off one after another.  A numeral is not padded, has no underscores and is not
the name of a special number, so it is read just as it stands.
-/

/-- Digits in front of anything else are taken together. -/
theorem AreDigits.span
    {digits tail : List Char}
    (areDigits : AreDigits digits)
    (ended : ∀ c ∈ tail.head?, Text.isDigit c = false) :
    (digits ++ tail).takeWhile Text.isDigit = digits ∧
      (digits ++ tail).dropWhile Text.isDigit = tail := by
  rw [List.takeWhile_append_of_pos areDigits, List.dropWhile_append_of_pos areDigits]
  cases tail with
  | nil =>
      simp
  | cons c rest =>
      simp [ended c rfl]

/-- An exponent does not begin with a digit, a point or a sign. -/
theorem IsExponent.head
    {exponent : List Char}
    (isExponent : IsExponent exponent) :
    ∀ c ∈ exponent.head?, c = 'e' ∨ c = 'E' := by
  cases isExponent with
  | none =>
      simp
  | marked isMark =>
      simpa using isMark

/-- A mantissa begins with a digit or a point. -/
theorem IsMantissa.head
    {mantissa : List Char}
    (isMantissa : IsMantissa mantissa) :
    ∃ first rest, mantissa = first :: rest ∧ (Text.isDigit first = true ∨ first = '.') := by
  have digit
      {digits : List Char}
      (isRun : IsDigitRun digits) :
      ∃ first rest, digits = first :: rest ∧ Text.isDigit first = true := by
    cases digits with
    | nil =>
        exact (isRun.nonempty rfl).elim
    | cons first rest =>
        exact ⟨first, rest, rfl, (isDigitRun_cons.mp isRun).1⟩
  cases isMantissa with
  | whole isRun =>
      obtain ⟨first, rest, rfl, isDigit⟩ := digit isRun
      exact ⟨first, rest, rfl, .inl isDigit⟩
  | point isRun areDigits =>
      obtain ⟨first, rest, rfl, isDigit⟩ := digit isRun
      exact ⟨first, _, rfl, .inl isDigit⟩
  | bare isRun =>
      exact ⟨'.', _, rfl, .inr rfl⟩

/-- A sign in front of anything that does not begin with one is taken off. -/
theorem takeSign_append
    {sign body : List Char}
    (isSign : IsSign sign)
    (unsigned : ∀ c ∈ body.head?, c ≠ '+' ∧ c ≠ '-') :
    ∃ negative, takeSign (sign ++ body) = (negative, body) := by
  cases isSign with
  | none =>
      refine ⟨false, ?_⟩
      cases body with
      | nil =>
          rfl
      | cons c rest =>
          obtain ⟨notPlus, notMinus⟩ := unsigned c rfl
          simp [takeSign, notPlus, notMinus]
  | plus =>
      exact ⟨false, rfl⟩
  | minus =>
      exact ⟨true, rfl⟩

theorem ne_sign_of_isDigit
    {c : Char}
    (isDigit : Text.isDigit c = true) :
    c ≠ '+' ∧ c ≠ '-' ∧ c ≠ '.' := by
  have noDigit := isDigit_punctuation
  simp only [punctuation, List.forall_mem_cons] at noDigit
  refine ⟨?_, ?_, ?_⟩
  all_goals
    rintro rfl
    simp [noDigit] at isDigit

theorem IsExponent.read
    {exponent : List Char}
    (isExponent : IsExponent exponent) :
    ∃ power, exponentOf? exponent = some power := by
  cases isExponent with
  | none =>
      exact ⟨0, rfl⟩
  | @marked mark sign digits isMark isSign isRun =>
      have unsigned : ∀ c ∈ digits.head?, c ≠ '+' ∧ c ≠ '-' := by
        intro c isHead
        have isDigit := isRun.digits c (List.mem_of_mem_head? isHead)
        exact ⟨(ne_sign_of_isDigit isDigit).1, (ne_sign_of_isDigit isDigit).2.1⟩
      obtain ⟨negative, taken⟩ := takeSign_append isSign unsigned
      have allDigits : digits.all Text.isDigit = true :=
        List.all_eq_true.mpr isRun.digits
      simp [exponentOf?, taken, isMark, isRun.nonempty, allDigits]

theorem IsExponent.not_digit
    {exponent : List Char}
    (isExponent : IsExponent exponent) :
    ∀ c ∈ exponent.head?, Text.isDigit c = false := by
  intro c isHead
  refine isDigit_punctuation c ?_
  rcases isExponent.head c isHead with rfl | rfl <;> simp [punctuation]

theorem takeFraction_exponent
    {exponent : List Char}
    (isExponent : IsExponent exponent) :
    takeFraction exponent = ([], exponent) := by
  cases isExponent with
  | none =>
      rfl
  | marked isMark =>
      rcases isMark with rfl | rfl <;> rfl

theorem takeFraction_point
    {fraction exponent : List Char}
    (areDigits : AreDigits fraction)
    (isExponent : IsExponent exponent) :
    takeFraction ('.' :: (fraction ++ exponent)) = (fraction, exponent) := by
  obtain ⟨taken, left⟩ := areDigits.span isExponent.not_digit
  rw [takeFraction, taken, left]

/-- The digits of a mantissa are taken in front of its point and behind it. -/
theorem IsMantissa.taken
    {mantissa exponent : List Char}
    (isMantissa : IsMantissa mantissa)
    (isExponent : IsExponent exponent) :
    let body := mantissa ++ exponent
    ∃ fraction,
      takeFraction (body.dropWhile Text.isDigit) = (fraction, exponent) ∧
        (body.takeWhile Text.isDigit ≠ [] ∨ fraction ≠ []) := by
  have atPoint {rest : List Char} : ∀ c ∈ ('.' :: rest).head?, Text.isDigit c = false := by
    intro c isHead
    cases isHead
    exact isDigit_punctuation '.' (by simp [punctuation])
  cases isMantissa with
  | whole isRun =>
      obtain ⟨taken, left⟩ := isRun.digits.span isExponent.not_digit
      simp only [taken, left]
      exact ⟨[], takeFraction_exponent isExponent, .inl isRun.nonempty⟩
  | @point digits fraction isRun areDigits =>
      obtain ⟨taken, left⟩ := isRun.digits.span (@atPoint (fraction ++ exponent))
      simp only [List.append_assoc, List.cons_append, taken, left]
      exact ⟨fraction, takeFraction_point areDigits isExponent, .inl isRun.nonempty⟩
  | @bare fraction isRun =>
      obtain ⟨taken, left⟩ := areDigits_nil.span (@atPoint (fraction ++ exponent))
      rw [List.nil_append] at taken left
      simp only [List.cons_append, taken, left]
      exact ⟨fraction, takeFraction_point isRun.digits isExponent, .inr isRun.nonempty⟩

theorem IsMantissa.unsigned
    {mantissa : List Char}
    (isMantissa : IsMantissa mantissa)
    (tail : List Char) :
    ∀ c ∈ (mantissa ++ tail).head?, c ≠ '+' ∧ c ≠ '-' := by
  obtain ⟨first, rest, rfl, isDigit | rfl⟩ := isMantissa.head
  · intro c isHead
    cases isHead
    exact ⟨(ne_sign_of_isDigit isDigit).1, (ne_sign_of_isDigit isDigit).2.1⟩
  · simp

theorem IsNumeral.ne_nil
    {chars : List Char}
    (isNumeral : IsNumeral chars) :
    chars ≠ [] := by
  obtain @⟨sign, mantissa, exponent, _, isMantissa, _⟩ := isNumeral
  obtain ⟨first, rest, rfl, _⟩ := isMantissa.head
  simp

/-- Every numeral is read as a decimal number. -/
theorem IsNumeral.read
    {chars : List Char}
    (isNumeral : IsNumeral chars) :
    ∃ decimal, numeral? chars = some decimal := by
  obtain @⟨sign, mantissa, exponent, isSign, isMantissa, isExponent⟩ := isNumeral
  obtain ⟨negative, unsignedTaken⟩ := takeSign_append isSign (isMantissa.unsigned exponent)
  obtain ⟨fraction, fractionTaken, some⟩ := isMantissa.taken isExponent
  obtain ⟨power, exponentTaken⟩ := isExponent.read
  have notBare :
      ¬(((mantissa ++ exponent).takeWhile Text.isDigit).isEmpty && fraction.isEmpty) = true := by
    simpa [imp_iff_not_or] using some
  simp only [numeral?, unsignedTaken, fractionTaken]
  rw [if_neg notBare, exponentTaken]
  exact ⟨_, rfl⟩

/-- A numeral is made of digits and its own punctuation. -/
theorem IsNumeral.digit_or_punctuation
    {chars : List Char}
    (isNumeral : IsNumeral chars) :
    ∀ c ∈ chars, Text.isDigit c = true ∨ c ∈ punctuation := by
  have ofDigits
      {digits : List Char}
      (areDigits : AreDigits digits) :
      ∀ c ∈ digits, Text.isDigit c = true ∨ c ∈ punctuation :=
    fun c member => .inl (areDigits c member)
  have ofSign
      {sign : List Char}
      (isSign : IsSign sign) :
      ∀ c ∈ sign, Text.isDigit c = true ∨ c ∈ punctuation := by
    cases isSign <;> simp [punctuation]
  have ofPoint : Text.isDigit '.' = true ∨ '.' ∈ punctuation := by
    simp [punctuation]
  obtain ⟨isSign, isMantissa, isExponent⟩ := isNumeral
  rw [List.forall_mem_append, List.forall_mem_append]
  refine ⟨ofSign isSign, ?_, ?_⟩
  · cases isMantissa with
    | whole isRun =>
        exact ofDigits isRun.digits
    | point isRun areDigits =>
        exact List.forall_mem_append.mpr
          ⟨ofDigits isRun.digits, List.forall_mem_cons.mpr ⟨ofPoint, ofDigits areDigits⟩⟩
    | bare isRun =>
        exact List.forall_mem_cons.mpr ⟨ofPoint, ofDigits isRun.digits⟩
  · cases isExponent with
    | none =>
        simp
    | marked isMark isSign isRun =>
        refine List.forall_mem_cons.mpr
          ⟨.inr ?_, List.forall_mem_append.mpr ⟨ofSign isSign, ofDigits isRun.digits⟩⟩
        rcases isMark with rfl | rfl <;> simp [punctuation]

/-- What holds in every block of digits holds of every digit. -/
theorem of_isDigit
    {holds : Char → Prop}
    (inBlocks :
      ∀ block ∈ Text.digitZeros, ∀ value < 10, holds (Char.ofNat (block + value)))
    {c : Char}
    (isDigit : Text.isDigit c = true) :
    holds c := by
  obtain ⟨value, isValue⟩ := Option.isSome_iff_exists.mp isDigit
  obtain ⟨block, isBlock, found⟩ := List.exists_of_findSome?_eq_some isValue
  split at found
  · next inBlock =>
    have holdsThere := inBlocks block isBlock (c.toNat - block) (by omega)
    rwa [Nat.add_sub_cancel' inBlock.1, Char.ofNat_toNat] at holdsThere
  · cases found

/-- No digit is blank. -/
theorem isBlank_of_isDigit
    {c : Char}
    (isDigit : Text.isDigit c = true) :
    Text.isBlank c = false :=
  @of_isDigit (Text.isBlank · = false) (by decide +kernel) c isDigit

theorem underscoresSeparateDigits_of_not_mem
    {chars : List Char}
    (noUnderscore : '_' ∉ chars)
    (afterDigit : Bool) :
    underscoresSeparateDigits afterDigit chars = true := by
  induction chars generalizing afterDigit with
  | nil =>
      rfl
  | cons c rest inductionHypothesis =>
      obtain ⟨isOther, notInRest⟩ := not_or.mp (mt List.mem_cons.mpr noUnderscore)
      have plain :
          underscoresSeparateDigits afterDigit (c :: rest) =
            underscoresSeparateDigits (Text.isDigit c) rest := by
        rw [underscoresSeparateDigits]
        · rintro _ _ rfl
          exact (isOther rfl).elim
        · rintro rfl
          exact (isOther rfl).elim
      rw [plain]
      exact inductionHypothesis notInRest _

/-- Without padding at its ends a text is left as it is. -/
theorem dropPadding_eq_self
    {chars : List Char}
    (unpadded : ∀ c ∈ chars, Text.isPadding c = false) :
    Text.dropPadding chars = chars := by
  have keeps
      {kept : List Char}
      (solid : ∀ c ∈ kept, Text.isPadding c = false) :
      kept.dropWhile Text.isPadding = kept := by
    cases kept with
    | nil =>
        rfl
    | cons c rest =>
        exact List.dropWhile_cons_of_neg (by simp [solid c List.mem_cons_self])
  rw [Text.dropPadding, keeps unpadded, keeps (by simpa using unpadded), List.reverse_reverse]

/-- The names of special numbers begin with letters, and a mantissa does not. -/
theorem specialBits?_eq_none
    {mantissa : List Char}
    (isMantissa : IsMantissa mantissa)
    (tail : List Char) :
    specialBits? (mantissa ++ tail) = none := by
  obtain ⟨first, rest, rfl, isFirst⟩ := isMantissa.head
  have letter : first.toLower ≠ 'i' ∧ first.toLower ≠ 'n' := by
    rcases isFirst with isDigit | rfl
    · exact @of_isDigit (fun c => c.toLower ≠ 'i' ∧ c.toLower ≠ 'n') (by decide +kernel) _
        isDigit
    · decide
  have unnamed
      {name : String}
      (named : name.toList.head? = some 'i' ∨ name.toList.head? = some 'n') :
      String.ofList ((first :: rest ++ tail).map Char.toLower) ≠ name := by
    rintro rfl
    simp [letter] at named
  have notInf := @unnamed "inf" (by decide)
  have notInfinity := @unnamed "infinity" (by decide)
  have notNan := @unnamed "nan" (by decide)
  simp only [specialBits?, notInf, notInfinity, notNan, or_self, if_false]

/-- A numeral is not padded, and the names of special numbers are no numerals. -/
theorem ofText?_of_isNumeral
    {chars : List Char}
    (isNumeral : IsNumeral chars) :
    ofText? (String.ofList chars) = (numeral? chars).map Decimal.toFloat := by
  have solid : ∀ c ∈ chars, Text.isPadding c = false ∧ c ≠ '_' := by
    have punctuationSolid :
        (punctuation.all fun c => !Text.isPadding c && c != '_') = true := by
      decide
    intro c member
    rcases isNumeral.digit_or_punctuation c member with isDigit | isPunctuation
    · refine ⟨by simp [Text.isPadding, isBlank_of_isDigit isDigit], ?_⟩
      rintro rfl
      revert isDigit
      decide
    · simpa using List.all_eq_true.mp punctuationSolid c isPunctuation
  have unpadded : Text.dropPadding chars = chars :=
    dropPadding_eq_self fun c member => (solid c member).1
  have noUnderscore : '_' ∉ chars :=
    fun member => (solid '_' member).2 rfl
  have plain : chars.filter (· ≠ '_') = chars :=
    List.filter_eq_self.mpr fun c member => decide_eq_true (solid c member).2
  have unnamed : specialBits? (takeSign chars).2 = none := by
    obtain @⟨sign, mantissa, exponent, isSign, isMantissa, isExponent⟩ := isNumeral
    obtain ⟨negative, taken⟩ := takeSign_append isSign (isMantissa.unsigned exponent)
    rw [taken]
    exact specialBits?_eq_none isMantissa exponent
  simp only [ofText?, String.toList_ofList, unpadded, plain, unnamed,
    underscoresSeparateDigits_of_not_mem noUnderscore]
  rfl

end StackScript.Number
