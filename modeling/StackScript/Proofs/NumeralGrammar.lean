import Mathlib.Data.List.TakeWhile
import StackScript.Number.Numeral

namespace StackScript.Number

/-!
# The grammar of numerals

A numeral is an optional sign, digits with an optional point, and an optional exponent.  The lexer
follows a numeral one character at a time and never looks back; here it is shown that the stages
that it goes through recognise exactly the texts of that shape.
-/

/-- Decimal digits, possibly none. -/
def AreDigits (chars : List Char) : Prop :=
  ∀ c ∈ chars, Text.isDigit c = true

/-- At least one decimal digit. -/
structure IsDigitRun (chars : List Char) : Prop where
  nonempty :
    chars ≠ []
  digits :
    AreDigits chars

/-- An optional sign. -/
inductive IsSign : List Char → Prop where
  | none :
      IsSign []
  | plus :
      IsSign ['+']
  | minus :
      IsSign ['-']

/-- Digits with an optional point among or around them. -/
inductive IsMantissa : List Char → Prop where
  | whole
      {digits : List Char}
      (isRun : IsDigitRun digits) :
      IsMantissa digits
  | point
      {digits fraction : List Char}
      (isRun : IsDigitRun digits)
      (areDigits : AreDigits fraction) :
      IsMantissa (digits ++ '.' :: fraction)
  | bare
      {fraction : List Char}
      (isRun : IsDigitRun fraction) :
      IsMantissa ('.' :: fraction)

/-- An optional exponent. -/
inductive IsExponent : List Char → Prop where
  | none :
      IsExponent []
  | marked
      {mark : Char}
      {sign digits : List Char}
      (isMark : mark = 'e' ∨ mark = 'E')
      (isSign : IsSign sign)
      (isRun : IsDigitRun digits) :
      IsExponent (mark :: (sign ++ digits))

/-- A sign, a mantissa and an exponent, the first and the last of which may be missing. -/
inductive IsNumeral : List Char → Prop where
  | parts
      {sign mantissa exponent : List Char}
      (isSign : IsSign sign)
      (isMantissa : IsMantissa mantissa)
      (isExponent : IsExponent exponent) :
      IsNumeral (sign ++ (mantissa ++ exponent))

/-- The characters of numerals that are no digits. -/
def punctuation : List Char :=
  ['.', 'e', 'E', '+', '-']

theorem isDigit_punctuation :
    ∀ c ∈ punctuation, Text.isDigit c = false := by
  have noDigits : punctuation.all (!Text.isDigit ·) = true := by
    decide
  simpa using noDigits

theorem areDigits_nil : AreDigits [] := by
  simp [AreDigits]

theorem areDigits_cons
    {c : Char}
    {chars : List Char} :
    AreDigits (c :: chars) ↔ Text.isDigit c = true ∧ AreDigits chars := by
  simp [AreDigits]

theorem isDigitRun_cons
    {c : Char}
    {chars : List Char} :
    IsDigitRun (c :: chars) ↔ Text.isDigit c = true ∧ AreDigits chars :=
  ⟨fun isRun => areDigits_cons.mp isRun.digits,
    fun areDigits => ⟨List.cons_ne_nil _ _, areDigits_cons.mpr areDigits⟩⟩

namespace NumeralStage

/-- The stage after several characters, if each of them may come next. -/
def follow? (stage : NumeralStage) : List Char → Option NumeralStage
  | [] =>
      some stage
  | c :: rest =>
      (stage.next? c).bind fun next => next.follow? rest

theorem follow?_append
    (stage : NumeralStage)
    (chars more : List Char) :
    stage.follow? (chars ++ more) = (stage.follow? chars).bind fun next => next.follow? more := by
  induction chars generalizing stage with
  | nil =>
      rfl
  | cons c rest inductionHypothesis =>
      cases follows : stage.next? c with
      | none =>
          simp [follow?, follows]
      | some next =>
          simp [follow?, follows, inductionHypothesis]

/-- What a character that may come next is, and the stage after it. -/
inductive Leads (stage : NumeralStage) (c : Char) : NumeralStage → Prop where
  | digit
      (isDigit : Text.isDigit c = true) :
      Leads stage c stage.afterDigit
  | point
      {next : NumeralStage}
      (isPoint : c = '.')
      (follows : stage.afterPoint? = some next) :
      Leads stage c next
  | mark
      {next : NumeralStage}
      (isMark : c = 'e' ∨ c = 'E')
      (follows : stage.afterMark? = some next) :
      Leads stage c next
  | sign
      {next : NumeralStage}
      (isSign : IsSign [c])
      (follows : stage.afterSign? = some next) :
      Leads stage c next

theorem isSign_singleton
    {c : Char} :
    IsSign [c] ↔ c = '+' ∨ c = '-' := by
  constructor
  · rintro (_ | _ | _)
    · exact .inl rfl
    · exact .inr rfl
  · rintro (rfl | rfl)
    · exact .plus
    · exact .minus

theorem next?_eq_some_iff
    {stage next : NumeralStage}
    {c : Char} :
    stage.next? c = some next ↔ Leads stage c next := by
  constructor
  · intro follows
    unfold next? at follows
    split at follows
    · next isDigit =>
      cases follows
      exact .digit isDigit
    · split at follows
      · next isPoint =>
        exact .point isPoint follows
      · split at follows
        · next isMark =>
          exact .mark isMark follows
        · split at follows
          · next isSign =>
            exact .sign (isSign_singleton.mpr isSign) follows
          · cases follows
  · have noDigit := isDigit_punctuation
    simp only [punctuation, List.forall_mem_cons] at noDigit
    rintro (isDigit | ⟨rfl, follows⟩ | ⟨rfl | rfl, follows⟩ | ⟨_ | _, follows⟩)
    · simp [next?, isDigit]
    all_goals simpa [next?, noDigit] using follows

/-- What may stand behind the characters that have led to a stage to make a numeral of them. -/
def Completes : NumeralStage → List Char → Prop
  | .start, chars =>
      IsNumeral chars
  | .signed, chars =>
      ∃ mantissa exponent,
        IsMantissa mantissa ∧ IsExponent exponent ∧ chars = mantissa ++ exponent
  | .whole, chars =>
      ∃ digits tail exponent,
        AreDigits digits ∧
          (tail = [] ∨ ∃ fraction, AreDigits fraction ∧ tail = '.' :: fraction) ∧
          IsExponent exponent ∧
          chars = digits ++ (tail ++ exponent)
  | .barePoint, chars =>
      ∃ digits exponent, IsDigitRun digits ∧ IsExponent exponent ∧ chars = digits ++ exponent
  | .fraction, chars =>
      ∃ digits exponent, AreDigits digits ∧ IsExponent exponent ∧ chars = digits ++ exponent
  | .mark, chars =>
      ∃ sign digits, IsSign sign ∧ IsDigitRun digits ∧ chars = sign ++ digits
  | .markSigned, chars =>
      IsDigitRun chars
  | .exponent, chars =>
      AreDigits chars

theorem completes_nil
    {stage : NumeralStage}
    (complete : stage.isComplete = true) :
    stage.Completes [] := by
  cases stage with
  | whole =>
      exact ⟨[], [], [], areDigits_nil, .inl rfl, .none, rfl⟩
  | fraction =>
      exact ⟨[], [], areDigits_nil, .none, rfl⟩
  | exponent =>
      exact areDigits_nil
  | start | signed | barePoint | mark | markSigned =>
      cases complete

/-- Numerals may do without a sign. -/
theorem isNumeral_of_completes_signed
    {chars : List Char}
    (completes : NumeralStage.signed.Completes chars) :
    IsNumeral chars := by
  obtain ⟨mantissa, exponent, isMantissa, isExponent, rfl⟩ := completes
  exact .parts .none isMantissa isExponent

theorem completes_digit
    {stage : NumeralStage}
    {c : Char}
    {rest : List Char}
    (isDigit : Text.isDigit c = true)
    (completes : stage.afterDigit.Completes rest) :
    stage.Completes (c :: rest) := by
  have signed
      (completesWhole : NumeralStage.whole.Completes rest) :
      NumeralStage.signed.Completes (c :: rest) := by
    obtain ⟨digits, tail, exponent, areDigits, shape, isExponent, rfl⟩ := completesWhole
    have isRun : IsDigitRun (c :: digits) :=
      isDigitRun_cons.mpr ⟨isDigit, areDigits⟩
    rcases shape with rfl | ⟨fraction, fractionDigits, rfl⟩
    · exact ⟨c :: digits, exponent, .whole isRun, isExponent, rfl⟩
    · exact ⟨c :: digits ++ '.' :: fraction, exponent, .point isRun fractionDigits, isExponent,
        by simp⟩
  cases stage with
  | start =>
      exact isNumeral_of_completes_signed (signed completes)
  | signed =>
      exact signed completes
  | whole =>
      obtain ⟨digits, tail, exponent, areDigits, shape, isExponent, rfl⟩ := completes
      exact ⟨c :: digits, tail, exponent, areDigits_cons.mpr ⟨isDigit, areDigits⟩, shape,
        isExponent, rfl⟩
  | barePoint =>
      obtain ⟨digits, exponent, areDigits, isExponent, rfl⟩ := completes
      exact ⟨c :: digits, exponent, isDigitRun_cons.mpr ⟨isDigit, areDigits⟩, isExponent, rfl⟩
  | fraction =>
      obtain ⟨digits, exponent, areDigits, isExponent, rfl⟩ := completes
      exact ⟨c :: digits, exponent, areDigits_cons.mpr ⟨isDigit, areDigits⟩, isExponent, rfl⟩
  | mark =>
      exact ⟨[], c :: rest, .none, isDigitRun_cons.mpr ⟨isDigit, completes⟩, rfl⟩
  | markSigned =>
      exact isDigitRun_cons.mpr ⟨isDigit, completes⟩
  | exponent =>
      exact areDigits_cons.mpr ⟨isDigit, completes⟩

theorem completes_point
    {stage next : NumeralStage}
    {rest : List Char}
    (follows : stage.afterPoint? = some next)
    (completes : next.Completes rest) :
    stage.Completes ('.' :: rest) := by
  have signed
      (completesBare : NumeralStage.barePoint.Completes rest) :
      NumeralStage.signed.Completes ('.' :: rest) := by
    obtain ⟨digits, exponent, isRun, isExponent, rfl⟩ := completesBare
    exact ⟨'.' :: digits, exponent, .bare isRun, isExponent, rfl⟩
  cases stage with
  | start =>
      cases follows
      exact isNumeral_of_completes_signed (signed completes)
  | signed =>
      cases follows
      exact signed completes
  | whole =>
      cases follows
      obtain ⟨digits, exponent, areDigits, isExponent, rfl⟩ := completes
      exact ⟨[], '.' :: digits, exponent, areDigits_nil, .inr ⟨digits, areDigits, rfl⟩, isExponent,
        rfl⟩
  | barePoint | fraction | mark | markSigned | exponent =>
      cases follows

theorem completes_mark
    {stage next : NumeralStage}
    {c : Char}
    {rest : List Char}
    (isMark : c = 'e' ∨ c = 'E')
    (follows : stage.afterMark? = some next)
    (completes : next.Completes rest) :
    stage.Completes (c :: rest) := by
  have isExponent
      (completesMark : NumeralStage.mark.Completes rest) :
      IsExponent (c :: rest) := by
    obtain ⟨sign, digits, isSign, isRun, rfl⟩ := completesMark
    exact .marked isMark isSign isRun
  cases stage with
  | whole =>
      cases follows
      exact ⟨[], [], c :: rest, areDigits_nil, .inl rfl, isExponent completes, rfl⟩
  | fraction =>
      cases follows
      exact ⟨[], c :: rest, areDigits_nil, isExponent completes, rfl⟩
  | start | signed | barePoint | mark | markSigned | exponent =>
      cases follows

theorem completes_sign
    {stage next : NumeralStage}
    {c : Char}
    {rest : List Char}
    (isSign : IsSign [c])
    (follows : stage.afterSign? = some next)
    (completes : next.Completes rest) :
    stage.Completes (c :: rest) := by
  cases stage with
  | start =>
      cases follows
      obtain ⟨mantissa, exponent, isMantissa, isExponent, rfl⟩ := completes
      exact .parts isSign isMantissa isExponent
  | mark =>
      cases follows
      exact ⟨[c], rest, isSign, completes, rfl⟩
  | signed | whole | barePoint | fraction | markSigned | exponent =>
      cases follows

/-- Characters that lead from a stage to a complete one make a numeral. -/
theorem completes_of_follow?
    {stage last : NumeralStage}
    {chars : List Char}
    (follows : stage.follow? chars = some last)
    (complete : last.isComplete = true) :
    stage.Completes chars := by
  induction chars generalizing stage with
  | nil =>
      cases follows
      exact completes_nil complete
  | cons c rest inductionHypothesis =>
      obtain ⟨next, leads, further⟩ := Option.bind_eq_some_iff.mp follows
      have completes := inductionHypothesis further
      cases next?_eq_some_iff.mp leads with
      | digit isDigit =>
          exact completes_digit isDigit completes
      | point isPoint follows =>
          exact isPoint ▸ completes_point follows completes
      | mark isMark follows =>
          exact completes_mark isMark follows completes
      | sign isSign follows =>
          exact completes_sign isSign follows completes

theorem follow?_digits
    {stage : NumeralStage}
    {digits : List Char}
    (areDigits : AreDigits digits) :
    stage.afterDigit.follow? digits = some stage.afterDigit := by
  have idempotent : stage.afterDigit.afterDigit = stage.afterDigit := by
    cases stage <;> rfl
  induction digits with
  | nil =>
      rfl
  | cons c rest inductionHypothesis =>
      obtain ⟨isDigit, restDigits⟩ := areDigits_cons.mp areDigits
      simp [follow?, next?, isDigit, idempotent, inductionHypothesis restDigits]

theorem follow?_digitRun
    {stage : NumeralStage}
    {digits : List Char}
    (isRun : IsDigitRun digits) :
    stage.follow? digits = some stage.afterDigit := by
  obtain ⟨nonempty, areDigits⟩ := isRun
  cases digits with
  | nil =>
      exact (nonempty rfl).elim
  | cons c rest =>
      obtain ⟨isDigit, restDigits⟩ := areDigits_cons.mp areDigits
      simp [follow?, next?, isDigit, follow?_digits restDigits]

theorem follow?_sign
    {sign : List Char}
    (isSign : IsSign sign) :
    (start.follow? sign = some start ∨ start.follow? sign = some signed) ∧
      (mark.follow? sign = some mark ∨ mark.follow? sign = some markSigned) := by
  cases isSign <;> decide

theorem follow?_mantissa
    {stage : NumeralStage}
    (isFirst : stage = start ∨ stage = signed)
    {mantissa : List Char}
    (isMantissa : IsMantissa mantissa) :
    stage.follow? mantissa = some whole ∨ stage.follow? mantissa = some fraction := by
  have toWhole : stage.afterDigit = whole := by
    rcases isFirst with rfl | rfl <;> rfl
  cases isMantissa with
  | whole isRun =>
      exact .inl (by rw [follow?_digitRun isRun, toWhole])
  | @point digits fractionDigits isRun areDigits =>
      have behindPoint : fraction.follow? fractionDigits = some fraction :=
        @follow?_digits barePoint _ areDigits
      have overPoint : whole.next? '.' = some fraction := by
        decide
      right
      rw [follow?_append, follow?_digitRun isRun, toWhole, Option.bind_some, follow?, overPoint,
        Option.bind_some, behindPoint]
  | bare isRun =>
      have overPoint : stage.next? '.' = some barePoint := by
        rcases isFirst with rfl | rfl <;> decide
      right
      rw [follow?, overPoint, Option.bind_some, follow?_digitRun isRun]
      rfl

theorem follow?_exponent
    {stage : NumeralStage}
    (isWhole : stage = whole ∨ stage = fraction)
    {chars : List Char}
    (isExponent : IsExponent chars) :
    ∃ last, stage.follow? chars = some last ∧ last.isComplete = true := by
  cases isExponent with
  | none =>
      refine ⟨stage, rfl, ?_⟩
      rcases isWhole with rfl | rfl <;> rfl
  | marked isMark isSign isRun =>
      have overMark : stage.next? _ = some mark :=
        next?_eq_some_iff.mpr (.mark isMark (by rcases isWhole with rfl | rfl <;> rfl))
      refine ⟨exponent, ?_, rfl⟩
      rw [follow?, overMark, Option.bind_some, follow?_append]
      rcases (follow?_sign isSign).2 with same | signed
      · rw [same, Option.bind_some, follow?_digitRun isRun]
        rfl
      · rw [signed, Option.bind_some, follow?_digitRun isRun]
        rfl

end NumeralStage

open NumeralStage in
/-- The stages recognise the numerals. -/
theorem isNumeral_iff
    {chars : List Char} :
    IsNumeral chars ↔ ∃ last, start.follow? chars = some last ∧ last.isComplete = true := by
  constructor
  · rintro @⟨sign, mantissa, exponent, isSign, isMantissa, isExponent⟩
    obtain ⟨first, isFirst, overSign⟩ :
        ∃ first, (first = start ∨ first = signed) ∧ start.follow? sign = some first := by
      rcases (follow?_sign isSign).1 with overSign | overSign
      · exact ⟨start, .inl rfl, overSign⟩
      · exact ⟨signed, .inr rfl, overSign⟩
    obtain ⟨reached, isReached, overMantissa⟩ :
        ∃ reached,
          (reached = whole ∨ reached = fraction) ∧ first.follow? mantissa = some reached := by
      rcases follow?_mantissa isFirst isMantissa with overMantissa | overMantissa
      · exact ⟨whole, .inl rfl, overMantissa⟩
      · exact ⟨fraction, .inr rfl, overMantissa⟩
    rw [follow?_append, overSign, Option.bind_some, follow?_append, overMantissa, Option.bind_some]
    exact follow?_exponent isReached isExponent
  · rintro ⟨last, follows, complete⟩
    exact completes_of_follow? follows complete

end StackScript.Number
