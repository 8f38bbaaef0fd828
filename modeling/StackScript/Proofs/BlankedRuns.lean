import StackScript.Proofs.NumberTokens
import StackScript.Proofs.Tiling

namespace StackScript

/-!
# Tokens in front of a blanked run

A run that cannot be read may be replaced by blanks, and the tokens in front of it stay the same.
Words, signs and comments do not look as far as that run.  A number might: it could be followed over
several tokens up to the run, and once a blank stands there it could end in front of it.  But then
the characters between would be digits that no token can cover, because the last of them would have
to end in front of a character that continues numbers.
-/

namespace Lexer

section Stages

variable {stage next : Number.NumeralStage} {c : Char}

/-- Numerals end with a digit or a point. -/
theorem digit_or_point_of_complete
    (leads : stage.next? c = some next)
    (complete : next.isComplete = true) :
    Text.isDigit c = true ∨ c = '.' := by
  cases Number.NumeralStage.next?_eq_some_iff.mp leads with
  | digit isDigit =>
      exact .inl isDigit
  | point isPoint _ =>
      exact .inr isPoint
  | mark _ follows =>
      cases stage <;> cases follows <;> cases complete
  | sign _ follows =>
      cases stage <;> cases follows <;> cases complete

/-- No sign follows a digit or a point. -/
theorem afterSign?_of_digit_or_point
    (leads : stage.next? c = some next)
    (isLast : Text.isDigit c = true ∨ c = '.') :
    next.afterSign? = none := by
  rcases isLast with isDigit | rfl
  · obtain rfl : stage.afterDigit = next := by
      simpa [Number.NumeralStage.next?, isDigit] using leads
    cases stage <;> rfl
  · have isPoint : stage.afterPoint? = some next := by
      simpa [Number.NumeralStage.next?, Number.isDigit_punctuation '.' (by decide)] using leads
    cases stage <;> cases isPoint <;> rfl

/-- A numeral goes on in front of a number's end with a digit only, if no sign may follow. -/
theorem isDigit_of_next?
    (leads : stage.next? c = some next)
    (noSign : stage.afterSign? = none)
    (ended : continuesNumber c = false) :
    Text.isDigit c = true := by
  cases Number.NumeralStage.next?_eq_some_iff.mp leads with
  | digit isDigit =>
      exact isDigit
  | point isPoint _ =>
      subst isPoint
      cases ended
  | mark isMark _ =>
      rcases isMark with rfl | rfl <;> cases ended
  | sign _ follows =>
      rw [noSign] at follows
      cases follows

end Stages

theorem follow?_singleton
    (stage : Number.NumeralStage)
    (c : Char) :
    stage.follow? [c] = stage.next? c := by
  simp [Number.NumeralStage.follow?]

/-- No sign follows the characters of a numeral, whatever they are followed from. -/
theorem afterSign?_of_numeral
    {stage reached : Number.NumeralStage}
    {text : List Char}
    (isNumeral : Number.IsNumeral text)
    (follows : stage.follow? text = some reached) :
    reached.afterSign? = none := by
  obtain ⟨last, complete⟩ := Number.isNumeral_iff.mp isNumeral
  rcases List.eq_nil_or_concat' text with rfl | ⟨lead, c, rfl⟩
  · exact (isNumeral.ne_nil rfl).elim
  · rw [Number.NumeralStage.follow?_append] at follows complete
    obtain ⟨⟨before, _, leads⟩, isComplete⟩ := complete.imp_left Option.bind_eq_some_iff.mp
    obtain ⟨between, _, leadsBetween⟩ := Option.bind_eq_some_iff.mp follows
    rw [follow?_singleton] at leads leadsBetween
    exact afterSign?_of_digit_or_point leadsBetween (digit_or_point_of_complete leads isComplete)

/-- A number that ends in some text is not changed by what follows that text. -/
theorem numberSize_in_front
    {stage : Number.NumeralStage}
    {size longest : Nat}
    {chars tail : List Char}
    (within : numberSize stage size longest (chars ++ tail) < size + chars.length)
    (incomplete : ∀ last, stage.follow? chars = some last → last.isComplete = false) :
    numberSize stage size longest chars = numberSize stage size longest (chars ++ tail) := by
  induction chars generalizing stage size longest with
  | nil =>
      have notComplete := incomplete stage rfl
      rcases numberSize_take stage size longest tail with ends | ⟨length, goesOn, _⟩
      · simp [numberSize, notComplete, ends]
      · rw [List.nil_append, goesOn] at within
        exact absurd within (by simp)
  | cons c rest inductionHypothesis =>
      rw [List.cons_append, numberSize, numberSize] at *
      cases leads : stage.next? c with
      | none =>
          rfl
      | some next =>
          simp only [leads] at within ⊢
          apply inductionHypothesis
          · rw [List.length_cons] at within
            omega
          · intro last follows
            apply incomplete
            simpa [Number.NumeralStage.follow?, leads] using follows

/-- Whether a character begins no word, no brace, no operator and no assignment. -/
def BeginsNoSign (c : Char) : Prop :=
  startsWord c = false ∧ c ∉ ['{', '}', '='] ∧ ∀ sign ∈ signs, sign.head? ≠ some c
  deriving Decidable

theorem beginsNoSign_of_digit_or_point
    {c : Char}
    (isFirst : Text.isDigit c = true ∨ c = '.') :
    BeginsNoSign c := by
  rcases isFirst with isDigit | rfl
  · have notDigits :
        (['{', '}', '='].all fun other => !Text.isDigit other) = true ∧
          (signs.all fun sign => sign.head?.all fun other => !Text.isDigit other) = true := by
      decide
    refine ⟨?_, fun isOther => ?_, fun sign isSign isOther => ?_⟩
    · by_contra starts
      have noNumeral := next?_eq_none_of_startsWord (by simpa using starts)
      simp [Number.NumeralStage.next?, isDigit] at noNumeral
    · have notDigit := List.all_eq_true.mp notDigits.1 c isOther
      simp [isDigit] at notDigit
    · have notDigit := List.all_eq_true.mp notDigits.2 sign isSign
      simp [isOther, isDigit] at notDigit
  · decide

/-- Where such a character stands there is a number or nothing that can be read. -/
theorem BeginsNoSign.unreadable
    {first : Char}
    (noSign : BeginsNoSign first)
    (rest : List Char) :
    ∃ size, wordOrSign first rest = .unreadable size := by
  obtain ⟨noWord, notBrace, notOperator⟩ := noSign
  have noOperator : operator? (first :: rest) = none := by
    cases found : operator? (first :: rest) with
    | none =>
        rfl
    | some sign =>
        obtain ⟨isSign, stands⟩ := operator?_spells found
        cases sign with
        | nil =>
            exact absurd isSign (by decide)
        | cons next more =>
            obtain ⟨rfl, _⟩ := List.cons.inj stands
            exact (notOperator _ isSign rfl).elim
  simp only [List.mem_cons, List.not_mem_nil, or_false, not_or] at notBrace
  simp [wordOrSign, noWord, notBrace, noOperator]

theorem BeginsNoSign.number
    {first : Char}
    (noSign : BeginsNoSign first)
    {rest : List Char}
    {lexeme : Lexeme}
    {size : Nat}
    (found : piece first rest = .lexeme lexeme size) :
    ∃ decimal, number? (first :: rest) = some (decimal, size) := by
  rcases (piece_lexeme found).2 with ⟨decimal, isNumber, _⟩ | ⟨_, isSign⟩
  · exact ⟨decimal, isNumber⟩
  · obtain ⟨length, isRun⟩ := noSign.unreadable rest
    rw [isRun] at isSign
    cases isSign

/-- A sign that begins no number is an operator. -/
theorem wordOrSign_of_sign
    {c : Char}
    (isSign : Number.IsSign [c])
    (rest : List Char) :
    wordOrSign c rest = .lexeme .operator 1 := by
  rcases Number.NumeralStage.isSign_singleton.mp isSign with rfl | rfl <;>
    simp [wordOrSign, operator?, startsWord, wideOperators, narrowOperators]

/-- Whether everything that is found can be read. -/
def AllTokens (findings : List Finding) : Prop :=
  ∀ finding ∈ findings, ∃ token, finding = .token token

theorem allTokens_append_iff
    {findings more : List Finding} :
    AllTokens (findings ++ more) ↔ AllTokens findings ∧ AllTokens more :=
  List.forall_mem_append

/-- Only comments and lexemes are passed over where everything can be read. -/
theorem comment_or_lexeme
    {piece : Piece}
    {chars : List Char}
    {position : Position}
    (allTokens : AllTokens (piece.findings chars position)) :
    (∃ size, piece = .comment size) ∨ ∃ kind size, piece = .lexeme kind size := by
  cases piece with
  | comment size =>
      exact .inl ⟨size, rfl⟩
  | lexeme kind size =>
      exact .inr ⟨kind, size, rfl⟩
  | unreadable size =>
      obtain ⟨token, isToken⟩ := allTokens _ (List.mem_singleton_self _)
      cases isToken

section Stuck

variable {first : Char} {rest : List Char}

/--
Digits that are followed as a numeral cannot be passed over with tokens only, if what follows them
continues numbers.
-/
theorem not_passes_digits
    (continues : continuesNumber first = true)
    {stage last : Number.NumeralStage}
    {position : Position}
    {front : List Char}
    {findings : List Finding}
    (begins : ∃ c ∈ front.head?, Text.isDigit c = true ∨ c = '.')
    (follows : stage.follow? front = some last)
    (allTokens : AllTokens findings) :
    ¬Passes (first :: rest) position front findings := by
  intro passes
  -- Each number token ends in front of a digit that cannot continue it, and the last has none.
  induction passes generalizing stage with
  | arrived position =>
      obtain ⟨c, isHead, _⟩ := begins
      cases isHead
  | overBlank blank _ _ =>
      obtain ⟨c, isHead, isFirst⟩ := begins
      cases isHead
      rcases isFirst with isDigit | rfl
      · rw [Number.isBlank_of_isDigit isDigit] at blank
        cases blank
      · cases blank
  | @overPiece position c others front findings whole further inductionHypothesis =>
      obtain ⟨_, isHead, isFirst⟩ := begins
      cases isHead
      obtain ⟨hereTokens, laterTokens⟩ := allTokens_append_iff.mp allTokens
      rcases comment_or_lexeme hereTokens with ⟨size, found⟩ | ⟨kind, size, found⟩
      · obtain ⟨rfl, _⟩ := piece_comment found
        exact absurd isFirst (by decide)
      · obtain rfl : size = others.length + 1 := by
          simpa [found, Piece.size] using whole.size
        obtain ⟨decimal, isNumber⟩ := (beginsNoSign_of_digit_or_point isFirst).number found
        have ends : EndsNumber .start (front ++ first :: rest) (c :: others) :=
          (isLongest_of_number? isNumber).holds
        cases front with
        | nil =>
            have ended := ends.ended first rfl
            rw [continues] at ended
            cases ended
        | cons next more =>
            rw [← List.cons_append, Number.NumeralStage.follow?_append] at follows
            obtain ⟨reached, isReached, further⟩ := Option.bind_eq_some_iff.mp follows
            obtain ⟨after, leads, _⟩ := Option.bind_eq_some_iff.mp further
            have isNumeral := (endsNumber_start_iff.mp ends).1
            have isDigit : Text.isDigit next = true :=
              isDigit_of_next? leads (afterSign?_of_numeral isNumeral isReached)
                (ends.ended next rfl)
            exact inductionHypothesis ⟨next, rfl, .inl isDigit⟩ further laterTokens

/-- A numeral in front of a run is a token, unless the run continues it. -/
theorem continues_of_isNumeral
    {c : Char}
    {text : List Char}
    {kind : Lexeme}
    {size : Nat}
    (isNumeral : Number.IsNumeral (c :: text))
    (found : piece c (text ++ first :: rest) = .lexeme kind size)
    (shorter : size < (c :: text).length) :
    continuesNumber first = true := by
  by_contra notContinues
  have ends : EndsNumber .start (first :: rest) (c :: text) :=
    endsNumber_start_iff.mpr ⟨isNumeral, by simpa using notContinues⟩
  have isSize := numberSize_isLongest .start 0 0 (c :: (text ++ first :: rest))
  generalize isFound : numberSize .start 0 0 (c :: (text ++ first :: rest)) = length at isSize
  cases isSize with
  | none noText =>
      exact noText (c :: text) (first :: rest) rfl ends
  | @found other isLongest =>
      rw [Nat.zero_add] at isFound
      obtain ⟨decimal, isNumber, _⟩ := number?_of_isLongest isFound isLongest
      have notShorter := isLongest.longest (c :: text) (first :: rest) rfl ends
      rcases (piece_lexeme found).2 with ⟨_, isOther, _⟩ | ⟨isNone, _⟩
      · rw [isNumber] at isOther
        cases isOther
        exact absurd shorter (Nat.not_lt.mpr notShorter)
      · rw [isNumber] at isNone
        cases isNone

/-- Behind a token that is only a part of a numeral, the numeral goes on with a digit or a point. -/
theorem digit_or_point_behind
    {c next : Char}
    {others behind : List Char}
    {kind : Lexeme}
    {reached after : Number.NumeralStage}
    (found : piece c (others ++ next :: behind) = .lexeme kind (others.length + 1))
    (isReached : Number.NumeralStage.start.follow? (c :: others) = some reached)
    (leads : reached.next? next = some after) :
    Text.isDigit next = true ∨ next = '.' := by
  rcases (piece_lexeme found).2 with ⟨decimal, isNumber, _⟩ | ⟨_, isSign⟩
  · have ends : EndsNumber .start (next :: behind) (c :: others) :=
      (isLongest_of_number? isNumber).holds
    have isNumeral := (endsNumber_start_iff.mp ends).1
    exact .inl (isDigit_of_next? leads (afterSign?_of_numeral isNumeral isReached)
      (ends.ended next rfl))
  · -- The token is a sign, because no other character begins both a numeral and an operator.
    obtain ⟨second, leadsFirst, onward⟩ := Option.bind_eq_some_iff.mp isReached
    have notFirst : ¬(Text.isDigit c = true ∨ c = '.') := by
      intro isFirst
      obtain ⟨size, isRun⟩ :=
        (beginsNoSign_of_digit_or_point isFirst).unreadable (others ++ next :: behind)
      rw [isRun] at isSign
      cases isSign
    cases Number.NumeralStage.next?_eq_some_iff.mp leadsFirst with
    | digit isDigit =>
        exact (notFirst (.inl isDigit)).elim
    | point isPoint _ =>
        exact (notFirst (.inr isPoint)).elim
    | mark _ follows =>
        cases follows
    | sign signed follows =>
        cases follows
        rw [wordOrSign_of_sign signed] at isSign
        obtain ⟨_, rfl⟩ : Lexeme.operator = kind ∧ others = [] := by
          simpa using isSign
        cases onward
        cases Number.NumeralStage.next?_eq_some_iff.mp leads with
        | digit isDigit =>
            exact .inl isDigit
        | point isPoint _ =>
            exact .inr isPoint
        | mark _ follows =>
            cases follows
        | sign _ follows =>
            cases follows

/-- A numeral does not reach over several tokens up to a run. -/
theorem not_isNumeral_of_passes
    {c : Char}
    {others front : List Char}
    {kind : Lexeme}
    {position : Position}
    {findings : List Finding}
    (found : piece c (others ++ (front ++ first :: rest)) = .lexeme kind (others.length + 1))
    (nonempty : front ≠ [])
    (allTokens : AllTokens findings)
    (further : Passes (first :: rest) position front findings) :
    ¬Number.IsNumeral (c :: (others ++ front)) := by
  intro isNumeral
  have continues : continuesNumber first = true := by
    refine continues_of_isNumeral isNumeral (by rwa [List.append_assoc]) ?_
    have positive := List.length_pos_iff.mpr nonempty
    rw [List.length_cons, List.length_append]
    omega
  obtain ⟨last, follows, _⟩ := Number.isNumeral_iff.mp isNumeral
  rw [← List.cons_append, Number.NumeralStage.follow?_append] at follows
  obtain ⟨reached, isReached, onward⟩ := Option.bind_eq_some_iff.mp follows
  obtain ⟨next, more, rfl⟩ := List.exists_cons_of_ne_nil nonempty
  obtain ⟨after, leads, _⟩ := Option.bind_eq_some_iff.mp onward
  exact not_passes_digits continues ⟨next, rfl, digit_or_point_behind found isReached leads⟩ onward
    allTokens further

end Stuck

/-- A number token that ends in some text is found in that text alone. -/
theorem number?_in_front
    {chars tail : List Char}
    (within : numberSize .start 0 0 (chars ++ tail) < chars.length)
    (notNumeral : ¬Number.IsNumeral chars) :
    number? chars = number? (chars ++ tail) := by
  have incomplete :
      ∀ last, Number.NumeralStage.start.follow? chars = some last → last.isComplete = false := by
    intro last follows
    by_contra complete
    exact notNumeral (Number.isNumeral_iff.mpr ⟨last, follows, by simpa using complete⟩)
  have sameSize := numberSize_in_front (by rwa [Nat.zero_add]) incomplete
  rw [number?, number?, sameSize]
  split
  · rfl
  · rw [List.take_append_of_le_length (Nat.le_of_lt within)]

/-- A word or a sign that ends in some text is found in that text alone. -/
theorem wordOrSign_in_front
    {first : Char}
    {rest tail : List Char}
    {kind : Lexeme}
    {size : Nat}
    (found : wordOrSign first (rest ++ tail) = .lexeme kind (size + 1))
    (within : size < rest.length) :
    wordOrSign first rest = .lexeme kind (size + 1) := by
  have sameOperator : operator? (first :: (rest ++ tail)) = operator? (first :: rest) := by
    cases rest with
    | nil =>
        cases within
    | cons second others =>
        simp [operator?]
  by_cases starts : startsWord first = true
  · rw [wordOrSign, if_pos starts] at found ⊢
    have isSize : ((rest ++ tail).takeWhile continuesWord).length = size := by
      simpa [Piece.size] using congrArg Piece.size found
    have sameWord : (rest ++ tail).takeWhile continuesWord = rest.takeWhile continuesWord := by
      rw [List.takeWhile_append] at isSize ⊢
      split
      · next allOfIt =>
        rw [if_pos allOfIt, List.length_append] at isSize
        omega
      · rfl
    rwa [sameWord] at found
  · rw [wordOrSign, if_neg starts] at found ⊢
    by_cases isOpen : first = '{'
    · rwa [if_pos isOpen] at found ⊢
    · by_cases isClose : first = '}'
      · rwa [if_neg isOpen, if_pos isClose] at found ⊢
      · rw [if_neg isOpen, if_neg isClose, sameOperator] at found
        rw [if_neg isOpen, if_neg isClose]
        cases isOperator : operator? (first :: rest) with
        | some sign =>
            rwa [isOperator] at found
        | none =>
            rw [isOperator] at found
            by_cases isAssign : first = '='
            · simpa [isAssign] using found
            · simp [isAssign] at found

/-- A lexeme that ends in some text is found in that text alone, if that is no numeral. -/
theorem piece_in_front
    {first : Char}
    {rest tail : List Char}
    {kind : Lexeme}
    {size : Nat}
    (found : piece first (rest ++ tail) = .lexeme kind (size + 1))
    (within : size < rest.length)
    (notNumeral : ¬Number.IsNumeral (first :: rest)) :
    piece first rest = .lexeme kind (size + 1) := by
  obtain ⟨notHash, shape⟩ := piece_lexeme found
  have sameNumber
      (isShort : numberSize .start 0 0 (first :: (rest ++ tail)) ≤ rest.length) :
      number? (first :: rest) = number? (first :: (rest ++ tail)) :=
    number?_in_front (Nat.lt_succ_of_le isShort) notNumeral
  rcases shape with ⟨decimal, isNumber, rfl⟩ | ⟨isNone, isSign⟩
  · have isSize := (number?_eq_some_iff.mp isNumber).1
    rw [piece, if_neg notHash, sameNumber (isSize ▸ within), isNumber]
  · have isSize := number?_eq_none_iff_size.mp isNone
    rw [piece, if_neg notHash, sameNumber (by simp [isSize]), isNone]
    exact wordOrSign_in_front isSign within

/-- A comment in front of other characters stays the same if the first of them is replaced. -/
theorem WholePiece.comment_blanked
    {first c : Char}
    {rest others front : List Char}
    {size : Nat}
    (solid : ¬Text.isBlank first = true)
    (whole : WholePiece c others (front ++ first :: rest))
    (found : piece c (others ++ (front ++ first :: rest)) = .comment size)
    (tail : List Char) :
    piece c (others ++ (front ++ ' ' :: tail)) = .comment (others.length + 1) := by
  obtain ⟨rfl, oneLine, lineEnds⟩ := whole.comment found
  have ended : ∀ next ∈ (front ++ ' ' :: tail).head?, next = '\n' := by
    cases front with
    | nil =>
        have isNewline := lineEnds first rfl
        subst isNewline
        exact absurd (by decide) solid
    | cons next more =>
        exact lineEnds
  have length :
      (('#' :: others ++ (front ++ ' ' :: tail)).takeWhile (· ≠ '\n')).length =
        ('#' :: others).length := by
    apply length_takeWhile_append_eq_iff.mpr
    refine ⟨fun c member => ?_, fun next isNext => by simp [ended next isNext]⟩
    have notNewline : c ≠ '\n' := by
      rintro rfl
      simp [oneLine] at member
    simpa using notNewline
  rw [piece, if_pos rfl, ← List.cons_append, length, List.length_cons]

/-- A lexeme in front of other characters stays the same if the first of them is replaced. -/
theorem WholePiece.lexeme_blanked
    {first c : Char}
    {rest others front : List Char}
    {kind : Lexeme}
    {position : Position}
    {findings : List Finding}
    (whole : WholePiece c others (front ++ first :: rest))
    (found : piece c (others ++ (front ++ first :: rest)) = .lexeme kind (others.length + 1))
    (allTokens : AllTokens findings)
    (further : Passes (first :: rest) position front findings)
    (tail : List Char) :
    piece c (others ++ (front ++ ' ' :: tail)) = .lexeme kind (others.length + 1) := by
  have alone : piece c (others ++ front) = .lexeme kind (others.length + 1) := by
    by_cases nonempty : front = []
    · subst nonempty
      have alone := standsAlone_of_piece whole.solid found
      rw [List.take_succ_cons, List.take_left] at alone
      cases alone with
      | intro _ isAlone =>
          rwa [List.append_nil]
    · refine piece_in_front (by rwa [List.append_assoc]) ?_
        (not_isNumeral_of_passes found nonempty allTokens further)
      have positive := List.length_pos_iff.mpr nonempty
      rw [List.length_append]
      omega
  rw [← List.append_assoc]
  exact piece_append_space alone tail

/-- What is found in front of a place stays the same if blanks are put there. -/
theorem Passes.blanked
    {first : Char}
    {rest front : List Char}
    {position : Position}
    {findings : List Finding}
    (solid : ¬Text.isBlank first = true)
    (allTokens : AllTokens findings)
    (passes : Passes (first :: rest) position front findings)
    (tail : List Char) :
    Passes (' ' :: tail) position front findings := by
  induction passes with
  | arrived position =>
      exact .arrived position
  | overBlank blank _ inductionHypothesis =>
      exact .overBlank blank (inductionHypothesis allTokens)
  | @overPiece position c others front findings whole further inductionHypothesis =>
      obtain ⟨hereTokens, laterTokens⟩ := allTokens_append_iff.mp allTokens
      have goesOn := inductionHypothesis laterTokens
      rcases comment_or_lexeme hereTokens with ⟨size, found⟩ | ⟨kind, size, found⟩
      · have same := whole.comment_blanked solid found tail
        have passes := Passes.overPiece ⟨whole.solid, by rw [same, Piece.size]⟩ goesOn
        rw [same] at passes
        rwa [found]
      · obtain rfl : size = others.length + 1 := by
          simpa [found, Piece.size] using whole.size
        have same := whole.lexeme_blanked found laterTokens further tail
        have passes := Passes.overPiece ⟨whole.solid, by rw [same, Piece.size]⟩ goesOn
        rw [same] at passes
        rwa [found]

end Lexer

end StackScript
