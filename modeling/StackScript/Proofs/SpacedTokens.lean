import Mathlib.Data.List.TakeWhile
import StackScript.Proofs.LexedTokens
import StackScript.Proofs.LexingLines

namespace StackScript

/-!
# Tokens between single spaces

How far a token reaches was decided with the characters behind it in view: a sign may have stood
directly in front of a digit, and a number in front of another one.  Still the text of a token tells
all about it.  Alone it is the same lexeme again, and a space behind it changes nothing.  So the
texts of tokens, separated by single spaces, are lexed as the same tokens at new places.
-/

namespace Lexer

/-- The longest number token is found again when the text is cut off behind it. -/
theorem numberSize_take
    (stage : Number.NumeralStage)
    (size longest : Nat)
    (chars : List Char) :
    numberSize stage size longest chars = longest ∨
      ∃ length,
        numberSize stage size longest chars = size + length ∧
          ∀ fewer, numberSize stage size fewer (chars.take length) = size + length := by
  induction chars generalizing stage size longest with
  | nil =>
      cases complete : stage.isComplete with
      | true =>
          exact .inr ⟨0, by simp [numberSize, complete], by simp [numberSize, complete]⟩
      | false =>
          exact .inl (by simp [numberSize, complete])
  | cons c rest inductionHypothesis =>
      -- The token ends in front of this character, or it goes on behind it.
      have endsOrGoesOn :
          (numberSize stage size longest (c :: rest) =
              if stage.isComplete && !continuesNumber c then size else longest) ∨
            ∃ length,
              numberSize stage size longest (c :: rest) = size + (length + 1) ∧
                ∀ fewer,
                  numberSize stage size fewer (c :: rest.take length) = size + (length + 1) := by
        cases follows : stage.next? c with
        | none =>
            exact .inl (by simp [numberSize, follows])
        | some next =>
            simp only [numberSize, follows]
            rcases inductionHypothesis next (size + 1) _ with ends | ⟨length, isSize, again⟩
            · exact .inl ends
            · have shifted : size + 1 + length = size + (length + 1) := by
                omega
              rw [shifted] at isSize again
              exact .inr ⟨length, isSize, fun _ => again _⟩
      rcases endsOrGoesOn with ends | ⟨length, isSize, again⟩
      · rw [ends]
        split
        · next endsNumber =>
          have complete : stage.isComplete = true := by
            simp_all
          exact .inr ⟨0, rfl, by simp [numberSize, complete]⟩
        · exact .inl rfl
      · exact .inr ⟨length + 1, isSize, again⟩

theorem number?_eq_some_iff
    {chars : List Char}
    {decimal : Number.Decimal}
    {size : Nat} :
    number? chars = some (decimal, size) ↔
      numberSize .start 0 0 chars = size ∧
        size ≠ 0 ∧
        Number.numeral? (chars.take size) = some decimal := by
  unfold number?
  split
  · next none =>
    rw [none]
    simp only [reduceCtorEq, false_iff, not_and]
    exact fun isSize positive => (positive isSize.symm).elim
  · next positive =>
    simp only [Option.map_eq_some_iff, Prod.mk.injEq]
    constructor
    · rintro ⟨_, isNumeral, rfl, rfl⟩
      exact ⟨rfl, positive, isNumeral⟩
    · rintro ⟨rfl, _, isNumeral⟩
      exact ⟨decimal, isNumeral, rfl, rfl⟩

/-- The characters of a number token are that token when they stand alone. -/
theorem number?_take
    {chars : List Char}
    {decimal : Number.Decimal}
    {size : Nat}
    (found : number? chars = some (decimal, size)) :
    number? (chars.take size) = some (decimal, size) := by
  obtain ⟨isSize, positive, isNumeral⟩ := number?_eq_some_iff.mp found
  refine number?_eq_some_iff.mpr ⟨?_, positive, by rwa [List.take_take, Nat.min_self]⟩
  rcases numberSize_take .start 0 0 chars with none | ⟨length, isLength, again⟩
  · exact (positive (isSize.symm.trans none)).elim
  · obtain rfl : length = size := by
      omega
    simpa using again 0

/-- No number begins with a character that begins no numeral. -/
theorem number?_eq_none_of_next?
    {first : Char}
    (noNumeral : Number.NumeralStage.start.next? first = none)
    (rest : List Char) :
    number? (first :: rest) = none := by
  have none : numberSize .start 0 0 (first :: rest) = 0 := by
    simp [numberSize, noNumeral, Number.NumeralStage.isComplete]
  simp [number?, none]

/-- The characters that begin words lie between the digits of two blocks. -/
theorem toNat_of_startsWord
    {first : Char}
    (starts : startsWord first = true) :
    65 ≤ first.toNat ∧ first.toNat ≤ 122 := by
  have isCode : first.toNat = first.val.toNat :=
    rfl
  rcases (Bool.or_eq_true _ _).mp starts with letter | underscore
  · rcases (Bool.or_eq_true _ _).mp letter with upper | lower
    · have within : 65 ≤ first.val ∧ first.val ≤ 90 :=
        of_decide_eq_true upper
      simp [UInt32.le_iff_toNat_le] at within
      omega
    · have within : 97 ≤ first.val ∧ first.val ≤ 122 :=
        ((Bool.and_eq_true _ _).mp lower).imp of_decide_eq_true of_decide_eq_true
      simp [UInt32.le_iff_toNat_le] at within
      omega
  · rw [beq_iff_eq.mp underscore]
    decide

/-- No numeral begins with a character that begins a word. -/
theorem next?_eq_none_of_startsWord
    {first : Char}
    (starts : startsWord first = true) :
    Number.NumeralStage.start.next? first = none := by
  have notDigit : Text.isDigit first = false := by
    have elsewhere : ∀ start ∈ Text.digitZeros, start + 10 ≤ 65 ∨ 122 < start := by
      decide
    obtain ⟨least, most⟩ := toNat_of_startsWord starts
    simp only [Text.isDigit, Text.digitValue?, Option.isSome_eq_false_iff,
      Option.isNone_iff_eq_none, List.findSome?_eq_none_iff]
    intro start isStart
    have outside := elsewhere start isStart
    rw [if_neg (by omega)]
  have isOther {c : Char} (noStart : startsWord c = false) : first ≠ c := by
    rintro rfl
    rw [starts] at noStart
    cases noStart
  have notPoint : first ≠ '.' :=
    isOther (by decide)
  have notPlus : first ≠ '+' :=
    isOther (by decide)
  have notMinus : first ≠ '-' :=
    isOther (by decide)
  simp [Number.NumeralStage.next?, notDigit, notPoint, notPlus, notMinus,
    Number.NumeralStage.afterMark?]

/-- A word that stands alone is read as a whole. -/
theorem piece_word
    {first : Char}
    {rest : List Char}
    (starts : startsWord first = true)
    (continues : rest.all continuesWord = true) :
    piece first rest =
      .lexeme (wordLexeme (String.ofList (first :: rest))) (rest.length + 1) := by
  have notHash : first ≠ '#' := by
    rintro rfl
    cases starts
  have whole : rest.takeWhile continuesWord = rest :=
    List.takeWhile_eq_self_iff.mpr (List.all_eq_true.mp continues)
  simp [piece, notHash, number?_eq_none_of_next? (next?_eq_none_of_startsWord starts), wordOrSign,
    starts, whole]

/-- An operator that stands alone is read as a whole. -/
theorem piece_sign
    {first : Char}
    {rest : List Char}
    (isSign : first :: rest ∈ signs) :
    piece first rest = .lexeme .operator (rest.length + 1) := by
  have readAlone :
      signs.all fun sign =>
        sign.head?.all fun first => piece first sign.tail = .lexeme .operator sign.length := by
    decide
  exact of_decide_eq_true (List.all_eq_true.mp readAlone _ isSign)

/-- The text of a lexeme that is no number is that lexeme when it stands alone. -/
theorem Spells.piece_alone
    {lexeme : Lexeme}
    {first : Char}
    {rest : List Char}
    (spells : Spells lexeme (String.ofList (first :: rest)))
    (notNumber : ∀ value, lexeme ≠ .number value) :
    piece first rest = .lexeme lexeme (rest.length + 1) := by
  generalize isText : String.ofList (first :: rest) = text at spells
  have chars : first :: rest = text.toList := by
    rw [← isText, String.toList_ofList]
  cases spells with
  | number value text =>
      exact (notNumber value rfl).elim
  | symbol isName =>
      obtain ⟨⟨_, _, rfl, starts, continues⟩, notReserved⟩ := isName
      cases String.ofList_inj.mp isText
      rw [piece_word starts continues, wordLexeme, if_neg notReserved]
  | operator isSign =>
      cases String.ofList_inj.mp isText
      exact piece_sign isSign
  | reserved isReserved =>
      simp only [reservedWords, List.mem_cons, List.not_mem_nil, or_false] at isReserved
      rcases isReserved with rfl | rfl
      · cases chars
        decide
      · cases chars
        decide
  | assign | openBrace | closeBrace =>
      cases chars
      decide

/-- Characters that the lexer takes as one lexeme when nothing stands behind them. -/
inductive StandsAlone (lexeme : Lexeme) : List Char → Prop where
  | intro
      {first : Char}
      {rest : List Char}
      (solid : ¬Text.isBlank first = true)
      (found : piece first rest = .lexeme lexeme (rest.length + 1)) :
      StandsAlone lexeme (first :: rest)

/-- What is neither comment nor number is no number. -/
theorem ne_number_of_wordOrSign
    {first : Char}
    {rest : List Char}
    {lexeme : Lexeme}
    {size : Nat}
    (found : wordOrSign first rest = .lexeme lexeme size)
    (value : Float) :
    lexeme ≠ .number value := by
  rintro rfl
  unfold wordOrSign wordLexeme at found
  split at found
  · simp only at found
    split at found <;> cases found
  · split at found
    · cases found
    · split at found
      · cases found
      · split at found
        · cases found
        · split at found <;> cases found

/-- The text of a lexeme that is no number is not empty. -/
theorem Spells.ne_empty
    {lexeme : Lexeme}
    {text : String}
    (spells : Spells lexeme text)
    (notNumber : ∀ value, lexeme ≠ .number value) :
    text ≠ "" := by
  cases spells with
  | number value text =>
      exact (notNumber value rfl).elim
  | symbol isName =>
      obtain ⟨⟨first, rest, rfl, _⟩, _⟩ := isName
      simp
  | operator isSign =>
      have nonempty : ∀ sign ∈ signs, sign ≠ [] := by
        decide
      simpa using nonempty _ isSign
  | reserved isReserved =>
      rintro rfl
      revert isReserved
      decide
  | assign | openBrace | closeBrace =>
      decide

/-- The characters of a lexeme are that lexeme when they stand alone. -/
theorem standsAlone_of_piece
    {first : Char}
    {rest : List Char}
    {lexeme : Lexeme}
    {size : Nat}
    (solid : ¬Text.isBlank first = true)
    (found : piece first rest = .lexeme lexeme size) :
    StandsAlone lexeme ((first :: rest).take size) := by
  have spells := piece_spells found
  have within : size ≤ rest.length + 1 := by
    simpa [found, Piece.size] using size_piece_le first rest
  unfold piece at found
  split at found
  · cases found
  · next notHash =>
    split at found
    · next decimal length isNumber =>
      cases found
      obtain ⟨remaining, rfl⟩ : ∃ remaining, size = remaining + 1 :=
        Nat.exists_eq_succ_of_ne_zero (number?_eq_some_iff.mp isNumber).2.1
      have alone := number?_take isNumber
      rw [List.take_succ_cons] at alone ⊢
      refine .intro solid ?_
      rw [List.length_take_of_le (Nat.le_of_succ_le_succ within)]
      simp [piece, notHash, alone]
    · have notNumber := ne_number_of_wordOrSign found
      obtain ⟨remaining, rfl⟩ : ∃ remaining, size = remaining + 1 := by
        apply Nat.exists_eq_succ_of_ne_zero
        rintro rfl
        exact spells.ne_empty notNumber rfl
      rw [List.take_succ_cons] at spells ⊢
      exact .intro solid (spells.piece_alone notNumber)

theorem separator_space : Separator ' ' where
  numeral stage := by
    cases stage <;> decide
  number := by
    decide
  word := by
    decide
  operator first := by
    simp [wideOperators]
  unreadable := by
    decide

/-- A space behind a lexeme does not change it. -/
theorem piece_append_space
    {first : Char}
    {rest : List Char}
    {lexeme : Lexeme}
    {size : Nat}
    (found : piece first rest = .lexeme lexeme size)
    (tail : List Char) :
    piece first (rest ++ ' ' :: tail) = .lexeme lexeme size := by
  have notHash : first ≠ '#' := by
    rintro rfl
    simp [piece] at found
  have sameNumber : number? (first :: (rest ++ ' ' :: tail)) = number? (first :: rest) :=
    number?_append separator_space tail (first :: rest)
  rw [← found]
  simp only [piece, notHash, ↓reduceIte, sameNumber, wordOrSign_append separator_space]

/-- Skipped characters only move the place from which lexing goes on. -/
theorem lexFrom_skip
    (position : Position)
    (chars tail : List Char) :
    lexFrom chars.length position (chars ++ tail) = lexFrom 0 (position.after chars) tail := by
  induction chars generalizing position with
  | nil =>
      rfl
  | cons first rest inductionHypothesis =>
      exact inductionHypothesis (position.advance first)

/-- A lexeme that stands alone is lexed as one token. -/
theorem StandsAlone.lexFrom
    {lexeme : Lexeme}
    {chars : List Char}
    (alone : StandsAlone lexeme chars)
    (position : Position) :
    lexFrom 0 position chars = ⟨[.inSource lexeme (String.ofList chars) position], none⟩ := by
  obtain @⟨first, rest, solid, found⟩ := alone
  have nothingBehind := lexFrom_skip (position.advance first) rest []
  rw [List.append_nil] at nothingBehind
  rw [lexFrom_lexeme solid found, Nat.add_sub_cancel, nothingBehind, ← List.length_cons,
    List.take_length]
  rfl

/-- A lexeme in front of a space is lexed as one token, and then what stands behind the space. -/
theorem StandsAlone.lexFrom_space
    {lexeme : Lexeme}
    {chars : List Char}
    (alone : StandsAlone lexeme chars)
    (position : Position)
    (tail : List Char) :
    Lexer.lexFrom 0 position (chars ++ ' ' :: tail) =
      .cons (.inSource lexeme (String.ofList chars) position)
        (Lexer.lexFrom 0 ((position.after chars).advance ' ') tail) := by
  obtain @⟨first, rest, solid, found⟩ := alone
  have behind := lexFrom_skip (position.advance first) rest (' ' :: tail)
  have isBlank : Text.isBlank ' ' = true := by
    decide
  rw [lexFrom_blank isBlank] at behind
  rw [List.cons_append, lexFrom_lexeme solid (piece_append_space found tail), Nat.add_sub_cancel,
    behind, ← List.cons_append, ← List.length_cons, List.take_left]
  rfl

end Lexer

/-- A token that lexing finds in some text. -/
def Token.IsLexed (token : Token) : Prop :=
  ∃ source, token ∈ (lex source).tokens

theorem Lexer.standsAlone_of_mem_lexFrom
    {skip : Nat}
    {position : Position}
    {chars : List Char}
    {token : Token}
    (member : token ∈ (lexFrom skip position chars).tokens) :
    StandsAlone token.lexeme token.text.toList := by
  induction chars generalizing skip position with
  | nil =>
      cases member
  | cons first rest inductionHypothesis =>
      unfold lexFrom at member
      split at member
      · exact inductionHypothesis member
      · split at member
        · exact inductionHypothesis member
        · next solid =>
          split at member
          · exact inductionHypothesis member
          · next lexeme size found =>
            rcases List.mem_cons.mp member with rfl | inRest
            · simpa [Token.inSource] using standsAlone_of_piece solid found
            · exact inductionHypothesis inRest
          · cases member

/-- Tokens at the places where they stand when single spaces separate them. -/
def laidOut (position : Position) : List Token → List Token
  | [] =>
      []
  | token :: rest =>
      { token with position } ::
        laidOut ((position.after token.text.toList).advance ' ') rest

/-- A lexed token is what lexing makes of its class and its text. -/
theorem Token.IsLexed.eq_inSource
    {token : Token}
    (lexed : token.IsLexed)
    (position : Position) :
    Token.inSource token.lexeme token.text position = { token with position } := by
  obtain ⟨source, member⟩ := lexed
  rw [Token.inSource, ← (isRegular_of_mem_lex member).name]

theorem Token.IsLexed.standsAlone
    {token : Token}
    (lexed : token.IsLexed) :
    Lexer.StandsAlone token.lexeme token.text.toList := by
  obtain ⟨source, member⟩ := lexed
  exact Lexer.standsAlone_of_mem_lexFrom member

theorem Lexer.lexFrom_joinedText
    {tokens : List Token}
    (lexed : ∀ token ∈ tokens, token.IsLexed)
    (position : Position) :
    lexFrom 0 position (joinedText tokens).toList = ⟨laidOut position tokens, none⟩ := by
  induction tokens generalizing position with
  | nil =>
      rfl
  | cons token rest inductionHypothesis =>
      have tokenLexed := lexed token List.mem_cons_self
      have restLexed : ∀ later ∈ rest, later.IsLexed :=
        fun later member => lexed later (List.mem_cons_of_mem token member)
      cases rest with
      | nil =>
          have single : joinedText [token] = token.text := by
            simp [joinedText]
          rw [single, tokenLexed.standsAlone.lexFrom, String.ofList_toList,
            tokenLexed.eq_inSource]
          rfl
      | cons second others =>
          have spaced :
              (joinedText (token :: second :: others)).toList =
                token.text.toList ++ ' ' :: (joinedText (second :: others)).toList := by
            simp [joinedText, String.intercalate_cons_cons]
          rw [spaced, tokenLexed.standsAlone.lexFrom_space, String.ofList_toList,
            tokenLexed.eq_inSource, inductionHypothesis restLexed]
          rfl

/-- The texts of lexed tokens, separated by single spaces, are lexed as the same tokens. -/
theorem lex_joinedText
    {tokens : List Token}
    (lexed : ∀ token ∈ tokens, token.IsLexed) :
    lex (joinedText tokens) = ⟨laidOut .start tokens, none⟩ :=
  Lexer.lexFrom_joinedText lexed .start

end StackScript
