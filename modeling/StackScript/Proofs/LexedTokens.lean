import StackScript.Machine.Words
import StackScript.Token.Lexer

namespace StackScript

/-!
# The tokens that lexing finds

Tokens can be built by hand with any text, any name and any class.  Those that lexing finds are
regular: the text fits the class, words and operators carry their text as their name, every operator
is that of a builtin, and no class is unknown.
-/

namespace Lexer

/-- A word that is not reserved. -/
structure IsName (text : String) : Prop where
  word :
    ∃ first rest,
      text = String.ofList (first :: rest) ∧
        startsWord first ∧
        rest.all continuesWord
  notReserved :
    text ∉ reservedWords

/-- The characters of all operators. -/
def signs : List (List Char) :=
  wideOperators ++ narrowOperators.map ([·])

/-- The texts that tokens of a class have. -/
inductive Spells : Lexeme → String → Prop where
  | number (value : Float) (text : String) :
      Spells (.number value) text
  | symbol
      {text : String}
      (isName : IsName text) :
      Spells .symbol text
  | operator
      {sign : List Char}
      (isSign : sign ∈ signs) :
      Spells .operator (String.ofList sign)
  | reserved
      {text : String}
      (isReserved : text ∈ reservedWords) :
      Spells .reserved text
  | assign :
      Spells .assign "="
  | openBrace :
      Spells .openBrace "\x7b"
  | closeBrace :
      Spells .closeBrace "\x7d"

/-- Every operator is the name of a numeric builtin. -/
theorem exists_numeric_of_sign
    {sign : List Char}
    (isSign : sign ∈ signs) :
    ∃ builtin,
      Builtin.find? Builtin.all (String.ofList sign) = some builtin ∧
        builtin.numeric?.isSome := by
  have allNumeric :
      ∀ sign ∈ signs,
        (Builtin.find? Builtin.all (String.ofList sign)).any fun builtin =>
          builtin.numeric?.isSome := by
    decide
  exact (Option.any_eq_true _ _).mp (allNumeric sign isSign)

/-- No operator is a name. -/
theorem not_isName_of_sign
    {sign : List Char}
    (isSign : sign ∈ signs) :
    ¬IsName (String.ofList sign) := by
  have noWord : ∀ sign ∈ signs, sign.head?.any startsWord = false := by
    decide
  rintro ⟨⟨first, rest, shape, starts, _⟩, _⟩
  obtain rfl := String.ofList_inj.mp shape
  have startsNone := noWord _ isSign
  rw [List.head?_cons, Option.any_some, starts] at startsNone
  cases startsNone

/-- An operator stands at the start of the text where it is found. -/
theorem operator?_spells
    {chars sign : List Char}
    (found : operator? chars = some sign) :
    sign ∈ signs ∧ chars.take sign.length = sign := by
  unfold operator? at found
  split at found
  · next isWide =>
    cases found
    have twoLong : ∀ sign ∈ wideOperators, sign.length = 2 := by
      decide
    rw [twoLong _ isWide]
    exact ⟨List.mem_append_left _ isWide, rfl⟩
  · split at found
    · next isNarrow =>
      cases found
      cases chars with
      | nil =>
          cases isNarrow
      | cons first rest =>
          have member : first ∈ narrowOperators := by
            simpa using isNarrow
          exact ⟨List.mem_append_right _ (List.mem_map_of_mem member), rfl⟩
    · cases found

/-- The longest word at the start of a text is reserved or a name. -/
theorem wordLexeme_spells
    {first : Char}
    (starts : startsWord first)
    (rest : List Char) :
    let word := String.ofList (first :: rest.takeWhile continuesWord)
    Spells (wordLexeme word) word := by
  intro word
  unfold wordLexeme
  split
  · next isReserved =>
    exact .reserved isReserved
  · next notReserved =>
    exact .symbol ⟨⟨first, _, rfl, starts, List.all_takeWhile⟩, notReserved⟩

/-- The text of a lexeme fits its class. -/
theorem piece_spells
    {first : Char}
    {rest : List Char}
    {lexeme : Lexeme}
    {size : Nat}
    (found : piece first rest = .lexeme lexeme size) :
    Spells lexeme (String.ofList ((first :: rest).take size)) := by
  unfold piece at found
  split at found
  · cases found
  · split at found
    · cases found
      exact .number _ _
    · unfold wordOrSign at found
      split at found
      · next starts =>
        cases found
        have atStart :
            (first :: rest).take (first :: rest.takeWhile continuesWord).length =
              first :: rest.takeWhile continuesWord := by
          rw [List.length_cons, List.take_succ_cons, take_length_takeWhile]
        rw [atStart]
        exact wordLexeme_spells starts rest
      · split at found
        · next isOpen =>
          cases found
          rw [isOpen]
          exact .openBrace
        · split at found
          · next isClose =>
            cases found
            rw [isClose]
            exact .closeBrace
          · split at found
            · next sign isOperator =>
              cases found
              obtain ⟨isSign, atStart⟩ := operator?_spells isOperator
              rw [atStart]
              exact .operator isSign
            · split at found
              · next isAssign =>
                cases found
                rw [isAssign]
                exact .assign
              · cases found

end Lexer

/-- A token whose text fits its class, and that carries its text as its name if it carries any. -/
structure Token.IsRegular (token : Token) : Prop where
  spells :
    Lexer.Spells token.lexeme token.text
  name :
    token.name = if token.lexeme.isNamed then some token.text else none

theorem Lexer.isRegular_of_mem_lexFrom
    {skip : Nat}
    {position : Position}
    {chars : List Char}
    {token : Token}
    (member : token ∈ (lexFrom skip position chars).tokens) :
    token.IsRegular := by
  -- The recursion of the lexer: skipped characters and blanks add no token, a piece at most one.
  induction chars generalizing skip position with
  | nil =>
      cases member
  | cons first rest inductionHypothesis =>
      unfold lexFrom at member
      split at member
      · exact inductionHypothesis member
      · split at member
        · exact inductionHypothesis member
        · split at member
          · exact inductionHypothesis member
          · next lexeme size found =>
            rcases List.mem_cons.mp member with rfl | inRest
            · exact ⟨piece_spells found, rfl⟩
            · exact inductionHypothesis inRest
          · cases member

/-- Lexing finds regular tokens only. -/
theorem isRegular_of_mem_lex
    {source : String}
    {token : Token}
    (member : token ∈ (lex source).tokens) :
    token.IsRegular :=
  Lexer.isRegular_of_mem_lexFrom member

end StackScript
