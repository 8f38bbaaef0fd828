import StackScript.Number.Decimal
import StackScript.Number.Numeral
import StackScript.Token

namespace StackScript

/-!
# Lexing

Source text is a sequence of blanks, comments and lexemes.  At a character that is not blank the
lexer takes the first class that fits: a comment, a number, a word, a brace, an operator, the
assignment sign.  A number is the longest prefix that is a numeral and is not followed by a
character that would continue a word.  Where no class fits, the lexer stops with a fault that names
the run of characters it could not read.

The lexer walks the text one character at a time.  When it has read a piece of several characters it
skips the rest of them, so every position is reached by advancing over the text before it.
-/

/-- A run of characters that is no lexeme, and where it starts. -/
structure LexFault where
  text : String
  position : Position
  deriving Repr, DecidableEq

/-- The tokens in front of the first unreadable run, and that run if there is one. -/
structure Lexing where
  tokens : List Token
  fault : Option LexFault
  deriving DecidableEq

namespace Lexing

/-- Put a token in front. -/
def cons (token : Token) (lexing : Lexing) : Lexing where
  tokens :=
    token :: lexing.tokens
  fault :=
    lexing.fault

end Lexing

namespace Lexer

/-- Whether a character begins a word. -/
def startsWord (c : Char) : Bool :=
  c.isAlpha || c == '_'

/-- Whether a character continues a word. -/
def continuesWord (c : Char) : Bool :=
  c.isAlphanum || c == '_'

/-- Whether a character directly behind a numeral prevents it from being a number. -/
def continuesNumber (c : Char) : Bool :=
  continuesWord c || c == '.'

/-- The words that name special forms. -/
def reservedWords : List String :=
  ["fn", "call"]

/-- The operators of two characters. -/
def wideOperators : List (List Char) :=
  [['=', '='], ['!', '='], ['<', '='], ['>', '=']]

/-- The operators of one character. -/
def narrowOperators : List Char :=
  ['+', '-', '*', '/', '%', '<', '>']

/--
The size of the longest number token, or zero if there is none.

The `size` characters in front have led to `stage`, and `longest` is the size of the longest number
token that ends before them.
-/
def numberSize (stage : Number.NumeralStage) (size longest : Nat) : List Char → Nat
  | [] =>
      if stage.isComplete then size else longest
  | c :: rest =>
      let found := if stage.isComplete && !continuesNumber c then size else longest
      match stage.next? c with
      | none =>
          found
      | some next =>
          numberSize next (size + 1) found rest

/-- The number token at the start of a text, if there is one. -/
def number? (chars : List Char) : Option (Number.Decimal × Nat) :=
  match numberSize .start 0 0 chars with
  | 0 =>
      none
  | size =>
      (Number.numeral? (chars.take size)).map fun decimal => (decimal, size)

/-- A word is reserved or a symbol. -/
def wordLexeme (word : String) : Lexeme :=
  if word ∈ reservedWords then
    .reserved
  else
    .symbol

/-- What stands at a place that is not blank, with the number of its characters. -/
inductive Piece where
  | comment (size : Nat)
  | lexeme (lexeme : Lexeme) (size : Nat)
  | unreadable (size : Nat)
  deriving DecidableEq

/-- Whether a character belongs to an unreadable run. -/
def inUnreadable (c : Char) : Bool :=
  !Text.isBlank c && c != '{' && c != '}' && c != '#'

/-- The operator at the start of a text; two characters are preferred to one. -/
def operator? (chars : List Char) : Option (List Char) :=
  if chars.take 2 ∈ wideOperators then
    some (chars.take 2)
  else if chars.head?.any (narrowOperators.contains ·) then
    some (chars.take 1)
  else
    none

/-- The piece that is neither comment nor number at the start of a text. -/
def wordOrSign (first : Char) (rest : List Char) : Piece :=
  if startsWord first then
    let word := first :: rest.takeWhile continuesWord
    .lexeme (wordLexeme (String.ofList word)) word.length
  else if first = '{' then
    .lexeme .openBrace 1
  else if first = '}' then
    .lexeme .closeBrace 1
  else
    match operator? (first :: rest) with
    | some sign =>
        .lexeme .operator sign.length
    | none =>
        if first = '=' then
          .lexeme .assign 1
        else
          .unreadable ((first :: rest).takeWhile inUnreadable).length

/-- The piece at the start of a text whose first character is not blank. -/
def piece (first : Char) (rest : List Char) : Piece :=
  if first = '#' then
    .comment ((first :: rest).takeWhile (· ≠ '\n')).length
  else
    match number? (first :: rest) with
    | some (decimal, size) =>
        .lexeme (.number decimal.toFloat) size
    | none =>
        wordOrSign first rest

/-- Lex a text from a position, skipping the characters that belong to the last piece. -/
def lexFrom (skip : Nat) (position : Position) : List Char → Lexing
  | [] =>
      ⟨[], none⟩
  | first :: rest =>
      match skip with
      | remaining + 1 =>
          lexFrom remaining (position.advance first) rest
      | 0 =>
          if Text.isBlank first then
            lexFrom 0 (position.advance first) rest
          else
            match piece first rest with
            | .comment size =>
                lexFrom (size - 1) (position.advance first) rest
            | .lexeme lexeme size =>
                Lexing.cons
                  (Token.inSource lexeme (String.ofList ((first :: rest).take size)) position)
                  (lexFrom (size - 1) (position.advance first) rest)
            | .unreadable size =>
                ⟨[], some ⟨String.ofList ((first :: rest).take size), position⟩⟩

/-- Taking as many characters as fit in front gives those characters. -/
theorem take_length_takeWhile (keep : Char → Bool) (chars : List Char) :
    chars.take (chars.takeWhile keep).length = chars.takeWhile keep := by
  have := List.takeWhile_prefix (l := chars) keep
  exact (List.prefix_iff_eq_take.mp this).symm

/-- An unreadable piece is the maximal run of characters that can be in one. -/
theorem piece_unreadable
    {first : Char}
    {rest : List Char}
    {size : Nat}
    (found : piece first rest = .unreadable size) :
    size = ((first :: rest).takeWhile inUnreadable).length ∧
      first ≠ '{' ∧ first ≠ '}' ∧ first ≠ '#' := by
  unfold piece at found
  split at found
  · cases found
  · next notHash =>
    split at found
    · cases found
    · unfold wordOrSign at found
      split at found
      · cases found
      · split at found
        · cases found
        · next notOpen =>
          split at found
          · cases found
          · next notClose =>
            split at found
            · cases found
            · split at found
              · cases found
              · cases found
                exact ⟨rfl, notOpen, notClose, notHash⟩

/-- A fault lies in the text: its run starts at its offset and holds no blank. -/
theorem lexFrom_fault
    {chars : List Char}
    {skip : Nat}
    {position : Position}
    {fault : LexFault}
    (failed : (lexFrom skip position chars).fault = some fault) :
    ∃ before run after,
      chars = before ++ run ++ after ∧
        fault.position.offset = position.offset + before.length ∧
        fault.text.toList = run ∧
        run ≠ [] ∧
        ∀ c ∈ run, Text.isBlank c = false := by
  induction chars generalizing skip position with
  | nil =>
      simp [lexFrom] at failed
  | cons first rest inductionHypothesis =>
      have later
          {skip : Nat}
          (failedLater : (lexFrom skip (position.advance first) rest).fault = some fault) :
          ∃ before run after,
            first :: rest = before ++ run ++ after ∧
              fault.position.offset = position.offset + before.length ∧
              fault.text.toList = run ∧
              run ≠ [] ∧
              ∀ c ∈ run, Text.isBlank c = false := by
        obtain ⟨before, run, after, shape, offset, text, nonempty, solid⟩ :=
          inductionHypothesis failedLater
        refine ⟨first :: before, run, after, by simp [shape], ?_, text, nonempty, solid⟩
        rw [offset]
        simp [Position.advance]
        omega
      unfold lexFrom at failed
      split at failed
      · exact later failed
      · split at failed
        · exact later failed
        · next notBlank =>
          split at failed
          · exact later failed
          · exact later failed
          · next size found =>
            obtain ⟨sizeShape, notOpen, notClose, notHash⟩ := piece_unreadable found
            cases failed
            subst sizeShape
            rw [take_length_takeWhile]
            refine ⟨[], (first :: rest).takeWhile inUnreadable,
              (first :: rest).dropWhile inUnreadable, by simp, by simp, by simp, ?_, ?_⟩
            · have belongs : inUnreadable first = true := by
                simp [inUnreadable, notOpen, notClose, notHash, notBlank]
              simp [belongs]
            · intro c member
              have belongs := List.all_takeWhile (p := inUnreadable) (l := first :: rest)
              rw [List.all_eq_true] at belongs
              have kept := belongs c member
              simp only [inUnreadable, Bool.and_eq_true] at kept
              simpa using kept.1.1.1
end Lexer

/-- The tokens of a source text. -/
def lex (source : String) : Lexing :=
  Lexer.lexFrom 0 Position.start source.toList

end StackScript
