namespace StackScript

/-!
# Tokens

A token is a piece of source text with its position and its meaning.  Most tokens come from the
lexer, and then words and operators carry their text as their name.  Tokens built by hand may have
any text and any position, may carry any name or none, and may even be of a kind that the language
does not know; such things are errors only when the token is evaluated.
-/

/-- A place in a source text: offset from the start, and line and column counted from one. -/
structure Position where
  offset : Int
  line : Int
  column : Int
  deriving Repr, DecidableEq

namespace Position

/-- The place of the first character of a text. -/
def start : Position where
  offset := 0
  line := 1
  column := 1

/-- The place behind a character; only a newline begins a new line. -/
def advance (position : Position) (c : Char) : Position where
  offset :=
    position.offset + 1
  line :=
    if c = '\n' then position.line + 1 else position.line
  column :=
    if c = '\n' then 1 else position.column + 1

end Position

/-- The classes of tokens, and the value of a number. -/
inductive Lexeme where
  | number (value : Float)
  | symbol
  | operator
  | reserved
  | assign
  | openBrace
  | closeBrace
  | unknown (kind : String)
  deriving DecidableEq

namespace Lexeme

/-- The name of a lexeme's kind. -/
def kind : Lexeme → String
  | .number _ =>
      "number"
  | .symbol =>
      "symbol"
  | .operator =>
      "operator"
  | .reserved =>
      "reserved"
  | .assign =>
      "assign"
  | .openBrace =>
      "lbrace"
  | .closeBrace =>
      "rbrace"
  | .unknown kind =>
      kind

/-- Whether the tokens of a class carry their text as a name. -/
def isNamed : Lexeme → Bool
  | .symbol | .operator | .reserved =>
      true
  | _ =>
      false

end Lexeme

/-- A piece of source text with its class, the name it carries and its position. -/
structure Token where
  lexeme : Lexeme
  text : String
  name : Option String
  position : Position
  deriving DecidableEq

namespace Token

/-- The token of a class that stands in a source text. -/
def inSource (lexeme : Lexeme) (text : String) (position : Position) : Token where
  lexeme :=
    lexeme
  text :=
    text
  name :=
    if lexeme.isNamed then some text else none
  position :=
    position

end Token

/-- The texts of tokens, separated by single spaces. -/
def joinedText (tokens : List Token) : String :=
  " ".intercalate (tokens.map Token.text)

end StackScript
