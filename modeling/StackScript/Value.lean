import StackScript.Builtin
import StackScript.Number.Spelling
import StackScript.Text.Quoted
import StackScript.Token

namespace StackScript

/-!
# Values

What an operand stack or a table of bindings holds.  A name is pushed unresolved and looked up only
when an operation needs its value.  A block is an unevaluated token list, and a function is a block
that can be called.  A text is a value from outside the language; programs cannot make one.
-/

/-- A value of the language. -/
inductive Value where
  | number (value : Float)
  | name (symbol : String)
  | block (body : List Token)
  | function (body : List Token)
  | builtin (word : Builtin)
  | text (content : String)
  deriving DecidableEq

namespace Value

/-- A block written with its braces. -/
def blockText (body : List Token) : String :=
  if body.isEmpty then
    "\x7b \x7d"
  else
    "\x7b " ++ joinedText body ++ " \x7d"

/-- A value in words; numbers are spelled in full. -/
def plainText : Value → String
  | .number value =>
      Number.spelling value
  | .name symbol =>
      symbol
  | .block body =>
      blockText body
  | .function _ =>
      "<fn>"
  | .builtin word =>
      "<builtin-fn:" ++ word.name ++ ">"
  | .text content =>
      content

/-- A value as programs show it. -/
def display : Value → String
  | .number value =>
      Number.display value
  | other =>
      other.plainText

/-- A value with its constructor, as it is shown to developers. -/
def inspect : Value → String
  | .number value =>
      Number.spelling value
  | .name symbol =>
      "DeferredRef(" ++ Text.quoted symbol ++ ")"
  | .block body =>
      "Block(" ++ Text.quoted (blockText body) ++ ")"
  | .function body =>
      "Function(" ++ Text.quoted (blockText body) ++ ")"
  | .builtin word =>
      "Builtin(" ++ Text.quoted word.name ++ ")"
  | .text content =>
      Text.quoted content

/-- Values shown in a row. -/
def displayAll (values : List Value) : String :=
  " ".intercalate (values.map display)

/--
Equality of values as users see it: numbers by their numeric value, and blocks and functions by the
texts of their tokens.
-/
def same : Value → Value → Bool
  | .number left, .number right =>
      left == right
  | .name left, .name right =>
      left == right
  | .block left, .block right =>
      joinedText left == joinedText right
  | .function left, .function right =>
      joinedText left == joinedText right
  | .builtin left, .builtin right =>
      left == right
  | .text left, .text right =>
      left == right
  | _, _ =>
      false

/-- The first index whose value equals the given one; a value equal to none is its own first. -/
def firstSame (values : List Value) (value : Value) (index : Nat) : Nat :=
  (values.findIdx? (same value)).getD index

end Value

end StackScript
