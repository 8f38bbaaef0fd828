import StackScript.Error
import StackScript.Token.Braces

namespace StackScript

/-!
# Instructions

A token list is read as a list of instructions before it runs.  A block in braces becomes one
instruction that pushes it unevaluated.  Whatever cannot be carried out becomes an instruction that
fails when it is reached, so that everything in front of it still runs.
-/

/-- The special forms: making a function, calling, and binding. -/
inductive Form where
  | makeFunction
  | call
  | assign
  deriving Repr, DecidableEq

namespace Form

/-- The special form with a given spelling. -/
def ofText? (text : String) : Option Form :=
  if text = "fn" then
    some .makeFunction
  else if text = "call" then
    some .call
  else if text = "=" then
    some .assign
  else
    none

end Form

/-- One step of a program. -/
inductive Instruction where
  | push (value : Value)
  | operate (name : String) (token : Token)
  | form (special : Form) (token : Token)
  | fail (error : Error)
  deriving DecidableEq

namespace Instruction

/-- The instruction of a symbol, which must carry a name. -/
def ofSymbol (token : Token) : Instruction :=
  match token.name with
  | some name =>
      .push (.name name)
  | none =>
      .fail (Error.atToken token .namelessSymbol)

/-- The instruction of a token that is no brace; an operator without a name is called `None`. -/
def ofToken (token : Token) : Instruction :=
  match token.lexeme with
  | .number value =>
      .push (.number value)
  | .symbol =>
      ofSymbol token
  | .operator =>
      .operate (token.name.getD "None") token
  | .reserved | .assign =>
      match Form.ofText? token.text with
      | some special =>
          .form special token
      | none =>
          .fail (Error.atToken token (.missingForm token.text))
  | .openBrace =>
      .fail (Error.atToken token .unclosedBlock)
  | .closeBrace =>
      .fail (Error.atToken token .strayBrace)
  | .unknown kind =>
      .fail (Error.atToken token (.unknownKind kind))

/-- What happens where a token list ends: nothing, or the fault that ended it. -/
def atEnd (fault : Option LexFault) : List Instruction :=
  match fault with
  | none =>
      []
  | some unreadable =>
      [.fail unreadable.toError]

/-- The failure of a block that is not closed: the fault that cut it off, or else the brace. -/
def unclosed (fault : Option LexFault) (opener : Token) : Instruction :=
  match fault with
  | none =>
      .fail (Error.atToken opener .unclosedBlock)
  | some unreadable =>
      .fail unreadable.toError

/-- Read tokens as instructions, skipping those that belong to the block read last. -/
def ofTokensFrom (fault : Option LexFault) (skip : Nat) : List Token → List Instruction
  | [] =>
      atEnd fault
  | token :: rest =>
      match skip with
      | remaining + 1 =>
          ofTokensFrom fault remaining rest
      | 0 =>
          if token.lexeme = .openBrace then
            match capture? rest with
            | some body =>
                .push (.block body) :: ofTokensFrom fault (body.length + 1) rest
            | none =>
                [unclosed fault token]
          else
            ofToken token :: ofTokensFrom fault 0 rest

/-- The instructions of a token list. -/
def ofTokens (tokens : List Token) : List Instruction :=
  ofTokensFrom none 0 tokens

/-- The instructions of a source text, read as far as it can be. -/
def ofLexing (lexing : Lexing) : List Instruction :=
  ofTokensFrom lexing.fault 0 lexing.tokens

end Instruction

end StackScript
