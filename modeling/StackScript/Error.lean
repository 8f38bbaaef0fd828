import StackScript.Token.Lexer
import StackScript.Value

namespace StackScript

/-!
# Errors

An error has a cause and, once it has passed through the evaluator, the token at which it arose.
The wording of every cause is in one place, and so is the kind under which it is reported.
-/

/-- The kinds under which errors are reported. -/
inductive ErrorKind where
  | general
  | lexical
  | unbalanced
  | underflow
  | unbound
  | typeMismatch
  | notCallable
  | arithmetic
  | recursion
  | notEmpty
  | missingForm
  | namelessSymbol
  deriving Repr, DecidableEq

namespace ErrorKind

/-- The name of a kind in reports. -/
def label : ErrorKind → String
  | .general =>
      "FrothyError"
  | .lexical =>
      "LexError"
  | .unbalanced =>
      "UnbalancedBlock"
  | .underflow =>
      "StackUnderflow"
  | .unbound =>
      "UnboundName"
  | .typeMismatch =>
      "TypeMismatch"
  | .notCallable =>
      "NotCallable"
  | .arithmetic =>
      "ArithmeticError"
  | .recursion =>
      "RecursionLimit"
  | .notEmpty =>
      "StackNotEmpty"
  | .missingForm =>
      "MissingForm"
  | .namelessSymbol =>
      "NamelessSymbol"

/-- The kinds that a report may name. -/
def reportable : List ErrorKind :=
  [.general, .lexical, .unbalanced, .underflow, .unbound, .typeMismatch, .notCallable, .arithmetic,
    .recursion, .notEmpty]

/-- The kind with a given name. -/
def ofLabel? (label : String) : Option ErrorKind :=
  reportable.find? fun kind => kind.label == label

end ErrorKind

/-- Why an operation failed. -/
inductive Cause where
  /-- The source holds a run of characters that is no lexeme. -/
  | unreadable (fault : LexFault)
  /-- A closing brace has no opening brace. -/
  | strayBrace
  /-- A block is never closed. -/
  | unclosedBlock
  /-- An operation needs more operands than the stack holds. -/
  | underflow (expected held : Int)
  /-- A name is looked up that nothing is bound to. -/
  | unbound (name : String)
  /-- An operand of a numeric builtin is no number. -/
  | notNumber (operation : String) (operand : Value)
  /-- Only a block can become a function. -/
  | notBlock (operand : Value)
  /-- Only a name can be bound. -/
  | notName (operand : Value)
  /-- A binding was asked for under something that is not a name. -/
  | namelessBinding (shown : String)
  /-- A name cannot be bound to another name. -/
  | unresolvedBinding (name target : String)
  /-- Only functions and builtins can be called. -/
  | notCallable (operand : Value)
  | divisionByZero
  | moduloByZero
  /-- Calls are nested deeper than the limit. -/
  | tooDeep (limit : Int)
  /-- Calls are nested deeper than the host can hold. -/
  | hostExhausted
  /-- The host itself gives out; only a nested call makes an error of the program out of this. -/
  | hostFailure
  /-- A program left values on the stack. -/
  | leftovers (values : List Value)
  /-- A token is of a kind that the language does not know. -/
  | unknownKind (kind : String)
  /-- A reserved token names no special form. -/
  | missingForm (text : String)
  /-- A symbol built by hand carries no name. -/
  | namelessSymbol
  /-- A failure with a wording of its own. -/
  | reported (kind : ErrorKind) (message : String)
  deriving DecidableEq

namespace LexFault

/-- What is said in front of an unreadable run. -/
def lead : String :=
  "unrecognised input '"

/-- What is said behind an unreadable run. -/
def trail (fault : LexFault) : String :=
  "' at " ++ toString fault.position.line ++ ":" ++ toString fault.position.column

end LexFault

namespace Cause

/-- The kind of a cause. -/
def kind : Cause → ErrorKind
  | .unreadable _ =>
      .lexical
  | .strayBrace | .unclosedBlock =>
      .unbalanced
  | .underflow _ _ =>
      .underflow
  | .unbound _ =>
      .unbound
  | .notNumber _ _ | .notBlock _ | .notName _ | .namelessBinding _ | .unresolvedBinding _ _ =>
      .typeMismatch
  | .notCallable _ =>
      .notCallable
  | .divisionByZero | .moduloByZero =>
      .arithmetic
  | .tooDeep _ | .hostExhausted | .hostFailure =>
      .recursion
  | .leftovers _ =>
      .notEmpty
  | .unknownKind _ =>
      .general
  | .missingForm _ =>
      .missingForm
  | .namelessSymbol =>
      .namelessSymbol
  | .reported kind _ =>
      kind

/-- The wording of leftover values. -/
def leftoverText (values : List Value) : String :=
  toString values.length ++ " value(s) left on the stack: " ++ Value.displayAll values

/-- The wording of a cause. -/
def message : Cause → String
  | .unreadable fault =>
      LexFault.lead ++ fault.text ++ fault.trail
  | .strayBrace =>
      "unexpected '\x7d' without a matching '\x7b'"
  | .unclosedBlock =>
      "expected '\x7d' to close block"
  | .underflow expected held =>
      "expected " ++ toString expected ++ " operand(s) but the stack holds " ++ toString held
  | .unbound name =>
      "undefined variable '" ++ name ++ "'"
  | .notNumber operation operand =>
      "all arguments to " ++ operation ++ " must be numbers, got '" ++ operand.display ++ "'"
  | .notBlock operand =>
      "fn expects a block but got '" ++ operand.display ++ "'"
  | .notName operand =>
      "= expects a name to bind but got '" ++ operand.display ++ "'"
  | .namelessBinding shown =>
      "cannot bind " ++ shown ++ ": names must be strings"
  | .unresolvedBinding name target =>
      "cannot bind '" ++ name ++ "' to the unresolved name '" ++ target ++ "'"
  | .notCallable operand =>
      "value '" ++ operand.display ++ "' is not callable"
  | .divisionByZero =>
      "division by zero"
  | .moduloByZero =>
      "modulo by zero"
  | .tooDeep limit =>
      "maximum call depth of " ++ toString limit ++ " exceeded"
  | .hostExhausted =>
      "host recursion limit exceeded"
  | .hostFailure =>
      "maximum recursion depth exceeded"
  | .leftovers values =>
      leftoverText values
  | .unknownKind kind =>
      "unknown token kind " ++ Text.quoted kind
  | .missingForm text =>
      Text.quoted text
  | .namelessSymbol =>
      "a symbol must carry a name"
  | .reported _ message =>
      message

end Cause

/-- A cause and the token at which it arose, if that is known. -/
structure Error where
  cause : Cause
  token : Option Token
  deriving DecidableEq

namespace Error

/-- The kind of an error. -/
def kind (error : Error) : ErrorKind :=
  error.cause.kind

/-- The wording of an error without its place. -/
def message (error : Error) : String :=
  error.cause.message

/-- Line and column of an error, if they are known. -/
def position? (error : Error) : Option (Int × Int) :=
  match error.cause with
  | .unreadable fault =>
      some (fault.position.line, fault.position.column)
  | _ =>
      error.token.map fun token => (token.position.line, token.position.column)

/-- The wording of an error with its place. -/
def text (error : Error) : String :=
  match error.cause, error.token with
  | .unreadable _, _ | _, none =>
      error.message
  | _, some token =>
      error.message ++ " (at " ++ toString token.position.line ++ ":" ++
        toString token.position.column ++ " near '" ++ token.text ++ "')"

/-- Report an error of a named source on one line. -/
def report (error : Error) (source : String) : String :=
  match error.position? with
  | none =>
      "error[" ++ error.kind.label ++ "] in " ++ source ++ ": " ++ error.message
  | some (line, column) =>
      "error[" ++ error.kind.label ++ "] at " ++ source ++ ":" ++ toString line ++ ":" ++
        toString column ++ ": " ++ error.message

/-- Whether an error only says that a block has not been closed yet. -/
def isIncomplete (error : Error) : Bool :=
  error.kind == .unbalanced &&
    error.token.any fun token => token.lexeme == .openBrace

/-- Attach a token to a cause that has none yet. -/
def attach (error : Error) (token : Token) : Error where
  cause :=
    error.cause
  token :=
    error.token.or (some token)

/--
An error as the call passes it on in which it arose.  A failure of the host becomes one of the
program here, and has no token until then: any that it was given on the way is dropped.
-/
def caught (error : Error) : Error :=
  match error.cause with
  | .hostFailure =>
      ⟨.hostExhausted, none⟩
  | _ =>
      error

/-- An error that arose at a token. -/
def atToken (token : Token) (cause : Cause) : Error where
  cause :=
    cause
  token :=
    some token

end Error

/-- The error that an unreadable run is reported as. -/
def LexFault.toError (fault : LexFault) : Error where
  cause :=
    .unreadable fault
  token :=
    none

end StackScript
