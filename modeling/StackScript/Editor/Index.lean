import StackScript.Editor.Recovery
import StackScript.Token.Braces

namespace StackScript

/-!
# The index of a document

The index of a document tells, without running it, which names it binds at the top level, which text
cannot be read and which braces do not match.  To find the name that an assignment binds, the top
level is walked with a simulated stack of operands; blocks are skipped, and a call is taken to leave
one value.
-/

/-- What a definition binds its name to. -/
inductive DefinitionKind where
  | value
  | function
  | block
  deriving Repr, DecidableEq

namespace DefinitionKind

/-- The name of a kind of definition. -/
def label : DefinitionKind → String
  | .value =>
      "var"
  | .function =>
      "function"
  | .block =>
      "block"

end DefinitionKind

/-- A name bound at the top level; its place is counted from zero. -/
structure Definition where
  name : String
  kind : DefinitionKind
  line : Nat
  column : Nat
  deriving Repr, DecidableEq

/-- What is known about a document without running it. -/
structure Index where
  definitions : List Definition
  unreadable : List Issue
  unmatched : List Issue
  tokens : List Token

namespace Index

/-- The issue at a brace without a partner. -/
def braceIssue (message : String) (token : Token) : Issue where
  message :=
    message
  line :=
    (token.position.line - 1).toNat
  column :=
    (token.position.column - 1).toNat
  size :=
    1

/-- The issues of all braces without a partner, given the openers still waiting, innermost first. -/
def braceIssues (waiting : List Token) : List Token → List Issue
  | [] =>
      waiting.reverse.map (braceIssue "Unclosed '\x7b'")
  | token :: rest =>
      match token.lexeme, waiting with
      | .openBrace, _ =>
          braceIssues (token :: waiting) rest
      | .closeBrace, [] =>
          braceIssue "Unexpected '\x7d' without a matching '\x7b'" token :: braceIssues [] rest
      | .closeBrace, _ :: outer =>
          braceIssues outer rest
      | _, _ =>
          braceIssues waiting rest

/-- What the simulated stack knows about an operand. -/
inductive Operand where
  | name (token : Token)
  | value
  | block
  | function
  deriving DecidableEq

/-- The kind of a definition whose value is the given operand. -/
def Operand.definitionKind : Operand → DefinitionKind
  | .function =>
      .function
  | .block =>
      .block
  | _ =>
      .value

/-- Take an operand; an empty stack yields a value that nothing is known about. -/
def take : List Operand → Operand × List Operand
  | [] =>
      (.value, [])
  | top :: rest =>
      (top, rest)

/-- The number of tokens up to the end of a block with `depth` open inner blocks. -/
def blockSize (depth : Nat) : List Token → Nat
  | [] =>
      0
  | token :: rest =>
      match token.lexeme, depth with
      | .openBrace, _ =>
          blockSize (depth + 1) rest + 1
      | .closeBrace, 0 =>
          1
      | .closeBrace, outer + 1 =>
          blockSize outer rest + 1
      | _, _ =>
          blockSize depth rest + 1

/-- The definition that an assignment makes of its two operands, if the lower one is a name. -/
def definition? (lower upper : Operand) : Option Definition :=
  match lower with
  | .name token =>
      some
        { name := token.text
          kind := upper.definitionKind
          line := (token.position.line - 1).toNat
          column := (token.position.column - 1).toNat }
  | _ =>
      none

/-- The operands after a token at the top level that opens no block. -/
def simulate (operands : List Operand) (token : Token) : List Operand :=
  match token.lexeme with
  | .number _ =>
      .value :: operands
  | .symbol =>
      .name token :: operands
  | .operator =>
      .value :: (take (take operands).2).2
  | .reserved =>
      if token.text = "fn" then
        .function :: (take operands).2
      else if token.text = "call" then
        .value :: (take operands).2
      else
        operands
  | .assign =>
      (take (take operands).2).2
  | .openBrace =>
      .block :: operands
  | .closeBrace | .unknown _ =>
      operands

/-- All assignments to names at the top level, skipping the tokens of the block entered last. -/
def assignments (skip : Nat) (operands : List Operand) : List Token → List Definition
  | [] =>
      []
  | token :: rest =>
      match skip with
      | remaining + 1 =>
          assignments remaining operands rest
      | 0 =>
          let after := simulate operands token
          match token.lexeme with
          | .openBrace =>
              assignments (blockSize 0 rest) after rest
          | .assign =>
              let (upper, below) := take operands
              (definition? (take below).1 upper).toList ++ assignments 0 after rest
          | _ =>
              assignments 0 after rest

/-- Keep the first definition of every name. -/
def firstOfEach : List Definition → List Definition
  | [] =>
      []
  | definition :: rest =>
      definition :: (firstOfEach rest).filter fun later => later.name != definition.name

/-- The index of a document. -/
def ofText (text : String) : Index :=
  let (tokens, unreadable) := Recovery.lexTolerant text.toList
  { definitions := firstOfEach (assignments 0 [] tokens)
    unreadable
    unmatched := braceIssues [] tokens
    tokens }

/-- The definition of a name. -/
def find? (index : Index) (name : String) : Option Definition :=
  index.definitions.find? fun definition => definition.name == name

end Index

end StackScript
