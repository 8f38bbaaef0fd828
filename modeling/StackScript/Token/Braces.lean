import StackScript.Token

namespace StackScript

/-!
# Brace matching

Blocks are written between braces and may be nested.  A token list is balanced when its braces nest;
otherwise the first closing brace without a partner is to blame, and, if there is none, the last
opening brace that was never closed.
-/

/-- What is wrong with the braces of a token list. -/
inductive Imbalance where
  | stray (closer : Token)
  | unclosed (opener : Token)
  deriving DecidableEq

/-- Check braces against the openers still waiting, innermost first. -/
def imbalanceFrom (waiting : List Token) : List Token → Option Imbalance
  | [] =>
      waiting.head?.map .unclosed
  | token :: rest =>
      match token.lexeme, waiting with
      | .openBrace, _ =>
          imbalanceFrom (token :: waiting) rest
      | .closeBrace, [] =>
          some (.stray token)
      | .closeBrace, _ :: outer =>
          imbalanceFrom outer rest
      | _, _ =>
          imbalanceFrom waiting rest

/-- The imbalance of a token list, if its braces do not nest. -/
def imbalance? (tokens : List Token) : Option Imbalance :=
  imbalanceFrom [] tokens

/-- The tokens in front of the brace that closes a block with `depth` open inner blocks. -/
def captureFrom (depth : Nat) : List Token → Option (List Token)
  | [] =>
      none
  | token :: rest =>
      match token.lexeme, depth with
      | .openBrace, _ =>
          (captureFrom (depth + 1) rest).map (token :: ·)
      | .closeBrace, 0 =>
          some []
      | .closeBrace, outer + 1 =>
          (captureFrom outer rest).map (token :: ·)
      | _, _ =>
          (captureFrom depth rest).map (token :: ·)

/-- The body of the block whose opening brace stands directly in front of the tokens. -/
def capture? (tokens : List Token) : Option (List Token) :=
  captureFrom 0 tokens

end StackScript
