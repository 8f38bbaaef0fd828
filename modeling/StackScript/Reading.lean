import StackScript.Error
import StackScript.Token.Braces

namespace StackScript

/-!
# Reading source text

Source text can be read at once, which also checks the nesting of its braces, or token by token.
Reading at once reports an unreadable run before it looks at braces; reading token by token meets
the run only when a token behind it is asked for.
-/

/-- Whether the braces of a token list nest. -/
def checkBalance (tokens : List Token) : Except Error Unit :=
  match imbalance? tokens with
  | some (.stray closer) =>
      .error (Error.atToken closer .strayBrace)
  | some (.unclosed opener) =>
      .error (Error.atToken opener .unclosedBlock)
  | none =>
      .ok ()

/-- Read a source text completely. -/
def read (source : String) : Except Error (List Token) :=
  match lex source with
  | ⟨_, some fault⟩ =>
      .error fault.toError
  | ⟨tokens, none⟩ =>
      (checkBalance tokens).map fun _ => tokens

namespace Lexing

/-- The texts of the first `count` tokens; nothing stands for the end of the text. -/
def request (lexing : Lexing) (count : Nat) : Except Error (List (Option String)) :=
  let texts := (lexing.tokens.take count).map fun token => some token.text
  if count ≤ lexing.tokens.length then
    .ok texts
  else
    match lexing.fault with
    | some fault =>
        .error fault.toError
    | none =>
        .ok (texts ++ [none])

end Lexing

end StackScript
