namespace StackScript.Text

/-!
# Terminal control sequences

An escape character, an opening bracket, parameters and a letter are a command to a terminal, such
as a change of colour, and are not shown.  Messages that are not written to a terminal are written
without such sequences.
-/

/-- Whether a character can be part of the parameters of a control sequence. -/
def isControlParameter (c : Char) : Bool :=
  c.isDigit || c == ';' || c == '?'

/-- The number of characters of the control sequence at the start of a text, if there is one. -/
def controlSize? : List Char → Option Nat
  | '\x1b' :: '[' :: rest =>
      let parameters := (rest.takeWhile isControlParameter).length
      if (rest.drop parameters).head?.any Char.isAlpha then
        some (parameters + 3)
      else
        none
  | _ =>
      none

/-- Leave out control sequences, skipping the characters that belong to the last one. -/
def dropControls (skip : Nat) : List Char → List Char
  | [] =>
      []
  | c :: rest =>
      match skip with
      | remaining + 1 =>
          dropControls remaining rest
      | 0 =>
          match controlSize? (c :: rest) with
          | some size =>
              dropControls (size - 1) rest
          | none =>
              c :: dropControls 0 rest

/-- A text without its control sequences. -/
def withoutControls (text : String) : String :=
  String.ofList (dropControls 0 text.toList)

end StackScript.Text
