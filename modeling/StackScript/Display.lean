import StackScript.Value

namespace StackScript

/-!
# Showing a stack

A stack is shown bottom first behind its size: on one line if that fits the width, and otherwise
with one value per line.  Colours depend on the kind of value, take no room, and never change the
layout.
-/

/-- How a stack is shown. -/
structure DisplayOptions where
  /-- The most visible characters of a single line. -/
  width : Int := 80
  /-- Whether the meaning of the colours is explained first. -/
  legend : Bool := false
  color : Bool := true
  deriving Repr, DecidableEq

namespace DisplayOptions

/-- The options for output that shows no colours. -/
def plain : DisplayOptions where
  color :=
    false

end DisplayOptions

namespace Display

/-- The terminal code that ends a colour. -/
def resetCode : String :=
  "\x1b[0m"

/-- The terminal code that begins a colour. -/
def colorCode (digits : String) : String :=
  "\x1b[" ++ digits ++ "m"

/-- The colour of a value; texts from outside the language have none. -/
def colorOf? : Value → Option String
  | .number _ =>
      some (colorCode "97")
  | .name _ =>
      some (colorCode "94")
  | .function _ =>
      some (colorCode "92")
  | .builtin _ =>
      some (colorCode "95")
  | .block _ =>
      some (colorCode "90")
  | .text _ =>
      none

/-- Enclose a text in a colour. -/
def painted (color text : String) : String :=
  color ++ text ++ resetCode

/-- A value in its colour, if colours are shown. -/
def colorized (options : DisplayOptions) (value : Value) : String :=
  match options.color, colorOf? value with
  | true, some color =>
      painted color value.display
  | _, _ =>
      value.display

/-- The line that explains the colours. -/
def legend : String :=
  let items :=
    [painted (colorCode "97") "Number",
      painted (colorCode "94") "Name",
      painted (colorCode "90") "Block",
      painted (colorCode "92") "Function",
      painted (colorCode "95") "Builtin"]
  "Color Key: " ++ " | ".intercalate items ++ "\n"

/-- The size of a stack as it is shown. -/
def header (values : List Value) : String :=
  "<" ++ toString values.length ++ ">"

/-- The visible characters of a stack on one line. -/
def lineWidth (values : List Value) : Nat :=
  values.foldr (fun value width => value.display.length + 1 + width) (header values).length

/-- A stack without the legend. -/
def body (options : DisplayOptions) (values : List Value) : String :=
  let shown := values.map (colorized options)
  if values.isEmpty then
    header values
  else if lineWidth values ≤ options.width then
    header values ++ " " ++ " ".intercalate shown
  else
    header values ++ "\n" ++ "\n".intercalate (shown.map ("  " ++ ·))

/-- Show a stack. -/
def stack (options : DisplayOptions) (values : List Value) : String :=
  (if options.legend && options.color then legend else "") ++ body options values

end Display

end StackScript
