import StackScript.Value

namespace StackScript

/-!
# The journal

While programs run, notable events are recorded.  The command line shows them on request, each on a
line with its level and the part of the program that recorded it.
-/

/-- How important an event is. -/
inductive Level where
  | debug
  | info
  deriving Repr, DecidableEq

namespace Level

/-- The name of a level. -/
def label : Level → String
  | .debug =>
      "DEBUG"
  | .info =>
      "INFO"

end Level

/-- Something that happened while a program ran. -/
inductive Event where
  | bound (name : String) (value : Value)
  | called (body : List Token) (depth : Nat)
  | running (size : Nat)
  | discarded (values : List Value)
  | loaded (path : String)
  | started (source : String)
  deriving DecidableEq

namespace Event

/-- The level of an event. -/
def level : Event → Level
  | .bound _ _ | .called _ _ | .running _ =>
      .debug
  | .discarded _ | .loaded _ | .started _ =>
      .info

/-- The part of the program that records an event. -/
def origin : Event → String
  | .bound _ _ =>
      "frothy.evaluation.special_forms.assign_form"
  | .called _ _ =>
      "frothy.evaluation.apply"
  | .running _ | .discarded _ | .loaded _ =>
      "frothy.interpreter"
  | .started _ =>
      "frothy.cli"

/-- The wording of an event. -/
def message : Event → String
  | .bound name value =>
      "bind " ++ name ++ " = " ++ value.inspect
  | .called body depth =>
      "call " ++ (Value.function body).inspect ++ " at depth " ++ toString depth
  | .running size =>
      "running program (" ++ toString size ++ " chars)"
  | .discarded values =>
      "discarding " ++ toString values.length ++ " value(s) left on the stack: " ++
        Value.displayAll values
  | .loaded path =>
      "loaded " ++ path
  | .started source =>
      "running " ++ source

/-- The line that shows an event. -/
def line (event : Event) : String :=
  event.level.label ++ " " ++ event.origin ++ ": " ++ event.message ++ "\n"

end Event

/-- How much of the journal is shown. -/
inductive Verbosity where
  | quiet
  | informative
  | detailed
  deriving Repr, DecidableEq

namespace Verbosity

/-- The verbosity asked for by repeating an option. -/
def ofCount : Nat → Verbosity
  | 0 =>
      .quiet
  | 1 =>
      .informative
  | _ =>
      .detailed

/-- Whether events of a level are shown. -/
def shows (verbosity : Verbosity) (level : Level) : Bool :=
  match verbosity, level with
  | .quiet, _ =>
      false
  | .informative, .debug =>
      false
  | _, _ =>
      true

/-- The lines of the events that are shown. -/
def lines (verbosity : Verbosity) (events : List Event) : String :=
  String.join ((events.filter fun event => verbosity.shows event.level).map Event.line)

end Verbosity

end StackScript
