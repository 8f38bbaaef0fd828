import StackScript.CommandLine.Usage
import StackScript.Settings
import StackScript.Text.Controls
import StackScript.Text.Lines
import StackScript.Text.Utf8

namespace StackScript

/-!
# How a command ends

A command ends with an exit code and with what it wrote.  Settings that are refused, paths that
cannot be looked up and files that are not UTF-8 end it before any program runs.
-/

/-- A failure that is not an error of the language or of the command line. -/
inductive Breakdown where
  | setting (refusal : SettingError)
  | undecodable (fault : Text.Utf8Fault)
  | nullInPath
  deriving Repr, DecidableEq

namespace Breakdown

/-- The wording of a breakdown. -/
def message : Breakdown → String
  | .setting refusal =>
      refusal.message
  | .undecodable fault =>
      fault.message
  | .nullInPath =>
      "embedded null byte"

end Breakdown

/-- How a command ended. -/
structure CommandOutcome where
  exitCode : Nat := 0
  out : String := ""
  err : String := ""
  breakdown : Option Breakdown := none
  deriving Repr, DecidableEq

namespace CommandOutcome

/-- How a command ended, with what it wrote read as lines of text. -/
def inLines (outcome : CommandOutcome) : CommandOutcome :=
  { outcome with
    out := String.ofList (Text.joinNewlines outcome.out.toList)
    err := String.ofList (Text.joinNewlines outcome.err.toList) }

/-- A command that only gives information. -/
def information (text : String) : CommandOutcome where
  out :=
    text

/-- A command whose line is refused. -/
def refused (name usage : String) (fault : UsageFault) : CommandOutcome where
  exitCode :=
    2
  err :=
    Text.withoutControls (fault.report name usage)

/-- A command that breaks down. -/
def broken (breakdown : Breakdown) : CommandOutcome where
  exitCode :=
    1
  breakdown :=
    some breakdown

end CommandOutcome

end StackScript
