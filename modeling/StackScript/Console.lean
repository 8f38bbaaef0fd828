import StackScript.Display
import StackScript.Session
import StackScript.Text.Controls

namespace StackScript

/-!
# The console

A console shows what a session prints and reports.  Program output and answers go to one stream;
journal lines and errors go to the other, in the order in which they arise.
-/

/-- A session and the text written to the two output streams so far. -/
structure Console where
  session : Session
  verbosity : Verbosity
  out : String := ""
  err : String := ""

namespace Console

/-- Write to the output stream. -/
def write (console : Console) (text : String) : Console :=
  { console with out := console.out ++ text }

/-- Write to the error stream. -/
def writeError (console : Console) (text : String) : Console :=
  { console with err := console.err ++ text }

/-- Show what the session has printed and recorded since the last time. -/
def absorb (console : Console) (session : Session) : Console :=
  let machine := session.machine
  { console with
    session := { session with machine := { machine with output := "", journal := [] } }
    out := console.out ++ machine.output
    err := console.err ++ console.verbosity.lines machine.journal.reverse }

/-- Report an error of a named source. -/
def report (console : Console) (error : Error) (source : String) : Console :=
  console.writeError (Text.withoutControls (error.report source) ++ "\n")

/-- Record an event and show it. -/
def record (console : Console) (event : Event) : Console :=
  console.absorb (console.session.record event)

end Console

end StackScript
