import StackScript.Console

namespace StackScript

/-!
# The interactive loop

Typed lines are collected until the braces of the collected text are closed, and are then evaluated
as one chunk.  Between chunks, blank lines are ignored and a quitting word ends the loop.  After
each chunk the stack is shown, unless it is empty.
-/

namespace Repl

/-- The version of the language. -/
def version : String :=
  "0.2.0"

/-- The line that opens a loop. -/
def banner : String :=
  "frothy " ++ version ++
    " - postfix stack language REPL; type 'exit' or Ctrl+D to quit.\n"

/-- The words that end a loop. -/
def quittingWords : List String :=
  ["quit", "exit"]

/-- The name of typed text in reports. -/
def sourceName : String :=
  "<repl>"

/-- A loop: its console, the text of the unfinished chunk, and whether it goes on. -/
structure State where
  console : Console
  pending : String := ""
  isRunning : Bool := true

/-- The prompt for the next line, behind the text of an unfinished chunk. -/
def prompt (pending : String) : String :=
  if pending = "" then
    "froth> "
  else
    "  ...> "

/-- Show the values that a chunk left on the stack. -/
def showStack (console : Console) (values : List Value) : Console :=
  if values.isEmpty then
    console
  else
    console.write (Display.stack DisplayOptions.plain values ++ "\n")

/-- Evaluate the collected text, unless a block in it is still open. -/
def evaluate (console : Console) (source : String) : State :=
  match console.session.eval source with
  | (session, .ok values) =>
      { console := showStack (console.absorb session) values }
  | (session, .error error) =>
      if error.isIncomplete then
        { console := { console with session }
          pending := source }
      else
        { console := (console.absorb session).report error sourceName }

/-- Take a typed line. -/
def feed (state : State) (line : String) : State :=
  if state.pending = "" ∧ Text.trimmed line ∈ quittingWords then
    { state with isRunning := false }
  else if state.pending = "" ∧ Text.isBlankText line then
    state
  else
    evaluate state.console (state.pending ++ line ++ "\n")

/-- Show the prompt. -/
def showPrompt (state : State) : State :=
  { state with console := state.console.write (prompt state.pending) }

/-- The end of the typed text ends the loop. -/
def finish (state : State) : State :=
  { state with
    console := state.console.write "\n"
    isRunning := false }

/-- Take typed lines until the loop ends. -/
def feedAll (state : State) : List String → State
  | [] =>
      finish (showPrompt state)
  | line :: rest =>
      let after := feed (showPrompt state) line
      if after.isRunning then
        feedAll after rest
      else
        after

/-- Run a loop on typed text. -/
def run (console : Console) (input : String) : Console :=
  let lines := (Text.inputLines (Text.normalizeNewlines input.toList)).map String.ofList
  (feedAll { console := console.write banner } lines).console

end Repl

end StackScript
