import StackScript.CommandLine.Outcome
import StackScript.Server

namespace StackScript

/-!
# The server command

The command starts the request server at the address given by its options or by the settings.
-/

namespace ServeCommand

/-- The name of the command. -/
def name : String :=
  "frothy-repl-server"

/-- How the command is used. -/
def usage : String :=
  "Usage: frothy-repl-server [OPTIONS]"

/-- The options of the command. -/
def options : List OptionSpec :=
  [⟨"--host", none, .value⟩,
    ⟨"--port", none, .value⟩,
    ⟨"--help", none, .flag⟩]

/-- The text that explains the command. -/
def help : String :=
  String.join
    [usage, "\n\n",
      "Options:\n",
      "  --host TEXT     Address to bind (default FROTHY_REPL_HOST or 127.0.0.1).\n",
      "  --port INTEGER  Port to bind (default FROTHY_REPL_PORT or 8765).\n",
      "  --help          Show this message and exit.\n"]

/-- The port on the command line. -/
def portOf : Option String → Except UsageFault (Option Int)
  | none =>
      .ok none
  | some raw =>
      match Number.integer? raw with
      | some port =>
          .ok (some port)
      | none =>
          .error (.badValue "--port" (Text.quoted raw ++ " is not a valid integer."))

/-- A server to run, or the outcome of a command that runs none. -/
inductive Start where
  | ended (outcome : CommandOutcome)
  | serving (server : Server)

/-- Start the server of an understood command line. -/
def prepare (environment : Environment) (arguments : Arguments) : Start :=
  let refuse := fun fault => Start.ended (CommandOutcome.refused name usage fault)
  match portOf (arguments.lastOf? "--port") with
  | .error fault =>
      refuse fault
  | .ok port =>
      if arguments.positional.isEmpty then
        match Server.start environment (arguments.lastOf? "--host") port with
        | .error refusal =>
            .ended (CommandOutcome.broken (.setting refusal))
        | .ok server =>
            .serving server
      else
        refuse (.extraArguments arguments.positional)

/-- Understand a command line. -/
def start (environment : Environment) (words : List String) : Start :=
  match CommandLine.parse options words with
  | .error fault =>
      .ended (CommandOutcome.refused name usage fault)
  | .ok arguments =>
      if arguments.has "--help" then
        .ended (CommandOutcome.information help)
      else
        prepare environment arguments

end ServeCommand

end StackScript
