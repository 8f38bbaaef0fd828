import StackScript.CommandLine.FileTree
import StackScript.CommandLine.Outcome
import StackScript.Repl

namespace StackScript

/-!
# The interpreter command

The command runs files, then source text given on the command line, all in one session.  The first
error ends it.  Without anything to run, or on request, it goes on with the interactive loop.
-/

namespace RunCommand

/-- The name of the command. -/
def name : String :=
  "frothy"

/-- How the command is used. -/
def usage : String :=
  "Usage: frothy [OPTIONS] [FILES]..."

/-- The options of the command. -/
def options : List OptionSpec :=
  [⟨"--command", some 'c', .value⟩,
    ⟨"--repl", none, .flag⟩,
    ⟨"--strict", none, .flag⟩,
    ⟨"--max-depth", none, .value⟩,
    ⟨"--verbose", some 'v', .flag⟩,
    ⟨"--version", none, .flag⟩,
    ⟨"--help", none, .flag⟩]

/-- The text that explains the command. -/
def help : String :=
  String.join
    [usage, "\n\n",
      "  Run Frothy FILES, then any --command sources, in one interpreter.\n\n",
      "Options:\n",
      "  -c, --command TEXT         Execute Frothy code from the command line.\n",
      "  --repl                     Start the REPL after running files and commands.\n",
      "  --strict                   Fail when values are left on the stack at end of\n",
      "                             program.\n",
      "  --max-depth INTEGER RANGE  Maximum nested call depth.  [x>=1]\n",
      "  -v, --verbose              Increase log verbosity (-v info, -vv debug).\n",
      "  --version                  Show the version and exit.\n",
      "  --help                     Show this message and exit.\n"]

/-- The text that tells the version. -/
def versionText : String :=
  name ++ ", version " ++ Repl.version ++ "\n"

/-- Source text with the name under which it is reported. -/
structure Source where
  name : String
  text : String
  deriving Repr, DecidableEq

/-- What the command is asked to do. -/
structure Plan where
  files : List (String × List UInt8)
  commands : List String
  startsLoop : Bool
  strict : Bool
  maxDepth : Option Int
  verbosity : Verbosity

/-- The depth limit on the command line, which must be at least one. -/
def depthOf : Option String → Except UsageFault (Option Int)
  | none =>
      .ok none
  | some raw =>
      match Number.integer? raw with
      | none =>
          .error (.badValue "--max-depth" (Text.quoted raw ++ " is not a valid integer range."))
      | some depth =>
          if depth < 1 then
            .error (.badValue "--max-depth" (toString depth ++ " is not in the range x>=1."))
          else
            .ok (some depth)

/-- How the command ends on a faulty command line. -/
def refused (fault : UsageFault) : CommandOutcome :=
  CommandOutcome.refused name usage fault

/-- How the command ends on a path that names no file. -/
def refusedFile (path reason : String) : CommandOutcome :=
  refused (.badValue "[FILES]..." ("File " ++ Text.quoted path ++ reason))

/-- The content of the file at a path, or how the command ends without it. -/
def fileAt (lookup : FileLookup) (path : String) : Except CommandOutcome (List UInt8) :=
  if path.toList.contains '\x00' then
    .error (CommandOutcome.broken .nullInPath)
  else
    match lookup path with
    | none =>
        .error (refusedFile path " does not exist.")
    | some .folder =>
        .error (refusedFile path " is a directory.")
    | some (.file content) =>
        .ok content

/-- The files on the command line; the first that cannot be read ends the command. -/
def filesOf
    (lookup : FileLookup) :
    List String → Except CommandOutcome (List (String × List UInt8))
  | [] =>
      .ok []
  | path :: rest =>
      match fileAt lookup path with
      | .error outcome =>
          .error outcome
      | .ok content =>
          (filesOf lookup rest).map ((path, content) :: ·)

/-- The plan of a command line, or how the command ends without one. -/
def planOf (lookup : FileLookup) (arguments : Arguments) : Except CommandOutcome Plan :=
  match depthOf (arguments.lastOf? "--max-depth") with
  | .error fault =>
      .error (refused fault)
  | .ok maxDepth =>
      match filesOf lookup arguments.positional with
      | .error outcome =>
          .error outcome
      | .ok files =>
          .ok
            { files
              commands := arguments.valuesOf "--command"
              startsLoop := arguments.has "--repl"
              strict := arguments.has "--strict"
              maxDepth
              verbosity := Verbosity.ofCount (arguments.countOf "--verbose") }

/-- The source texts of files. -/
def fileSources : List (String × List UInt8) → Except Text.Utf8Fault (List Source)
  | [] =>
      .ok []
  | (path, content) :: rest =>
      match Session.sourceOf content with
      | .error fault =>
          .error fault
      | .ok text =>
          (fileSources rest).map (⟨path, text⟩ :: ·)

/-- The source texts given on the command line, numbered from one. -/
def commandSources (commands : List String) : List Source :=
  commands.zipIdx.map fun (text, index) =>
    ⟨"<command-" ++ toString (index + 1) ++ ">", text⟩

/-- Run programs until one fails. -/
def runSources (console : Console) : List Source → Console × Bool
  | [] =>
      (console, true)
  | source :: rest =>
      let announced := console.record (.started source.name)
      match announced.session.run source.text with
      | (session, .ok ()) =>
          runSources (announced.absorb session) rest
      | (session, .error error) =>
          ((announced.absorb session).report error source.name, false)

/-- What remains to be done when the command line is understood. -/
inductive Start where
  | ended (outcome : CommandOutcome)
  | running (console : Console) (sources : List Source) (startsLoop : Bool)

/-- Prepare to carry out a plan: start the session, then read all files. -/
def prepare (environment : Environment) (plan : Plan) : Start :=
  let options : SessionOptions :=
    { maxDepth := plan.maxDepth
      strict := if plan.strict then some true else none }
  match Session.depthLimit environment options with
  | .error refusal =>
      .ended (CommandOutcome.broken (.setting refusal))
  | .ok limit =>
      let session := Session.begin limit (options.strict.getD (Settings.strictStack environment))
      match fileSources plan.files with
      | .error fault =>
          .ended (CommandOutcome.broken (.undecodable fault))
      | .ok files =>
          let sources := files ++ commandSources plan.commands
          .running { session, verbosity := plan.verbosity } sources
            (sources.isEmpty || plan.startsLoop)

/-- Understand a command line. -/
def start (environment : Environment) (lookup : FileLookup) (words : List String) : Start :=
  match CommandLine.parse options words with
  | .error fault =>
      .ended (refused fault)
  | .ok arguments =>
      match CommandLine.informational? arguments ["--help", "--version"] with
      | some "--help" =>
          .ended (CommandOutcome.information help)
      | some _ =>
          .ended (CommandOutcome.information versionText)
      | none =>
          match planOf lookup arguments with
          | .error outcome =>
              .ended outcome
          | .ok plan =>
              prepare environment plan

/-- The outcome of a console at the end of a command. -/
def outcomeOf (console : Console) (exitCode : Nat) : CommandOutcome where
  exitCode :=
    exitCode
  out :=
    console.out
  err :=
    console.err

/-- Carry out the command on a command line and typed input. -/
def run
    (environment : Environment)
    (lookup : FileLookup)
    (words : List String)
    (input : String) :
    CommandOutcome :=
  match start environment lookup words with
  | .ended outcome =>
      outcome
  | .running console sources startsLoop =>
      match runSources console sources with
      | (after, false) =>
          outcomeOf after 1
      | (after, true) =>
          outcomeOf (if startsLoop then Repl.run after input else after) 0

end RunCommand

end StackScript
