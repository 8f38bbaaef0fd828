import StackScript.CommandLine.Run

namespace StackScript

/-!
# The program

The outer layer of the interpreter command: it looks at the files and variables that the command
line may refer to, shows what the console holds, and passes typed lines to the interactive loop.
-/

namespace Program

/-- The variables that settings are taken from. -/
def settingNames : List String :=
  [Settings.depthVariable, Settings.strictVariable, Settings.hostVariable, Settings.portVariable]

/-- The settings that the surroundings define. -/
def environment : IO Environment :=
  settingNames.filterMapM fun name => do
    let value ← IO.getEnv name
    return value.map fun text => (name, text)

/-- What a path leads to. -/
def entry? (path : String) : IO (Option FileEntry) := do
  try
    let place ← IO.FS.realPath path
    if ← place.isDir then
      return some .folder
    let content ← IO.FS.readBinFile place
    return some (.file content.toList)
  catch _ =>
    return none

/-- What the words of a command line lead to when they are taken for paths. -/
def files (words : List String) : IO FileLookup := do
  let entries ← words.filterMapM fun path => do
    let entry ← entry? path
    return entry.map fun found => (path, found)
  return fun path => entries.lookup path

/-- Write out what a console holds. -/
def flush (console : Console) : IO Console := do
  let stdout ← IO.getStdout
  let stderr ← IO.getStderr
  stdout.putStr console.out
  stdout.flush
  stderr.putStr console.err
  stderr.flush
  return { console with out := "", err := "" }

/-- Write out what the console of a loop holds. -/
def flushState (state : Repl.State) : IO Repl.State := do
  return { state with console := ← flush state.console }

/-- Pass typed lines to a loop until it ends. -/
partial def interact (state : Repl.State) : IO Unit := do
  let prompted ← flushState (Repl.showPrompt state)
  let stdin ← IO.getStdin
  let line ← stdin.getLine
  if line.isEmpty then
    discard (flushState (Repl.finish prompted))
  else
    let typed := (Text.inputLines (Text.normalizeNewlines line.toList)).map String.ofList
    let after ← flushState (typed.foldl Repl.feed prompted)
    if after.isRunning then
      interact after

/-- Write out how a command ended. -/
def conclude (outcome : CommandOutcome) : IO UInt32 := do
  let stderr ← IO.getStderr
  IO.print outcome.out
  stderr.putStr outcome.err
  match outcome.breakdown with
  | none =>
      pure ()
  | some breakdown =>
      stderr.putStrLn breakdown.message
  return outcome.exitCode.toUInt32

/-- Carry out the interpreter command. -/
def run (words : List String) : IO UInt32 := do
  match RunCommand.start (← environment) (← files words) words with
  | .ended outcome =>
      conclude outcome
  | .running console sources startsLoop =>
      let (after, succeeded) := RunCommand.runSources console sources
      let flushed ← flush after
      if succeeded && startsLoop then
        interact { console := flushed.write Repl.banner }
      return if succeeded then 0 else 1

end Program

end StackScript

/-- The entry point of the interpreter command. -/
def main (words : List String) : IO UInt32 :=
  StackScript.Program.run words
