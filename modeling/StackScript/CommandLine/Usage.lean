import StackScript.CommandLine.Similarity
import StackScript.Text.Quoted

namespace StackScript

/-!
# Options and usage errors

A command takes options and positional arguments in any order; two hyphens end the options.  A short
option may carry its value in the same word, and several short options may share a word.  Faults of
the whole line are found before any value is looked at.
-/

/-- Whether an option is followed by a value. -/
inductive OptionShape where
  | flag
  | value
  deriving Repr, DecidableEq

/-- An option of a command. -/
structure OptionSpec where
  long : String
  short : Option Char
  shape : OptionShape
  deriving Repr, DecidableEq

/-- An option that was given, with its value if it takes one. -/
structure Given where
  option : OptionSpec
  value : String
  deriving Repr, DecidableEq

/-- Why a command line is refused. -/
inductive UsageFault where
  | unknownOption (name : String) (similar : List String)
  | missingValue (name : String)
  | unwantedValue (name : String)
  | badValue (parameter reason : String)
  | extraArguments (arguments : List String)
  deriving Repr, DecidableEq

namespace UsageFault

/-- The hint that names similar options. -/
def hint : List String → String
  | [] =>
      ""
  | [only] =>
      " Did you mean " ++ only ++ "?"
  | several =>
      " (Possible options: " ++ ", ".intercalate several ++ ")"

/-- The wording of a fault. -/
def message : UsageFault → String
  | .unknownOption name similar =>
      "No such option: " ++ name ++ hint similar
  | .missingValue name =>
      "Option " ++ Text.quoted name ++ " requires an argument."
  | .unwantedValue name =>
      "Option " ++ Text.quoted name ++ " does not take a value."
  | .badValue parameter reason =>
      "Invalid value for '" ++ parameter ++ "': " ++ reason
  | .extraArguments arguments =>
      let noun := if arguments.length = 1 then "argument" else "arguments"
      "Got unexpected extra " ++ noun ++ " (" ++ " ".intercalate arguments ++ ")"

/-- Whether the usage of the command is shown with a fault. -/
def showsUsage : UsageFault → Bool
  | .missingValue _ | .unwantedValue _ =>
      false
  | _ =>
      true

/-- The report of a fault to a user of the command `name`. -/
def report (fault : UsageFault) (name usage : String) : String :=
  let intro := usage ++ "\nTry '" ++ name ++ " --help' for help.\n\n"
  (if fault.showsUsage then intro else "") ++ "Error: " ++ fault.message ++ "\n"

end UsageFault

/-- The options and positional arguments of a command line, in the order given. -/
structure Arguments where
  given : List Given := []
  positional : List String := []
  deriving Repr, DecidableEq

namespace Arguments

/-- Put an option in front. -/
def withOption (option : OptionSpec) (value : String) (arguments : Arguments) : Arguments :=
  { arguments with given := ⟨option, value⟩ :: arguments.given }

/-- Put a positional argument in front. -/
def withPositional (argument : String) (arguments : Arguments) : Arguments :=
  { arguments with positional := argument :: arguments.positional }

/-- Put several options in front. -/
def withOptions (given : List Given) (arguments : Arguments) : Arguments :=
  { arguments with given := given ++ arguments.given }

/-- The values given for an option, in order. -/
def valuesOf (arguments : Arguments) (long : String) : List String :=
  (arguments.given.filter fun given => given.option.long == long).map Given.value

/-- How often an option was given. -/
def countOf (arguments : Arguments) (long : String) : Nat :=
  (arguments.valuesOf long).length

/-- Whether an option was given. -/
def has (arguments : Arguments) (long : String) : Bool :=
  0 < arguments.countOf long

/-- The last value given for an option. -/
def lastOf? (arguments : Arguments) (long : String) : Option String :=
  (arguments.valuesOf long).getLast?

end Arguments

/-- What a word of options means: options complete in themselves, or one that awaits its value. -/
inductive OptionWord where
  | complete (given : List Given)
  | awaiting (given : List Given) (name : String) (option : OptionSpec)

namespace OptionWord

/-- Put an option in front. -/
def cons (given : Given) : OptionWord → OptionWord
  | .complete rest =>
      .complete (given :: rest)
  | .awaiting rest name option =>
      .awaiting (given :: rest) name option

end OptionWord

namespace CommandLine

/-- Split a word at its first equals sign. -/
def splitAtEquals : List Char → List Char × Option (List Char)
  | [] =>
      ([], none)
  | c :: rest =>
      if c = '=' then
        ([], some rest)
      else
        let (name, value) := splitAtEquals rest
        (c :: name, value)

/-- Read the letters of a word of short options. -/
def shortOptions (options : List OptionSpec) : List Char → Except UsageFault OptionWord
  | [] =>
      .ok (.complete [])
  | letter :: rest =>
      let name := String.ofList ['-', letter]
      match options.find? fun option => option.short == some letter with
      | none =>
          .error (.unknownOption name [])
      | some option =>
          match option.shape, rest with
          | .flag, _ =>
              (shortOptions options rest).map (OptionWord.cons ⟨option, ""⟩)
          | .value, [] =>
              .ok (.awaiting [] name option)
          | .value, value =>
              .ok (.complete [⟨option, String.ofList value⟩])

/-- Read a word that begins with a hyphen. -/
def optionWord (options : List OptionSpec) (word : List Char) : Except UsageFault OptionWord :=
  let (nameChars, value) := splitAtEquals word
  let name := String.ofList nameChars
  match options.find? fun option => option.long == name with
  | some option =>
      match option.shape, value with
      | .flag, none =>
          .ok (.complete [⟨option, ""⟩])
      | .flag, some _ =>
          .error (.unwantedValue name)
      | .value, none =>
          .ok (.awaiting [] name option)
      | .value, some given =>
          .ok (.complete [⟨option, String.ofList given⟩])
  | none =>
      match word with
      | '-' :: '-' :: _ =>
          .error (.unknownOption name (Similarity.closeWords name (options.map OptionSpec.long)))
      | _ =>
          shortOptions options (word.drop 1)

/-- Whether a word is read as options. -/
def isOptionWord : List Char → Bool
  | '-' :: _ :: _ =>
      true
  | _ =>
      false

/-- Read a command line; `awaited` is the option whose value comes next. -/
def parseFrom
    (options : List OptionSpec)
    (awaited : Option (String × OptionSpec)) :
    List String → Except UsageFault Arguments
  | [] =>
      match awaited with
      | none =>
          .ok {}
      | some (name, _) =>
          .error (.missingValue name)
  | word :: rest =>
      match awaited with
      | some (_, option) =>
          (parseFrom options none rest).map (Arguments.withOption option word)
      | none =>
          if word = "--" then
            .ok { positional := rest }
          else if isOptionWord word.toList then
            match optionWord options word.toList with
            | .error fault =>
                .error fault
            | .ok (.complete given) =>
                (parseFrom options none rest).map (Arguments.withOptions given)
            | .ok (.awaiting given name option) =>
                (parseFrom options (some (name, option)) rest).map (Arguments.withOptions given)
          else
            (parseFrom options none rest).map (Arguments.withPositional word)

/-- Read a command line. -/
def parse (options : List OptionSpec) (words : List String) : Except UsageFault Arguments :=
  parseFrom options none words

/-- The first of the given options that asks for information instead of work. -/
def informational? (arguments : Arguments) (longs : List String) : Option String :=
  (arguments.given.find? fun given => longs.contains given.option.long).map
    fun given => given.option.long

end CommandLine

end StackScript
