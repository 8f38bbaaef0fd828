import StackScript.Number.Decimal
import StackScript.Text.Quoted

namespace StackScript

/-!
# Settings

Defaults are taken from environment variables.  A number that cannot be read, or a depth limit below
one, is refused with a message that names the variable.
-/

/-- The environment variables that are set. -/
abbrev Environment :=
  List (String × String)

/-- Why a setting is refused. -/
inductive SettingError where
  | notInteger (key raw : String)
  | depthBelowOne
  deriving Repr, DecidableEq

namespace Settings

/-- The variable with the call-depth limit. -/
def depthVariable : String :=
  "FROTHY_MAX_CALL_DEPTH"

/-- The variable that makes leftover values an error. -/
def strictVariable : String :=
  "FROTHY_STRICT_STACK"

/-- The variable with the address of the request server. -/
def hostVariable : String :=
  "FROTHY_REPL_HOST"

/-- The variable with the port of the request server. -/
def portVariable : String :=
  "FROTHY_REPL_PORT"

/-- The call-depth limit unless another is set. -/
def defaultDepth : Int :=
  100

/-- The server address unless another is set. -/
def defaultHost : String :=
  "127.0.0.1"

/-- The server port unless another is set. -/
def defaultPort : Int :=
  8765

end Settings

namespace SettingError

/-- The wording of a refusal. -/
def message : SettingError → String
  | .notInteger key raw =>
      key ++ " must be an integer, got " ++ Text.quoted raw
  | .depthBelowOne =>
      Settings.depthVariable ++ " must be at least 1"

end SettingError

namespace Settings

/-- The integer in a variable; a variable that is unset or blank gives the default. -/
def integer (environment : Environment) (key : String) (default : Int) :
    Except SettingError Int :=
  match environment.lookup key with
  | none =>
      .ok default
  | some raw =>
      if Text.isBlankText raw then
        .ok default
      else
        match Number.integer? (Text.trimmed raw) with
        | some value =>
            .ok value
        | none =>
            .error (.notInteger key raw)

/-- The words that switch a setting on. -/
def affirmative : List String :=
  ["1", "true", "yes", "on"]

/--
Whether a variable switches a setting on.

Case is ignored; the affirmative words have only ASCII letters, and no other character has one of
their letters as its lower case.
-/
def flag (environment : Environment) (key : String) : Bool :=
  match environment.lookup key with
  | none =>
      false
  | some raw =>
      affirmative.contains (String.ofList ((Text.trim raw.toList).map Char.toLower))

/-- The call-depth limit. -/
def maxCallDepth (environment : Environment) : Except SettingError Int :=
  match integer environment depthVariable defaultDepth with
  | .error refusal =>
      .error refusal
  | .ok depth =>
      if depth < 1 then
        .error .depthBelowOne
      else
        .ok depth

/-- Whether leftover values are an error. -/
def strictStack (environment : Environment) : Bool :=
  flag environment strictVariable

/-- The host of the request server; an empty setting counts as unset. -/
def host (environment : Environment) : String :=
  match environment.lookup hostVariable with
  | none | some "" =>
      defaultHost
  | some host =>
      host

/-- The address of the request server. -/
def address (environment : Environment) : Except SettingError (String × Int) :=
  match integer environment portVariable defaultPort with
  | .error refusal =>
      .error refusal
  | .ok port =>
      .ok (host environment, port)

end Settings

end StackScript
