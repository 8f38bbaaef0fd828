import StackScript.Number.Spelling
import StackScript.Text.Quoted

namespace StackScript

/-!
# JSON values

Integers and floating-point numbers are different values, and the members of an object keep the
order in which their names were first written.  Texts are kept as code points, because a JSON string
can name half of a surrogate pair.  A value has two written forms: the JSON text with ASCII
characters only, and the inspected form in which unknown values are shown in messages.
-/

/-- A JSON value. -/
inductive Json where
  | null
  | bool (value : Bool)
  | integer (value : Int)
  | float (value : Float)
  | string (value : Text.Codes)
  | array (elements : List Json)
  | object (members : List (Text.Codes × Json))

namespace Json

/-- The members of an object. -/
abbrev Members :=
  List (Text.Codes × Json)

/-- A text of characters as a value. -/
def text (value : String) : Json :=
  .string (Text.codesOf value)

/-- An object whose members are named in characters. -/
def record (fields : List (String × Json)) : Json :=
  .object (fields.map fun field => (Text.codesOf field.1, field.2))

/-- Whether a value is the given text. -/
def isText (value : Json) (wanted : String) : Bool :=
  match value with
  | .string codes =>
      codes == Text.codesOf wanted
  | _ =>
      false

/-- Set a member where its name stands, or at the end. -/
def insertMember (name : Text.Codes) (value : Json) : Members → Members
  | [] =>
      [(name, value)]
  | (known, old) :: rest =>
      if known = name then
        (known, value) :: rest
      else
        (known, old) :: insertMember name value rest

/-- The object with the given members; of equal names the last value counts. -/
def ofMembers (members : Members) : Json :=
  .object (members.foldl (fun known member => insertMember member.1 member.2 known) [])

/-- The member of an object with a given name. -/
def member? (value : Json) (name : String) : Option Json :=
  match value with
  | .object members =>
      members.lookup (Text.codesOf name)
  | _ =>
      none

/-- Two values separated by a comma and a space. -/
def commaSeparated (texts : List String) : String :=
  ", ".intercalate texts

mutual

/-- A value as it is shown in messages. -/
def inspect : Json → String
  | .null =>
      "None"
  | .bool true =>
      "True"
  | .bool false =>
      "False"
  | .integer value =>
      toString value
  | .float value =>
      Number.spelling value
  | .string value =>
      Text.quotedCodes value
  | .array elements =>
      "[" ++ commaSeparated (inspectAll elements) ++ "]"
  | .object members =>
      "\x7b" ++ commaSeparated (inspectMembers members) ++ "\x7d"

/-- The shown forms of several values. -/
def inspectAll : List Json → List String
  | [] =>
      []
  | value :: rest =>
      value.inspect :: inspectAll rest

/-- The shown forms of the members of an object. -/
def inspectMembers : Members → List String
  | [] =>
      []
  | (name, value) :: rest =>
      (Text.quotedCodes name ++ ": " ++ value.inspect) :: inspectMembers rest

end

/-- A value in words: texts as they are, all others as they are shown. -/
def plainText : Json → Text.Codes
  | .string value =>
      value
  | other =>
      Text.codesOf other.inspect

/-- A code unit as a four-digit escape. -/
def unitEscape (unit : Nat) : List Char :=
  '\\' :: 'u' :: Text.hexDigits 4 unit

/-- One code of a JSON string; codes outside ASCII become UTF-16 escapes. -/
def escapedCode (code : Nat) : List Char :=
  if code = 0x22 ∨ code = 0x5C then
    ['\\', Char.ofNat code]
  else if code = 0x0A then
    ['\\', 'n']
  else if code = 0x0D then
    ['\\', 'r']
  else if code = 0x09 then
    ['\\', 't']
  else if code = 0x0C then
    ['\\', 'f']
  else if code = 0x08 then
    ['\\', 'b']
  else if 0x20 ≤ code ∧ code ≤ 0x7E then
    [Char.ofNat code]
  else if code < 0x10000 then
    unitEscape code
  else
    unitEscape (0xD800 + (code - 0x10000) / 0x400) ++
      unitEscape (0xDC00 + (code - 0x10000) % 0x400)

/-- Code points as a JSON string. -/
def renderString (codes : Text.Codes) : String :=
  String.ofList ('"' :: (codes.flatMap escapedCode ++ ['"']))

/-- A floating-point number in JSON text. -/
def renderFloat (value : Float) : String :=
  if value.isNaN then
    "NaN"
  else if value.isInf then
    if value < 0 then "-Infinity" else "Infinity"
  else
    Number.spelling value

mutual

/-- A value as JSON text. -/
def render : Json → String
  | .null =>
      "null"
  | .bool true =>
      "true"
  | .bool false =>
      "false"
  | .integer value =>
      toString value
  | .float value =>
      renderFloat value
  | .string value =>
      renderString value
  | .array elements =>
      "[" ++ commaSeparated (renderAll elements) ++ "]"
  | .object members =>
      "\x7b" ++ commaSeparated (renderMembers members) ++ "\x7d"

/-- The JSON texts of several values. -/
def renderAll : List Json → List String
  | [] =>
      []
  | value :: rest =>
      value.render :: renderAll rest

/-- The JSON texts of the members of an object. -/
def renderMembers : Members → List String
  | [] =>
      []
  | (name, value) :: rest =>
      (renderString name ++ ": " ++ value.render) :: renderMembers rest

end

end Json

end StackScript
