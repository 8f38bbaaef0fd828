import StackScript.Editor.Diagnostic
import StackScript.Editor.Word
import StackScript.Machine

namespace StackScript

/-!
# Hover, completion and symbols

What an editor shows about names: the language's own words with their signatures, and the names that
the document defines.
-/

namespace Assist

/-- The special forms and their signatures. -/
def formSignatures : List (String × String) :=
  [("fn", "\x7b body \x7d fn -> function"),
    ("call", "target call -> runs a function or builtin"),
    ("=", "name value = -> binds name")]

/-- The builtins and constants and their signatures. -/
def wordSignatures : List (String × String) :=
  (Builtin.all.map fun builtin => (builtin.name, builtin.signature)) ++
    Machine.constants.map fun (name, value) => (name, name ++ " -> " ++ value.inspect)

/-- What is shown about a definition. -/
def definitionText (definition : Definition) : String :=
  definition.name ++ " - " ++ definition.kind.label ++ " (defined at " ++
    toString (definition.line + 1) ++ ":" ++ toString (definition.column + 1) ++ ")"

/-- What is shown about a word: the language's own words come first. -/
def hoverText? (index : Index) (word : String) : Option String :=
  match formSignatures.lookup word, wordSignatures.lookup word with
  | some signature, _ =>
      some signature
  | none, some signature =>
      some signature
  | none, none =>
      (index.find? word).map definitionText

/-- What kind of thing a completion inserts. -/
inductive CompletionKind where
  | function
  | value
  | keyword
  deriving Repr, DecidableEq

/-- The number of a completion kind in the editor protocol. -/
def CompletionKind.code : CompletionKind → Nat
  | .function =>
      3
  | .value =>
      6
  | .keyword =>
      14

/-- A word that an editor offers to insert. -/
structure Completion where
  label : String
  kind : CompletionKind
  detail : String
  deriving Repr, DecidableEq

/-- The completions that every document has. -/
def commonCompletions : List Completion :=
  (formSignatures.map fun (name, signature) => ⟨name, .keyword, signature⟩) ++
    wordSignatures.map fun (name, signature) => ⟨name, .function, signature⟩

/-- The completion of a definition. -/
def definitionCompletion (definition : Definition) : Completion where
  label :=
    definition.name
  kind :=
    if definition.kind = .function then .function else .value
  detail :=
    definition.kind.label

/-- The completions of the names that a document defines. -/
def localCompletions (index : Index) : List Completion :=
  index.definitions.map definitionCompletion

/-- The completions in a document; a document without index has only the common ones. -/
def completions (index : Option Index) : List Completion :=
  commonCompletions ++ (index.map localCompletions).getD []

/-- A definition in the outline of a document. -/
structure OutlineEntry where
  name : String
  symbolKind : Nat
  detail : String
  range : Range
  selection : Range
  deriving Repr, DecidableEq

/-- The number of a kind of definition in the editor protocol. -/
def symbolCode : DefinitionKind → Nat
  | .function =>
      12
  | .value =>
      13
  | .block =>
      18

/-- The outline entry of a definition. -/
def outlineEntry (definition : Definition) : OutlineEntry :=
  let range := Range.onLine definition.line definition.column definition.name.length
  { name := definition.name
    symbolKind := symbolCode definition.kind
    detail := definition.kind.label
    range
    selection := range }

/-- The outline of a document. -/
def outline (index : Index) : List OutlineEntry :=
  index.definitions.map outlineEntry

end Assist

end StackScript
