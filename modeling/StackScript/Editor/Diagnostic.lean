import StackScript.Editor.Index

namespace StackScript

/-!
# Diagnostics

Every issue of an index is reported to the editor as an error with the range of characters that it
concerns: first the text that cannot be read, then the braces that do not match.
-/

/-- A stretch of a document; lines and characters are counted from zero. -/
structure Range where
  startLine : Nat
  startCharacter : Nat
  endLine : Nat
  endCharacter : Nat
  deriving Repr, DecidableEq

namespace Range

/-- The stretch of `size` characters from a place on one line. -/
def onLine (line column size : Nat) : Range where
  startLine :=
    line
  startCharacter :=
    column
  endLine :=
    line
  endCharacter :=
    column + size

end Range

/-- What an editor is told about a problem. -/
structure Diagnostic where
  range : Range
  message : String
  severity : Nat
  source : String
  code : String
  deriving Repr, DecidableEq

namespace Diagnostic

/-- The severity of an error. -/
def errorSeverity : Nat :=
  1

/-- Who reports the diagnostics. -/
def reporter : String :=
  "frothy-ls"

/-- The diagnostic of an issue. -/
def ofIssue (kind : ErrorKind) (issue : Issue) : Diagnostic where
  range :=
    Range.onLine issue.line issue.column issue.size
  message :=
    issue.message
  severity :=
    errorSeverity
  source :=
    reporter
  code :=
    kind.label

/-- The diagnostics of a document. -/
def ofIndex (index : Index) : List Diagnostic :=
  index.unreadable.map (ofIssue .lexical) ++ index.unmatched.map (ofIssue .unbalanced)

end Diagnostic

end StackScript
