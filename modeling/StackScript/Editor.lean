import StackScript.Editor.Assist
import StackScript.Editor.Coordinates

namespace StackScript

/-!
# The language server

An editor tells the server which documents it opens, changes and closes.  The texts of documents are
kept by a workspace, which is no part of the server: the workspace hears of an event first, and the
server asks it for a text whenever it needs one.  What the server keeps is an index for each
document.  Opening or changing a document indexes its text and publishes the diagnostics; closing it
drops the index and clears the diagnostics.  Hovering reads the index and the text in the workspace,
completion and outline read the index alone.
-/

/-- What an editor tells about a document; a change comes with the whole new text. -/
inductive DocumentEvent where
  | opened (uri text : String)
  | changed (uri text : String)
  | closed (uri : String)
  deriving Repr, DecidableEq

/-- The texts that the workspace gives back for the identifiers of documents. -/
abbrev Workspace :=
  String → String

/-- Diagnostics sent to the editor for one document. -/
structure Publication where
  uri : String
  diagnostics : List Diagnostic
  deriving Repr, DecidableEq

/-- The indexes of documents by their identifiers. -/
structure Editor where
  indexes : List (String × Index)

namespace Editor

/-- The server without indexes. -/
def empty : Editor where
  indexes :=
    []

/-- The index of a document. -/
def index? (editor : Editor) (uri : String) : Option Index :=
  editor.indexes.lookup uri

/-- Drop the index of a document. -/
def forget (editor : Editor) (uri : String) : Editor where
  indexes :=
    editor.indexes.filter (·.1 ≠ uri)

/-- Index the text that the workspace has for a document, and publish its diagnostics. -/
def reindex (editor : Editor) (workspace : Workspace) (uri : String) : Editor × Publication :=
  let index := Index.ofText (workspace uri)
  (⟨(uri, index) :: (editor.forget uri).indexes⟩, ⟨uri, Diagnostic.ofIndex index⟩)

/-- Drop the index of a document and clear its diagnostics. -/
def close (editor : Editor) (uri : String) : Editor × Publication :=
  (editor.forget uri, ⟨uri, []⟩)

/-- Take in an event; the text comes from the workspace and not from the event. -/
def handle
    (editor : Editor)
    (workspace : Workspace) :
    DocumentEvent → Editor × Publication
  | .opened uri _ | .changed uri _ =>
      editor.reindex workspace uri
  | .closed uri =>
      editor.close uri

/-- The identifiers of the documents that have an index, in alphabetical order. -/
def uris (editor : Editor) : List String :=
  (editor.indexes.map Prod.fst).mergeSort fun left right => !(right < left)

/-- What is shown at a place of a document, whose text is asked for only if it has an index. -/
def hover
    (editor : Editor)
    (workspace : Workspace)
    (uri : String)
    (place : Coordinates) :
    Except PlaceFault (Option String) :=
  match editor.index? uri with
  | none =>
      .ok none
  | some index =>
      (Word.atPlace (workspace uri) place.line place.character).map fun word =>
        word.bind (Assist.hoverText? index)

/-- What can be inserted in a document. -/
def completions (editor : Editor) (uri : String) : List Assist.Completion :=
  Assist.completions (editor.index? uri)

/-- The outline of a document. -/
def outline (editor : Editor) (uri : String) : Option (List Assist.OutlineEntry) :=
  (editor.index? uri).map Assist.outline

end Editor

end StackScript
