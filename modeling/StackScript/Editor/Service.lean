import StackScript.Editor

namespace StackScript

/-!
# The language server at work

Events come in one after the other.  With each of them the workspace is brought up to date, whatever
it does for that, and then the server takes the event in and publishes diagnostics.  Questions are
answered between events.
-/

/-- How texts are kept: the workspace behind a history of events, the first event first. -/
abbrev TextKeeper :=
  List DocumentEvent → Workspace

/-- A server with the events that it has taken in and the diagnostics that it has published. -/
structure EditorService where
  editor : Editor
  history : List DocumentEvent
  published : List Publication

namespace EditorService

/-- A service that has taken in nothing. -/
def start : EditorService where
  editor :=
    Editor.empty
  history :=
    []
  published :=
    []

/-- Take in an event. -/
def attend
    (keeper : TextKeeper)
    (service : EditorService)
    (event : DocumentEvent) :
    EditorService :=
  let history := service.history ++ [event]
  let (editor, publication) := service.editor.handle (keeper history) event
  ⟨editor, history, service.published ++ [publication]⟩

/-- Take in events one after the other. -/
def attendAll (keeper : TextKeeper) (events : List DocumentEvent) : EditorService :=
  events.foldl (attend keeper) start

/-- What is shown at a place of a document. -/
def hover
    (keeper : TextKeeper)
    (service : EditorService)
    (uri : String)
    (place : Coordinates) :
    Except PlaceFault (Option String) :=
  service.editor.hover (keeper service.history) uri place

end EditorService

end StackScript
