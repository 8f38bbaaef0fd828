import Mathlib.Data.List.Induction
import StackScript.Editor.Service
import StackScript.Proofs.Entries

namespace StackScript

/-!
# Open documents

An editor opens, changes and closes documents in any order, and the server keeps an index for each
of them.  Whatever the order, it has an index for exactly the documents whose last event has given
them a text, and nothing of what was there before or of other documents.  So it answers as a server
does that has opened one document only.

The server takes each text from the workspace, and reads it there once more when it is asked what
stands at a place.  All that is required of the workspace is that it gives back the text that a
document has by the last event about it; for a document without a text it may answer anything.
-/

namespace DocumentEvent

/-- The document that an event is about. -/
def uri : DocumentEvent → String
  | .opened uri _ | .changed uri _ | .closed uri =>
      uri

/-- The text that an event gives to its document; a closed document has none. -/
def text? : DocumentEvent → Option String
  | .opened _ text | .changed _ text =>
      some text
  | .closed _ =>
      none

/-- The last event about a document. -/
def last? (history : List DocumentEvent) (uri : String) : Option DocumentEvent :=
  history.reverse.find? fun event => event.uri == uri

/-- The text that a document has by the last event about it. -/
def currentText? (history : List DocumentEvent) (uri : String) : Option String :=
  (last? history uri).bind text?

/-- An event decides about its own document and about no other. -/
theorem last?_concat
    (history : List DocumentEvent)
    (event : DocumentEvent)
    (uri : String) :
    last? (history ++ [event]) uri = if event.uri = uri then some event else last? history uri := by
  by_cases isOwn : event.uri = uri
  · simp [last?, isOwn]
  · simp [last?, isOwn]

theorem currentText?_concat
    (history : List DocumentEvent)
    (event : DocumentEvent)
    (uri : String) :
    currentText? (history ++ [event]) uri =
      if event.uri = uri then event.text? else currentText? history uri := by
  rw [currentText?, last?_concat]
  split
  · rfl
  · rfl

end DocumentEvent

open DocumentEvent (last? currentText?)

/-- A workspace gives back the text that a document has by the last event about it. -/
def TextKeeper.KeepsTexts (keeper : TextKeeper) : Prop :=
  ∀ history uri text, currentText? history uri = some text → keeper history uri = text

namespace Editor

section Indexes

variable {editor : Editor} {uri other : String}

theorem index?_forget_self
    (editor : Editor)
    (uri : String) :
    (editor.forget uri).index? uri = none :=
  Bindings.lookup_filter_self uri editor.indexes

/-- Dropping the index of a document keeps the others. -/
theorem index?_forget_of_ne
    (editor : Editor)
    (isOther : other ≠ uri) :
    (editor.forget uri).index? other = editor.index? other :=
  Bindings.lookup_filter_of_ne isOther editor.indexes

theorem index?_reindex_self
    (editor : Editor)
    (workspace : Workspace)
    (uri : String) :
    (editor.reindex workspace uri).1.index? uri = some (Index.ofText (workspace uri)) := by
  simp [reindex, index?]

/-- Indexing a document keeps the indexes of the others. -/
theorem index?_reindex_of_ne
    (editor : Editor)
    (workspace : Workspace)
    (isOther : other ≠ uri) :
    (editor.reindex workspace uri).1.index? other = editor.index? other := by
  have notOther : (other == uri) = false :=
    beq_eq_false_iff_ne.mpr isOther
  rw [← editor.index?_forget_of_ne isOther]
  simp [reindex, index?, List.lookup_cons, notOther]

/-- The documents that a server lists are those with an index. -/
theorem mem_uris_iff :
    uri ∈ editor.uris ↔ (editor.index? uri).isSome := by
  rw [uris, List.mem_mergeSort, index?, List.lookup_isSome_iff, List.mem_map]
  simp only [beq_iff_eq, eq_comm (a := uri)]

theorem nodup_uris_iff :
    editor.uris.Nodup ↔ (editor.indexes.map Prod.fst).Nodup :=
  (List.mergeSort_perm _ _).nodup_iff

theorem nodup_forget
    (unique : (editor.indexes.map Prod.fst).Nodup)
    (uri : String) :
    ((editor.forget uri).indexes.map Prod.fst).Nodup :=
  unique.sublist (List.filter_sublist.map Prod.fst)

theorem nodup_reindex
    (unique : (editor.indexes.map Prod.fst).Nodup)
    (workspace : Workspace)
    (uri : String) :
    ((editor.reindex workspace uri).1.indexes.map Prod.fst).Nodup := by
  refine List.nodup_cons.mpr ⟨?_, nodup_forget unique uri⟩
  intro member
  obtain ⟨entry, kept, isUri⟩ := List.mem_map.mp member
  have notUri := (List.mem_filter.mp kept).2
  simp [isUri] at notUri

end Indexes

/-- What a server publishes when it takes in an event. -/
def publicationOf (event : DocumentEvent) : Publication where
  uri :=
    event.uri
  diagnostics :=
    match event.text? with
    | some text =>
        Diagnostic.ofIndex (Index.ofText text)
    | none =>
        []

/-- What taking in an event makes of a server, and what it publishes. -/
structure TakesIn
    (editor : Editor)
    (event : DocumentEvent)
    (answer : Editor × Publication) : Prop where
  own :
    answer.1.index? event.uri = event.text?.map Index.ofText
  others :
    ∀ uri, uri ≠ event.uri → answer.1.index? uri = editor.index? uri
  published :
    answer.2 = publicationOf event
  unique :
    (editor.indexes.map Prod.fst).Nodup → (answer.1.indexes.map Prod.fst).Nodup

/-- Indexing the text that an event gives to a document takes the event in. -/
theorem reindex_takesIn
    (editor : Editor)
    {workspace : Workspace}
    {event : DocumentEvent}
    (given : event.text? = some (workspace event.uri)) :
    editor.TakesIn event (editor.reindex workspace event.uri) where
  own := by
    rw [given]
    exact editor.index?_reindex_self workspace event.uri
  others uri isOther :=
    editor.index?_reindex_of_ne workspace isOther
  published := by
    simp only [publicationOf, given]
    rfl
  unique unique :=
    nodup_reindex unique workspace event.uri

theorem close_takesIn
    (editor : Editor)
    (uri : String) :
    editor.TakesIn (.closed uri) (editor.close uri) where
  own :=
    editor.index?_forget_self uri
  others _ isOther :=
    editor.index?_forget_of_ne isOther
  published :=
    rfl
  unique unique :=
    nodup_forget unique uri

/-- An event is taken in if the workspace has the text that it gives. -/
theorem handle_takesIn
    (editor : Editor)
    {workspace : Workspace}
    {event : DocumentEvent}
    (kept : ∀ text, event.text? = some text → workspace event.uri = text) :
    editor.TakesIn event (editor.handle workspace event) := by
  cases event with
  | opened uri text | changed uri text =>
      apply editor.reindex_takesIn
      rw [kept text rfl]
      rfl
  | closed uri =>
      exact editor.close_takesIn uri

end Editor

namespace EditorService

/-- The diagnostics that were last published for a document. -/
def lastPublished? (service : EditorService) (uri : String) : Option (List Diagnostic) :=
  (service.published.reverse.find? fun publication => publication.uri == uri).map
    Publication.diagnostics

/-- A service that has what the last events say, and nothing else. -/
structure IsCurrent (service : EditorService) : Prop where
  indexes :
    ∀ uri, service.editor.index? uri = (currentText? service.history uri).map Index.ofText
  published :
    service.published = service.history.map Editor.publicationOf
  unique :
    (service.editor.indexes.map Prod.fst).Nodup

theorem isCurrent_start : start.IsCurrent where
  indexes _ :=
    rfl
  published :=
    rfl
  unique :=
    List.nodup_nil

section Keeper

variable {keeper : TextKeeper} {service : EditorService} {uri text : String}

/-- Taking in an event keeps a service current. -/
theorem IsCurrent.attend
    (current : service.IsCurrent)
    (keeps : keeper.KeepsTexts)
    (event : DocumentEvent) :
    (service.attend keeper event).IsCurrent := by
  have takes :
      service.editor.TakesIn event
        (service.editor.handle (keeper (service.history ++ [event])) event) := by
    refine service.editor.handle_takesIn fun text given => keeps _ _ _ ?_
    rw [DocumentEvent.currentText?_concat, if_pos rfl, given]
  constructor
  case indexes =>
    intro uri
    simp only [EditorService.attend, DocumentEvent.currentText?_concat]
    split
    · next isOwn =>
      rw [← isOwn]
      exact takes.own
    · next isOther =>
      exact (takes.others uri (Ne.symm isOther)).trans (current.indexes uri)
  case published =>
    simp only [EditorService.attend, current.published, takes.published, List.map_append,
      List.map_cons, List.map_nil]
  case unique =>
    exact takes.unique current.unique

/-- Whatever the events, a service stays current. -/
theorem isCurrent_attendAll
    (keeps : keeper.KeepsTexts)
    (events : List DocumentEvent) :
    (attendAll keeper events).IsCurrent := by
  have kept
      (service : EditorService)
      (current : service.IsCurrent) :
      (events.foldl (attend keeper) service).IsCurrent := by
    induction events generalizing service with
    | nil =>
        exact current
    | cons event rest inductionHypothesis =>
        exact inductionHypothesis (service.attend keeper event) (current.attend keeps event)
  exact kept start isCurrent_start

/-- The history of a service holds the events that it has taken in. -/
theorem history_attendAll
    (keeper : TextKeeper)
    (events : List DocumentEvent) :
    (attendAll keeper events).history = events := by
  have appended (service : EditorService) :
      (events.foldl (attend keeper) service).history = service.history ++ events := by
    induction events generalizing service with
    | nil =>
        exact (List.append_nil _).symm
    | cons event rest inductionHypothesis =>
        rw [List.foldl_cons, inductionHypothesis, List.append_cons]
        rfl
  exact appended start

/-- The diagnostics that were last published for a document are those of the last event about it. -/
theorem IsCurrent.lastPublished?_eq
    (current : service.IsCurrent)
    (uri : String) :
    service.lastPublished? uri =
      (last? service.history uri).map fun event => (Editor.publicationOf event).diagnostics := by
  simp only [lastPublished?, last?, current.published, ← List.map_reverse, List.find?_map,
    Option.map_map]
  rfl

/-- Whether two services give the same answers about a document. -/
structure AnswersAs
    (keeper : TextKeeper)
    (service other : EditorService)
    (uri : String) : Prop where
  hover :
    ∀ place, service.hover keeper uri place = other.hover keeper uri place
  completions :
    service.editor.completions uri = other.editor.completions uri
  outline :
    service.editor.outline uri = other.editor.outline uri

/-- Current services with the same text for a document give the same answers about it. -/
theorem IsCurrent.answersAs
    {other : EditorService}
    (current : service.IsCurrent)
    (otherCurrent : other.IsCurrent)
    (keeps : keeper.KeepsTexts)
    (same : currentText? service.history uri = currentText? other.history uri) :
    service.AnswersAs keeper other uri := by
  have index : service.editor.index? uri = other.editor.index? uri := by
    rw [current.indexes, otherCurrent.indexes, same]
  constructor
  case hover =>
    intro place
    -- The text in the workspace counts only where there is an index, and so a current text.
    cases isText : currentText? other.history uri with
    | none =>
        have noIndex : other.editor.index? uri = none := by
          rw [otherCurrent.indexes, isText, Option.map_none]
        simp only [EditorService.hover, Editor.hover, index, noIndex]
    | some text =>
        have here : keeper service.history uri = text :=
          keeps _ _ _ (same.trans isText)
        have there : keeper other.history uri = text :=
          keeps _ _ _ isText
        simp only [EditorService.hover, Editor.hover, index, here, there]
  case completions =>
    simp only [Editor.completions, index]
  case outline =>
    simp only [Editor.outline, index]

end Keeper

/--
If the workspace gives back current texts: whatever events a server takes in, it has an index for
exactly the documents whose last event has opened or changed them, and it is the index of the text
that this event has given.  The diagnostics that it has last published for a document are those of
this index, or none behind a closing.  About an open document it answers as a server that has opened
nothing else, with its current text, and about any other as a server to which nothing has happened.
-/
theorem attendAll_follows_last_events
    {keeper : TextKeeper}
    (keeps : keeper.KeepsTexts)
    (events : List DocumentEvent)
    (uri : String) :
    let service := attendAll keeper events
    (uri ∈ service.editor.uris ↔
        ∃ text,
          last? events uri = some (.opened uri text) ∨
            last? events uri = some (.changed uri text)) ∧
      service.editor.uris.Nodup ∧
      service.editor.index? uri = (currentText? events uri).map Index.ofText ∧
      service.lastPublished? uri =
        (last? events uri).map (fun event =>
          match event.text? with
          | some text =>
              Diagnostic.ofIndex (Index.ofText text)
          | none =>
              []) ∧
      (∀ text, currentText? events uri = some text →
        service.AnswersAs keeper (attendAll keeper [.opened uri text]) uri) ∧
      (currentText? events uri = none → service.AnswersAs keeper start uri) := by
  intro service
  have current : service.IsCurrent :=
    isCurrent_attendAll keeps events
  have history : service.history = events :=
    history_attendAll keeper events
  refine ⟨?_, Editor.nodup_uris_iff.mpr current.unique, ?_, ?_, ?_, ?_⟩
  · rw [Editor.mem_uris_iff, current.indexes, history, Option.isSome_map, currentText?]
    cases isLast : last? events uri with
    | none =>
        simp
    | some event =>
        have own : event.uri = uri := by
          simpa using List.find?_some isLast
        subst own
        cases event <;> simp [DocumentEvent.text?, DocumentEvent.uri]
  · rw [current.indexes, history]
  · rw [current.lastPublished?_eq, history]
    rfl
  · intro text isText
    refine current.answersAs (isCurrent_attendAll keeps _) keeps ?_
    rw [history, isText]
    simp [attendAll, attend, start, currentText?, last?, DocumentEvent.uri, DocumentEvent.text?]
  · intro isClosed
    refine current.answersAs isCurrent_start keeps ?_
    rw [history, isClosed]
    rfl

end EditorService

namespace TextKeeper

/-- The texts of open documents behind an event. -/
def note (texts : List (String × String)) : DocumentEvent → List (String × String)
  | .opened uri text | .changed uri text =>
      (uri, text) :: texts
  | .closed uri =>
      texts.filter (·.1 ≠ uri)

/-- A workspace that keeps the texts of open documents, and takes all other documents for empty. -/
def ofOpen : TextKeeper :=
  fun history uri => ((history.foldl note []).lookup uri).getD ""

theorem lookup_note
    (texts : List (String × String))
    (event : DocumentEvent)
    (uri : String) :
    (note texts event).lookup uri =
      if event.uri = uri then event.text? else texts.lookup uri := by
  split
  · next isOwn =>
    subst isOwn
    cases event with
    | opened own text | changed own text =>
        simp [note, DocumentEvent.uri, DocumentEvent.text?]
    | closed own =>
        exact Bindings.lookup_filter_self own texts
  · next isOther =>
    cases event with
    | opened own text | changed own text =>
        have notOwn : (uri == own) = false :=
          beq_eq_false_iff_ne.mpr (Ne.symm isOther)
        simp only [note, List.lookup_cons, notOwn]
    | closed own =>
        exact Bindings.lookup_filter_of_ne (Ne.symm isOther) texts

theorem ofOpen_keepsTexts : ofOpen.KeepsTexts := by
  have table (history : List DocumentEvent) (uri : String) :
      (history.foldl note []).lookup uri = currentText? history uri := by
    induction history using List.reverseRecOn with
    | nil =>
        rfl
    | append_singleton earlier event inductionHypothesis =>
        rw [List.foldl_concat, lookup_note, DocumentEvent.currentText?_concat, inductionHypothesis]
  intro history uri text isText
  rw [ofOpen, table, isText, Option.getD_some]

end TextKeeper

namespace EditorService

/-- Two documents in turn; the first is changed twice, the second is closed. -/
def twoDocuments : List DocumentEvent :=
  [.opened "file:///a" "x 1 =", .opened "file:///b" "\x7b", .changed "file:///a" "y 2 =",
    .closed "file:///b", .changed "file:///a" "\x7d z 3 ="]

/-- Of two documents the one that is still open has its last text, and the other has no trace. -/
theorem attendAll_follows_last_events_of_two :
    let keeper := TextKeeper.ofOpen
    let service := attendAll keeper twoDocuments
    keeper.KeepsTexts ∧
      "file:///a" ∈ service.editor.uris ∧
      service.editor.index? "file:///a" = some (Index.ofText "\x7d z 3 =") ∧
      service.AnswersAs keeper (attendAll keeper [.opened "file:///a" "\x7d z 3 ="]) "file:///a" ∧
      "file:///b" ∉ service.editor.uris ∧
      service.lastPublished? "file:///b" = some [] ∧
      service.AnswersAs keeper start "file:///b" := by
  intro keeper service
  have keeps : keeper.KeepsTexts :=
    TextKeeper.ofOpen_keepsTexts
  have isText : currentText? twoDocuments "file:///a" = some "\x7d z 3 =" := by
    decide +kernel
  have isClosed : currentText? twoDocuments "file:///b" = none := by
    decide +kernel
  have lastOpen : last? twoDocuments "file:///a" = some (.changed "file:///a" "\x7d z 3 =") := by
    decide +kernel
  have lastClosed : last? twoDocuments "file:///b" = some (.closed "file:///b") := by
    decide +kernel
  obtain ⟨listed, -, index, -, fresh, -⟩ :=
    attendAll_follows_last_events keeps twoDocuments "file:///a"
  obtain ⟨unlisted, -, -, published, -, unknown⟩ :=
    attendAll_follows_last_events keeps twoDocuments "file:///b"
  refine ⟨keeps, listed.mpr ⟨_, .inr lastOpen⟩, ?_, fresh _ isText, ?_, ?_, unknown isClosed⟩
  · rw [index, isText, Option.map_some]
  · rw [unlisted, lastClosed]
    simp
  · rw [published, lastClosed]
    rfl

end EditorService

end StackScript
