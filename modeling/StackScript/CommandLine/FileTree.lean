namespace StackScript

/-!
# Files that a command can see

A command looks up the paths that its arguments name in a tree of folders.  A path is followed one
step at a time, from the root if it begins with a slash and else from the working folder, and every
step must start at a folder: an empty step and a dot stay there, two dots lead to the enclosing
folder, and any other step leads to the entry of that name, or to where that entry links.  So a path
that goes on behind a file leads nowhere, even when its later steps would lead back.
-/

/-- What a path leads to. -/
inductive FileEntry where
  | file (content : List UInt8)
  | folder
  deriving DecidableEq

/-- What each path leads to, if it leads anywhere. -/
abbrev FileLookup :=
  String → Option FileEntry

/-- The steps that lead from the root to a place. -/
abbrev Place :=
  List String

/-- A tree of folders, and the folder that paths start at. -/
structure FileTree where
  entries : List (Place × FileEntry)
  /-- The places that only link to another place. -/
  links : List (Place × Place) := []
  working : Place := []

namespace FileTree

/-- Whether a step stays where it is. -/
def stays (step : String) : Bool :=
  step == "" || step == "."

/-- The entry at a place; what has entries below it is a folder itself, and so is the root. -/
def entry? (tree : FileTree) (place : Place) : Option FileEntry :=
  match tree.entries.lookup place with
  | some entry =>
      some entry
  | none =>
      if place.isEmpty || tree.entries.any fun entry => place.isPrefixOf entry.1 then
        some .folder
      else
        none

/-- The place that a named entry of a folder leads to. -/
def enter (tree : FileTree) (folder : Place) (name : String) : Place :=
  (tree.links.lookup (folder ++ [name])).getD (folder ++ [name])

/-- Take one step of a path; the root is its own enclosing folder. -/
def follow (tree : FileTree) (place : Place) (step : String) : Option Place :=
  match tree.entry? place with
  | some .folder =>
      if stays step then
        some place
      else if step == ".." then
        some place.dropLast
      else
        some (tree.enter place step)
  | _ =>
      none

/-- The length in bytes from which on a path is too long to be followed. -/
def pathLimit : Nat :=
  4096

/-- The entry at a path. -/
def find? (tree : FileTree) : FileLookup := fun path =>
  if path = "" ∨ pathLimit ≤ path.utf8ByteSize then
    none
  else
    let start := if path.startsWith "/" then [] else tree.working
    match (path.splitOn "/").foldlM tree.follow start with
    | none =>
        none
    | some place =>
        tree.entry? place

end FileTree

end StackScript
