import StackScript.Editor.Assist
import StackScript.Proofs.OnePassRecovery
import StackScript.Proofs.TakenNames

namespace StackScript

/-!
# Entries of an outline

The outline of a document shows the names that are bound outside all blocks, whatever else is wrong
with the document.  Of all assignment signs that take the same name it keeps the first, and it shows
the name that this sign takes where it stands in the text.
-/

namespace Index

/-- Some of the definitions on a walk, each of them the first one of its name. -/
structure KeptFrom (placed kept : List (Nat × Definition)) : Prop where
  within :
    kept.Sublist placed
  distinct :
    (kept.map fun found => found.2.name).Nodup
  isFirst :
    ∀ found ∈ kept,
      ∀ earlier ∈ placed, earlier.2.name = found.2.name → found.1 ≤ earlier.1

/-- Keeping the first definition of every name keeps definitions on the walk. -/
theorem exists_kept
    {placed : List (Nat × Definition)}
    (ordered : placed.Pairwise (·.1 < ·.1)) :
    ∃ kept, firstOfEach (placed.map Prod.snd) = kept.map Prod.snd ∧ KeptFrom placed kept := by
  induction placed with
  | nil =>
      exact ⟨[], rfl, .slnil, .nil, by simp⟩
  | cons first rest inductionHypothesis =>
      obtain ⟨behind, restOrdered⟩ := List.pairwise_cons.mp ordered
      obtain ⟨kept, isKept, within, distinct, isFirst⟩ := inductionHypothesis restOrdered
      have filtered :
          (kept.map Prod.snd).filter (fun later => later.name != first.2.name) =
            (kept.filter fun later => later.2.name != first.2.name).map Prod.snd := by
        rw [List.filter_map]
        rfl
      refine ⟨first :: kept.filter fun later => later.2.name != first.2.name, ?_, ?_, ?_, ?_⟩
      · simp only [List.map_cons, firstOfEach, isKept, filtered]
      · exact (List.filter_sublist.trans within).cons_cons first
      · rw [List.map_cons, List.nodup_cons]
        refine ⟨?_, distinct.sublist (List.filter_sublist.map _)⟩
        simp
      · intro found isFound earlier isEarlier sameName
        rcases List.mem_cons.mp isFound with rfl | isLater
        · rcases List.mem_cons.mp isEarlier with rfl | inRest
          · exact Nat.le_refl _
          · exact Nat.le_of_lt (behind earlier inRest)
        · obtain ⟨inKept, isOther⟩ := List.mem_filter.mp isLater
          rcases List.mem_cons.mp isEarlier with rfl | inRest
          · simp [sameName] at isOther
          · exact isFirst found inKept earlier inRest sameName

/-- The definitions of a text are the first assignments to each name on the walk. -/
theorem exists_placed_definitions
    (text : String) :
    ∃ kept,
      (ofText text).definitions = kept.map Prod.snd ∧
        KeptFrom (placedAssignments 0 0 [] (ofText text).tokens) kept := by
  obtain ⟨kept, isKept, keptFrom⟩ :=
    exists_kept (pairwise_placedAssignments 0 0 [] (ofText text).tokens).1
  rw [map_placedAssignments] at isKept
  exact ⟨kept, isKept, keptFrom⟩

/-- The sign at a place is the first one that takes a name with this text. -/
structure FirstTakes (tokens : List Token) (place : Nat) (name : Token) : Prop where
  takes :
    TakesName tokens place name
  isFirst :
    ∀ earlier < place, ∀ other, TakesName tokens earlier other → other.text ≠ name.text

end Index

/-- Whether the characters of a range, which lies on one line of a text, spell a word. -/
def Range.Spells (range : Range) (chars word : List Char) : Prop :=
  range.startLine = range.endLine ∧
    ∃ row ∈ (chars.splitOn '\n')[range.startLine]?,
      range.endCharacter ≤ row.length ∧
        row.extract range.startCharacter range.endCharacter = word

/-- An entry of an outline points at a name in a text: it shows the name, where it stands. -/
structure Assist.OutlineEntry.PointsAt
    (entry : OutlineEntry)
    (chars : List Char)
    (name : Token) :
    Prop where
  named :
    entry.name = name.text
  line :
    entry.range.startLine + 1 = name.position.line
  character :
    entry.range.startCharacter + 1 = name.position.column
  spelled :
    entry.range.Spells chars name.text.toList
  selection :
    entry.selection = entry.range

/-- What stands at a place is spelled by the range of its characters. -/
theorem StandsAt.spells
    {chars : List Char}
    {word : String}
    {line column : Int}
    (stands : StandsAt chars word.toList line column) :
    (Range.onLine (line - 1).toNat (column - 1).toNat word.length).Spells chars word.toList := by
  obtain ⟨_, _, nonempty, row, isRow, behind, begins⟩ := stands
  refine ⟨rfl, row, isRow, ?_, ?_⟩
  · have length := congrArg List.length begins
    have positive := List.length_pos_iff.mpr nonempty
    rw [List.length_append, List.length_drop, String.length_toList] at length
    rw [String.length_toList] at positive
    simp only [Range.onLine]
    omega
  · simp only [Range.onLine, List.extract, Nat.add_sub_cancel_left, ← begins,
      ← String.length_toList, List.take_left]

namespace Index

open Assist

/-- The entry of a definition points at the name that is defined. -/
theorem pointsAt_of_definition?
    {text : String}
    {name : Token}
    {upper : Operand}
    {definition : Definition}
    (member : name ∈ (ofText text).tokens)
    (isDefinition : definition? (.name name) upper = some definition) :
    (outlineEntry definition).PointsAt text.toList name := by
  cases isDefinition
  have alone := (Recovery.isLexed_of_mem_lexTolerant member).standsAlone
  obtain ⟨front, back, shape, place⟩ := Recovery.exists_front_of_mem_lexTolerant member
  have stands : StandsAt text.toList name.text.toList name.position.line name.position.column := by
    rw [shape, place]
    exact standsAt_after alone.ne_nil alone.oneLine List.not_mem_nil front back
  obtain ⟨countedLine, countedColumn, _⟩ := id stands
  exact
    { named := rfl
      line := by
        simp only [outlineEntry, Range.onLine]
        omega
      character := by
        simp only [outlineEntry, Range.onLine]
        omega
      spelled := stands.spells
      selection := rfl }

/--
The outline of any text lists the names that are bound outside all blocks.  Its entries belong to
assignment signs that follow one another: each sign takes a name, is the first one to take a name
with this text, and the range of the entry spells the name where it stands.  No name is listed
twice, and none is left out.
-/
theorem outline_lists_top_level_names
    (text : String) :
    let tokens := (ofText text).tokens
    let entries := outline (ofText text)
    (∃ places : List Nat,
      places.Pairwise (· < ·) ∧
        List.Forall₂
          (fun place entry =>
            ∃ name, FirstTakes tokens place name ∧ entry.PointsAt text.toList name)
          places entries) ∧
      (entries.map OutlineEntry.name).Nodup ∧
      ∀ place name, TakesName tokens place name → name.text ∈ entries.map OutlineEntry.name := by
  intro tokens entries
  have ordered := (pairwise_placedAssignments 0 0 [] tokens).1
  obtain ⟨kept, isDefined, within, distinct, isFirst⟩ := exists_placed_definitions text
  have listed : entries.map OutlineEntry.name = (ofText text).definitions.map Definition.name := by
    simp only [entries, outline, List.map_map]
    rfl
  refine ⟨⟨kept.map Prod.fst, ?_, ?_⟩, ?_, ?_⟩
  · exact List.pairwise_map.mpr (ordered.sublist within)
  · simp only [entries, outline, isDefined, List.map_map, List.forall₂_map_left_iff,
      List.forall₂_map_right_iff, List.forall₂_same]
    rintro ⟨place, definition⟩ member
    obtain ⟨name, upper, takes, isDefinition⟩ := exists_takesName_of_placed (within.subset member)
    have named : definition.name = name.text := by
      cases isDefinition
      rfl
    refine ⟨name, ⟨takes, ?_⟩, pointsAt_of_definition? takes.mem isDefinition⟩
    intro earlier isEarlier other otherTakes sameText
    obtain ⟨otherDefinition, isPlaced, otherNamed⟩ := otherTakes.exists_mem
    have notEarlier := isFirst _ member _ isPlaced (by rw [otherNamed, sameText, named])
    exact absurd isEarlier (Nat.not_lt.mpr notEarlier)
  · rw [listed, isDefined, List.map_map]
    exact distinct
  · intro place name takes
    obtain ⟨definition, isPlaced, named⟩ := takes.exists_mem
    have isAssigned : name.text ∈ (assignments 0 [] tokens).map Definition.name := by
      rw [← named, ← map_placedAssignments 0]
      exact List.mem_map_of_mem (List.mem_map_of_mem isPlaced)
    rw [listed]
    exact mem_names_firstOfEach_iff.mpr isAssigned

/-- A stray brace and an unreadable run change nothing; a block that is never closed hides names. -/
example :
    (outline (ofText "\x7d a\n$ \x7b c 1 = \x7d fn = b a 3 = 2 = \x7b d 4 =")).map
        (fun entry => (entry.name, entry.range)) =
      [("a", .onLine 0 2 1), ("b", .onLine 1 17 1)] := by
  simp only [ofText, Recovery.lexTolerant_eq_scan]
  decide +kernel

end Index

end StackScript
