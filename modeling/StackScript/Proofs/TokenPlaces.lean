import StackScript.Proofs.LexingLines

namespace StackScript

/-!
# The places that lexing records

Each token, and the fault at the end if there is one, is recorded at the place behind the characters
in front of it, and its own characters go on from there.  So the places follow one another in
reading order, and their lines and columns are counted from one.
-/

namespace Position

/-- Whether line and column are counted from one. -/
structure IsCounted (position : Position) : Prop where
  line :
    1 ≤ position.line
  column :
    1 ≤ position.column

theorem isCounted_start : start.IsCounted where
  line :=
    Int.le_refl 1
  column :=
    Int.le_refl 1

theorem IsCounted.advance
    {position : Position}
    (counted : position.IsCounted)
    (c : Char) :
    (position.advance c).IsCounted := by
  obtain ⟨line, column⟩ := counted
  by_cases isNewline : c = '\n'
  · constructor <;> simp only [Position.advance, isNewline, ↓reduceIte] <;> omega
  · constructor <;> simp only [Position.advance, isNewline, ↓reduceIte] <;> omega

theorem IsCounted.after
    {position : Position}
    (counted : position.IsCounted)
    (chars : List Char) :
    (position.after chars).IsCounted := by
  induction chars generalizing position with
  | nil =>
      exact counted
  | cons c rest inductionHypothesis =>
      exact inductionHypothesis (counted.advance c)

/-- Whether a place comes before another in reading order. -/
def Precedes (earlier later : Position) : Prop :=
  earlier.line < later.line ∨ earlier.line = later.line ∧ earlier.column < later.column

theorem Precedes.trans
    {first second third : Position}
    (firstSecond : first.Precedes second)
    (secondThird : second.Precedes third) :
    first.Precedes third := by
  unfold Precedes at *
  omega

theorem precedes_advance
    (position : Position)
    (c : Char) :
    position.Precedes (position.advance c) := by
  unfold Precedes
  by_cases isNewline : c = '\n'
  · left
    simp only [advance, isNewline, ↓reduceIte]
    omega
  · right
    simp only [advance, isNewline, ↓reduceIte, true_and]
    omega

/-- A place comes before those behind at least one more character. -/
theorem precedes_after_cons
    (position : Position)
    (c : Char)
    (chars : List Char) :
    position.Precedes (position.after (c :: chars)) := by
  induction chars generalizing position c with
  | nil =>
      exact position.precedes_advance c
  | cons next rest inductionHypothesis =>
      exact (position.precedes_advance c).trans (inductionHypothesis _ next)

end Position

/-- The places that a lexing records, those of its tokens first. -/
def Lexing.places (lexing : Lexing) : List Position :=
  lexing.tokens.map Token.position ++ lexing.fault.toList.map LexFault.position

@[simp] theorem Lexing.places_cons
    (token : Token)
    (lexing : Lexing) :
    (lexing.cons token).places = token.position :: lexing.places :=
  rfl

/-- The places that a lexing records, each with the characters that were found there. -/
def Lexing.pieces (lexing : Lexing) : List (Position × List Char) :=
  lexing.tokens.map (fun token => (token.position, token.text.toList)) ++
    lexing.fault.toList.map fun fault => (fault.position, fault.text.toList)

@[simp] theorem Lexing.pieces_cons
    (token : Token)
    (lexing : Lexing) :
    (lexing.cons token).pieces = (token.position, token.text.toList) :: lexing.pieces :=
  rfl

theorem Lexing.places_eq_map_pieces
    (lexing : Lexing) :
    lexing.places = lexing.pieces.map Prod.fst := by
  simp [places, pieces, Function.comp_def]

namespace Lexer

/-- Every piece that is recorded stands in the text, behind the characters up to its place. -/
theorem mem_pieces_lexFrom
    {skip : Nat}
    {position place : Position}
    {chars piece : List Char}
    (recorded : (place, piece) ∈ (lexFrom skip position chars).pieces) :
    ∃ front back, chars = front ++ (piece ++ back) ∧ place = position.after front := by
  induction chars generalizing skip position with
  | nil =>
      cases recorded
  | cons first rest inductionHypothesis =>
      have further
          {skip : Nat}
          (recordedLater : (place, piece) ∈ (lexFrom skip (position.advance first) rest).pieces) :
          ∃ front back,
            first :: rest = front ++ (piece ++ back) ∧ place = position.after front := by
        obtain ⟨front, back, shape, isPlace⟩ := inductionHypothesis recordedLater
        exact ⟨first :: front, back, congrArg (first :: ·) shape, isPlace⟩
      have here
          {size : Nat}
          (isHere :
            (place, piece) = (position, (String.ofList ((first :: rest).take size)).toList)) :
          ∃ front back,
            first :: rest = front ++ (piece ++ back) ∧ place = position.after front := by
        obtain ⟨rfl, rfl⟩ := Prod.mk.inj isHere
        refine ⟨[], (first :: rest).drop size, ?_, rfl⟩
        rw [String.toList_ofList, List.nil_append, List.take_append_drop]
      cases skip with
      | succ remaining =>
          exact further recorded
      | zero =>
          by_cases blank : Text.isBlank first = true
          · rw [lexFrom_blank blank] at recorded
            exact further recorded
          · cases found : Lexer.piece first rest with
            | comment size =>
                rw [lexFrom_comment blank found] at recorded
                exact further recorded
            | lexeme lexeme size =>
                rw [lexFrom_lexeme blank found, Lexing.pieces_cons] at recorded
                rcases List.mem_cons.mp recorded with isHere | later
                · exact here isHere
                · exact further later
            | unreadable size =>
                rw [lexFrom_unreadable blank found] at recorded
                exact here (List.mem_singleton.mp recorded)

/-- Every place that is recorded lies behind some of the characters. -/
theorem mem_places_lexFrom
    {skip : Nat}
    {position place : Position}
    {chars : List Char}
    (recorded : place ∈ (lexFrom skip position chars).places) :
    ∃ front, front <+: chars ∧ place = position.after front := by
  rw [Lexing.places_eq_map_pieces] at recorded
  obtain ⟨⟨_, piece⟩, isPiece, rfl⟩ := List.mem_map.mp recorded
  obtain ⟨front, back, shape, isPlace⟩ := mem_pieces_lexFrom isPiece
  exact ⟨front, ⟨piece ++ back, shape.symm⟩, isPlace⟩

/-- The places follow one another in reading order. -/
theorem pairwise_places_lexFrom
    (skip : Nat)
    (position : Position)
    (chars : List Char) :
    (lexFrom skip position chars).places.Pairwise Position.Precedes := by
  induction chars generalizing skip position with
  | nil =>
      exact .nil
  | cons first rest inductionHypothesis =>
      cases skip with
      | succ remaining =>
          exact inductionHypothesis remaining _
      | zero =>
          by_cases blank : Text.isBlank first = true
          · rw [lexFrom_blank blank]
            exact inductionHypothesis 0 _
          · cases found : piece first rest with
            | comment size =>
                rw [lexFrom_comment blank found]
                exact inductionHypothesis _ _
            | lexeme lexeme size =>
                rw [lexFrom_lexeme blank found, Lexing.places_cons]
                refine .cons (fun place recorded => ?_) (inductionHypothesis _ _)
                obtain ⟨front, _, rfl⟩ := mem_places_lexFrom recorded
                exact position.precedes_after_cons first front
            | unreadable size =>
                rw [lexFrom_unreadable blank found]
                exact List.pairwise_singleton _ _

end Lexer

/-- All places in a source text are counted from one. -/
theorem isCounted_of_mem_places_lex
    {source : String}
    {place : Position}
    (recorded : place ∈ (lex source).places) :
    place.IsCounted := by
  obtain ⟨front, _, rfl⟩ := Lexer.mem_places_lexFrom recorded
  exact Position.isCounted_start.after front

/-- Tokens at counted places that follow one another in reading order. -/
structure InReadingOrder (tokens : List Token) : Prop where
  counted :
    ∀ token ∈ tokens, token.position.IsCounted
  ordered :
    tokens.Pairwise fun earlier later => earlier.position.Precedes later.position

theorem InReadingOrder.sublist
    {tokens fewer : List Token}
    (inOrder : InReadingOrder tokens)
    (within : fewer.Sublist tokens) :
    InReadingOrder fewer where
  counted token member :=
    inOrder.counted token (within.subset member)
  ordered :=
    inOrder.ordered.sublist within

/-- The tokens of a source text stand in reading order. -/
theorem inReadingOrder_lex
    (source : String) :
    InReadingOrder (lex source).tokens where
  counted token member :=
    isCounted_of_mem_places_lex
      (List.mem_append_left _ (List.mem_map_of_mem member))
  ordered := by
    have places := Lexer.pairwise_places_lexFrom 0 .start source.toList
    exact List.pairwise_map.mp (List.pairwise_append.mp places).1

end StackScript
