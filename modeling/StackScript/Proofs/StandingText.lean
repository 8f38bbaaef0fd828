import StackScript.Proofs.SpacedTokens
import StackScript.Proofs.TokenPlaces

namespace StackScript

/-!
# Text at its place

The lexer counts lines and columns while it walks over the text.  Lines are what newlines separate,
so a place that it records can be looked up in the text: the line with that number, from that column
on, begins with the characters of the token, or of the unreadable run, that was found there.
-/

/-- Whether characters stand at a line and a column of a text, both counted from one. -/
def StandsAt (chars piece : List Char) (line column : Int) : Prop :=
  1 ≤ line ∧
    1 ≤ column ∧
    piece ≠ [] ∧
    ∃ row ∈ (chars.splitOn '\n')[(line - 1).toNat]?, piece <+: row.drop (column - 1).toNat

instance (chars piece : List Char) (line column : Int) :
    Decidable (StandsAt chars piece line column) :=
  inferInstanceAs (Decidable (_ ∧ _ ∧ _ ∧ _))

namespace Position

theorem after_shift
    (position : Position)
    (characters lines : Int)
    (chars : List Char) :
    (position.shift characters lines).after chars =
      (position.after chars).shift characters lines := by
  induction chars generalizing position with
  | nil =>
      rfl
  | cons c rest inductionHypothesis =>
      change ((position.shift characters lines).advance c).after rest = _
      rw [advance_shift]
      exact inductionHypothesis (position.advance c)

/-- Characters that are no newline move the column on, one by one. -/
theorem column_after
    {chars : List Char}
    (oneLine : '\n' ∉ chars)
    (position : Position) :
    (position.after chars).column = position.column + chars.length := by
  induction chars generalizing position with
  | nil =>
      simp [after]
  | cons c rest inductionHypothesis =>
      obtain ⟨notNewline, restOneLine⟩ := not_or.mp (mt List.mem_cons.mpr oneLine)
      have further := inductionHypothesis restOneLine (position.advance c)
      have moved : (position.advance c).column = position.column + 1 := by
        simp [advance, Ne.symm notNewline]
      rw [moved] at further
      rw [List.length_cons]
      change ((position.advance c).after rest).column = _
      omega

end Position

/-- The first line of a text goes on from its first characters, if these hold no newline. -/
theorem exists_first_row
    {row : List Char}
    (oneLine : '\n' ∉ row)
    (tail : List Char) :
    ∃ behind, ((row ++ tail).splitOn '\n')[0]? = some (row ++ behind) := by
  by_cases goesOn : '\n' ∈ tail
  · obtain ⟨behind, below, rfl, behindOneLine⟩ := List.eq_append_cons_of_mem goesOn
    refine ⟨behind, ?_⟩
    have together : '\n' ∉ row ++ behind := by
      simp [oneLine, behindOneLine]
    rw [← List.append_assoc, List.splitOn_append_cons_self_of_not_mem together]
    rfl
  · refine ⟨tail, ?_⟩
    rw [List.splitOn_eq_singleton (by simp [oneLine, goesOn])]
    rfl

/-- What stands at a line stands one line further down when a line is put in front. -/
theorem StandsAt.below
    {chars piece row : List Char}
    {line column : Int}
    (stands : StandsAt chars piece line column)
    (oneLine : '\n' ∉ row) :
    StandsAt (row ++ '\n' :: chars) piece (line + 1) column := by
  obtain ⟨countedLine, countedColumn, nonempty, found, isRow, begins⟩ := stands
  refine ⟨by omega, countedColumn, nonempty, found, ?_, begins⟩
  have next : (line + 1 - 1).toNat = (line - 1).toNat + 1 := by
    omega
  rw [List.splitOn_append_cons_self_of_not_mem oneLine, next, List.getElem?_cons_succ]
  exact isRow

/-- What stands behind some characters of a text stands at the place behind these characters. -/
theorem standsAt_after
    {piece : List Char}
    (nonempty : piece ≠ [])
    (pieceOneLine : '\n' ∉ piece)
    {lead : List Char}
    (leadOneLine : '\n' ∉ lead)
    (front back : List Char) :
    StandsAt (lead ++ (front ++ (piece ++ back))) piece
      ((Position.start.after lead).after front).line
      ((Position.start.after lead).after front).column := by
  -- The characters in front of the piece that belong to its line gather in the lead.
  induction front generalizing lead with
  | nil =>
      have line : (Position.start.after lead).line = 1 := by
        simp [Position.line_after, Position.start, List.count_eq_zero_of_not_mem leadOneLine]
      have column : (Position.start.after lead).column = 1 + lead.length :=
        Position.column_after leadOneLine .start
      have rowOneLine : '\n' ∉ lead ++ piece := by
        simp [leadOneLine, pieceOneLine]
      obtain ⟨behind, isRow⟩ := exists_first_row rowOneLine back
      change StandsAt (lead ++ (piece ++ back)) piece (Position.start.after lead).line
        (Position.start.after lead).column
      rw [line, column, ← List.append_assoc]
      refine ⟨by omega, by omega, nonempty, lead ++ piece ++ behind, isRow, ?_⟩
      have behindLead : (1 + (lead.length : Int) - 1).toNat = lead.length := by
        omega
      rw [behindLead, List.append_assoc, List.drop_left]
      exact List.prefix_append piece behind
  | cons c rest inductionHypothesis =>
      by_cases isNewline : c = '\n'
      · subst isNewline
        have below := (inductionHypothesis List.not_mem_nil).below leadOneLine
        have moved :
            (Position.start.after lead).after ('\n' :: rest) =
              (Position.start.after rest).shift (lead.length + 1) (lead.count '\n' + 1) := by
          rw [← Position.after_shift, ← Position.start_after_newline]
          rfl
        have first : lead.count '\n' = 0 :=
          List.count_eq_zero_of_not_mem leadOneLine
        rw [moved, first]
        exact below
      · have longerLead : '\n' ∉ lead ++ [c] := by
          simp [leadOneLine, Ne.symm isNewline]
        have further := inductionHypothesis longerLead
        have sameText :
            lead ++ [c] ++ (rest ++ (piece ++ back)) = lead ++ (c :: rest ++ (piece ++ back)) := by
          simp
        have samePlace :
            (Position.start.after (lead ++ [c])).after rest =
              (Position.start.after lead).after (c :: rest) := by
          simp [Position.after]
        rw [sameText, samePlace] at further
        exact further

/-- What the lexer records stands at its place, if it is not empty and lies on one line. -/
theorem standsAt_of_mem_pieces
    {source : String}
    {place : Position}
    {piece : List Char}
    (recorded : (place, piece) ∈ (lex source).pieces)
    (nonempty : piece ≠ [])
    (oneLine : '\n' ∉ piece) :
    StandsAt source.toList piece place.line place.column := by
  obtain ⟨front, back, shape, rfl⟩ := Lexer.mem_pieces_lexFrom recorded
  rw [shape]
  exact standsAt_after nonempty oneLine List.not_mem_nil front back

theorem Lexer.StandsAlone.ne_nil
    {lexeme : Lexeme}
    {chars : List Char}
    (alone : StandsAlone lexeme chars) :
    chars ≠ [] := by
  cases alone
  exact List.cons_ne_nil _ _

/-- No lexeme reaches across a newline, because no piece looks past one. -/
theorem Lexer.StandsAlone.oneLine
    {lexeme : Lexeme}
    {chars : List Char}
    (alone : StandsAlone lexeme chars) :
    '\n' ∉ chars := by
  obtain @⟨first, _, solid, found⟩ := alone
  intro crosses
  rcases List.mem_cons.mp crosses with isFirst | inRest
  · rw [← isFirst] at solid
    exact solid (by decide)
  · obtain ⟨above, below, rfl⟩ := List.append_of_mem inRest
    rw [piece_append_newline] at found
    have within := size_piece_le first above
    rw [found] at within
    simp only [Piece.size, List.length_append, List.length_cons] at within
    omega

/-- A token stands at its place. -/
theorem standsAt_of_mem_lex
    {source : String}
    {token : Token}
    (member : token ∈ (lex source).tokens) :
    StandsAt source.toList token.text.toList token.position.line token.position.column := by
  have alone := Lexer.standsAlone_of_mem_lexFrom member
  have recorded : (token.position, token.text.toList) ∈ (lex source).pieces :=
    List.mem_append_left _ (List.mem_map_of_mem member)
  exact standsAt_of_mem_pieces recorded alone.ne_nil alone.oneLine

/-- An unreadable run stands at its place. -/
theorem standsAt_of_fault
    {source : String}
    {fault : LexFault}
    (failed : (lex source).fault = some fault) :
    StandsAt source.toList fault.text.toList fault.position.line fault.position.column := by
  obtain ⟨_, run, _, _, _, text, nonempty, solid⟩ := Lexer.lexFrom_fault failed
  have recorded : (fault.position, fault.text.toList) ∈ (lex source).pieces := by
    simp [Lexing.pieces, failed]
  rw [text] at recorded ⊢
  refine standsAt_of_mem_pieces recorded nonempty fun crosses => ?_
  have notBlank := solid _ crosses
  revert notBlank
  decide

end StackScript
