import StackScript.Error

namespace StackScript

/-!
# Lexing that recovers

A document that is being typed often holds text that cannot be read.  Each unreadable run is
recorded, replaced by blanks of the same length, and the document is lexed again, so that every
token keeps its place in the document.  Each round turns at least one character into a blank, so the
rounds come to an end.
-/

/-- A problem in a document, at a line and column counted from zero. -/
structure Issue where
  message : String
  line : Nat
  column : Nat
  size : Nat
  deriving Repr, DecidableEq

namespace Recovery

/-- Replace the characters of a stretch by blanks. -/
def blankOut (chars : List Char) (start size : Nat) : List Char :=
  chars.take start ++ List.replicate size ' ' ++ chars.drop (start + size)

/-- The number of characters that are not blank. -/
def solidCount (chars : List Char) : Nat :=
  chars.countP fun c => !Text.isBlank c

/-- The issue that an unreadable run is recorded as. -/
def issueOf (fault : LexFault) : Issue where
  message :=
    (Cause.unreadable fault).message
  line :=
    (fault.position.line - 1).toNat
  column :=
    (fault.position.column - 1).toNat
  size :=
    fault.text.length

/-- Blanking out a fault leaves fewer characters that are not blank. -/
theorem solidCount_blankOut_lt
    {chars : List Char}
    {fault : LexFault}
    (failed : (Lexer.lexFrom 0 Position.start chars).fault = some fault) :
    solidCount (blankOut chars fault.position.offset.toNat fault.text.length) <
      solidCount chars := by
  obtain ⟨before, run, after, shape, offset, text, nonempty, solid⟩ :=
    Lexer.lexFrom_fault failed
  have runSize : fault.text.length = run.length := by
    rw [← text, String.length_toList]
  have start : fault.position.offset.toNat = before.length := by
    simp [offset, Position.start]
  have runSolid : run.countP (fun c => !Text.isBlank c) = run.length := by
    rw [List.countP_eq_length]
    intro c member
    simp [solid c member]
  have blanks : (List.replicate run.length ' ').countP (fun c => !Text.isBlank c) = 0 := by
    rw [List.countP_eq_zero]
    intro c member
    rw [List.eq_of_mem_replicate member]
    decide
  have positive : 0 < run.length :=
    List.length_pos_iff.mpr nonempty
  have dropped : (before ++ (run ++ after)).drop (before.length + run.length) = after := by
    rw [← List.append_assoc, ← List.length_append, List.drop_left]
  subst shape
  simp only [solidCount, blankOut, start, runSize, List.append_assoc, List.take_left, dropped,
    List.countP_append, runSolid, blanks]
  omega

/-- Lex characters as far as they can be read, and record what cannot. -/
def lexTolerant (chars : List Char) : List Token × List Issue :=
  match failed : (Lexer.lexFrom 0 Position.start chars).fault with
  | none =>
      ((Lexer.lexFrom 0 Position.start chars).tokens, [])
  | some fault =>
      have _shrinks := solidCount_blankOut_lt failed
      let (tokens, issues) :=
        lexTolerant (blankOut chars fault.position.offset.toNat fault.text.length)
      (tokens, issueOf fault :: issues)
termination_by solidCount chars

end Recovery

end StackScript
