import StackScript.Proofs.StandingText
import StackScript.Text.Lines

namespace StackScript

/-!
# Lines of a document

The editor cuts a document into lines at every line boundary that text editors know, while the lexer
counts newlines only.  Both agree on the lines in front of a place if newlines alone end them, with
or without a carriage return; if anything else ends one of them, the lexer counts too few.
-/

namespace Text

/-- Whether newlines alone end lines, each with or without a carriage return in front of it. -/
def NewlinesOnly (chars : List Char) : Prop :=
  ∀ c ∈ joinNewlines chars, endsLine c = true → c = '\n'

instance (chars : List Char) : Decidable (NewlinesOnly chars) :=
  List.decidableBAll (fun c => endsLine c = true → c = '\n') (joinNewlines chars)

/-- Whether characters lie on one line of a document. -/
def OneLine (chars : List Char) : Prop :=
  ∀ c ∈ chars, endsLine c = false

/-- The characters that end a line in front of others. -/
inductive IsEnding (behind : List Char) : List Char → Prop where
  | newline :
      IsEnding behind ['\n']
  | paired :
      IsEnding behind ['\r', '\n']
  | other
      {c : Char}
      (ends : endsLine c = true)
      (notNewline : c ≠ '\n')
      (unpaired : c = '\r' → behind.head? ≠ some '\n') :
      IsEnding behind [c]

/-- How characters are cut into lines that are ended and the beginning of one that is not. -/
inductive Cut : List Char → List (List Char) → List Char → Prop where
  | last
      {last : List Char}
      (oneLine : OneLine last) :
      Cut last [] last
  | row
      {row ending rest last : List Char}
      {rows : List (List Char)}
      (oneLine : OneLine row)
      (isEnding : IsEnding rest ending)
      (further : Cut rest rows last) :
      Cut (row ++ (ending ++ rest)) (row :: rows) last

theorem oneLine_nil : OneLine [] := by
  simp [OneLine]

theorem oneLine_cons_iff
    {c : Char}
    {chars : List Char} :
    OneLine (c :: chars) ↔ endsLine c = false ∧ OneLine chars :=
  List.forall_mem_cons

theorem ne_of_not_endsLine
    {c : Char}
    (inLine : endsLine c = false) :
    c ≠ '\r' ∧ c ≠ '\n' := by
  constructor
  · rintro rfl
    cases inLine
  · rintro rfl
    cases inLine

theorem Cut.cons
    {c : Char}
    {chars last : List Char}
    {rows : List (List Char)}
    (inLine : endsLine c = false)
    (cut : Cut chars rows last) :
    ∃ rows last, Cut (c :: chars) rows last := by
  cases cut with
  | last oneLine =>
      exact ⟨_, _, .last (oneLine_cons_iff.mpr ⟨inLine, oneLine⟩)⟩
  | row oneLine isEnding further =>
      exact ⟨_, _, .row (oneLine_cons_iff.mpr ⟨inLine, oneLine⟩) isEnding further⟩

/-- All characters can be cut into lines. -/
theorem exists_cut
    (chars : List Char) :
    ∃ rows last, Cut chars rows last := by
  -- The cases are those of cutting a document: only a line that goes on changes the first row.
  induction chars using documentLines.induct with
  | case1 =>
      exact ⟨_, _, .last oneLine_nil⟩
  | case2 rest inductionHypothesis =>
      obtain ⟨rows, last, cut⟩ := inductionHypothesis
      exact ⟨_, _, .row oneLine_nil .paired cut⟩
  | case3 c rest notPaired ends inductionHypothesis =>
      obtain ⟨rows, last, cut⟩ := inductionHypothesis
      by_cases isNewline : c = '\n'
      · subst isNewline
        exact ⟨_, _, .row oneLine_nil .newline cut⟩
      · refine ⟨_, _, .row oneLine_nil (.other ends isNewline ?_) cut⟩
        intro isReturn isPaired
        obtain ⟨behind, rfl⟩ := List.head?_eq_some_iff.mp isPaired
        exact notPaired behind isReturn rfl
  | case4 c rest _ inLine inductionHypothesis =>
      obtain ⟨rows, last, cut⟩ := inductionHypothesis
      exact cut.cons (eq_false_of_ne_true inLine)

section Lines

variable {c : Char} {row ending rest tail : List Char}

theorem documentLines_cons
    (inLine : endsLine c = false)
    (rest : List Char) :
    documentLines (c :: rest) = consFirst c (documentLines rest) := by
  rw [documentLines]
  · simp [inLine]
  · rintro behind rfl
    cases inLine

/-- An ending ends a line. -/
theorem documentLines_ending
    (isEnding : IsEnding rest ending) :
    documentLines (ending ++ rest) = [] :: documentLines rest := by
  cases isEnding with
  | newline =>
      rw [List.singleton_append, documentLines]
      · rfl
      · rintro behind isReturn
        cases isReturn
  | paired =>
      rfl
  | @other c ends _ unpaired =>
      rw [List.singleton_append, documentLines]
      · simp [ends]
      · rintro behind rfl rfl
        exact unpaired rfl rfl

/-- A line that is ended is the first line of a document. -/
theorem documentLines_row
    (oneLine : OneLine row)
    (isEnding : IsEnding rest ending) :
    documentLines (row ++ (ending ++ rest)) = row :: documentLines rest := by
  induction row with
  | nil =>
      exact documentLines_ending isEnding
  | cons c row inductionHypothesis =>
      obtain ⟨inLine, rowInLine⟩ := oneLine_cons_iff.mp oneLine
      rw [List.cons_append, documentLines_cons inLine, inductionHypothesis rowInLine]
      rfl

/-- The first line of a document goes on from its first characters, if these lie on one line. -/
theorem exists_first_line
    (oneLine : OneLine row)
    (nonempty : row ≠ [])
    (tail : List Char) :
    ∃ behind further, documentLines (row ++ tail) = (row ++ behind) :: further := by
  induction row with
  | nil =>
      contradiction
  | cons c row inductionHypothesis =>
      obtain ⟨inLine, rowInLine⟩ := oneLine_cons_iff.mp oneLine
      rw [List.cons_append, documentLines_cons inLine]
      by_cases isLast : row = []
      · subst isLast
        cases documentLines ([] ++ tail) with
        | nil =>
            exact ⟨[], [], rfl⟩
        | cons line further =>
            exact ⟨line, further, rfl⟩
      · obtain ⟨behind, further, lines⟩ := inductionHypothesis rowInLine isLast
        rw [lines]
        exact ⟨behind, further, rfl⟩

theorem IsEnding.append
    (isEnding : IsEnding rest ending)
    (notNewline : tail.head? ≠ some '\n') :
    IsEnding (rest ++ tail) ending := by
  cases isEnding with
  | newline =>
      exact .newline
  | paired =>
      exact .paired
  | other ends isOther unpaired =>
      refine .other ends isOther ?_
      cases rest with
      | nil =>
          exact fun _ => notNewline
      | cons first behind =>
          exact unpaired

/-- The characters of an ending, when a carriage return in front of a newline is left out. -/
theorem IsEnding.joinNewlines_eq
    (isEnding : IsEnding rest ending) :
    ∃ c, joinNewlines (ending ++ rest) = c :: joinNewlines rest ∧
      endsLine c = true ∧
      (c = '\n' ↔ ending.count '\n' = 1) := by
  cases isEnding with
  | newline =>
      refine ⟨'\n', ?_, rfl, by simp⟩
      rw [List.singleton_append, joinNewlines]
      rintro behind isReturn
      cases isReturn
  | paired =>
      exact ⟨'\n', rfl, rfl, by simp⟩
  | @other c ends notNewline unpaired =>
      refine ⟨c, ?_, ends, by simp [notNewline]⟩
      rw [List.singleton_append, joinNewlines]
      rintro behind rfl rfl
      exact unpaired rfl rfl

theorem IsEnding.count_le
    (isEnding : IsEnding rest ending) :
    ending.count '\n' ≤ 1 := by
  cases isEnding with
  | newline | paired =>
      simp
  | other _ notNewline _ =>
      simp [notNewline]

theorem joinNewlines_append
    (oneLine : OneLine row)
    (tail : List Char) :
    joinNewlines (row ++ tail) = row ++ joinNewlines tail := by
  induction row with
  | nil =>
      rfl
  | cons c row inductionHypothesis =>
      obtain ⟨inLine, rowInLine⟩ := oneLine_cons_iff.mp oneLine
      rw [List.cons_append, joinNewlines, inductionHypothesis rowInLine, List.cons_append]
      rintro behind isReturn
      exact absurd isReturn (ne_of_not_endsLine inLine).1

theorem OneLine.newlinesOnly
    (oneLine : OneLine row) :
    NewlinesOnly row := by
  have joined := joinNewlines_append oneLine []
  rw [joinNewlines, List.append_nil] at joined
  intro c member ends
  rw [joined] at member
  rw [oneLine c member] at ends
  cases ends

theorem newlinesOnly_row_iff
    (oneLine : OneLine row)
    (isEnding : IsEnding rest ending) :
    NewlinesOnly (row ++ (ending ++ rest)) ↔ ending.count '\n' = 1 ∧ NewlinesOnly rest := by
  obtain ⟨c, joined, ends, isNewline⟩ := isEnding.joinNewlines_eq
  rw [← isNewline, NewlinesOnly, joinNewlines_append oneLine, joined, List.forall_mem_append,
    List.forall_mem_cons, forall_prop_of_true ends, NewlinesOnly]
  refine and_iff_right ?_
  intro other member otherEnds
  rw [oneLine other member] at otherEnds
  cases otherEnds

theorem OneLine.count_newline
    (oneLine : OneLine row) :
    row.count '\n' = 0 := by
  apply List.count_eq_zero_of_not_mem
  intro member
  cases oneLine '\n' member

end Lines

namespace Cut

variable {front last tail : List Char} {rows : List (List Char)}

/-- The lines of a document that goes on behind the characters. -/
theorem documentLines_append
    (cut : Cut front rows last)
    (notNewline : tail.head? ≠ some '\n') :
    documentLines (front ++ tail) = rows ++ documentLines (last ++ tail) := by
  induction cut with
  | last oneLine =>
      rfl
  | row oneLine isEnding _ inductionHypothesis =>
      rw [List.append_assoc, List.append_assoc,
        documentLines_row oneLine (isEnding.append notNewline), inductionHypothesis]
      rfl

theorem oneLine_last
    (cut : Cut front rows last) :
    OneLine last := by
  induction cut with
  | last oneLine =>
      exact oneLine
  | row _ _ _ inductionHypothesis =>
      exact inductionHypothesis

theorem infix_of_mem
    (cut : Cut front rows last)
    {row : List Char}
    (member : row ∈ rows) :
    row <:+: front := by
  induction cut with
  | last oneLine =>
      cases member
  | row oneLine isEnding _ inductionHypothesis =>
      rcases List.mem_cons.mp member with rfl | inRest
      · exact (List.prefix_append _ _).isInfix
      · exact (inductionHypothesis inRest).trans
          ((List.suffix_append _ _).trans (List.suffix_append _ _)).isInfix

/-- There are as many lines as newlines, if newlines alone end the lines, and else more. -/
theorem count_newline
    (cut : Cut front rows last) :
    front.count '\n' ≤ rows.length ∧
      (front.count '\n' = rows.length ↔ NewlinesOnly front) := by
  induction cut with
  | last oneLine =>
      simp [oneLine.count_newline, oneLine.newlinesOnly]
  | @row row ending rest last rows oneLine isEnding _ inductionHypothesis =>
      have atMost := isEnding.count_le
      rw [newlinesOnly_row_iff oneLine isEnding, ← inductionHypothesis.2, List.count_append,
        List.count_append, oneLine.count_newline, List.length_cons]
      omega

/-- Where newlines alone end the lines, the column is counted from the beginning of the last. -/
theorem column_after
    (cut : Cut front rows last)
    (newlines : NewlinesOnly front) :
    (Position.start.after front).column = last.length + 1 := by
  induction cut with
  | last oneLine =>
      have counted := Position.column_after
        (fun member => List.count_eq_zero.mp oneLine.count_newline member) .start
      rw [counted, Position.start]
      exact Int.add_comm _ _
  | @row row ending rest last rows oneLine isEnding _ inductionHypothesis =>
      obtain ⟨ended, restNewlines⟩ := (newlinesOnly_row_iff oneLine isEnding).mp newlines
      rw [← inductionHypothesis restNewlines]
      obtain ⟨lead, rfl⟩ : ∃ lead, ending = lead ++ ['\n'] := by
        cases isEnding with
        | newline =>
            exact ⟨[], rfl⟩
        | paired =>
            exact ⟨['\r'], rfl⟩
        | other _ notNewline _ =>
            simp [notNewline] at ended
      have below :
          Position.start.after (row ++ (lead ++ ['\n'] ++ rest)) =
            ((Position.start.after (row ++ lead)).advance '\n').after rest := by
        simp [Position.after]
      rw [below, Position.start_after_newline, Position.after_shift]
      rfl

end Cut

end Text

end StackScript
