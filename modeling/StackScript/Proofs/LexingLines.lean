import Mathlib.Data.List.Basic
import StackScript.Token.Lexer

namespace StackScript

/-!
# Lexing line by line

The lexer looks ahead: a number must not be followed by what would continue it, an operator may have
a second character, a comment and an unreadable run go on as far as they can.  None of them looks
past a newline.  So a text that is put behind another one, on a new line, is lexed as if it stood
alone, only that its tokens stand further down.
-/

namespace Position

/-- The place behind several characters. -/
def after (position : Position) (chars : List Char) : Position :=
  chars.foldl advance position

/-- A place that is moved on by characters and lines, in the same column. -/
def shift (position : Position) (characters lines : Int) : Position where
  offset :=
    position.offset + characters
  line :=
    position.line + lines
  column :=
    position.column

theorem advance_shift
    (position : Position)
    (characters lines : Int)
    (c : Char) :
    (position.shift characters lines).advance c =
      (position.advance c).shift characters lines := by
  unfold advance shift
  split
  · simp only [Position.mk.injEq, and_true]
    omega
  · simp only [Position.mk.injEq, and_true]
    omega

theorem offset_after
    (position : Position)
    (chars : List Char) :
    (position.after chars).offset = position.offset + chars.length := by
  induction chars generalizing position with
  | nil =>
      simp [after]
  | cons c rest inductionHypothesis =>
      have further := inductionHypothesis (position.advance c)
      simp only [after, advance, List.foldl_cons, List.length_cons] at further ⊢
      omega

theorem line_after
    (position : Position)
    (chars : List Char) :
    (position.after chars).line = position.line + chars.count '\n' := by
  induction chars generalizing position with
  | nil =>
      simp [after]
  | cons c rest inductionHypothesis =>
      have further := inductionHypothesis (position.advance c)
      by_cases isNewline : c = '\n'
      · subst isNewline
        simp only [after, advance, ↓reduceIte, List.foldl_cons, List.count_cons_self] at further ⊢
        omega
      · rw [List.count_cons_of_ne isNewline]
        simpa only [after, advance, isNewline, ↓reduceIte, List.foldl_cons] using further

/-- The place behind a first line is the start of a text, moved down. -/
theorem start_after_newline
    (chars : List Char) :
    (start.after chars).advance '\n' =
      start.shift (chars.length + 1) (chars.count '\n' + 1) := by
  have offset : (start.after chars).offset = chars.length := by
    simpa [start] using offset_after start chars
  have line : (start.after chars).line = 1 + chars.count '\n' :=
    line_after start chars
  simp only [advance, shift, offset, line, ↓reduceIte, Position.mk.injEq]
  refine ⟨by simp [start], ?_, rfl⟩
  simp only [start]
  omega

end Position

/-- A token that stands further down in a text. -/
def Token.shift (token : Token) (characters lines : Int) : Token :=
  { token with position := token.position.shift characters lines }

namespace Lexing

/-- What lexing finds in a text that stands further down. -/
def shift (lexing : Lexing) (characters lines : Int) : Lexing where
  tokens :=
    lexing.tokens.map (·.shift characters lines)
  fault :=
    lexing.fault.map fun fault =>
      { fault with position := fault.position.shift characters lines }

/-- What lexing finds in two texts in a row: it does not get past a fault in the first. -/
def append (first second : Lexing) : Lexing :=
  match first.fault with
  | none =>
      ⟨first.tokens ++ second.tokens, second.fault⟩
  | some _ =>
      first

theorem cons_append
    (token : Token)
    (first second : Lexing) :
    (cons token first).append second = cons token (first.append second) := by
  rcases first with ⟨tokens, _ | fault⟩ <;> rfl

end Lexing

namespace Lexer

/-- A character at which every piece in front of it ends, but for a comment. -/
structure Separator (c : Char) : Prop where
  numeral :
    ∀ stage : Number.NumeralStage, stage.next? c = none
  number :
    continuesNumber c = false
  word :
    continuesWord c = false
  operator :
    ∀ first, [first, c] ∉ wideOperators
  unreadable :
    inUnreadable c = false

theorem separator_newline : Separator '\n' where
  numeral stage := by
    cases stage <;> decide
  number := by
    decide
  word := by
    decide
  operator first := by
    simp [wideOperators]
  unreadable := by
    decide

/-- A run of characters ends at one that does not belong to it. -/
theorem takeWhile_append_cons
    {belongs : Char → Bool}
    {c : Char}
    (outside : belongs c = false)
    (chars tail : List Char) :
    (chars ++ c :: tail).takeWhile belongs = chars.takeWhile belongs := by
  induction chars with
  | nil =>
      simp [outside]
  | cons first rest inductionHypothesis =>
      by_cases inside : belongs first
      · simp [inside, inductionHypothesis]
      · simp [inside]

section Separated

variable {c : Char} (separator : Separator c) (tail : List Char)

include separator

theorem numberSize_append
    (stage : Number.NumeralStage)
    (size longest : Nat)
    (chars : List Char) :
    numberSize stage size longest (chars ++ c :: tail) =
      numberSize stage size longest chars := by
  induction chars generalizing stage size longest with
  | nil =>
      simp [numberSize, separator.number, separator.numeral]
  | cons first rest inductionHypothesis =>
      simp only [List.cons_append, numberSize]
      split
      · rfl
      · exact inductionHypothesis _ _ _

omit separator in
/-- A number token lies within the text. -/
theorem numberSize_le
    (stage : Number.NumeralStage)
    {size longest : Nat}
    (within : longest ≤ size)
    (chars : List Char) :
    numberSize stage size longest chars ≤ size + chars.length := by
  induction chars generalizing stage size longest with
  | nil =>
      unfold numberSize
      split <;> omega
  | cons first rest inductionHypothesis =>
      have foundWithin :
          (if stage.isComplete && !continuesNumber first then size else longest) ≤ size := by
        split <;> omega
      simp only [numberSize, List.length_cons]
      split
      · omega
      · next next _ =>
        calc
          _ ≤ size + 1 + rest.length :=
            inductionHypothesis next (Nat.le_succ_of_le foundWithin)
          _ = size + (rest.length + 1) := by
            omega

theorem number?_append
    (chars : List Char) :
    number? (chars ++ c :: tail) = number? chars := by
  have within : numberSize .start 0 0 chars ≤ chars.length := by
    simpa using numberSize_le .start (Nat.le_refl 0) chars
  unfold number?
  rw [numberSize_append separator]
  split
  · rfl
  · rw [List.take_append_of_le_length within]

theorem operator?_append
    (first : Char)
    (rest : List Char) :
    operator? (first :: (rest ++ c :: tail)) = operator? (first :: rest) := by
  cases rest with
  | nil =>
      have notWide : [first] ∉ wideOperators := by
        simp [wideOperators]
      simp [operator?, separator.operator first, notWide]
  | cons second others =>
      simp [operator?]

theorem wordOrSign_append
    (first : Char)
    (rest : List Char) :
    wordOrSign first (rest ++ c :: tail) = wordOrSign first rest := by
  have sameWord := takeWhile_append_cons separator.word rest tail
  have sameRun := takeWhile_append_cons separator.unreadable (first :: rest) tail
  rw [List.cons_append] at sameRun
  unfold wordOrSign
  rw [sameWord, operator?_append separator, sameRun]

end Separated

/-- No piece looks past a newline. -/
theorem piece_append_newline
    (first : Char)
    (rest tail : List Char) :
    piece first (rest ++ '\n' :: tail) = piece first rest := by
  have sameComment :
      (first :: (rest ++ '\n' :: tail)).takeWhile (· ≠ '\n') =
        (first :: rest).takeWhile (· ≠ '\n') :=
    takeWhile_append_cons (by decide) (first :: rest) tail
  have sameNumber : number? (first :: (rest ++ '\n' :: tail)) = number? (first :: rest) :=
    number?_append separator_newline tail (first :: rest)
  unfold piece
  rw [sameComment, sameNumber, wordOrSign_append separator_newline]

/-- The number of characters of a piece. -/
def Piece.size : Piece → Nat
  | .comment size | .lexeme _ size | .unreadable size =>
      size

theorem size_wordOrSign_le
    (first : Char)
    (rest : List Char) :
    (wordOrSign first rest).size ≤ rest.length + 1 := by
  have run := List.takeWhile_prefix (l := first :: rest) inUnreadable
  have word := List.takeWhile_prefix (l := rest) continuesWord
  unfold wordOrSign
  split
  · simpa [Piece.size] using word.length_le
  · split
    · simp [Piece.size]
    · split
      · simp [Piece.size]
      · split
        · next sign found =>
          unfold operator? at found
          split at found
          · cases found
            exact List.length_take_le' 2 (first :: rest)
          · split at found
            · cases found
              simp [Piece.size]
            · cases found
        · split
          · simp [Piece.size]
          · exact run.length_le

/-- A piece lies within the text. -/
theorem size_piece_le
    (first : Char)
    (rest : List Char) :
    (piece first rest).size ≤ rest.length + 1 := by
  unfold piece
  split
  · exact (List.takeWhile_prefix (l := first :: rest) (· ≠ '\n')).length_le
  · split
    · next decimal size found =>
      have within := numberSize_le .start (Nat.le_refl 0) (first :: rest)
      unfold number? at found
      split at found
      · cases found
      · simp only [Option.map_eq_some_iff, Prod.mk.injEq] at found
        obtain ⟨_, _, _, rfl⟩ := found
        simpa [Piece.size] using within
    · exact size_wordOrSign_le first rest

section Pieces

variable {first : Char} {rest : List Char} {size : Nat}

theorem lexFrom_blank
    (blank : Text.isBlank first = true)
    (position : Position) :
    lexFrom 0 position (first :: rest) = lexFrom 0 (position.advance first) rest := by
  simp [lexFrom, blank]

theorem lexFrom_comment
    (solid : ¬Text.isBlank first = true)
    (found : piece first rest = .comment size)
    (position : Position) :
    lexFrom 0 position (first :: rest) = lexFrom (size - 1) (position.advance first) rest := by
  simp [lexFrom, solid, found]

theorem lexFrom_lexeme
    {lexeme : Lexeme}
    (solid : ¬Text.isBlank first = true)
    (found : piece first rest = .lexeme lexeme size)
    (position : Position) :
    lexFrom 0 position (first :: rest) =
      .cons (.inSource lexeme (String.ofList ((first :: rest).take size)) position)
        (lexFrom (size - 1) (position.advance first) rest) := by
  simp [lexFrom, solid, found]

theorem lexFrom_unreadable
    (solid : ¬Text.isBlank first = true)
    (found : piece first rest = .unreadable size)
    (position : Position) :
    lexFrom 0 position (first :: rest) =
      ⟨[], some ⟨String.ofList ((first :: rest).take size), position⟩⟩ := by
  simp [lexFrom, solid, found]

end Pieces

/-- A text behind a newline is lexed from its own start, once the text in front of it is lexed. -/
theorem lexFrom_append_newline
    {skip : Nat}
    {chars : List Char}
    (within : skip ≤ chars.length)
    (position : Position)
    (tail : List Char) :
    lexFrom skip position (chars ++ '\n' :: tail) =
      (lexFrom skip position chars).append
        (lexFrom 0 ((position.after chars).advance '\n') tail) := by
  induction chars generalizing skip position with
  | nil =>
      obtain rfl : skip = 0 :=
        Nat.le_zero.mp within
      exact lexFrom_blank (by decide) position
  | cons first rest inductionHypothesis =>
      have further
          {skip : Nat}
          (within : skip ≤ rest.length) :
          lexFrom skip (position.advance first) (rest ++ '\n' :: tail) =
            (lexFrom skip (position.advance first) rest).append
              (lexFrom 0 ((position.after (first :: rest)).advance '\n') tail) :=
        inductionHypothesis within (position.advance first)
      cases skip with
      | succ remaining =>
          exact further (Nat.le_of_succ_le_succ within)
      | zero =>
          -- A piece ends within the first text, so that no skip reaches across the newline.
          by_cases blank : Text.isBlank first = true
          · rw [List.cons_append, lexFrom_blank blank, lexFrom_blank blank]
            exact further (Nat.zero_le _)
          · have samePiece := piece_append_newline first rest tail
            have size := size_piece_le first rest
            have sameText :
                (first :: rest ++ '\n' :: tail).take (piece first rest).size =
                  (first :: rest).take (piece first rest).size :=
              List.take_append_of_le_length size
            cases found : piece first rest with
            | comment length =>
                rw [found] at samePiece size
                rw [List.cons_append, lexFrom_comment blank samePiece, lexFrom_comment blank found]
                exact further (Nat.sub_le_of_le_add size)
            | lexeme lexeme length =>
                rw [found] at samePiece size sameText
                rw [List.cons_append, lexFrom_lexeme blank samePiece, lexFrom_lexeme blank found,
                  Lexing.cons_append]
                exact congrArg₂
                  (fun text => Lexing.cons (.inSource lexeme (String.ofList text) position))
                  sameText (further (Nat.sub_le_of_le_add size))
            | unreadable length =>
                rw [found] at samePiece sameText
                rw [List.cons_append, lexFrom_unreadable blank samePiece,
                  lexFrom_unreadable blank found]
                exact congrArg (fun text => Lexing.mk [] (some ⟨String.ofList text, position⟩))
                  sameText

/-- What the lexer finds depends on where it starts only in the places it records. -/
theorem lexFrom_shift
    (skip : Nat)
    (position : Position)
    (characters lines : Int)
    (chars : List Char) :
    lexFrom skip (position.shift characters lines) chars =
      (lexFrom skip position chars).shift characters lines := by
  induction chars generalizing skip position with
  | nil =>
      rfl
  | cons first rest inductionHypothesis =>
      unfold lexFrom
      simp only [Position.advance_shift, inductionHypothesis]
      split
      · rfl
      · split
        · rfl
        · split <;> rfl

end Lexer

/-- Two texts, the second on a new line, are lexed one after the other. -/
theorem lex_append_newline
    (first second : String) :
    lex (first ++ "\n" ++ second) =
      (lex first).append
        ((lex second).shift (first.length + 1) (first.toList.count '\n' + 1)) := by
  have chars : (first ++ "\n" ++ second).toList = first.toList ++ '\n' :: second.toList := by
    simp
  unfold lex
  rw [chars, Lexer.lexFrom_append_newline (Nat.zero_le _), Position.start_after_newline,
    Lexer.lexFrom_shift, String.length_toList]

/--
Lexing distributes over lines.  If the first text can be read, its tokens come first and then those
of the second, in the same columns but as many characters and lines further down as the first text
and the newline take up; lexing fails if it fails on the second text, at the same run and as far
down.  If the first text cannot be read, the second is never reached.
-/
theorem lex_distributes_over_lines
    (first second : String) :
    ((lex first).fault = none →
        let characters := first.length + 1
        let lines := 1 + first.toList.count '\n'
        (lex (first ++ "\n" ++ second)).tokens =
            (lex first).tokens ++ (lex second).tokens.map (·.shift characters lines) ∧
          (lex (first ++ "\n" ++ second)).fault =
            (lex second).fault.map fun fault =>
              ⟨fault.text, fault.position.shift characters lines⟩) ∧
      ∀ fault,
        (lex first).fault = some fault →
          (lex (first ++ "\n" ++ second)).tokens = (lex first).tokens ∧
            (lex (first ++ "\n" ++ second)).fault = some fault := by
  have split :
      lex (first ++ "\n" ++ second) =
        (lex first).append
          ((lex second).shift (first.length + 1) (1 + first.toList.count '\n')) := by
    rw [Int.add_comm 1]
    exact lex_append_newline first second
  refine ⟨fun readable => ?_, fun fault failed => ?_⟩
  · rw [split, Lexing.append, readable]
    exact ⟨rfl, rfl⟩
  · rw [split, Lexing.append, failed]
    exact ⟨rfl, failed⟩

/-- A block over two lines, the second of which cannot be read, and the same lines swapped. -/
theorem lex_distributes_over_lines_of_block :
    (lex "f \x7b x # go on\n y").fault = none ∧
      (lex "f \x7b x # go on\n y\nz $? \x7d").tokens =
        [.inSource .symbol "f" ⟨0, 1, 1⟩,
          .inSource .openBrace "\x7b" ⟨2, 1, 3⟩,
          .inSource .symbol "x" ⟨4, 1, 5⟩,
          .inSource .symbol "y" ⟨15, 2, 2⟩,
          .inSource .symbol "z" ⟨17, 3, 1⟩] ∧
      (lex "f \x7b x # go on\n y\nz $? \x7d").fault = some ⟨"$?", ⟨19, 3, 3⟩⟩ ∧
      (lex "z $? \x7d").fault = some ⟨"$?", ⟨2, 1, 3⟩⟩ ∧
      (lex "z $? \x7d\nf \x7b x # go on\n y").fault = some ⟨"$?", ⟨2, 1, 3⟩⟩ := by
  have readable : (lex "f \x7b x # go on\n y").fault = none := by
    decide +kernel
  have failed : (lex "z $? \x7d").fault = some ⟨"$?", ⟨2, 1, 3⟩⟩ := by
    decide +kernel
  have firstTokens :
      (lex "f \x7b x # go on\n y").tokens =
        [.inSource .symbol "f" ⟨0, 1, 1⟩,
          .inSource .openBrace "\x7b" ⟨2, 1, 3⟩,
          .inSource .symbol "x" ⟨4, 1, 5⟩,
          .inSource .symbol "y" ⟨15, 2, 2⟩] := by
    decide +kernel
  have secondTokens : (lex "z $? \x7d").tokens = [.inSource .symbol "z" ⟨0, 1, 1⟩] := by
    decide +kernel
  have below := (lex_distributes_over_lines "f \x7b x # go on\n y" "z $? \x7d").1 readable
  have above :=
    ((lex_distributes_over_lines "z $? \x7d" "f \x7b x # go on\n y").2 _ failed).2
  rw [failed, firstTokens, secondTokens] at below
  exact ⟨readable, below.1, below.2, failed, above⟩

end StackScript
