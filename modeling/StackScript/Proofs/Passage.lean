import StackScript.Proofs.SpacedTokens

namespace StackScript

/-!
# Passing over a text

Lexing moves over a text piece by piece and stops at the first piece that it cannot read.  A scan
does the same but goes on behind such a piece, so that it finds every token and every unreadable run
of the text in one pass.  What lexing finds is what the scan finds up to the first unreadable run.

To talk about the places between pieces, `Passes` says that a scan comes over the characters in
front of some others and what it finds on the way.  The others are in view all the time, because a
piece may look at them.
-/

/-- The place behind two stretches is reached by way of the place between them. -/
theorem Position.after_append
    (position : Position)
    (chars more : List Char) :
    position.after (chars ++ more) = (position.after chars).after more :=
  List.foldl_append

/-- What is found at a place that is not blank: a token, or a run that cannot be read. -/
inductive Finding where
  | token (found : Token)
  | unreadable (fault : LexFault)
  deriving DecidableEq

namespace Finding

def position : Finding → Position
  | .token found =>
      found.position
  | .unreadable fault =>
      fault.position

def text : Finding → String
  | .token found =>
      found.text
  | .unreadable fault =>
      fault.text

def token? : Finding → Option Token
  | .token found =>
      some found
  | .unreadable _ =>
      none

def fault? : Finding → Option LexFault
  | .token _ =>
      none
  | .unreadable fault =>
      some fault

theorem token?_eq_some_iff
    {finding : Finding}
    {token : Token} :
    finding.token? = some token ↔ finding = .token token := by
  cases finding <;> simp [token?]

theorem fault?_eq_some_iff
    {finding : Finding}
    {fault : LexFault} :
    finding.fault? = some fault ↔ finding = .unreadable fault := by
  cases finding <;> simp [fault?]

theorem filterMap_token?_map
    (tokens : List Token) :
    (tokens.map Finding.token).filterMap token? = tokens := by
  simp [List.filterMap_map, Function.comp_def, token?]

theorem filterMap_fault?_map
    (tokens : List Token) :
    (tokens.map Finding.token).filterMap fault? = [] := by
  simp [fault?]

end Finding

/-- What lexing makes of findings: it stops at the first run that cannot be read. -/
def Lexing.ofFindings : List Finding → Lexing
  | [] =>
      ⟨[], none⟩
  | .token token :: rest =>
      cons token (ofFindings rest)
  | .unreadable fault :: _ =>
      ⟨[], some fault⟩

theorem Lexing.ofFindings_tokens_append
    (tokens : List Token)
    (findings : List Finding) :
    ofFindings (tokens.map .token ++ findings) =
      ⟨tokens ++ (ofFindings findings).tokens, (ofFindings findings).fault⟩ := by
  induction tokens with
  | nil =>
      rfl
  | cons token rest inductionHypothesis =>
      simp [ofFindings, cons, inductionHypothesis]

/-- Findings, with the tokens up to a first run that cannot be read and that run. -/
inductive Lexing.Stops : List Finding → Lexing → Prop where
  | atEnd
      (tokens : List Token) :
      Stops (tokens.map .token) ⟨tokens, none⟩
  | atFault
      (tokens : List Token)
      (fault : LexFault)
      (behind : List Finding) :
      Stops (tokens.map .token ++ .unreadable fault :: behind) ⟨tokens, some fault⟩

theorem Lexing.stops_ofFindings
    (findings : List Finding) :
    Stops findings (ofFindings findings) := by
  induction findings with
  | nil =>
      exact .atEnd []
  | cons finding rest inductionHypothesis =>
      cases finding with
      | unreadable fault =>
          exact .atFault [] fault rest
      | token found =>
          rw [ofFindings]
          generalize ofFindings rest = lexing at inductionHypothesis ⊢
          cases inductionHypothesis with
          | atEnd tokens =>
              exact .atEnd (found :: tokens)
          | atFault tokens fault behind =>
              exact .atFault (found :: tokens) fault behind

theorem Lexing.mem_of_mem_ofFindings
    {findings : List Finding}
    {token : Token}
    (member : token ∈ (ofFindings findings).tokens) :
    .token token ∈ findings := by
  have stops := stops_ofFindings findings
  generalize ofFindings findings = lexing at member stops
  cases stops with
  | atEnd tokens =>
      exact List.mem_map_of_mem member
  | atFault tokens fault behind =>
      exact List.mem_append_left _ (List.mem_map_of_mem member)

namespace Lexer

/--
Scan a text from a position, skipping the characters that belong to the last piece.  A run that
cannot be read is recorded, and the scan goes on right behind it.
-/
def scanFrom (skip : Nat) (position : Position) : List Char → List Finding
  | [] =>
      []
  | first :: rest =>
      match skip with
      | remaining + 1 =>
          scanFrom remaining (position.advance first) rest
      | 0 =>
          if Text.isBlank first then
            scanFrom 0 (position.advance first) rest
          else
            match piece first rest with
            | .comment size =>
                scanFrom (size - 1) (position.advance first) rest
            | .lexeme lexeme size =>
                .token (.inSource lexeme (String.ofList ((first :: rest).take size)) position) ::
                  scanFrom (size - 1) (position.advance first) rest
            | .unreadable size =>
                .unreadable ⟨String.ofList ((first :: rest).take size), position⟩ ::
                  scanFrom (size - 1) (position.advance first) rest

/-- Lexing is a scan that stops at the first run that cannot be read. -/
theorem lexFrom_eq_ofFindings
    (skip : Nat)
    (position : Position)
    (chars : List Char) :
    lexFrom skip position chars = .ofFindings (scanFrom skip position chars) := by
  induction chars generalizing skip position with
  | nil =>
      rfl
  | cons first rest inductionHypothesis =>
      cases skip with
      | succ remaining =>
          exact inductionHypothesis remaining _
      | zero =>
          by_cases blank : Text.isBlank first = true
          · simp [lexFrom, scanFrom, blank, inductionHypothesis]
          · cases found : piece first rest <;>
              simp [lexFrom, scanFrom, blank, found, inductionHypothesis, Lexing.ofFindings]

theorem stops_lexFrom
    (position : Position)
    (chars : List Char) :
    Lexing.Stops (scanFrom 0 position chars) (lexFrom 0 position chars) := by
  rw [lexFrom_eq_ofFindings]
  exact Lexing.stops_ofFindings _

/-- What a scan records of a piece with the given characters. -/
def Piece.findings (piece : Piece) (chars : List Char) (position : Position) : List Finding :=
  match piece with
  | .comment _ =>
      []
  | .lexeme kind _ =>
      [.token (.inSource kind (String.ofList chars) position)]
  | .unreadable _ =>
      [.unreadable ⟨String.ofList chars, position⟩]

/-- A scan records at most one finding of a piece. -/
theorem Piece.findings_cases
    (piece : Piece)
    (chars : List Char)
    (position : Position) :
    piece.findings chars position = [] ∨ ∃ finding, piece.findings chars position = [finding] := by
  cases piece with
  | comment size =>
      exact .inl rfl
  | lexeme kind size =>
      exact .inr ⟨_, rfl⟩
  | unreadable size =>
      exact .inr ⟨_, rfl⟩

/-- What is recorded of a piece has its characters and its place. -/
theorem Piece.position_text_of_findings
    {piece : Piece}
    {chars : List Char}
    {position : Position}
    {finding : Finding}
    (records : piece.findings chars position = [finding]) :
    finding.position = position ∧ finding.text = String.ofList chars := by
  cases piece with
  | comment size =>
      cases records
  | lexeme kind size =>
      cases records
      exact ⟨rfl, rfl⟩
  | unreadable size =>
      cases records
      exact ⟨rfl, rfl⟩

theorem Piece.eq_unreadable_of_findings
    {piece : Piece}
    {chars : List Char}
    {position : Position}
    {fault : LexFault}
    (records : piece.findings chars position = [.unreadable fault]) :
    ∃ size, piece = .unreadable size ∧ fault = ⟨String.ofList chars, position⟩ := by
  cases piece with
  | comment size =>
      cases records
  | lexeme kind size =>
      cases records
  | unreadable size =>
      cases records
      exact ⟨size, rfl, rfl⟩

theorem scanFrom_blank
    {first : Char}
    (blank : Text.isBlank first = true)
    (position : Position)
    (rest : List Char) :
    scanFrom 0 position (first :: rest) = scanFrom 0 (position.advance first) rest := by
  simp [scanFrom, blank]

theorem scanFrom_skip
    (position : Position)
    (chars tail : List Char) :
    scanFrom chars.length position (chars ++ tail) = scanFrom 0 (position.after chars) tail := by
  induction chars generalizing position with
  | nil =>
      rfl
  | cons first rest inductionHypothesis =>
      exact inductionHypothesis (position.advance first)

/-- A piece of the given characters stands in front of `back`. -/
structure WholePiece (first : Char) (others back : List Char) : Prop where
  solid :
    ¬Text.isBlank first = true
  size :
    (piece first (others ++ back)).size = others.length + 1

/-- A scan records a piece and goes on behind it. -/
theorem WholePiece.scanFrom
    {first : Char}
    {others back : List Char}
    (whole : WholePiece first others back)
    (position : Position) :
    Lexer.scanFrom 0 position (first :: (others ++ back)) =
      (piece first (others ++ back)).findings (first :: others) position ++
        Lexer.scanFrom 0 (position.after (first :: others)) back := by
  obtain ⟨solid, size⟩ := whole
  have behind := scanFrom_skip (position.advance first) others back
  have here : (first :: (others ++ back)).take (others.length + 1) = first :: others := by
    simp
  cases found : piece first (others ++ back) <;>
    (rw [found] at size
     subst size
     simp only [Lexer.scanFrom, solid, found, Piece.findings, Nat.add_sub_cancel, behind, here]
     rfl)

/-- What is neither comment nor number is no comment. -/
theorem wordOrSign_ne_comment
    (first : Char)
    (rest : List Char)
    (size : Nat) :
    wordOrSign first rest ≠ .comment size := by
  unfold wordOrSign
  split
  · simp
  · split
    · simp
    · split
      · simp
      · split
        · simp
        · split <;> simp

/-- A comment begins with its sign and goes on to the end of the line. -/
theorem piece_comment
    {first : Char}
    {rest : List Char}
    {size : Nat}
    (found : piece first rest = .comment size) :
    first = '#' ∧ size = ((first :: rest).takeWhile (· ≠ '\n')).length := by
  unfold piece at found
  split at found
  · next isHash =>
    cases found
    exact ⟨isHash, rfl⟩
  · split at found
    · cases found
    · exact (wordOrSign_ne_comment first rest size found).elim

/-- A lexeme is a number, or there is no number and it is a word or a sign. -/
theorem piece_lexeme
    {first : Char}
    {rest : List Char}
    {lexeme : Lexeme}
    {size : Nat}
    (found : piece first rest = .lexeme lexeme size) :
    first ≠ '#' ∧
      ((∃ decimal,
          number? (first :: rest) = some (decimal, size) ∧ lexeme = .number decimal.toFloat) ∨
        number? (first :: rest) = none ∧ wordOrSign first rest = .lexeme lexeme size) := by
  unfold piece at found
  split at found
  · cases found
  · next notHash =>
    refine ⟨notHash, ?_⟩
    split at found
    · next decimal length isNumber =>
      cases found
      exact .inl ⟨decimal, isNumber, rfl⟩
    · next isNone =>
      exact .inr ⟨isNone, found⟩

/-- A piece has at least one character. -/
theorem size_piece_pos
    {first : Char}
    (solid : ¬Text.isBlank first = true)
    (rest : List Char) :
    0 < (piece first rest).size := by
  cases found : piece first rest with
  | comment size =>
      obtain ⟨rfl, rfl⟩ := piece_comment found
      simp [Piece.size]
  | lexeme lexeme size =>
      have alone := standsAlone_of_piece solid found
      cases size with
      | zero =>
          cases alone
      | succ remaining =>
          exact Nat.succ_pos remaining
  | unreadable size =>
      obtain ⟨rfl, notOpen, notClose, notHash⟩ := piece_unreadable found
      have belongs : inUnreadable first = true := by
        simp [inUnreadable, solid, notOpen, notClose, notHash]
      simp [Piece.size, belongs]

/-- At a character that is not blank stands a piece. -/
theorem exists_wholePiece
    {first : Char}
    (solid : ¬Text.isBlank first = true)
    (rest : List Char) :
    ∃ others back, rest = others ++ back ∧ WholePiece first others back := by
  have positive := size_piece_pos solid rest
  have within := size_piece_le first rest
  generalize isSize : (piece first rest).size = size at positive within
  have shape := List.take_append_drop (size - 1) rest
  refine ⟨rest.take (size - 1), rest.drop (size - 1), shape.symm, solid, ?_⟩
  rw [shape, isSize, List.length_take_of_le (by omega)]
  omega

/--
A scan that stands at `position`, with `front` and then `tail` before it, comes to stand between the
two, and has then found the given findings.
-/
inductive Passes (tail : List Char) : Position → List Char → List Finding → Prop where
  | arrived
      (position : Position) :
      Passes tail position [] []
  | overBlank
      {position : Position}
      {c : Char}
      {front : List Char}
      {findings : List Finding}
      (blank : Text.isBlank c = true)
      (further : Passes tail (position.advance c) front findings) :
      Passes tail position (c :: front) findings
  | overPiece
      {position : Position}
      {first : Char}
      {others front : List Char}
      {findings : List Finding}
      (whole : WholePiece first others (front ++ tail))
      (further : Passes tail (position.after (first :: others)) front findings) :
      Passes tail position (first :: (others ++ front))
        ((piece first (others ++ (front ++ tail))).findings (first :: others) position ++ findings)

/-- A scan of a whole text passes over it. -/
theorem passes_scanFrom
    (position : Position)
    (chars : List Char) :
    Passes [] position chars (scanFrom 0 position chars) := by
  -- The recursion is on the size of the text, because a piece has any number of characters.
  induction isSize : chars.length using Nat.strongRecOn generalizing position chars with
  | ind size inductionHypothesis =>
      cases chars with
      | nil =>
          exact .arrived position
      | cons first rest =>
          by_cases blank : Text.isBlank first = true
          · rw [scanFrom_blank blank]
            exact .overBlank blank (inductionHypothesis rest.length (by simp [← isSize]) _ rest rfl)
          · obtain ⟨others, back, rfl, whole⟩ := exists_wholePiece blank rest
            have shorter : back.length < size := by
              simp only [← isSize, List.length_cons, List.length_append]
              omega
            have further :=
              inductionHypothesis back.length shorter (position.after (first :: others)) back rfl
            have wholeAtEnd : WholePiece first others (back ++ []) := by
              rwa [List.append_nil]
            have passes := Passes.overPiece wholeAtEnd further
            rwa [List.append_nil, ← whole.scanFrom] at passes

/--
A scan that passes over `lead`, a piece and `back` finds one thing in the piece, and other things
before and behind it.
-/
structure FindsAt
    (tail : List Char)
    (position : Position)
    (before : List Finding)
    (finding : Finding)
    (behind : List Finding)
    (lead : List Char)
    (first : Char)
    (others back : List Char) : Prop where
  whole :
    WholePiece first others (back ++ tail)
  records :
    (piece first (others ++ (back ++ tail))).findings (first :: others) (position.after lead) =
      [finding]
  toPiece :
    Passes (first :: (others ++ (back ++ tail))) position lead before
  further :
    Passes tail (position.after (lead ++ first :: others)) back behind

namespace Passes

variable {tail : List Char} {position : Position} {front : List Char} {findings : List Finding}

theorem scanFrom
    (passes : Passes tail position front findings) :
    Lexer.scanFrom 0 position (front ++ tail) =
      findings ++ Lexer.scanFrom 0 (position.after front) tail := by
  induction passes with
  | arrived position =>
      rfl
  | overBlank blank _ inductionHypothesis =>
      rw [List.cons_append, scanFrom_blank blank, inductionHypothesis]
      rfl
  | @overPiece position first others front findings whole _ inductionHypothesis =>
      rw [List.cons_append, List.append_assoc, whole.scanFrom, inductionHypothesis,
        ← Position.after_append, List.append_assoc]
      rfl

/-- Where all findings are tokens, lexing goes on behind them. -/
theorem lexFrom
    {tokens : List Token}
    (passes : Passes tail position front (tokens.map .token)) :
    Lexer.lexFrom 0 position (front ++ tail) =
      ⟨tokens ++ (Lexer.lexFrom 0 (position.after front) tail).tokens,
        (Lexer.lexFrom 0 (position.after front) tail).fault⟩ := by
  rw [lexFrom_eq_ofFindings, passes.scanFrom, Lexing.ofFindings_tokens_append,
    ← lexFrom_eq_ofFindings]

/-- Where a scan has found something, it stood in front of it before. -/
theorem split
    (before : List Finding)
    {behind : List Finding}
    {finding : Finding}
    (passes : Passes tail position front (before ++ finding :: behind)) :
    ∃ lead first others back,
      front = lead ++ first :: (others ++ back) ∧
        FindsAt tail position before finding behind lead first others back := by
  generalize isAll : before ++ finding :: behind = all at passes
  induction passes generalizing before with
  | arrived position =>
      simp at isAll
  | @overBlank position c front findings blank _ inductionHypothesis =>
      obtain ⟨lead, first, others, back, rfl, whole, records, toPiece, further⟩ :=
        inductionHypothesis before isAll
      exact ⟨c :: lead, first, others, back, rfl, whole, records, .overBlank blank toPiece, further⟩
  | @overPiece position first others front findings whole further inductionHypothesis =>
      have later
          {rest : List Finding}
          (isRest : rest ++ finding :: behind = findings)
          (isBefore :
            (piece first (others ++ (front ++ tail))).findings (first :: others) position ++ rest =
              before) :
          ∃ lead next more back,
            first :: (others ++ front) = lead ++ next :: (more ++ back) ∧
              FindsAt tail position before finding behind lead next more back := by
        obtain ⟨lead, next, more, back, rfl, nextWhole, records, toPiece, beyond⟩ :=
          inductionHypothesis rest isRest
        have sameText :
            lead ++ next :: (more ++ back) ++ tail = lead ++ next :: (more ++ (back ++ tail)) := by
          simp
        rw [sameText] at whole isBefore
        refine ⟨first :: (others ++ lead), next, more, back, by simp, nextWhole, ?_, ?_, ?_⟩
        · rwa [← List.cons_append, Position.after_append]
        · exact isBefore ▸ .overPiece whole toPiece
        · rwa [← List.cons_append, List.append_assoc, Position.after_append]
      -- The finding belongs to this piece, or to one behind it.
      rcases Piece.findings_cases (piece first (others ++ (front ++ tail))) (first :: others)
        position with none | ⟨here, single⟩
      · rw [none, List.nil_append] at isAll
        exact later isAll (by rw [none, List.nil_append])
      · rw [single, List.singleton_append] at isAll
        cases before with
        | nil =>
            obtain ⟨rfl, rfl⟩ := List.cons.inj isAll
            exact ⟨[], first, others, front, rfl, whole, single, .arrived position, further⟩
        | cons _ rest =>
            obtain ⟨rfl, isRest⟩ := List.cons.inj isAll
            exact later isRest (by rw [single]; rfl)

end Passes

end Lexer

end StackScript
