import Mathlib.Data.List.Forall2
import StackScript.Proofs.BlankedRuns
import StackScript.Proofs.Diagnosis
import StackScript.Proofs.StandingText

namespace StackScript

/-!
# Recovery in one pass

Tolerant lexing blanks out the first run that cannot be read and begins again, until nothing is left
that it cannot read.  A scan comes to the same end without beginning again: blanking out its first
unreadable run takes that run away from what it finds and leaves everything else where it is.  So
the tokens and the issues of tolerant lexing are the findings of a single scan of the text.
-/

/-- Characters of one line move a place on in its line, whatever they are. -/
theorem Position.after_eq_of_oneLine
    {chars others : List Char}
    (oneLine : '\n' ∉ chars)
    (othersOneLine : '\n' ∉ others)
    (sameLength : chars.length = others.length)
    (position : Position) :
    position.after chars = position.after others := by
  have offset : (position.after chars).offset = (position.after others).offset := by
    rw [offset_after, offset_after, sameLength]
  have line : (position.after chars).line = (position.after others).line := by
    rw [line_after, line_after, List.count_eq_zero_of_not_mem oneLine,
      List.count_eq_zero_of_not_mem othersOneLine]
  have column : (position.after chars).column = (position.after others).column := by
    rw [column_after oneLine, column_after othersOneLine, sameLength]
  calc
    position.after chars =
        ⟨(position.after chars).offset, (position.after chars).line,
          (position.after chars).column⟩ :=
      rfl
    _ = position.after others := by
      rw [offset, line, column]

namespace Lexer

/-- A scan passes over blanks. -/
theorem scanFrom_blanks
    {blanks : List Char}
    (allBlank : ∀ c ∈ blanks, Text.isBlank c = true)
    (position : Position)
    (chars : List Char) :
    scanFrom 0 position (blanks ++ chars) = scanFrom 0 (position.after blanks) chars := by
  induction blanks generalizing position with
  | nil =>
      rfl
  | cons c rest inductionHypothesis =>
      obtain ⟨blank, restBlank⟩ := List.forall_mem_cons.mp allBlank
      rw [List.cons_append, scanFrom_blank blank]
      exact inductionHypothesis restBlank _

end Lexer

namespace Recovery

theorem blankOut_append
    (lead run back : List Char) :
    blankOut (lead ++ (run ++ back)) lead.length run.length =
      lead ++ (List.replicate run.length ' ' ++ back) := by
  have behind : (lead ++ (run ++ back)).drop (lead.length + run.length) = back := by
    rw [← List.append_assoc, ← List.length_append, List.drop_left]
  rw [blankOut, List.take_left, behind, List.append_assoc]

/-- Blanking out the first unreadable run takes it away from what a scan finds. -/
theorem scanFrom_blankOut
    {chars : List Char}
    {tokens : List Token}
    {fault : LexFault}
    {behind : List Finding}
    (found : Lexer.scanFrom 0 .start chars = tokens.map .token ++ .unreadable fault :: behind) :
    Lexer.scanFrom 0 .start (blankOut chars fault.position.offset.toNat fault.text.length) =
      tokens.map .token ++ behind := by
  have passes := Lexer.passes_scanFrom .start chars
  rw [found] at passes
  obtain ⟨lead, first, others, back, rfl, finds⟩ := passes.split _
  obtain ⟨place, isText⟩ := Lexer.Piece.position_text_of_findings finds.records
  have start : fault.position.offset.toNat = lead.length :=
    Finding.start_eq place
  have size : fault.text.length = (first :: others).length := by
    rw [show fault.text = String.ofList (first :: others) from isText, String.length_ofList]
  obtain ⟨_, isUnreadable, _⟩ := Lexer.Piece.eq_unreadable_of_findings finds.records
  have inRun := (finds.whole.unreadable isUnreadable).1
  have oneLine : '\n' ∉ first :: others :=
    fun newline => absurd (inRun '\n' newline) (by decide)
  have allTokens : Lexer.AllTokens (tokens.map .token) := by
    simp [Lexer.AllTokens]
  have toBlanks :=
    finds.toPiece.blanked finds.whole.solid allTokens (List.replicate others.length ' ' ++ back)
  rw [← List.cons_append, ← List.replicate_succ] at toBlanks
  have allBlank : ∀ c ∈ List.replicate (others.length + 1) ' ', Text.isBlank c = true := by
    intro c member
    rw [List.eq_of_mem_replicate member]
    decide
  have samePlace :
      (Position.start.after lead).after (List.replicate (others.length + 1) ' ') =
        Position.start.after (lead ++ first :: others) := by
    rw [Position.after_append]
    exact Position.after_eq_of_oneLine (by simp) oneLine (by simp) _
  have behindRun := finds.further.scanFrom
  rw [List.append_nil, Lexer.scanFrom, List.append_nil] at behindRun
  rw [start, size, ← List.cons_append, blankOut_append, List.length_cons, toBlanks.scanFrom,
    Lexer.scanFrom_blanks allBlank, samePlace, behindRun]

/-- A text that cannot be read is blanked out at its fault and lexed again. -/
theorem lexTolerant_restarts
    {chars : List Char}
    {fault : LexFault}
    (failed : (Lexer.lexFrom 0 .start chars).fault = some fault) :
    let restarted := lexTolerant (blankOut chars fault.position.offset.toNat fault.text.length)
    lexTolerant chars = (restarted.1, issueOf fault :: restarted.2) := by
  intro restarted
  rw [lexTolerant]
  split
  · next readable =>
    rw [failed] at readable
    cases readable
  · next found isFound =>
    rw [failed] at isFound
    cases isFound
    rfl

/-- Tolerant lexing finds what a single scan finds. -/
theorem lexTolerant_eq_scan
    (chars : List Char) :
    lexTolerant chars =
      ((Lexer.scanFrom 0 .start chars).filterMap Finding.token?,
        ((Lexer.scanFrom 0 .start chars).filterMap Finding.fault?).map issueOf) := by
  -- The induction is on the rounds of tolerant lexing, each of which takes one run away.
  induction chars using lexTolerant.induct with
  | case1 chars readable =>
      have stops := Lexer.stops_lexFrom .start chars
      rw [lexTolerant_of_readable readable]
      generalize Lexer.lexFrom 0 .start chars = lexing at stops readable ⊢
      generalize Lexer.scanFrom 0 .start chars = findings at stops ⊢
      cases stops with
      | atEnd tokens =>
          rw [Finding.filterMap_token?_map, Finding.filterMap_fault?_map, List.map_nil]
      | atFault tokens fault behind =>
          cases readable
  | case2 chars fault failed _ _ _ _ inductionHypothesis =>
      have stops := Lexer.stops_lexFrom .start chars
      rw [lexTolerant_restarts failed, inductionHypothesis]
      generalize isScan : Lexer.scanFrom 0 .start chars = findings at stops ⊢
      generalize Lexer.lexFrom 0 .start chars = lexing at stops failed
      cases stops with
      | atEnd tokens =>
          cases failed
      | atFault tokens found behind =>
          cases failed
          rw [scanFrom_blankOut isScan]
          simp only [List.filterMap_append, Finding.filterMap_token?_map,
            Finding.filterMap_fault?_map]
          rfl

/-- Tolerant lexing finds tokens only that lexing finds as well, in the text that is read at last. -/
theorem isLexed_of_mem_lexTolerant
    {chars : List Char}
    {token : Token}
    (member : token ∈ (lexTolerant chars).1) :
    token.IsLexed := by
  induction chars using lexTolerant.induct with
  | case1 chars readable =>
      rw [lexTolerant_of_readable readable] at member
      exact ⟨String.ofList chars, by rwa [lex, String.toList_ofList]⟩
  | case2 chars fault failed _ _ _ _ inductionHypothesis =>
      rw [lexTolerant_restarts failed] at member
      exact inductionHypothesis member

/-- Every token that tolerant lexing finds stands in the text, behind the characters up to it. -/
theorem exists_front_of_mem_lexTolerant
    {chars : List Char}
    {token : Token}
    (member : token ∈ (lexTolerant chars).1) :
    ∃ front back,
      chars = front ++ (token.text.toList ++ back) ∧ token.position = Position.start.after front := by
  rw [lexTolerant_eq_scan] at member
  obtain ⟨finding, isFound, isToken⟩ := List.mem_filterMap.mp member
  obtain rfl := Finding.token?_eq_some_iff.mp isToken
  obtain ⟨before, behind, isSplit⟩ := List.append_of_mem isFound
  have passes := Lexer.passes_scanFrom .start chars
  rw [isSplit] at passes
  obtain ⟨lead, first, others, back, text, finds⟩ := passes.split before
  obtain ⟨place, isText⟩ := Lexer.Piece.position_text_of_findings finds.records
  refine ⟨lead, back, ?_, place⟩
  rw [text, show token.text = String.ofList (first :: others) from isText, String.toList_ofList]
  rfl

/-- A round of tolerant lexing keeps the tokens in front of the run that it blanks out. -/
theorem tokens_blankOut
    {buffer : List Char}
    {fault : LexFault}
    (failed : (Lexer.lexFrom 0 .start buffer).fault = some fault) :
    let restarted :=
      Lexer.lexFrom 0 .start (blankOut buffer fault.position.offset.toNat fault.text.length)
    ∃ behind,
      restarted.tokens = (Lexer.lexFrom 0 .start buffer).tokens ++ behind ∧
        ∀ token ∈ behind, (Finding.unreadable fault).stop ≤ (Finding.token token).start := by
  have tiles := Lexer.tiles_scanFrom buffer
  have stops := Lexer.stops_lexFrom .start buffer
  generalize isScan : Lexer.scanFrom 0 .start buffer = findings at stops tiles
  generalize Lexer.lexFrom 0 .start buffer = lexing at stops failed
  cases stops with
  | atEnd tokens =>
      cases failed
  | atFault tokens found behind =>
      cases failed
      have isBehind := (List.pairwise_cons.mp (List.pairwise_append.mp tiles.apart).2.1).1
      rw [Lexer.lexFrom_eq_ofFindings, scanFrom_blankOut isScan, Lexing.ofFindings_tokens_append]
      exact ⟨_, rfl, fun token member => isBehind _ (Lexing.mem_of_mem_ofFindings member)⟩

end Recovery

section Places

variable {chars : List Char} {earlier later : Finding}

theorem Finding.StandsIn.position_eq
    (stands : later.StandsIn chars)
    (inText : later.start ≤ chars.length) :
    later.position = Position.start.after (chars.take later.start) := by
  rw [Position.start_after _ (chars.drop later.start), List.take_append_drop,
    List.length_take_of_le inText]
  exact stands.place

/-- What begins behind a finding is reached from the place behind it. -/
theorem Finding.StandsIn.position_behind
    (earlierStands : earlier.StandsIn chars)
    (laterStands : later.StandsIn chars)
    (apart : earlier.stop ≤ later.start)
    (inText : later.start ≤ chars.length) :
    ∃ between, later.position = (earlier.position.after earlier.text.toList).after between := by
  have reach : earlier.start ≤ earlier.stop :=
    Nat.le_add_right _ _
  have toStop : chars.take earlier.stop = chars.take earlier.start ++ earlier.text.toList := by
    rw [← earlierStands.spelled, List.extract, ← List.take_add, Nat.add_sub_cancel' reach]
  have toLater :
      chars.take later.start =
        chars.take earlier.stop ++ (chars.drop earlier.stop).take (later.start - earlier.stop) := by
    rw [← List.take_add, Nat.add_sub_cancel' apart]
  refine ⟨(chars.drop earlier.stop).take (later.start - earlier.stop), ?_⟩
  rw [laterStands.position_eq inText, toLater, Position.after_append, toStop,
    Position.after_append, earlierStands.position_eq (by omega)]

end Places

/-- Whether an issue ends in front of another one. -/
def Issue.EndsBefore (earlier later : Issue) : Prop :=
  earlier.line < later.line ∨
    earlier.line = later.line ∧ earlier.column + earlier.size ≤ later.column

/-- An issue that says which run cannot be read, in the lexer's words and at the run's place. -/
structure Issue.Reports (issue : Issue) (fault : LexFault) : Prop where
  message :
    issue.message =
      "unrecognised input '" ++ fault.text ++ "' at " ++ toString fault.position.line ++ ":" ++
        toString fault.position.column
  isAt :
    issue.IsAt fault.position
  size :
    issue.size = fault.text.length

namespace Recovery

/-- A run is recorded as an issue that reports it. -/
theorem issueOf_reports
    {fault : LexFault}
    (counted : fault.position.IsCounted) :
    (issueOf fault).Reports fault where
  message :=
    calc
      LexFault.lead ++ fault.text ++ fault.trail =
          LexFault.lead ++ (fault.text ++ fault.trail) :=
        String.append_assoc
      _ = _ := by
        unfold LexFault.lead LexFault.trail
        simp only [String.append_assoc]
  isAt := by
    obtain ⟨line, column⟩ := counted
    simp only [Issue.IsAt, issueOf]
    omega
  size :=
    rfl

/-- Issues of runs that follow one another end one before the other. -/
theorem issueOf_endsBefore
    {earlier later : LexFault}
    (earlierCounted : earlier.position.IsCounted)
    (laterCounted : later.position.IsCounted)
    (oneLine : '\n' ∉ earlier.text.toList)
    {between : List Char}
    (isBehind : later.position = (earlier.position.after earlier.text.toList).after between) :
    (issueOf earlier).EndsBefore (issueOf later) := by
  generalize isStop : earlier.position.after earlier.text.toList = stop at isBehind
  have line : stop.line = earlier.position.line := by
    rw [← isStop, Position.line_after, List.count_eq_zero_of_not_mem oneLine]
    simp
  have column : stop.column = earlier.position.column + earlier.text.length := by
    rw [← isStop, Position.column_after oneLine, String.length_toList]
  have behind : later.position = stop ∨ stop.Precedes later.position := by
    cases between with
    | nil =>
        exact .inl isBehind
    | cons c rest =>
        exact .inr (isBehind ▸ stop.precedes_after_cons c rest)
  obtain ⟨earlierLine, earlierColumn⟩ := earlierCounted
  obtain ⟨laterLine, laterColumn⟩ := laterCounted
  simp only [Issue.EndsBefore, issueOf]
  rcases behind with isStop | precedes
  · rw [isStop]
    omega
  · simp only [Position.Precedes] at precedes
    omega

/-- Every run that a scan cannot read is a longest one of its text. -/
theorem isRunIn_of_mem
    {chars : List Char}
    {fault : LexFault}
    (member : .unreadable fault ∈ Lexer.scanFrom 0 .start chars) :
    fault.IsRunIn chars ∧ fault.position.IsCounted := by
  obtain ⟨before, behind, isSplit⟩ := List.append_of_mem member
  have passes := Lexer.passes_scanFrom .start chars
  rw [isSplit] at passes
  obtain ⟨lead, first, others, back, text, finds⟩ := passes.split before
  have isRun := finds.isRunIn
  rw [List.append_nil, ← text] at isRun
  have place : fault.position = Position.start.after lead :=
    (Lexer.Piece.position_text_of_findings finds.records).1
  exact ⟨isRun, place ▸ Position.isCounted_start.after lead⟩

/-- The issues of tolerant lexing follow one another without overlap. -/
theorem pairwise_issues
    (chars : List Char) :
    (lexTolerant chars).2.Pairwise Issue.EndsBefore := by
  have tiles := Lexer.tiles_scanFrom chars
  rw [lexTolerant_eq_scan, List.pairwise_map, List.pairwise_filterMap]
  refine tiles.apart.imp_of_mem ?_
  intro first second isFirst isSecond apart earlier isEarlier later isLater
  obtain rfl := Finding.fault?_eq_some_iff.mp isEarlier
  obtain rfl := Finding.fault?_eq_some_iff.mp isLater
  obtain ⟨earlierRun, earlierCounted⟩ := isRunIn_of_mem isFirst
  obtain ⟨laterRun, laterCounted⟩ := isRunIn_of_mem isSecond
  have inText : (Finding.unreadable later).start ≤ chars.length :=
    Nat.le_trans (Nat.le_add_right _ _) (tiles.within _ isSecond).2
  obtain ⟨between, isBehind⟩ :=
    earlierRun.stands.position_behind laterRun.stands apart inText
  have oneLine : '\n' ∉ earlier.text.toList :=
    fun newline => absurd (earlierRun.run '\n' newline).1 (by decide)
  exact issueOf_endsBefore earlierCounted laterCounted oneLine isBehind

/-- The runs that a single scan of a text cannot read, in order. -/
def unreadableRuns (chars : List Char) : List LexFault :=
  (Lexer.scanFrom 0 .start chars).filterMap Finding.fault?

/--
Tolerant lexing finds what a single scan of the text finds, which records each unreadable run and
goes on behind it.  There is one issue for each run, in order: it has the lexer's words for the run,
begins where the run stands in the text and is as long as the run.  The issues follow one another
without overlap.  Tokens and runs tile the text.  Whatever text a round of tolerant lexing begins
with, blanking out its first unreadable run keeps all tokens in front of that run and puts none
there.
-/
theorem lexTolerant_scans_once
    (chars : List Char) :
    (lexTolerant chars).1 = (Lexer.scanFrom 0 .start chars).filterMap Finding.token? ∧
      List.Forall₂ Issue.Reports (lexTolerant chars).2 (unreadableRuns chars) ∧
      (∀ fault ∈ unreadableRuns chars, fault.IsRunIn chars) ∧
      (lexTolerant chars).2.Pairwise Issue.EndsBefore ∧
      (∀ issue ∈ (lexTolerant chars).2, 0 < issue.size) ∧
      Tiles chars 0 chars.length (Lexer.scanFrom 0 .start chars) ∧
      ∀ buffer fault,
        (Lexer.lexFrom 0 .start buffer).fault = some fault →
          let blanked := blankOut buffer fault.position.offset.toNat fault.text.length
          ∃ behind,
            (Lexer.lexFrom 0 .start blanked).tokens =
                (Lexer.lexFrom 0 .start buffer).tokens ++ behind ∧
              ∀ token ∈ behind, (Finding.unreadable fault).stop ≤ (Finding.token token).start := by
  have inText : ∀ fault ∈ unreadableRuns chars, fault.IsRunIn chars ∧ fault.position.IsCounted := by
    intro fault member
    obtain ⟨finding, isFound, isFault⟩ := List.mem_filterMap.mp member
    obtain rfl := Finding.fault?_eq_some_iff.mp isFault
    exact isRunIn_of_mem isFound
  have isScan := lexTolerant_eq_scan chars
  refine ⟨by rw [isScan], ?_, fun fault member => (inText fault member).1, pairwise_issues chars,
    ?_, Lexer.tiles_scanFrom chars, ?_⟩
  · rw [isScan, ← unreadableRuns, List.forall₂_map_left_iff, List.forall₂_same]
    exact fun fault member => issueOf_reports (inText fault member).2
  · rw [isScan]
    intro issue member
    obtain ⟨fault, isFault, rfl⟩ := List.mem_map.mp member
    have nonempty : fault.text ≠ "" :=
      (inText fault isFault).1.stands.nonempty
    exact Nat.pos_of_ne_zero (mt String.length_eq_zero_iff.mp nonempty)
  · intro buffer fault failed
    exact tokens_blankOut failed

/-- A number in front of a run that begins with a digit is kept when that run is blanked out. -/
theorem lexTolerant_scans_once_between_digits :
    let chars := "5٣a $$ x".toList
    let fault : LexFault := ⟨"٣a", ⟨1, 1, 2⟩⟩
    (Lexer.lexFrom 0 .start chars).fault = some fault ∧
      fault.IsRunIn chars ∧
      (lexTolerant chars).2 =
        [⟨"unrecognised input '٣a' at 1:2", 0, 1, 2⟩, ⟨"unrecognised input '$$' at 1:5", 0, 4, 2⟩] ∧
      (lexTolerant chars).2.Pairwise Issue.EndsBefore ∧
      ∃ behind,
        (Lexer.lexFrom 0 .start "5   $$ x".toList).tokens =
          (Lexer.lexFrom 0 .start chars).tokens ++ behind := by
  intro chars fault
  have failed : (Lexer.lexFrom 0 .start chars).fault = some fault := by
    decide +kernel
  have recorded : fault ∈ (Lexer.scanFrom 0 .start chars).filterMap Finding.fault? := by
    decide +kernel
  have issues :
      ((Lexer.scanFrom 0 .start chars).filterMap Finding.fault?).map issueOf =
        [⟨"unrecognised input '٣a' at 1:2", 0, 1, 2⟩,
          ⟨"unrecognised input '$$' at 1:5", 0, 4, 2⟩] := by
    decide +kernel
  have blanked : blankOut chars fault.position.offset.toNat fault.text.length =
      "5   $$ x".toList := by
    decide +kernel
  obtain ⟨_, _, inText, inOrder, _, _, keeps⟩ := lexTolerant_scans_once chars
  obtain ⟨behind, kept, _⟩ := keeps chars fault failed
  rw [blanked] at kept
  exact ⟨failed, inText fault recorded, by rw [lexTolerant_eq_scan, issues], inOrder, behind, kept⟩

end Recovery

end StackScript
