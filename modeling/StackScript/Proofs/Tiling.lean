import Mathlib.Data.List.DropRight
import StackScript.Proofs.Passage

namespace StackScript

/-!
# Tiling of a text

What a scan finds stands in the text at its place, and the places can be computed from the text
alone: the line is told by the newlines in front, the column by the distance to the last of them.
Between two findings, in front of the first and behind the last there are only blanks and comments.
So findings and fillers tile the text, and nothing of it is read twice or left out.
-/

/-- The index right behind the last newline of the characters in front of a place. -/
def lineStart (front : List Char) : Nat :=
  (front.rdropWhile (· ≠ '\n')).length

/-- The place of the character with an index: its line counts the newlines in front of it. -/
def Position.ofIndex (chars : List Char) (index : Nat) : Position where
  offset :=
    index
  line :=
    1 + (chars.take index).count '\n'
  column :=
    index - lineStart (chars.take index) + 1

/-- The place that is reached by advancing over some characters is that of the next one. -/
theorem Position.start_after
    (front tail : List Char) :
    start.after front = ofIndex (front ++ tail) front.length := by
  have column : (start.after front).column = front.length - lineStart front + 1 := by
    induction front using List.reverseRecOn with
    | nil =>
        rfl
    | append_singleton front c inductionHypothesis =>
        rw [after_append]
        change ((start.after front).advance c).column = _
        by_cases isNewline : c = '\n'
        · simp [advance, isNewline, lineStart]
        · simp [advance, isNewline, lineStart, inductionHypothesis]
          omega
  have offset : (start.after front).offset = front.length := by
    simpa [start] using offset_after start front
  have line : (start.after front).line = 1 + front.count '\n' :=
    line_after start front
  calc
    start.after front =
        ⟨(start.after front).offset, (start.after front).line, (start.after front).column⟩ :=
      rfl
    _ = ofIndex (front ++ tail) front.length := by
      rw [offset, line, column, ofIndex, List.take_left]

/-- Characters that are blank or belong to comments that go on to the end of their line. -/
inductive IsFiller (behind : List Char) : List Char → Prop where
  | nil :
      IsFiller behind []
  | blank
      {c : Char}
      {stretch : List Char}
      (isBlank : Text.isBlank c = true)
      (further : IsFiller behind stretch) :
      IsFiller behind (c :: stretch)
  | comment
      {note stretch : List Char}
      (oneLine : '\n' ∉ note)
      (lineEnds : ∀ next ∈ (stretch ++ behind).head?, next = '\n')
      (further : IsFiller behind stretch) :
      IsFiller behind ('#' :: (note ++ stretch))

namespace Finding

/-- The index of the first character. -/
def start (finding : Finding) : Nat :=
  finding.position.offset.toNat

/-- The index behind the last character. -/
def stop (finding : Finding) : Nat :=
  finding.start + finding.text.length

/-- Whether a finding is what stands in a text at its place. -/
structure StandsIn (finding : Finding) (chars : List Char) : Prop where
  place :
    finding.position = .ofIndex chars finding.start
  nonempty :
    finding.text ≠ ""
  spelled :
    chars.extract finding.start finding.stop = finding.text.toList

section Placed

variable {finding : Finding} {front text : List Char}
  (place : finding.position = Position.start.after front)
  (isText : finding.text = String.ofList text)

include place

theorem start_eq :
    finding.start = front.length := by
  simp [start, place, Position.offset_after, Position.start]

include isText

theorem stop_eq :
    finding.stop = front.length + text.length := by
  rw [stop, start_eq place, isText, String.length_ofList]

/-- What is recorded behind the characters in front of it stands in the text. -/
theorem standsIn_append
    (nonempty : text ≠ [])
    (tail : List Char) :
    finding.StandsIn (front ++ (text ++ tail)) where
  place := by
    rw [start_eq place, place]
    exact Position.start_after front (text ++ tail)
  nonempty := by
    simpa [isText] using nonempty
  spelled := by
    rw [stop_eq place isText, start_eq place, isText]
    simp [List.extract]

end Placed

end Finding

/-- The stretches in front of, between and behind findings. -/
def gapsBetween (start stop : Nat) : List Finding → List (Nat × Nat)
  | [] =>
      [(start, stop)]
  | finding :: rest =>
      (start, finding.start) :: gapsBetween finding.stop stop rest

/-- Findings that tile a stretch of a text: each stands in it, and only fillers are between them. -/
structure Tiles (chars : List Char) (start stop : Nat) (findings : List Finding) : Prop where
  stands :
    ∀ finding ∈ findings, finding.StandsIn chars
  within :
    ∀ finding ∈ findings, start ≤ finding.start ∧ finding.stop ≤ stop
  apart :
    findings.Pairwise fun earlier later => earlier.stop ≤ later.start
  fillers :
    ∀ gap ∈ gapsBetween start stop findings,
      gap.1 ≤ gap.2 ∧
        gap.2 ≤ chars.length ∧
        IsFiller (chars.drop gap.2) (chars.extract gap.1 gap.2)

namespace Tiles

variable {chars : List Char} {start stop : Nat}

theorem nil
    (inOrder : start ≤ stop)
    (inText : stop ≤ chars.length)
    (filler : IsFiller (chars.drop stop) (chars.extract start stop)) :
    Tiles chars start stop [] where
  stands := by
    simp
  within := by
    simp
  apart :=
    .nil
  fillers := by
    simp [gapsBetween, inOrder, inText, filler]

theorem cons
    {finding : Finding}
    {findings : List Finding}
    (stands : finding.StandsIn chars)
    (begins : start ≤ finding.start)
    (ends : finding.stop ≤ stop)
    (inText : finding.start ≤ chars.length)
    (filler : IsFiller (chars.drop finding.start) (chars.extract start finding.start))
    (behind : Tiles chars finding.stop stop findings) :
    Tiles chars start stop (finding :: findings) where
  stands :=
    List.forall_mem_cons.mpr ⟨stands, behind.stands⟩
  within := by
    refine List.forall_mem_cons.mpr ⟨⟨begins, ends⟩, fun later member => ?_⟩
    have laterWithin := behind.within later member
    have reach : finding.start ≤ finding.stop :=
      Nat.le_add_right _ _
    exact ⟨by omega, laterWithin.2⟩
  apart :=
    .cons (fun later member => (behind.within later member).1) behind.apart
  fillers :=
    List.forall_mem_cons.mpr ⟨⟨begins, inText, filler⟩, behind.fillers⟩

end Tiles

/-- A run of characters ends where the first one follows that does not belong to it. -/
theorem length_takeWhile_append_eq_iff
    {belongs : Char → Bool}
    {chars tail : List Char} :
    ((chars ++ tail).takeWhile belongs).length = chars.length ↔
      (∀ c ∈ chars, belongs c = true) ∧ ∀ c ∈ tail.head?, belongs c = false := by
  induction chars with
  | nil =>
      cases tail with
      | nil =>
          simp
      | cons c rest =>
          cases inside : belongs c <;> simp [inside]
  | cons c rest inductionHypothesis =>
      cases inside : belongs c
      · simp [inside]
      · simpa [inside] using inductionHypothesis

namespace Lexer

namespace WholePiece

variable {first : Char} {others back : List Char} {size : Nat}

theorem comment
    (whole : WholePiece first others back)
    (found : piece first (others ++ back) = .comment size) :
    first = '#' ∧ '\n' ∉ others ∧ ∀ next ∈ back.head?, next = '\n' := by
  obtain ⟨isHash, isSize⟩ := piece_comment found
  have length : ((first :: others ++ back).takeWhile (· ≠ '\n')).length =
      (first :: others).length := by
    rw [List.cons_append, ← isSize, List.length_cons, ← whole.size, found, Piece.size]
  obtain ⟨inside, ended⟩ := length_takeWhile_append_eq_iff.mp length
  refine ⟨isHash, fun crosses => ?_, fun next isNext => ?_⟩
  · simpa using inside '\n' (List.mem_cons_of_mem first crosses)
  · simpa using ended next isNext

/-- An unreadable piece is a run that ends at a blank, a brace or the sign of a comment. -/
theorem unreadable
    (whole : WholePiece first others back)
    (found : piece first (others ++ back) = .unreadable size) :
    (∀ c ∈ first :: others, inUnreadable c = true) ∧
      ∀ next ∈ back.head?, inUnreadable next = false := by
  obtain ⟨isSize, _⟩ := piece_unreadable found
  apply length_takeWhile_append_eq_iff.mp
  rw [List.cons_append, ← isSize, List.length_cons, ← whole.size, found, Piece.size]

end WholePiece

/-- What a scan passes over without finding anything is a filler. -/
theorem Passes.isFiller
    {tail front : List Char}
    {position : Position}
    (passes : Passes tail position front []) :
    IsFiller tail front := by
  generalize isNone : [] = findings at passes
  induction passes with
  | arrived position =>
      exact .nil
  | overBlank blank _ inductionHypothesis =>
      exact .blank blank (inductionHypothesis isNone)
  | @overPiece position first others front findings whole _ inductionHypothesis =>
      obtain ⟨noFinding, noneBehind⟩ := List.append_eq_nil_iff.mp isNone.symm
      cases found : piece first (others ++ (front ++ tail)) with
      | comment size =>
          obtain ⟨rfl, oneLine, lineEnds⟩ := whole.comment found
          exact .comment oneLine lineEnds (inductionHypothesis noneBehind.symm)
      | lexeme kind size =>
          rw [found] at noFinding
          cases noFinding
      | unreadable size =>
          rw [found] at noFinding
          cases noFinding

/-- What a scan finds tiles the text that it passes over. -/
theorem Passes.tiles
    (lead : List Char)
    {tail front : List Char}
    {findings : List Finding}
    (passes : Passes tail (Position.start.after lead) front findings) :
    Tiles (lead ++ (front ++ tail)) lead.length (lead.length + front.length) findings := by
  induction findings generalizing lead front with
  | nil =>
      have behind : (lead ++ (front ++ tail)).drop (lead.length + front.length) = tail := by
        simp
      refine .nil (Nat.le_add_right _ _) (by simp) ?_
      rw [behind]
      simpa [List.extract] using passes.isFiller
  | cons finding rest inductionHypothesis =>
      obtain ⟨gap, first, others, back, rfl, finds⟩ := passes.split []
      obtain ⟨place, isText⟩ := Piece.position_text_of_findings finds.records
      rw [← Position.after_append] at place
      have start := Finding.start_eq place
      have stop : finding.stop = (lead ++ gap ++ first :: others).length := by
        simp [Finding.stop_eq place isText, Nat.add_assoc]
      have ends :
          lead.length + (gap ++ first :: (others ++ back)).length =
            (lead ++ gap ++ first :: others).length + back.length := by
        simp
        omega
      have text :
          lead ++ (gap ++ first :: (others ++ back) ++ tail) =
            lead ++ gap ++ (first :: others ++ (back ++ tail)) := by
        simp
      have further :
          Passes tail (Position.start.after (lead ++ gap ++ first :: others)) back rest := by
        rw [List.append_assoc, Position.after_append]
        exact finds.further
      have behind := inductionHypothesis _ further
      have filler : IsFiller (first :: others ++ (back ++ tail)) gap :=
        finds.toPiece.isFiller
      rw [text, ends]
      refine .cons (Finding.standsIn_append place isText (List.cons_ne_nil _ _) _) ?_ ?_ ?_ ?_ ?_
      · simp [start]
      · rw [stop]
        exact Nat.le_add_right _ _
      · simp [start]
      · rw [start, List.drop_left]
        simpa [List.extract] using filler
      · rw [stop, ← List.append_assoc (lead ++ gap)]
        exact behind

/-- What a scan of a whole text finds tiles it. -/
theorem tiles_scanFrom
    (chars : List Char) :
    Tiles chars 0 chars.length (scanFrom 0 .start chars) := by
  have tiles := (passes_scanFrom .start chars).tiles []
  rwa [List.nil_append, List.append_nil, List.length_nil, Nat.zero_add] at tiles

end Lexer

/-- Where lexing ends in a text of a size: at its fault, or at the end of the text. -/
def Lexing.stop (lexing : Lexing) (size : Nat) : Nat :=
  match lexing.fault with
  | none =>
      size
  | some fault =>
      fault.position.offset.toNat

/-- The characters that end an unreadable run, apart from blanks. -/
def runStoppers : List Char :=
  ['{', '}', '#']

theorem Lexer.inUnreadable_iff
    (c : Char) :
    inUnreadable c = true ↔ Text.isBlank c = false ∧ c ∉ runStoppers := by
  simp [inUnreadable, runStoppers, and_assoc]

/-- A fault is a longest run of characters that are not blank, no braces and begin no comment. -/
structure LexFault.IsRunIn (fault : LexFault) (chars : List Char) : Prop where
  stands :
    (Finding.unreadable fault).StandsIn chars
  run :
    ∀ c ∈ fault.text.toList, Text.isBlank c = false ∧ c ∉ runStoppers
  longest :
    ∀ next ∈ chars[(Finding.unreadable fault).stop]?, Text.isBlank next = true ∨ next ∈ runStoppers

/-- A run that a scan cannot read is a longest one. -/
theorem Lexer.FindsAt.isRunIn
    {tail lead others back : List Char}
    {before behind : List Finding}
    {fault : LexFault}
    {first : Char}
    (finds : FindsAt tail .start before (.unreadable fault) behind lead first others back) :
    fault.IsRunIn (lead ++ first :: (others ++ (back ++ tail))) := by
  obtain ⟨place, isText⟩ := Piece.position_text_of_findings finds.records
  have stop := Finding.stop_eq place isText
  obtain ⟨size, found, _⟩ := Piece.eq_unreadable_of_findings finds.records
  obtain ⟨inside, ended⟩ := finds.whole.unreadable found
  have behindRun :
      (lead ++ first :: (others ++ (back ++ tail)))[lead.length + (first :: others).length]? =
        (back ++ tail).head? := by
    rw [← List.cons_append, ← List.append_assoc, ← List.length_append,
      List.getElem?_append_right (Nat.le_refl _), Nat.sub_self, List.head?_eq_getElem?]
  refine ⟨Finding.standsIn_append place isText (List.cons_ne_nil _ _) _, ?_, ?_⟩
  · intro c member
    change c ∈ (Finding.unreadable fault).text.toList at member
    rw [isText, String.toList_ofList] at member
    exact (inUnreadable_iff c).mp (inside c member)
  · intro next isNext
    rw [stop, behindRun] at isNext
    have outside := mt (inUnreadable_iff next).mpr (by simp [ended next isNext])
    by_cases blank : Text.isBlank next = true
    · exact .inl blank
    · exact .inr (by simpa [blank] using outside)

/--
The tokens of a source text tile it: each of them stands in the text at its place and is not empty,
they follow one another without overlap, and the stretches in front of the first, between two of
them and behind the last are fillers.  The last stretch ends at the end of the text or at the fault,
and a fault is a longest run that is not blank, has no brace and begins no comment.
-/
theorem lex_tiles
    (source : String) :
    Tiles source.toList 0 ((lex source).stop source.toList.length)
        ((lex source).tokens.map .token) ∧
      ∀ fault ∈ (lex source).fault, fault.IsRunIn source.toList := by
  generalize isText : source.toList = chars
  have passes := Lexer.passes_scanFrom .start chars
  have tilesAll := Lexer.tiles_scanFrom chars
  have stops : Lexing.Stops (Lexer.scanFrom 0 .start chars) (lex source) :=
    isText ▸ Lexer.stops_lexFrom .start source.toList
  generalize Lexer.scanFrom 0 .start chars = findings at passes tilesAll stops
  generalize lex source = lexing at stops ⊢
  cases stops with
  | atEnd tokens =>
      exact ⟨tilesAll, by simp⟩
  | atFault tokens fault behind =>
      obtain ⟨lead, first, others, back, text, finds⟩ := passes.split (tokens.map .token)
      have place := (Lexer.Piece.position_text_of_findings finds.records).1
      have isRun := finds.isRunIn
      rw [List.append_nil, ← text] at isRun
      have tiles := finds.toPiece.tiles []
      rw [List.nil_append, List.append_nil, ← text, List.length_nil, Nat.zero_add,
        ← Finding.start_eq place] at tiles
      refine ⟨tiles, fun found isFound => ?_⟩
      cases isFound
      exact isRun

/-- Behind a comment, the run that cannot be read is found at its place in the next line. -/
theorem lex_tiles_of_unreadable :
    let fault : LexFault := ⟨"$?!", ⟨7, 2, 2⟩⟩
    (lex "x # y\n $?! 1").fault = some fault ∧
      Tiles "x # y\n $?! 1".toList 0 7 ((lex "x # y\n $?! 1").tokens.map .token) ∧
      fault.IsRunIn "x # y\n $?! 1".toList := by
  intro fault
  have failed : (lex "x # y\n $?! 1").fault = some fault := by
    decide +kernel
  obtain ⟨tiles, runs⟩ := lex_tiles "x # y\n $?! 1"
  rw [Lexing.stop, failed] at tiles
  exact ⟨failed, tiles, runs fault failed⟩

end StackScript
