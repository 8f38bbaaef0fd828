import Mathlib.Data.List.DropRight
import StackScript.Proofs.DocumentLines
import StackScript.Proofs.NumeralValues
import StackScript.Proofs.OpenDocuments
import StackScript.Proofs.OutlineEntries
import StackScript.Proofs.TokenGrammar

namespace StackScript

/-!
# Places for hovering

Hovering at a place shows the word around it, in the line that the editor counts to.  Where newlines
alone end the lines in front of a token, this is the line of the token, and hovering at the place of
the token finds a word that holds it.  Behind any other line boundary the place of a token lies in
an earlier line, and hovering there finds at most what stands in front of the token.
-/

namespace Word

/-- The characters around an index that belong to one word. -/
def around (chars : List Char) (index : Nat) : List Char :=
  (chars.take index).rtakeWhile (!isStop ·) ++ (chars.drop index).takeWhile (!isStop ·)

theorem around_infix
    (chars : List Char)
    (index : Nat) :
    around chars index <:+: chars := by
  obtain ⟨before, isBefore⟩ := List.rtakeWhile_suffix (!isStop ·) (chars.take index)
  obtain ⟨behind, isBehind⟩ := List.takeWhile_prefix (l := chars.drop index) (!isStop ·)
  refine ⟨before, behind, ?_⟩
  rw [around, ← List.append_assoc, isBefore, List.append_assoc, isBehind, List.take_append_drop]

/-- A piece without an end of a word belongs to the word around its first character. -/
theorem infix_around
    {piece : List Char}
    (solid : ∀ c ∈ piece, isStop c = false)
    (before behind : List Char) :
    piece <:+: around (before ++ (piece ++ behind)) before.length := by
  rw [around, List.take_left, List.drop_left,
    List.takeWhile_append_of_pos (by simpa using solid), ← List.append_assoc]
  exact List.infix_append _ _ _

theorem fromEnd?_natCast
    (length index : Nat) :
    fromEnd? length index = some index := by
  simp [fromEnd?]

theorem reachAhead_natCast
    (chars : List Char)
    (index : Nat) :
    reachAhead chars index = .ok ((chars.drop index).takeWhile (!isStop ·)).length := by
  have fromStart : ¬(index : Int) < 0 := by
    omega
  simp [reachAhead, charsFrom, fromEnd?_natCast, fromStart, Except.map]

/-- What is cut out of a line around an index is the word around it. -/
theorem drop_take_around
    (chars : List Char)
    {index : Nat}
    (within : index ≤ chars.length) :
    (chars.take (index + ((chars.drop index).takeWhile (!isStop ·)).length)).drop
        (index - reachBack chars index) =
      around chars index := by
  obtain ⟨before, isBefore⟩ := List.rtakeWhile_suffix (!isStop ·) (chars.take index)
  have back : reachBack chars index = ((chars.take index).rtakeWhile (!isStop ·)).length := by
    rw [reachBack, List.rtakeWhile, List.length_reverse]
  have ahead :
      (chars.drop index).take ((chars.drop index).takeWhile (!isStop ·)).length =
        (chars.drop index).takeWhile (!isStop ·) :=
    (List.prefix_iff_eq_take.mp (List.takeWhile_prefix _)).symm
  have beforeWord : index - reachBack chars index = before.length := by
    have length := congrArg List.length isBefore
    rw [List.length_append, List.length_take_of_le within] at length
    omega
  rw [beforeWord, List.take_add, ahead, around]
  nth_rewrite 1 [← isBefore]
  rw [List.append_assoc, List.drop_left]

/-- The word that hovering shows of some characters: there is none without characters. -/
def ofChars? (chars : List Char) : Option String :=
  if chars = [] then
    none
  else
    some (String.ofList chars)

/-- At an index that counts from the beginning, the word of a line is the one around it. -/
theorem inLine_natCast
    (chars : List Char)
    (character : Nat) :
    inLine chars character = .ok (ofChars? (around chars (min character chars.length))) := by
  have index : min (character : Int) chars.length = (min character chars.length : Nat) := by
    omega
  have within : min character chars.length ≤ chars.length :=
    Nat.min_le_right _ _
  generalize min character chars.length = position at index within
  have back : reachBack chars position ≤ position := by
    have shorter :=
      (List.takeWhile_prefix (l := (chars.take position).reverse) (!isStop ·)).length_le
    rwa [List.length_reverse, List.length_take_of_le within] at shorter
  have isStart :
      (position : Int) - reachBack chars position =
        (position - reachBack chars position : Nat) := by
    omega
  simp only [inLine, index, Int.toNat_natCast, isStart, reachAhead_natCast, ← Int.natCast_add]
  simp only [slice, fromEnd?_natCast, Option.getD_some, drop_take_around chars within]
  cases around chars position <;> rfl

theorem atPlace_natCast
    (text : String)
    (line character : Nat) :
    atPlace text line character =
      match (Text.documentLines text.toList)[line]? with
      | none => .ok none
      | some row => inLine row character := by
  by_cases within : line < (Text.documentLines text.toList).length
  · have inText : ¬((Text.documentLines text.toList).length : Int) ≤ line := by
      omega
    simp [atPlace, inText, fromEnd?_natCast, List.getElem?_eq_getElem within]
  · have behind : ((Text.documentLines text.toList).length : Int) ≤ line := by
      omega
    simp [atPlace, behind, List.getElem?_eq_none (Nat.le_of_not_lt within)]

/-- A word that is found in a line is part of the line. -/
theorem infix_of_inLine
    {chars : List Char}
    {character : Nat}
    {word : String}
    (found : inLine chars character = .ok (some word)) :
    word.toList <:+: chars := by
  rw [inLine_natCast] at found
  generalize isAround : around chars (min character chars.length) = letters at found
  by_cases isEmpty : letters = []
  · simp [ofChars?, isEmpty] at found
  · simp only [ofChars?, isEmpty, ↓reduceIte, Except.ok.injEq, Option.some.injEq] at found
    rw [← found, String.toList_ofList, ← isAround]
    exact around_infix _ _

/-- In a line, hovering at the first character of a piece without ends of words finds the piece. -/
theorem exists_inLine
    {piece : List Char}
    (nonempty : piece ≠ [])
    (solid : ∀ c ∈ piece, isStop c = false)
    (before behind : List Char) :
    ∃ word,
      inLine (before ++ (piece ++ behind)) before.length = .ok (some word) ∧
        piece <:+: word.toList := by
  have within : min before.length (before ++ (piece ++ behind)).length = before.length := by
    simp
  have holds := infix_around solid before behind
  rw [inLine_natCast, within]
  generalize around (before ++ (piece ++ behind)) before.length = letters at holds
  have isWord : letters ≠ [] := by
    rintro rfl
    exact nonempty (List.infix_nil.mp holds)
  refine ⟨String.ofList letters, by simp [ofChars?, isWord], ?_⟩
  rw [String.toList_ofList]
  exact holds

section Pieces

variable
  {text : String} {front piece back : List Char}
  (shape : text.toList = front ++ (piece ++ back))
  (nonempty : piece ≠ [])
  (oneLine : Text.OneLine piece)

include shape nonempty oneLine

theorem documentLines_of_cut
    {rows : List (List Char)}
    {last : List Char}
    (cut : Text.Cut front rows last) :
    Text.documentLines text.toList = rows ++ Text.documentLines (last ++ (piece ++ back)) := by
  rw [shape]
  refine cut.documentLines_append ?_
  obtain ⟨first, others, rfl⟩ := List.exists_cons_of_ne_nil nonempty
  have firstInLine := oneLine first List.mem_cons_self
  simpa using (Text.ne_of_not_endsLine firstInLine).2

/--
Where newlines alone end the lines in front of a piece, hovering at the place that the lexer counts
for the piece finds the piece.
-/
theorem exists_atPlace_of_newlinesOnly
    (solid : ∀ c ∈ piece, isStop c = false)
    (newlines : Text.NewlinesOnly front) :
    ∃ word,
      atPlace text ((Position.start.after front).line - 1)
          ((Position.start.after front).column - 1) = .ok (some word) ∧
        piece <:+: word.toList := by
  obtain ⟨rows, last, cut⟩ := Text.exists_cut front
  have line : (Position.start.after front).line - 1 = rows.length := by
    rw [Position.line_after, cut.count_newline.2.mpr newlines]
    exact add_sub_cancel_left 1 _
  have column : (Position.start.after front).column - 1 = last.length := by
    rw [cut.column_after newlines]
    omega
  have together : Text.OneLine (last ++ piece) :=
    List.forall_mem_append.mpr ⟨cut.oneLine_last, oneLine⟩
  obtain ⟨behind, further, lines⟩ :=
    Text.exists_first_line together (by simp [nonempty]) back
  have isRow :
      (Text.documentLines text.toList)[rows.length]? = some (last ++ (piece ++ behind)) := by
    rw [documentLines_of_cut shape nonempty oneLine cut, ← List.append_assoc, lines]
    simp
  rw [line, column, atPlace_natCast, isRow]
  exact exists_inLine nonempty solid last behind

/-- Behind another line boundary, hovering at that place finds at most what is in front of it. -/
theorem exists_atPlace_of_not_newlinesOnly
    (otherEnds : ¬Text.NewlinesOnly front) :
    ∃ word?,
      atPlace text ((Position.start.after front).line - 1)
          ((Position.start.after front).column - 1) = .ok word? ∧
        ∀ word ∈ word?, word.toList <:+: front := by
  obtain ⟨rows, last, cut⟩ := Text.exists_cut front
  have line : (Position.start.after front).line - 1 = front.count '\n' := by
    rw [Position.line_after]
    exact add_sub_cancel_left 1 _
  obtain ⟨character, column⟩ :
      ∃ character : Nat, (Position.start.after front).column - 1 = character := by
    have counted := (Position.isCounted_start.after front).column
    exact ⟨_, (Int.toNat_of_nonneg (by omega)).symm⟩
  have earlier : front.count '\n' < rows.length :=
    Nat.lt_of_le_of_ne cut.count_newline.1 (mt cut.count_newline.2.mp otherEnds)
  have isRow :
      (Text.documentLines text.toList)[front.count '\n']? = some rows[front.count '\n'] := by
    rw [documentLines_of_cut shape nonempty oneLine cut, List.getElem?_append_left earlier,
      List.getElem?_eq_getElem earlier]
  rw [line, column, atPlace_natCast, isRow]
  refine ⟨_, inLine_natCast _ character, fun word found => ?_⟩
  have isFound : inLine rows[front.count '\n'] character = .ok (some word) := by
    rw [inLine_natCast, Option.mem_def.mp found]
  exact (infix_of_inLine isFound).trans (cut.infix_of_mem (List.getElem_mem earlier))

end Pieces

/-- Whether a character ends neither words nor lines. -/
def isInner (c : Char) : Bool :=
  !isStop c && !Text.endsLine c

theorem isInner_iff
    {c : Char} :
    isInner c = true ↔ isStop c = false ∧ Text.endsLine c = false := by
  simp [isInner]

theorem isInner_of_inWord
    {c : Char}
    (inWord : Grammar.InWord c) :
    isInner c = true := by
  have within := inWord.toNat_bounds
  have isOther {stop : Char} (outside : stop.toNat < 48 ∨ 122 < stop.toNat) : c ≠ stop := by
    rintro rfl
    omega
  have noStop : isStop c = false := by
    simp [isStop, isOther]
  have inLine : Text.endsLine c = false := by
    simp [Text.endsLine]
    omega
  exact isInner_iff.mpr ⟨noStop, inLine⟩

/-- The characters of a token that is no brace end neither words nor lines. -/
theorem isInner_of_standsAlone
    {lexeme : Lexeme}
    {chars : List Char}
    (alone : Lexer.StandsAlone lexeme chars)
    (notOpen : lexeme ≠ .openBrace)
    (notClose : lexeme ≠ .closeBrace) :
    ∀ c ∈ chars, isInner c = true := by
  have ofMarks : Grammar.marks.all isInner = true := by
    decide
  rcases Grammar.brace_or_chars_of_standsAlone alone with ⟨isOpen, _⟩ | ⟨isClose, _⟩ | among
  · exact absurd isOpen notOpen
  · exact absurd isClose notClose
  · intro c member
    rcases among c member with inWord | isDigit | isMark
    · exact isInner_of_inWord inWord
    · exact @Number.of_isDigit (isInner · = true) (by decide +kernel) c isDigit
    · exact List.all_eq_true.mp ofMarks c isMark

end Word

namespace Index

/-- What stands in front of a token in a text. -/
def inFrontOf (text : String) (token : Token) : List Char :=
  text.toList.take token.position.offset.toNat

/-- A definition is at the place of a token with its name. -/
structure DefinedAt (definition : Definition) (name : Token) : Prop where
  isSymbol :
    name.lexeme = .symbol
  named :
    name.text = definition.name
  line :
    name.position.line - 1 = definition.line
  column :
    name.position.column - 1 = definition.column

section Tokens

variable {text : String} {token : Token} (member : token ∈ (ofText text).tokens)

include member

/-- A token of an index stands in the text behind what is in front of it. -/
theorem shape_of_mem_tokens :
    ∃ back,
      text.toList = inFrontOf text token ++ (token.text.toList ++ back) ∧
        token.position = Position.start.after (inFrontOf text token) := by
  obtain ⟨front, back, shape, place⟩ := Recovery.exists_front_of_mem_lexTolerant member
  have offset : token.position.offset.toNat = front.length := by
    rw [place, Position.offset_after]
    simp [Position.start]
  have isFront : inFrontOf text token = front := by
    rw [inFrontOf, offset, shape, List.take_left]
  rw [isFront]
  exact ⟨back, shape, place⟩

end Tokens

/-- Every definition of an index is at the place of one of its tokens. -/
theorem exists_definedAt
    {text : String}
    {definition : Definition}
    (member : definition ∈ (ofText text).definitions) :
    ∃ name ∈ (ofText text).tokens, DefinedAt definition name := by
  obtain ⟨kept, isDefined, within, _⟩ := exists_placed_definitions text
  rw [isDefined] at member
  obtain ⟨⟨place, found⟩, inKept, rfl⟩ := List.mem_map.mp member
  obtain ⟨name, upper, takes, isDefinition⟩ := exists_takesName_of_placed (within.subset inKept)
  obtain ⟨_, _, isAfter⟩ := shape_of_mem_tokens takes.mem
  have counted : name.position.IsCounted :=
    isAfter ▸ Position.isCounted_start.after _
  have countedLine := counted.line
  have countedColumn := counted.column
  cases isDefinition
  refine ⟨name, takes.mem, takes.isSymbol, rfl, ?_, ?_⟩
  · exact (Int.toNat_of_nonneg (by omega)).symm
  · exact (Int.toNat_of_nonneg (by omega)).symm

/-- What hovering finds at the place of a token, which the lexer counts from one. -/
def wordAtToken (text : String) (token : Token) : Except PlaceFault (Option String) :=
  Word.atPlace text (token.position.line - 1) (token.position.column - 1)

/--
Hovering at the place of a token finds a word that holds the token, if newlines alone end the lines
in front of it; else it finds at most what stands in front of the token.
-/
structure FoundAtPlace (text : String) (token : Token) : Prop where
  behindNewlines :
    Text.NewlinesOnly (inFrontOf text token) →
      ∃ word, wordAtToken text token = .ok (some word) ∧ token.text.toList <:+: word.toList
  behindOthers :
    ¬Text.NewlinesOnly (inFrontOf text token) →
      ∃ word?, wordAtToken text token = .ok word? ∧
        ∀ word ∈ word?, word.toList <:+: inFrontOf text token

theorem foundAtPlace_of_mem_tokens
    {text : String}
    {token : Token}
    (member : token ∈ (ofText text).tokens)
    (notOpen : token.lexeme ≠ .openBrace)
    (notClose : token.lexeme ≠ .closeBrace) :
    FoundAtPlace text token := by
  have alone := (Recovery.isLexed_of_mem_lexTolerant member).standsAlone
  have inner := Word.isInner_of_standsAlone alone notOpen notClose
  have oneLine : Text.OneLine token.text.toList :=
    fun c inToken => (Word.isInner_iff.mp (inner c inToken)).2
  have solid : ∀ c ∈ token.text.toList, Word.isStop c = false :=
    fun c inToken => (Word.isInner_iff.mp (inner c inToken)).1
  obtain ⟨back, shape, place⟩ := shape_of_mem_tokens member
  constructor
  · intro newlines
    rw [wordAtToken, place]
    exact Word.exists_atPlace_of_newlinesOnly shape alone.ne_nil oneLine solid newlines
  · intro otherEnds
    rw [wordAtToken, place]
    exact Word.exists_atPlace_of_not_newlinesOnly shape alone.ne_nil oneLine otherEnds

/--
Hovering at the place of any token but a brace finds what is found at its place: a word that holds
the token, if newlines alone end the lines in front of it.  Every definition is at the place of a
token with its name, so in that case hovering at the definition, in any server that has the index of
the text while the workspace has the text, is answered for a word that holds the name.
-/
theorem hover_finds_tokens
    (text : String) :
    (∀ token ∈ (ofText text).tokens,
      token.lexeme ≠ .openBrace → token.lexeme ≠ .closeBrace → FoundAtPlace text token) ∧
      ∀ definition ∈ (ofText text).definitions,
        ∃ name ∈ (ofText text).tokens,
          DefinedAt definition name ∧
            (Text.NewlinesOnly (inFrontOf text name) →
              ∃ word : String,
                definition.name.toList <:+: word.toList ∧
                  ∀ editor workspace uri,
                    Editor.index? editor uri = some (ofText text) →
                      workspace uri = text →
                        editor.hover workspace uri ⟨definition.line, definition.column⟩ =
                          .ok (Assist.hoverText? (ofText text) word)) := by
  refine ⟨fun token member => foundAtPlace_of_mem_tokens member, ?_⟩
  intro definition member
  obtain ⟨name, inTokens, definedAt⟩ := exists_definedAt member
  refine ⟨name, inTokens, definedAt, fun newlines => ?_⟩
  obtain ⟨isSymbol, named, line, column⟩ := definedAt
  have foundAt :=
    foundAtPlace_of_mem_tokens inTokens (by simp [isSymbol]) (by simp [isSymbol])
  obtain ⟨word, found, holds⟩ := foundAt.behindNewlines newlines
  rw [wordAtToken, line, column] at found
  refine ⟨word, named ▸ holds, fun editor workspace uri indexed isText => ?_⟩
  simp only [Editor.hover, indexed, isText, found]
  rfl

/-- A document with a form feed: the line of its second definition is counted in two ways. -/
def paged : String :=
  "x 1 =\r\n\x0cf 2 =\n"

/-- Hovering finds the first definition of the document at its place, but not the second one. -/
theorem hover_finds_tokens_paged :
    (ofText paged).definitions = [⟨"x", .value, 0, 0⟩, ⟨"f", .value, 1, 1⟩] ∧
      (∃ word : String,
        "x".toList <:+: word.toList ∧
          (Editor.reindex .empty (fun _ => paged) "file:///a").1.hover (fun _ => paged) "file:///a"
              ⟨0, 0⟩ =
            .ok (Assist.hoverText? (ofText paged) word)) ∧
      Word.atPlace paged 1 1 = .ok none := by
  have tokens :
      (ofText paged).tokens =
        (Lexer.scanFrom 0 .start paged.toList).filterMap Finding.token? := by
    simp only [ofText, Recovery.lexTolerant_eq_scan]
  have definitions :
      (ofText paged).definitions = [⟨"x", .value, 0, 0⟩, ⟨"f", .value, 1, 1⟩] := by
    simp only [ofText, Recovery.lexTolerant_eq_scan]
    decide +kernel
  have behindNewlines :
      ∀ token ∈ (ofText paged).tokens,
        token.text = "x" → Text.NewlinesOnly (inFrontOf paged token) := by
    rw [tokens]
    decide +kernel
  obtain ⟨_, atDefinitions⟩ := hover_finds_tokens paged
  obtain ⟨name, inTokens, definedAt, answered⟩ :=
    atDefinitions ⟨"x", .value, 0, 0⟩ (by simp [definitions])
  obtain ⟨word, holds, atDefinition⟩ :=
    answered (behindNewlines name inTokens definedAt.named)
  have indexed := Editor.index?_reindex_self .empty (fun _ => paged) "file:///a"
  exact ⟨definitions, ⟨word, holds, atDefinition _ _ "file:///a" indexed rfl⟩, by decide +kernel⟩

end Index

end StackScript
