import StackScript.Display
import StackScript.Machine.Words
import StackScript.Proofs.StandingText
import StackScript.Proofs.TokenGrammar
import StackScript.Proofs.WrittenNumbers
import StackScript.Text.Controls

namespace StackScript

/-!
# How stacks are laid out

A stack is shown on one line exactly if the characters that are visible on that line fit the width.
The width is counted on the plain texts of the values while the line is put together from coloured
ones, and the two agree because the text of a value has no escape character of its own: what a
terminal is sent in colours shows just what is written without them.  A value is on one line and
does not end with a blank, so a single line is also what the stack word prints.
-/

namespace Text

/-- Characters that show others, whatever stands behind them. -/
def Shows (chars shown : List Char) : Prop :=
  ∀ behind, dropControls 0 (chars ++ behind) = shown ++ dropControls 0 behind

theorem Shows.dropControls
    {chars shown : List Char}
    (shows : Shows chars shown) :
    Text.dropControls 0 chars = shown := by
  simpa [Text.dropControls] using shows []

theorem Shows.append
    {chars shown more moreShown : List Char}
    (shows : Shows chars shown)
    (moreShows : Shows more moreShown) :
    Shows (chars ++ more) (shown ++ moreShown) := by
  intro behind
  rw [List.append_assoc, shows, moreShows, List.append_assoc]

/-- Without an escape character a text is shown as it is. -/
theorem shows_self
    {chars : List Char}
    (unescaped : '\x1b' ∉ chars) :
    Shows chars chars := by
  intro behind
  induction chars with
  | nil =>
      rfl
  | cons c rest inductionHypothesis =>
      obtain ⟨notEscape, notInRest⟩ := not_or.mp (mt List.mem_cons.mpr unescaped)
      have noControl : controlSize? (c :: (rest ++ behind)) = none := by
        rw [controlSize?]
        intro _ isControl
        exact notEscape (List.cons.inj isControl).1.symm
      rw [List.cons_append, Text.dropControls, noControl]
      simp only [inductionHypothesis notInRest, List.cons_append]

theorem dropControls_skip
    (chars behind : List Char) :
    dropControls chars.length (chars ++ behind) = dropControls 0 behind := by
  induction chars with
  | nil =>
      rfl
  | cons c rest inductionHypothesis =>
      exact inductionHypothesis

/-- A change of colour shows nothing. -/
theorem shows_color
    {parameters : List Char}
    (areParameters : parameters.all isControlParameter = true) :
    Shows ('\x1b' :: '[' :: (parameters ++ ['m'])) [] := by
  intro behind
  have taken : (parameters ++ 'm' :: behind).takeWhile isControlParameter = parameters := by
    rw [List.takeWhile_append_of_pos (List.all_eq_true.mp areParameters),
      List.takeWhile_cons_of_neg (by decide), List.append_nil]
  have isControl :
      controlSize? ('\x1b' :: '[' :: (parameters ++ 'm' :: behind)) =
        some (parameters.length + 3) := by
    have isLetter : 'm'.isAlpha = true := by
      decide
    simp [controlSize?, taken, isLetter]
  have skipped := dropControls_skip ('[' :: (parameters ++ ['m'])) behind
  simp only [List.cons_append, List.append_assoc, List.nil_append, List.length_cons,
    List.length_append, List.length_nil] at skipped ⊢
  rw [Text.dropControls, isControl]
  exact skipped

/-- Texts show others if, one by one, they do so, whatever separates them. -/
theorem shows_intercalate
    {texts shown : List String}
    {separator : String}
    (unescaped : '\x1b' ∉ separator.toList)
    (shows : List.Forall₂ (fun text plain => Shows text.toList plain.toList) texts shown) :
    Shows (separator.intercalate texts).toList (separator.intercalate shown).toList := by
  induction shows with
  | nil =>
      exact shows_self (by simp)
  | @cons text plain texts shown showsFirst showsRest inductionHypothesis =>
      cases showsRest with
      | nil =>
          simpa using showsFirst
      | cons showsSecond showsOthers =>
          rw [String.intercalate_cons_cons, String.intercalate_cons_cons]
          simp only [String.toList_append]
          exact (showsFirst.append (shows_self unescaped)).append inductionHypothesis

/-- The characters of separated texts are those of the texts and of the separator. -/
theorem mem_intercalate
    {c : Char}
    {separator : String}
    {texts : List String}
    (member : c ∈ (separator.intercalate texts).toList) :
    c ∈ separator.toList ∨ ∃ text ∈ texts, c ∈ text.toList := by
  induction texts with
  | nil =>
      simp at member
  | cons first rest inductionHypothesis =>
      cases rest with
      | nil =>
          exact .inr ⟨first, List.mem_cons_self, by simpa using member⟩
      | cons second others =>
          rw [String.intercalate_cons_cons, String.toList_append, String.toList_append,
            List.append_assoc, List.mem_append, List.mem_append] at member
          rcases member with inFirst | inSeparator | behind
          · exact .inr ⟨first, List.mem_cons_self, inFirst⟩
          · exact .inl inSeparator
          · exact (inductionHypothesis behind).imp_right fun ⟨text, isText, inText⟩ =>
              ⟨text, List.mem_cons_of_mem first isText, inText⟩

/-- Whether a character is neither blank nor begins a control sequence. -/
def isSolid (c : Char) : Bool :=
  !isBlank c && c != '\x1b'

/-- Whether a character neither ends a line nor begins a control sequence. -/
def isInline (c : Char) : Bool :=
  c != '\n' && c != '\x1b'

theorem isInline_of_isSolid
    {c : Char}
    (solid : isSolid c = true) :
    isInline c = true := by
  have notNewline : c ≠ '\n' := by
    rintro rfl
    revert solid
    decide
  have notEscape : c ≠ '\x1b' := by
    rintro rfl
    revert solid
    decide
  simp [isInline, notNewline, notEscape]

theorem isInline_of_isFigure
    {c : Char}
    (isFigure : c.isDigit = true) :
    isInline c = true := by
  have isOther {other : Char} (noFigure : other.isDigit = false) : c ≠ other := by
    rintro rfl
    rw [isFigure] at noFigure
    cases noFigure
  have notNewline : c ≠ '\n' :=
    isOther (by decide)
  have notEscape : c ≠ '\x1b' :=
    isOther (by decide)
  simp [isInline, notNewline, notEscape]

/-- A text on one line, without control sequences, that does not end with a blank. -/
structure IsLineEntry (text : String) : Prop where
  inline :
    text.toList.all isInline = true
  ends :
    text.toList.getLast?.any isSolid = true

theorem isLineEntry_of_solid
    {text : String}
    (nonempty : text.toList ≠ [])
    (solid : ∀ c ∈ text.toList, isSolid c = true) :
    IsLineEntry text := by
  constructor
  · exact List.all_eq_true.mpr fun c member => isInline_of_isSolid (solid c member)
  · rw [List.getLast?_eq_some_getLast nonempty]
    exact solid _ (List.getLast_mem nonempty)

section Pieces

variable {text front : String}

/-- A piece has a last character, and it is solid. -/
theorem IsLineEntry.exists_last
    (isLineEntry : IsLineEntry text) :
    ∃ front last, text.toList = front ++ [last] ∧ isSolid last = true := by
  obtain ⟨last, isLast, solid⟩ := (Option.any_eq_true _ _).mp isLineEntry.ends
  obtain ⟨front, shape⟩ := List.getLast?_eq_some_iff.mp isLast
  exact ⟨front, last, shape, solid⟩

theorem IsLineEntry.unescaped
    (isLineEntry : IsLineEntry text) :
    '\x1b' ∉ text.toList := by
  intro member
  have inline := List.all_eq_true.mp isLineEntry.inline _ member
  revert inline
  decide

theorem IsLineEntry.oneLine
    (isLineEntry : IsLineEntry text) :
    '\n' ∉ text.toList := by
  intro member
  have inline := List.all_eq_true.mp isLineEntry.inline _ member
  revert inline
  decide

/-- Anything on the same line may stand in front. -/
theorem IsLineEntry.behind
    (isLineEntry : IsLineEntry text)
    (inline : front.toList.all isInline = true) :
    IsLineEntry (front ++ text) := by
  obtain ⟨before, last, shape, solid⟩ := isLineEntry.exists_last
  constructor
  · rw [String.toList_append, List.all_append, inline, isLineEntry.inline, Bool.and_self]
  · rw [String.toList_append, shape, ← List.append_assoc, List.getLast?_append]
    exact solid

/-- Texts on one line, separated by spaces. -/
theorem isLineEntry_intercalate
    {first : String}
    {rest : List String}
    (isFirst : IsLineEntry first)
    (areRest : ∀ text ∈ rest, IsLineEntry text) :
    IsLineEntry (" ".intercalate (first :: rest)) := by
  induction rest generalizing first with
  | nil =>
      simpa using isFirst
  | cons second others inductionHypothesis =>
      obtain ⟨isSecond, areOthers⟩ := List.forall_mem_cons.mp areRest
      rw [String.intercalate_cons_cons]
      refine (inductionHypothesis isSecond areOthers).behind ?_
      rw [String.toList_append, List.all_append, isFirst.inline]
      decide

/-- A text that does not end with a blank is not changed by trimming its end. -/
theorem IsLineEntry.trimmedRight
    (isLineEntry : IsLineEntry text) :
    Text.trimmedRight text = text := by
  obtain ⟨front, last, shape, solid⟩ := isLineEntry.exists_last
  have notBlank : ¬isBlank last = true := by
    intro blank
    simp [isSolid, blank] at solid
  have kept : trimRight text.toList = text.toList := by
    rw [trimRight, trimLeft, shape, List.reverse_append, List.reverse_singleton,
      List.singleton_append, List.dropWhile_cons_of_neg notBlank, List.reverse_cons,
      List.reverse_reverse]
  rw [Text.trimmedRight, kept, String.ofList_toList]

end Pieces

end Text

namespace Value

/-- The values of programs, whose names and bodies come from lexed tokens. -/
inductive IsDrawn : Value → Prop where
  | number (value : Float) :
      IsDrawn (.number value)
  | builtin (word : Builtin) :
      IsDrawn (.builtin word)
  | name
      {token : Token}
      (lexed : token.IsLexed) :
      IsDrawn (.name token.text)
  | block
      {body : List Token}
      (lexed : ∀ token ∈ body, token.IsLexed) :
      IsDrawn (.block body)
  | function
      {body : List Token}
      (lexed : ∀ token ∈ body, token.IsLexed) :
      IsDrawn (.function body)

open Text (isSolid IsLineEntry)

theorem isSolid_of_standsAlone
    {lexeme : Lexeme}
    {chars : List Char}
    (alone : Lexer.StandsAlone lexeme chars) :
    ∀ c ∈ chars, isSolid c = true := by
  have ofMarks : Grammar.marks.all isSolid = true := by
    decide
  rcases Grammar.brace_or_chars_of_standsAlone alone with ⟨_, rfl⟩ | ⟨_, rfl⟩ | among
  · exact List.forall_mem_singleton.mpr (by decide)
  · exact List.forall_mem_singleton.mpr (by decide)
  · intro c member
    rcases among c member with inWord | isDigit | isMark
    · have within := inWord.toNat_bounds
      have notEscape : c ≠ '\x1b' := by
        rintro rfl
        revert within
        decide
      have notBlank : Text.isBlank c = false := by
        simp [Text.isBlank]
        omega
      simp [isSolid, notEscape, notBlank]
    · exact @Number.of_isDigit (isSolid · = true) (by decide +kernel) c isDigit
    · exact List.all_eq_true.mp ofMarks c isMark

/-- The text of a token is all solid. -/
theorem isLineEntry_of_isLexed
    {token : Token}
    (lexed : token.IsLexed) :
    IsLineEntry token.text :=
  Text.isLineEntry_of_solid lexed.standsAlone.ne_nil (isSolid_of_standsAlone lexed.standsAlone)

/-- A finite number is displayed as a token, and the other numbers by name. -/
theorem isLineEntry_number
    (value : Float) :
    IsLineEntry (Number.display value) := by
  cases isFinite : value.isFinite with
  | true =>
      obtain ⟨form, decimal, written, _⟩ := Number.display_isWritten isFinite
      have alone := Lexer.standsAlone_of_isNumeral written.isNumeral written.numeral?_eq
      exact Text.isLineEntry_of_solid alone.ne_nil (isSolid_of_standsAlone alone)
  | false =>
      have isSpelling : Number.display value = Number.spelling value := by
        simp [Number.display, isFinite]
      rw [isSpelling, Number.spelling]
      split
      · exact ⟨by decide, by decide⟩
      · next notNaN =>
        rw [if_pos (Number.isInf_of_not_isFinite isFinite (eq_false_of_ne_true notNaN)),
          Number.signChars]
        split <;> exact ⟨by decide, by decide⟩

theorem isLineEntry_blockText
    {body : List Token}
    (lexed : ∀ token ∈ body, token.IsLexed) :
    IsLineEntry (blockText body) := by
  cases body with
  | nil =>
      exact ⟨by decide, by decide⟩
  | cons first rest =>
      obtain ⟨isFirst, areRest⟩ := List.forall_mem_cons.mp lexed
      have joined : IsLineEntry (joinedText (first :: rest)) := by
        refine Text.isLineEntry_intercalate (isLineEntry_of_isLexed isFirst) ?_
        intro text member
        obtain ⟨token, inRest, rfl⟩ := List.mem_map.mp member
        exact isLineEntry_of_isLexed (areRest token inRest)
      have closed : IsLineEntry " \x7d" :=
        ⟨by decide, by decide⟩
      refine closed.behind ?_
      rw [String.toList_append, List.all_append, joined.inline]
      decide

/-- What programs can have on the stack is shown on one line. -/
theorem IsDrawn.isLineEntry
    {value : Value}
    (drawn : value.IsDrawn) :
    IsLineEntry value.display := by
  cases drawn with
  | number value =>
      exact isLineEntry_number value
  | builtin word =>
      cases word <;> exact ⟨by decide, by decide⟩
  | name lexed =>
      exact isLineEntry_of_isLexed lexed
  | block lexed =>
      exact isLineEntry_blockText lexed
  | function lexed =>
      change IsLineEntry "<fn>"
      exact ⟨by decide, by decide⟩

end Value

namespace Display

open Text (Shows IsLineEntry)

/-- The size of a stack and its values, each behind an indentation, with separators between them. -/
def arranged
    (separator indentation : String)
    (options : DisplayOptions)
    (values : List Value) : String :=
  separator.intercalate
    (header values :: values.map fun value => indentation ++ colorized options value)

/-- A stack on one line. -/
def singleLine : DisplayOptions → List Value → String :=
  arranged " " ""

/-- A stack with one value per line. -/
def rows : DisplayOptions → List Value → String :=
  arranged "\n" "  "

/-- The legend, if it is to be shown. -/
def legendText (options : DisplayOptions) : String :=
  if options.legend && options.color then legend else ""

/-- The number of characters of a text that a terminal shows. -/
def visibleLength (text : String) : Nat :=
  (Text.withoutControls text).length

/-- Whether a stack is shown on a single line. -/
def OnOneLine (options : DisplayOptions) (values : List Value) : Prop :=
  stack options values = legendText options ++ singleLine options values

theorem stack_eq
    (options : DisplayOptions)
    (values : List Value) :
    stack options values =
      legendText options ++
        if values = [] ∨ lineWidth values ≤ options.width then
          singleLine options values
        else
          rows options values := by
  rw [stack, legendText]
  congr 1
  cases values with
  | nil =>
      simp [body, singleLine, arranged]
  | cons first rest =>
      simp only [body, singleLine, rows, arranged, List.isEmpty_cons, List.map_cons, List.map_map,
        reduceCtorEq, Bool.false_eq_true, if_false, false_or, String.intercalate_cons_cons,
        String.empty_append, Function.comp_def]

theorem length_intercalate_space
    (first : String)
    (texts : List String) :
    (" ".intercalate (first :: texts)).length =
      (texts.map fun text => text.length + 1).sum + first.length := by
  induction texts generalizing first with
  | nil =>
      simp
  | cons text rest inductionHypothesis =>
      have space : " ".length = 1 :=
        rfl
      rw [String.intercalate_cons_cons, String.length_append, String.length_append, space,
        inductionHypothesis, List.map_cons, List.sum_cons]
      omega

theorem foldr_width
    (values : List Value)
    (width : Nat) :
    values.foldr (fun value width => value.display.length + 1 + width) width =
      (values.map fun value => value.display.length + 1).sum + width := by
  induction values with
  | nil =>
      simp
  | cons value rest inductionHypothesis =>
      rw [List.foldr_cons, inductionHypothesis, List.map_cons, List.sum_cons]
      omega

section Colors

variable {options : DisplayOptions} {values : List Value}

/-- Without colours the size of a stack and the values follow one another as they are. -/
theorem arranged_plain
    (plain : options.color = false)
    (separator indentation : String)
    (values : List Value) :
    arranged separator indentation options values =
      separator.intercalate
        (header values :: values.map fun value => indentation ++ value.display) := by
  have uncolored (value : Value) : colorized options value = value.display := by
    simp [colorized, plain]
  simp only [arranged, uncolored]

/-- The width that is counted is the length of the line without colours. -/
theorem lineWidth_eq
    (plain : options.color = false)
    (values : List Value) :
    lineWidth values = (singleLine options values).length := by
  rw [lineWidth, foldr_width, singleLine, arranged_plain plain, length_intercalate_space,
    List.map_map]
  simp only [Function.comp_def, String.empty_append]

/-- Every value of a program has a colour. -/
theorem exists_color
    {value : Value}
    (drawn : value.IsDrawn) :
    ∃ parameters : String,
      colorOf? value = some (colorCode parameters) ∧
        parameters.toList.all Text.isControlParameter = true := by
  cases drawn <;> exact ⟨_, rfl, by decide⟩

theorem shows_colorCode
    {parameters : String}
    (areParameters : parameters.toList.all Text.isControlParameter = true) :
    Shows (colorCode parameters).toList [] := by
  have shape : (colorCode parameters).toList = '\x1b' :: '[' :: (parameters.toList ++ ['m']) := by
    simp [colorCode]
  rw [shape]
  exact Text.shows_color areParameters

/-- In its colour a value shows what it shows without it. -/
theorem shows_colorized
    {value : Value}
    (drawn : value.IsDrawn)
    (options : DisplayOptions) :
    Shows (colorized options value).toList value.display.toList := by
  have asItIs : Shows value.display.toList value.display.toList :=
    Text.shows_self drawn.isLineEntry.unescaped
  obtain ⟨parameters, isColor, areParameters⟩ := exists_color drawn
  have noParameterButZero : "0".toList.all Text.isControlParameter = true := by
    decide
  have reset : Shows resetCode.toList [] :=
    shows_colorCode noParameterButZero
  rw [colorized, isColor]
  cases options.color with
  | false =>
      exact asItIs
  | true =>
      have enclosed := ((shows_colorCode areParameters).append asItIs).append reset
      rwa [List.nil_append, List.append_nil, ← String.toList_append, ← String.toList_append]
        at enclosed

theorem isLineEntry_header
    (values : List Value) :
    IsLineEntry (header values) := by
  have closed : IsLineEntry ">" :=
    ⟨by decide, by decide⟩
  have opened : "<".toList.all Text.isInline = true := by
    decide
  have size : (toString values.length).toList.all Text.isInline = true := by
    change (Nat.repr values.length).toList.all Text.isInline = true
    rw [Nat.repr_eq_ofList_toDigits, String.toList_ofList, List.all_eq_true]
    intro c member
    exact Text.isInline_of_isFigure ((Number.isFigureRun_digitChars values.length).figures c member)
  refine closed.behind ?_
  rw [String.toList_append, List.all_append, opened, size, Bool.and_self]

/-- Colours are written without newlines. -/
theorem newline_not_mem_colorized
    {value : Value}
    (drawn : value.IsDrawn)
    (options : DisplayOptions) :
    '\n' ∉ (colorized options value).toList := by
  have oneLine := drawn.isLineEntry.oneLine
  obtain ⟨parameters, isColor, areParameters⟩ := exists_color drawn
  have inParameters : '\n' ∉ parameters.toList := by
    intro member
    have isParameter := List.all_eq_true.mp areParameters _ member
    revert isParameter
    decide
  rw [colorized, isColor]
  cases options.color with
  | false =>
      exact oneLine
  | true =>
      simp [painted, colorCode, resetCode, oneLine, inParameters]

theorem newline_mem_rows
    (nonempty : values ≠ []) :
    '\n' ∈ (rows options values).toList := by
  cases values with
  | nil =>
      exact (nonempty rfl).elim
  | cons first rest =>
      rw [rows, arranged, List.map_cons, String.intercalate_cons_cons]
      simp

variable (drawn : ∀ value ∈ values, value.IsDrawn)

include drawn

/-- With and without colours, the same is shown. -/
theorem shows_arranged
    {plainOptions : DisplayOptions}
    (plain : plainOptions.color = false)
    {separator indentation : String}
    (separatorUnescaped : '\x1b' ∉ separator.toList)
    (indentationUnescaped : '\x1b' ∉ indentation.toList) :
    Shows
      (arranged separator indentation options values).toList
      (arranged separator indentation plainOptions values).toList := by
  rw [arranged_plain plain, arranged]
  refine Text.shows_intercalate separatorUnescaped (.cons ?_ ?_)
  · exact Text.shows_self (isLineEntry_header values).unescaped
  · rw [List.forall₂_map_left_iff, List.forall₂_map_right_iff, List.forall₂_same]
    intro value member
    rw [String.toList_append, String.toList_append]
    exact (Text.shows_self indentationUnescaped).append (shows_colorized (drawn value member) options)

theorem withoutControls_arranged
    {plainOptions : DisplayOptions}
    (plain : plainOptions.color = false)
    {separator indentation : String}
    (separatorUnescaped : '\x1b' ∉ separator.toList)
    (indentationUnescaped : '\x1b' ∉ indentation.toList) :
    Text.withoutControls (arranged separator indentation options values) =
      arranged separator indentation plainOptions values := by
  have shows : Shows (arranged separator indentation options values).toList _ :=
    shows_arranged drawn plain separatorUnescaped indentationUnescaped
  rw [Text.withoutControls, shows.dropControls, String.ofList_toList]

/-- The visible characters of a line are those that its width counts. -/
theorem visibleLength_singleLine :
    visibleLength (singleLine options values) = lineWidth values := by
  have isPlain : DisplayOptions.plain.color = false :=
    rfl
  have visible : Text.withoutControls (singleLine options values) = singleLine .plain values :=
    withoutControls_arranged drawn isPlain (by decide) (by decide)
  rw [visibleLength, visible, lineWidth_eq isPlain]

theorem newline_not_mem_singleLine :
    '\n' ∉ (singleLine options values).toList := by
  intro member
  rw [singleLine, arranged] at member
  rcases Text.mem_intercalate member with inSeparator | ⟨text, isText, inText⟩
  · revert inSeparator
    decide
  · rcases List.mem_cons.mp isText with rfl | isValue
    · exact (isLineEntry_header values).oneLine inText
    · obtain ⟨value, inStack, rfl⟩ := List.mem_map.mp isValue
      rw [String.empty_append] at inText
      exact newline_not_mem_colorized (drawn value inStack) options inText

/-- A stack is on one line exactly if it is empty or the visible characters fit the width. -/
theorem onOneLine_iff :
    OnOneLine options values ↔
      values = [] ∨ (visibleLength (singleLine options values) : Int) ≤ options.width := by
  rw [visibleLength_singleLine drawn, OnOneLine, stack_eq]
  split
  · next fits =>
    simp [fits]
  · next fitsNot =>
    refine iff_of_false ?_ fitsNot
    intro same
    have isLine : rows options values = singleLine options values := by
      simpa using same
    have nonempty : values ≠ [] :=
      fun isEmpty => fitsNot (.inl isEmpty)
    have broken : '\n' ∈ (rows options values).toList :=
      newline_mem_rows nonempty
    rw [isLine] at broken
    exact newline_not_mem_singleLine drawn broken

/-- Without its colours a stack is the plain one. -/
theorem withoutControls_stack
    (options : DisplayOptions) :
    Text.withoutControls (stack { options with color := true, legend := false } values) =
      stack { options with color := false } values := by
  generalize isColored : { options with color := true, legend := false } = colored
  generalize isPlain : { options with color := false } = plain
  have uncolored : plain.color = false := by
    rw [← isPlain]
  have noLegend : legendText colored = "" ∧ legendText plain = "" := by
    simp [legendText, ← isColored, ← isPlain]
  have sameWidth : colored.width = plain.width := by
    rw [← isColored, ← isPlain]
  rw [stack_eq, stack_eq, noLegend.1, noLegend.2, String.empty_append, String.empty_append,
    sameWidth]
  split
  · exact withoutControls_arranged drawn uncolored (by decide) (by decide)
  · exact withoutControls_arranged drawn uncolored (by decide) (by decide)

end Colors

/-- The stack word prints the single line without colours. -/
theorem stackLine_eq
    {operands : Stack}
    (drawn : ∀ value ∈ operands.toList, value.IsDrawn) :
    Builtin.stackLine operands = singleLine .plain operands.toList := by
  have isSize : operands.size = operands.toList.length := by
    simp [Stack.size, Stack.toList]
  rw [Builtin.stackLine, isSize, Value.displayAll, singleLine, arranged_plain rfl]
  simp only [String.empty_append]
  generalize operands.toList = values at drawn
  cases values with
  | nil =>
      decide
  | cons first rest =>
      have areEntries : ∀ text ∈ (first :: rest).map Value.display, IsLineEntry text := by
        intro text member
        obtain ⟨value, inStack, rfl⟩ := List.mem_map.mp member
        exact (drawn value inStack).isLineEntry
      have isLine := Text.isLineEntry_intercalate (isLineEntry_header (first :: rest)) areEntries
      have unchanged := isLine.trimmedRight
      have sameFront :
          "<" ++ toString (first :: rest).length ++ "> " = header (first :: rest) ++ " " := by
        have separated : "> " = ">" ++ " " := by
          decide
        rw [header, separated]
        simp only [String.append_assoc]
      rw [List.map_cons, String.intercalate_cons_cons] at unchanged ⊢
      rw [sameFront, unchanged]

/-- The stack word prints its line and leaves all else as it is. -/
theorem apply_showStack
    (machine : Machine) :
    machine.apply .showStack = (machine.printLine (Builtin.stackLine machine.stack), none) :=
  rfl

/--
Drawn values are shown on one line exactly if there are none or the characters that are visible on
that line fit the width, and otherwise with one value per line.  Colours show just what is written
without them, so they never change the layout, and where the plain form is a single line it is what
the stack word prints.
-/
theorem stack_fits_width
    {values : List Value}
    (drawn : ∀ value ∈ values, value.IsDrawn)
    (options : DisplayOptions) :
    let plain := { options with color := false }
    let colored := { options with color := true, legend := false }
    (OnOneLine options values ↔
        values = [] ∨ (visibleLength (singleLine options values) : Int) ≤ options.width) ∧
      (¬OnOneLine options values →
        stack options values = legendText options ++ rows options values) ∧
      '\n' ∉ (singleLine options values).toList ∧
      Text.withoutControls (stack colored values) = stack plain values ∧
      (OnOneLine colored values ↔ OnOneLine plain values) ∧
      ∀ machine : Machine,
        machine.stack.toList = values →
          OnOneLine plain values →
            machine.apply .showStack = (machine.printLine (stack plain values), none) := by
  intro plain colored
  have noLegend : legendText plain = "" := by
    simp [legendText, plain]
  refine ⟨onOneLine_iff drawn, ?_, newline_not_mem_singleLine drawn, ?_, ?_, ?_⟩
  · intro notOnOneLine
    have fitsNot : ¬(values = [] ∨ lineWidth values ≤ options.width) := by
      rwa [onOneLine_iff drawn, visibleLength_singleLine drawn] at notOnOneLine
    rw [stack_eq, if_neg fitsNot]
  · exact withoutControls_stack drawn options
  · rw [onOneLine_iff drawn, onOneLine_iff drawn, visibleLength_singleLine drawn,
      visibleLength_singleLine drawn]
  · rintro machine rfl onOneLine
    rw [apply_showStack, stackLine_eq drawn, onOneLine, noLegend, String.empty_append, singleLine,
      arranged_plain rfl, arranged_plain rfl]

/-- A number, a name, a function and a builtin. -/
def layoutSample : List Value :=
  [.number 5e-324, .name "x", .function [], .builtin .dup]

/-- At the width of its line a stack is on one line, and at one less it is not. -/
theorem stack_fits_width_exactly :
    (∀ value ∈ layoutSample, value.IsDrawn) ∧
      OnOneLine { width := 34 } layoutSample ∧
      ¬OnOneLine { width := 33 } layoutSample := by
  have lexed : Token.IsLexed (.inSource .symbol "x" .start) :=
    ⟨"x", by decide +kernel⟩
  have drawn : ∀ value ∈ layoutSample, value.IsDrawn := by
    simp only [layoutSample, List.forall_mem_cons, List.not_mem_nil, false_implies,
      implies_true, and_true]
    exact ⟨.number _, .name lexed, .function (List.forall_mem_nil _), .builtin _⟩
  have fits := (stack_fits_width drawn { width := 34 }).1
  have exceeds := (stack_fits_width drawn { width := 33 }).1
  refine ⟨drawn, fits.mpr (.inr (by decide +kernel)), ?_⟩
  intro onOneLine
  have tooLong := exceeds.mp onOneLine
  revert tooLong
  decide +kernel

end Display

end StackScript
