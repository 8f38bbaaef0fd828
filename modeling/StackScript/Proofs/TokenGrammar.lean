import StackScript.Proofs.DefinedNumbers
import StackScript.Proofs.NumberTokens
import StackScript.Proofs.Passage
import StackScript.Proofs.TokenPlaces

namespace StackScript

/-!
# The grammar of tokens

What lexing finds at a place is told by a grammar of the remaining text.  If a beginning of it is a
numeral in front of a character that may follow one, the longest such beginning is a number token.
Otherwise the token is the longest identifier, a brace, the longest operator or a single sign of
assignment, and if none of these stands there and no comment begins, lexing ends with a fault.

The classes of characters are those of ASCII and are spelled out here once more.
-/

namespace Grammar

def IsLetter (c : Char) : Prop :=
  ('a' ≤ c ∧ c ≤ 'z') ∨ ('A' ≤ c ∧ c ≤ 'Z')
  deriving Decidable

def IsFigure (c : Char) : Prop :=
  '0' ≤ c ∧ c ≤ '9'
  deriving Decidable

/-- Letters, figures and underscores make words. -/
def InWord (c : Char) : Prop :=
  IsLetter c ∨ IsFigure c ∨ c = '_'
  deriving Decidable

/-- A letter or an underscore, and then any letters, figures and underscores. -/
structure IsIdentifier (text : List Char) : Prop where
  begins :
    ∃ first ∈ text.head?, IsLetter first ∨ first = '_'
  goesOn :
    ∀ c ∈ text, InWord c

/-- A numeral that is followed by no character of words and by no point. -/
structure IsNumber (behind text : List Char) : Prop where
  isNumeral :
    Number.IsNumeral text
  ended :
    ∀ next ∈ behind.head?, ¬InWord next ∧ next ≠ '.'

/-- Whether some beginning of a text is a number. -/
def HasNumber (chars : List Char) : Prop :=
  ∃ text behind, chars = text ++ behind ∧ IsNumber behind text

/-- The class and the characters of the token at the start of a text. -/
inductive Reads (chars : List Char) : Lexeme → List Char → Prop where
  | number
      {text : List Char}
      {value : Float}
      (isLongest : IsLongest IsNumber chars text)
      (reads : Number.ofText? (String.ofList text) = some value) :
      Reads chars (.number value) text
  | word
      {text : List Char}
      (noNumber : ¬HasNumber chars)
      (isLongest : IsLongest (fun _ => IsIdentifier) chars text) :
      Reads chars (Lexer.wordLexeme (String.ofList text)) text
  | openBrace
      (noNumber : ¬HasNumber chars)
      (begins : chars.head? = some '{') :
      Reads chars .openBrace ['{']
  | closeBrace
      (noNumber : ¬HasNumber chars)
      (begins : chars.head? = some '}') :
      Reads chars .closeBrace ['}']
  | operator
      {text : List Char}
      (noNumber : ¬HasNumber chars)
      (isLongest : IsLongest (fun _ sign => sign ∈ Lexer.signs) chars text) :
      Reads chars .operator text
  | assign
      (noNumber : ¬HasNumber chars)
      (begins : chars.head? = some '=')
      (single : chars.tail.head? ≠ some '=') :
      Reads chars .assign ['=']

section Characters

variable {c : Char}

theorem startsWord_iff :
    Lexer.startsWord c = true ↔ IsLetter c ∨ c = '_' := by
  simp [Lexer.startsWord, IsLetter, Char.isAlpha, Char.isUpper, Char.isLower, Char.le_def,
    or_comm]

theorem continuesWord_iff :
    Lexer.continuesWord c = true ↔ InWord c := by
  simp [Lexer.continuesWord, InWord, IsLetter, IsFigure, Char.isAlphanum, Char.isAlpha,
    Char.isUpper, Char.isLower, Char.isDigit, Char.le_def, or_comm, or_assoc]

/-- A word goes on with any character that may begin one. -/
theorem inWord_of_begins
    (begins : IsLetter c ∨ c = '_') :
    InWord c := by
  rcases begins with isLetter | isUnderscore
  · exact .inl isLetter
  · exact .inr (.inr isUnderscore)

end Characters

theorem isNumber_iff
    {behind text : List Char} :
    IsNumber behind text ↔ Lexer.EndsNumber .start behind text := by
  have followed
      (next : Char) :
      ¬InWord next ∧ next ≠ '.' ↔ Lexer.continuesNumber next = false := by
    simp [Lexer.continuesNumber, ← continuesWord_iff]
  rw [Lexer.endsNumber_start_iff]
  constructor
  · rintro ⟨isNumeral, ended⟩
    exact ⟨isNumeral, fun next isNext => (followed next).mp (ended next isNext)⟩
  · rintro ⟨isNumeral, ended⟩
    exact ⟨isNumeral, fun next isNext => (followed next).mpr (ended next isNext)⟩

theorem isLongest_number_iff
    {chars text : List Char} :
    IsLongest IsNumber chars text ↔ IsLongest (Lexer.EndsNumber .start) chars text := by
  have same : IsNumber = Lexer.EndsNumber .start := by
    funext behind text
    exact propext isNumber_iff
  rw [same]

/-- What the lexer finds when it looks for a number at the start of a text. -/
inductive FindsNumber (chars : List Char) : Option (Number.Decimal × Nat) → Prop where
  | found
      {text : List Char}
      {decimal : Number.Decimal}
      (isLongest : IsLongest IsNumber chars text)
      (reads : Number.ofText? (String.ofList text) = some decimal.toFloat) :
      FindsNumber chars (some (decimal, text.length))
  | none
      (noNumber : ¬HasNumber chars) :
      FindsNumber chars none

/-- The lexer finds the longest number there is, and its text reads as its value. -/
theorem findsNumber_number?
    (chars : List Char) :
    FindsNumber chars (Lexer.number? chars) := by
  have isSize := Lexer.numberSize_isLongest .start 0 0 chars
  generalize found : Lexer.numberSize .start 0 0 chars = size at isSize
  cases isSize with
  | none noText =>
      rw [Lexer.number?_eq_none_iff_size.mpr found]
      refine .none ?_
      rintro ⟨text, behind, shape, isNumber⟩
      exact noText text behind shape (isNumber_iff.mp isNumber)
  | found isLongest =>
      rw [Nat.zero_add] at found
      obtain ⟨decimal, isFound, reads⟩ := Lexer.number?_of_isLongest found isLongest
      rw [isFound]
      exact .found (isLongest_number_iff.mpr isLongest) reads

theorem hasNumber_of_isLongest
    {chars text : List Char}
    (isLongest : IsLongest IsNumber chars text) :
    HasNumber chars := by
  obtain ⟨behind, shape, isNumber⟩ := isLongest.begins
  exact ⟨text, behind, shape, isNumber⟩

theorem number?_eq_none_iff
    {chars : List Char} :
    Lexer.number? chars = none ↔ ¬HasNumber chars := by
  have finds := findsNumber_number? chars
  generalize Lexer.number? chars = found at finds ⊢
  cases finds with
  | none noNumber =>
      exact iff_of_true rfl noNumber
  | found isLongest _ =>
      exact iff_of_false (by simp) (not_not_intro (hasNumber_of_isLongest isLongest))

/-- The longest identifier goes on as far as the characters of words do. -/
theorem isLongest_identifier
    {first : Char}
    (starts : Lexer.startsWord first = true)
    (rest : List Char) :
    IsLongest (fun _ => IsIdentifier) (first :: rest)
      (first :: rest.takeWhile Lexer.continuesWord) := by
  have begins := startsWord_iff.mp starts
  refine ⟨⟨rest.dropWhile Lexer.continuesWord, by simp, ⟨first, rfl, begins⟩, ?_⟩, ?_⟩
  · refine List.forall_mem_cons.mpr ⟨inWord_of_begins begins, fun c member => ?_⟩
    exact continuesWord_iff.mp (List.mem_takeWhile_imp member)
  · intro other behind shape isIdentifier
    cases other with
    | nil =>
        exact Nat.zero_le _
    | cons next more =>
        rw [List.cons_append] at shape
        obtain ⟨rfl, rfl⟩ := List.cons.inj shape
        have inWord : ∀ c ∈ more, Lexer.continuesWord c = true :=
          fun c member =>
            continuesWord_iff.mpr (isIdentifier.goesOn c (List.mem_cons_of_mem _ member))
        rw [List.takeWhile_append_of_pos inWord]
        simp

theorem isLongest_identifier_iff
    {first : Char}
    {rest text : List Char} :
    IsLongest (fun _ => IsIdentifier) (first :: rest) text ↔
      Lexer.startsWord first = true ∧ text = first :: rest.takeWhile Lexer.continuesWord := by
  constructor
  · intro isLongest
    obtain ⟨behind, shape, ⟨next, isNext, begins⟩, _⟩ := isLongest.begins
    obtain ⟨more, rfl⟩ := List.head?_eq_some_iff.mp isNext
    obtain ⟨rfl, _⟩ := List.cons.inj shape
    have starts := startsWord_iff.mpr begins
    exact ⟨starts, isLongest.unique (isLongest_identifier starts rest)⟩
  · rintro ⟨starts, rfl⟩
    exact isLongest_identifier starts rest

/-- Where an operator stands the lexer finds one, and it is not shorter. -/
theorem exists_operator?
    {sign : List Char}
    (isSign : sign ∈ Lexer.signs)
    (behind : List Char) :
    ∃ found, Lexer.operator? (sign ++ behind) = some found ∧ sign.length ≤ found.length := by
  have sizes :
      (∀ wide ∈ Lexer.wideOperators, wide.length = 2) ∧
        ∀ sign ∈ Lexer.signs, sign.length = 2 ∨ sign.length = 1 := by
    decide
  by_cases isWide : (sign ++ behind).take 2 ∈ Lexer.wideOperators
  · refine ⟨(sign ++ behind).take 2, by rw [Lexer.operator?, if_pos isWide], ?_⟩
    rw [sizes.1 _ isWide]
    have size := sizes.2 sign isSign
    omega
  · rcases List.mem_append.mp isSign with signWide | signNarrow
    · rw [← sizes.1 sign signWide, List.take_left] at isWide
      exact (isWide signWide).elim
    · obtain ⟨narrow, isNarrow, rfl⟩ := List.mem_map.mp signNarrow
      refine ⟨[narrow], ?_, Nat.le_refl _⟩
      rw [Lexer.operator?, if_neg isWide]
      simp [isNarrow]

/-- The longest operator is the one that the lexer finds. -/
theorem isLongest_operator_iff
    {chars sign : List Char} :
    IsLongest (fun _ sign => sign ∈ Lexer.signs) chars sign ↔
      Lexer.operator? chars = some sign := by
  have longest
      {found : List Char}
      (isFound : Lexer.operator? chars = some found) :
      IsLongest (fun _ sign => sign ∈ Lexer.signs) chars found := by
    obtain ⟨isSign, stands⟩ := Lexer.operator?_spells isFound
    have shape : chars = found ++ chars.drop found.length := by
      have parts := List.take_append_drop found.length chars
      rw [stands] at parts
      exact parts.symm
    refine ⟨⟨chars.drop found.length, shape, isSign⟩, ?_⟩
    · rintro other behind rfl otherSign
      obtain ⟨again, isAgain, notShorter⟩ := exists_operator? otherSign behind
      rw [isFound] at isAgain
      cases isAgain
      exact notShorter
  constructor
  · intro isLongest
    obtain ⟨behind, rfl, isSign⟩ := isLongest.begins
    obtain ⟨found, isFound, _⟩ := exists_operator? isSign behind
    rw [isFound, isLongest.unique (longest isFound)]
  · exact longest

theorem reads_of_number?
    {chars : List Char}
    {decimal : Number.Decimal}
    {size : Nat}
    (isNumber : Lexer.number? chars = some (decimal, size)) :
    Reads chars (.number decimal.toFloat) (chars.take size) := by
  have finds := findsNumber_number? chars
  rw [isNumber] at finds
  generalize isFound : some (decimal, size) = found at finds
  cases finds with
  | none noNumber =>
      cases isFound
  | found isLongest reads =>
      cases isFound
      obtain ⟨behind, shape, _⟩ := isLongest.begins
      rw [shape, List.take_left, ← shape]
      exact .number isLongest reads

theorem reads_of_wordOrSign
    {first : Char}
    {rest : List Char}
    {lexeme : Lexeme}
    {size : Nat}
    (noNumber : ¬HasNumber (first :: rest))
    (found : Lexer.wordOrSign first rest = .lexeme lexeme size) :
    Reads (first :: rest) lexeme ((first :: rest).take size) := by
  unfold Lexer.wordOrSign at found
  split at found
  · next starts =>
    cases found
    rw [List.length_cons, List.take_succ_cons, Lexer.take_length_takeWhile]
    exact .word noNumber (isLongest_identifier starts rest)
  · split at found
    · next isOpen =>
      cases found
      cases isOpen
      exact .openBrace noNumber rfl
    · split at found
      · next isClose =>
        cases found
        cases isClose
        exact .closeBrace noNumber rfl
      · split at found
        · next sign isSign =>
          cases found
          rw [(Lexer.operator?_spells isSign).2]
          exact .operator noNumber (isLongest_operator_iff.mpr isSign)
        · next noSign =>
          split at found
          · next isAssign =>
            cases found
            cases isAssign
            refine .assign noNumber rfl ?_
            intro doubled
            obtain ⟨more, rfl⟩ := List.head?_eq_some_iff.mp doubled
            cases noSign
          · cases found

/-- The token that the lexer takes is that of the grammar. -/
theorem reads_of_piece
    {first : Char}
    {rest : List Char}
    {lexeme : Lexeme}
    {size : Nat}
    (found : Lexer.piece first rest = .lexeme lexeme size) :
    Reads (first :: rest) lexeme ((first :: rest).take size) := by
  rcases (Lexer.piece_lexeme found).2 with ⟨decimal, isNumber, rfl⟩ | ⟨isNone, isSign⟩
  · exact reads_of_number? isNumber
  · exact reads_of_wordOrSign (number?_eq_none_iff.mp isNone) isSign

/-- The characters of words lie between the first figure and the last small letter. -/
theorem InWord.toNat_bounds
    {c : Char}
    (inWord : InWord c) :
    48 ≤ c.toNat ∧ c.toNat ≤ 122 := by
  rcases inWord with (⟨least, most⟩ | ⟨least, most⟩) | ⟨least, most⟩ | rfl
  · exact ⟨Nat.le_trans (by decide) (Char.le_def.mp least), Char.le_def.mp most⟩
  · exact ⟨Nat.le_trans (by decide) (Char.le_def.mp least),
      Nat.le_trans (Char.le_def.mp most) (by decide)⟩
  · exact ⟨Char.le_def.mp least, Nat.le_trans (Char.le_def.mp most) (by decide)⟩
  · decide

/-- The characters of numerals, operators and assignments that are no digits. -/
def marks : List Char :=
  Number.punctuation ++ Lexer.signs.flatten ++ ['=']

/-- A token is a brace, or it is made of digits, marks and the characters of words. -/
theorem brace_or_chars_of_standsAlone
    {lexeme : Lexeme}
    {chars : List Char}
    (alone : Lexer.StandsAlone lexeme chars) :
    (lexeme = .openBrace ∧ chars = ['{']) ∨
      (lexeme = .closeBrace ∧ chars = ['}']) ∨
      ∀ c ∈ chars, InWord c ∨ Text.isDigit c = true ∨ c ∈ marks := by
  obtain @⟨first, rest, _, found⟩ := alone
  have reads := reads_of_piece found
  rw [← List.length_cons, List.take_length] at reads
  generalize first :: rest = chars at reads
  cases reads with
  | openBrace =>
      exact .inl ⟨rfl, rfl⟩
  | closeBrace =>
      exact .inr (.inl ⟨rfl, rfl⟩)
  | number isLongest _ =>
      obtain ⟨_, _, isNumber⟩ := isLongest.begins
      refine .inr (.inr fun c member => .inr ?_)
      exact (isNumber.isNumeral.digit_or_punctuation c member).imp_right fun isPunctuation =>
        List.mem_append_left _ (List.mem_append_left _ isPunctuation)
  | word _ isLongest =>
      obtain ⟨_, _, isIdentifier⟩ := isLongest.begins
      exact .inr (.inr fun c member => .inl (isIdentifier.goesOn c member))
  | operator _ isLongest =>
      obtain ⟨_, _, isSign⟩ := isLongest.begins
      refine .inr (.inr fun c member => .inr (.inr ?_))
      exact List.mem_append_left _ (List.mem_append_right _ (List.mem_flatten_of_mem isSign member))
  | assign =>
      refine .inr (.inr fun c member => .inr (.inr ?_))
      exact List.mem_append_right _ member

/-- The operators have signs of their own. -/
theorem exists_first_of_sign
    {sign : List Char}
    (isSign : sign ∈ Lexer.signs) :
    ∃ first ∈ sign.head?,
      Lexer.startsWord first = false ∧ first ≠ '{' ∧ first ≠ '}' ∧ first ≠ '#' := by
  have ownSigns :
      (Lexer.signs.all fun sign =>
        sign.head?.any fun first =>
          !Lexer.startsWord first && first != '{' && first != '}' && first != '#') = true := by
    decide
  obtain ⟨first, isFirst, isOther⟩ :=
    (Option.any_eq_true _ _).mp (List.all_eq_true.mp ownSigns sign isSign)
  exact ⟨first, isFirst, by simpa [and_assoc] using isOther⟩

/-- The token of the grammar is the one that the lexer takes. -/
theorem Reads.piece
    {first : Char}
    {rest : List Char}
    {lexeme : Lexeme}
    {text : List Char}
    (reads : Reads (first :: rest) lexeme text) :
    text <+: first :: rest ∧ Lexer.piece first rest = .lexeme lexeme text.length := by
  have withoutNumber
      (noNumber : ¬HasNumber (first :: rest))
      (notHash : first ≠ '#') :
      Lexer.piece first rest = Lexer.wordOrSign first rest := by
    rw [Lexer.piece, if_neg notHash, number?_eq_none_iff.mpr noNumber]
  cases reads with
  | @number text value isLongest reads =>
      obtain ⟨behind, shape, _⟩ := isLongest.begins
      have finds := findsNumber_number? (first :: rest)
      generalize isFound : Lexer.number? (first :: rest) = found at finds
      cases finds with
      | none noNumber =>
          exact (noNumber (hasNumber_of_isLongest isLongest)).elim
      | found otherLongest otherReads =>
          obtain rfl := isLongest.unique otherLongest
          rw [otherReads] at reads
          cases reads
          have notHash : first ≠ '#' := by
            rintro rfl
            rw [Lexer.number?_eq_none_of_next? (by decide)] at isFound
            cases isFound
          refine ⟨⟨behind, shape.symm⟩, ?_⟩
          rw [Lexer.piece, if_neg notHash, isFound]
  | word noNumber isLongest =>
      obtain ⟨starts, rfl⟩ := isLongest_identifier_iff.mp isLongest
      have notHash : first ≠ '#' := by
        rintro rfl
        cases starts
      refine ⟨List.prefix_cons_inj first |>.mpr (List.takeWhile_prefix _), ?_⟩
      rw [withoutNumber noNumber notHash, Lexer.wordOrSign, if_pos starts]
  | openBrace noNumber begins =>
      cases begins
      rw [withoutNumber noNumber (by decide)]
      exact ⟨⟨rest, rfl⟩, rfl⟩
  | closeBrace noNumber begins =>
      cases begins
      rw [withoutNumber noNumber (by decide)]
      exact ⟨⟨rest, rfl⟩, rfl⟩
  | operator noNumber isLongest =>
      obtain ⟨behind, shape, isSign⟩ := isLongest.begins
      obtain ⟨next, isNext, noWord, notOpen, notClose, notHash⟩ := exists_first_of_sign isSign
      obtain ⟨more, rfl⟩ := List.head?_eq_some_iff.mp isNext
      obtain ⟨rfl, _⟩ := List.cons.inj shape
      refine ⟨⟨behind, shape.symm⟩, ?_⟩
      rw [withoutNumber noNumber notHash]
      simp [Lexer.wordOrSign, noWord, notOpen, notClose, isLongest_operator_iff.mp isLongest]
  | assign noNumber begins single =>
      cases begins
      refine ⟨⟨rest, rfl⟩, ?_⟩
      rw [withoutNumber noNumber (by decide)]
      have noSign : Lexer.operator? ('=' :: rest) = none := by
        cases rest with
        | nil =>
            rfl
        | cons next more =>
            have notDoubled : next ≠ '=' := by
              simpa using single
            simp [Lexer.operator?, Lexer.wideOperators, Lexer.narrowOperators, notDoubled]
      simp [Lexer.wordOrSign, Lexer.startsWord, noSign]

theorem wordLexeme_ne_number
    (word : String)
    (value : Float) :
    Lexer.wordLexeme word ≠ .number value := by
  unfold Lexer.wordLexeme
  split
  · simp
  · simp

/-- A number token is the longest number, and its text reads as its value. -/
theorem Reads.isLongest_number
    {chars text : List Char}
    {value : Float}
    (reads : Reads chars (.number value) text) :
    IsLongest IsNumber chars text ∧ Number.ofText? (String.ofList text) = some value := by
  generalize isNumber : Lexeme.number value = lexeme at reads
  cases reads with
  | number isLongest readsText =>
      cases isNumber
      exact ⟨isLongest, readsText⟩
  | word _ _ =>
      exact (wordLexeme_ne_number _ value isNumber.symm).elim
  | openBrace | closeBrace | operator | assign =>
      cases isNumber

/-- A number is read exactly where there is one. -/
theorem exists_number_iff
    {chars : List Char} :
    (∃ value text, Reads chars (.number value) text) ↔ HasNumber chars := by
  constructor
  · rintro ⟨value, text, reads⟩
    exact hasNumber_of_isLongest reads.isLongest_number.1
  · intro hasNumber
    have finds := findsNumber_number? chars
    generalize Lexer.number? chars = found at finds
    cases finds with
    | none noNumber =>
        exact (noNumber hasNumber).elim
    | found isLongest reads =>
        exact ⟨_, _, .number isLongest reads⟩

/-- Lexing ends where no token and no comment begins. -/
theorem unreadable_iff
    {first : Char}
    {rest : List Char} :
    (∃ size, Lexer.piece first rest = .unreadable size) ↔
      first ≠ '#' ∧ ¬∃ lexeme text, Reads (first :: rest) lexeme text := by
  constructor
  · rintro ⟨size, found⟩
    refine ⟨(Lexer.piece_unreadable found).2.2.2, ?_⟩
    rintro ⟨lexeme, text, reads⟩
    rw [reads.piece.2] at found
    cases found
  · rintro ⟨notHash, noToken⟩
    cases found : Lexer.piece first rest with
    | comment size =>
        exact (notHash (Lexer.piece_comment found).1).elim
    | lexeme lexeme size =>
        exact (noToken ⟨lexeme, _, reads_of_piece found⟩).elim
    | unreadable size =>
        exact ⟨size, rfl⟩

section Places

variable {first : Char} {rest : List Char} {position : Position}

/-- What is recorded behind a character is not recorded at its place. -/
theorem ne_of_mem_places
    {skip : Nat}
    {place : Position}
    (recorded : place ∈ (Lexer.lexFrom skip (position.advance first) rest).places) :
    place ≠ position := by
  obtain ⟨between, _, rfl⟩ := Lexer.mem_places_lexFrom recorded
  intro same
  have offset := congrArg Position.offset same
  rw [Position.offset_after] at offset
  simp only [Position.advance] at offset
  omega

/-- A token is recorded where lexing begins exactly if it is that of the grammar. -/
theorem token_at_iff
    (solid : ¬Text.isBlank first = true)
    (token : Token) :
    token ∈ (Lexer.lexFrom 0 position (first :: rest)).tokens ∧ token.position = position ↔
      ∃ lexeme text,
        Reads (first :: rest) lexeme text ∧
          token = .inSource lexeme (String.ofList text) position := by
  have notBehind
      {skip : Nat}
      (behind : token ∈ (Lexer.lexFrom skip (position.advance first) rest).tokens) :
      token.position ≠ position :=
    ne_of_mem_places (List.mem_append_left _ (List.mem_map_of_mem behind))
  constructor
  · rintro ⟨member, isHere⟩
    cases found : Lexer.piece first rest with
    | comment size =>
        rw [Lexer.lexFrom_comment solid found] at member
        exact (notBehind member isHere).elim
    | lexeme lexeme size =>
        rw [Lexer.lexFrom_lexeme solid found] at member
        rcases List.mem_cons.mp member with isFirst | behind
        · exact ⟨lexeme, _, reads_of_piece found, isFirst⟩
        · exact (notBehind behind isHere).elim
    | unreadable size =>
        rw [Lexer.lexFrom_unreadable solid found] at member
        cases member
  · rintro ⟨lexeme, text, reads, rfl⟩
    obtain ⟨begins, found⟩ := reads.piece
    rw [Lexer.lexFrom_lexeme solid found, ← List.prefix_iff_eq_take.mp begins]
    exact ⟨List.mem_cons_self, rfl⟩

/-- Lexing ends where it begins exactly if the grammar has no token and no comment there. -/
theorem fault_at_iff
    (solid : ¬Text.isBlank first = true) :
    (∃ fault ∈ (Lexer.lexFrom 0 position (first :: rest)).fault, fault.position = position) ↔
      first ≠ '#' ∧ ¬∃ lexeme text, Reads (first :: rest) lexeme text := by
  have notBehind
      {skip : Nat}
      {fault : LexFault}
      (isFault : (Lexer.lexFrom skip (position.advance first) rest).fault = some fault) :
      fault.position ≠ position := by
    apply ne_of_mem_places
    rw [Lexing.places, isFault]
    exact List.mem_append_right _ (List.mem_singleton_self _)
  rw [← unreadable_iff]
  constructor
  · rintro ⟨fault, isFault, isHere⟩
    cases found : Lexer.piece first rest with
    | comment size =>
        rw [Lexer.lexFrom_comment solid found] at isFault
        exact (notBehind isFault isHere).elim
    | lexeme lexeme size =>
        rw [Lexer.lexFrom_lexeme solid found] at isFault
        exact (notBehind isFault isHere).elim
    | unreadable size =>
        exact ⟨size, rfl⟩
  · rintro ⟨size, found⟩
    rw [Lexer.lexFrom_unreadable solid found]
    exact ⟨_, rfl, rfl⟩

end Places

/-- A place where lexing looks for a piece: blanks, comments and tokens have led to it. -/
structure LooksAt (source : String) (front : List Char) (first : Char) (rest : List Char) :
    Prop where
  text :
    source.toList = front ++ first :: rest
  solid :
    ¬Text.isBlank first = true
  reached :
    ∃ tokens : List Token, Lexer.Passes (first :: rest) .start front (tokens.map .token)

namespace LooksAt

variable {source : String} {front rest : List Char} {first : Char}

/-- Lexing goes on where it looks for a piece, and the tokens in front of it are elsewhere. -/
theorem lexed
    (looks : LooksAt source front first rest) :
    let place := Position.start.after front
    ∃ tokens : List Token,
      (∀ token ∈ tokens, token.position ≠ place) ∧
        lex source =
          ⟨tokens ++ (Lexer.lexFrom 0 place (first :: rest)).tokens,
            (Lexer.lexFrom 0 place (first :: rest)).fault⟩ := by
  obtain ⟨text, _, tokens, passes⟩ := looks
  refine ⟨tokens, ?_, ?_⟩
  · intro token member same
    obtain ⟨before, behind, rfl⟩ := List.append_of_mem member
    rw [List.map_append, List.map_cons] at passes
    obtain ⟨lead, next, others, back, rfl, finds⟩ := passes.split _
    have place : token.position = Position.start.after lead :=
      (Lexer.Piece.position_text_of_findings finds.records).1
    have offset := congrArg Position.offset (place.symm.trans same)
    rw [Position.offset_after, Position.offset_after] at offset
    simp only [List.length_append, List.length_cons] at offset
    omega
  · rw [lex, text]
    exact passes.lexFrom

theorem token_iff
    (looks : LooksAt source front first rest)
    (token : Token) :
    let place := Position.start.after front
    token ∈ (lex source).tokens ∧ token.position = place ↔
      ∃ lexeme text,
        Reads (first :: rest) lexeme text ∧
          token = .inSource lexeme (String.ofList text) place := by
  intro place
  obtain ⟨before, elsewhere, isLexed⟩ := looks.lexed
  rw [← token_at_iff looks.solid, isLexed, List.mem_append]
  constructor
  · rintro ⟨isBefore | isBehind, isHere⟩
    · exact (elsewhere token isBefore isHere).elim
    · exact ⟨isBehind, isHere⟩
  · rintro ⟨isBehind, isHere⟩
    exact ⟨.inr isBehind, isHere⟩

theorem number_iff
    (looks : LooksAt source front first rest) :
    let place := Position.start.after front
    (∃ token ∈ (lex source).tokens,
        token.position = place ∧ ∃ value, token.lexeme = .number value) ↔
      HasNumber (first :: rest) := by
  intro place
  rw [← exists_number_iff]
  constructor
  · rintro ⟨token, member, isHere, value, isNumber⟩
    obtain ⟨lexeme, text, reads, rfl⟩ := (looks.token_iff token).mp ⟨member, isHere⟩
    cases isNumber
    exact ⟨value, text, reads⟩
  · rintro ⟨value, text, reads⟩
    obtain ⟨member, isHere⟩ := (looks.token_iff _).mpr ⟨.number value, text, reads, rfl⟩
    exact ⟨_, member, isHere, value, rfl⟩

theorem fault_iff
    (looks : LooksAt source front first rest) :
    (∃ fault ∈ (lex source).fault, fault.position = Position.start.after front) ↔
      first ≠ '#' ∧ ¬∃ lexeme text, Reads (first :: rest) lexeme text := by
  obtain ⟨before, _, isLexed⟩ := looks.lexed
  rw [isLexed]
  exact fault_at_iff looks.solid

end LooksAt

/-- What is found behind tokens only is found where lexing looks for it. -/
theorem exists_looksAt
    {source : String}
    {tokens : List Token}
    {finding : Finding}
    {behind : List Finding}
    (found :
      Lexer.scanFrom 0 .start source.toList = tokens.map .token ++ finding :: behind) :
    ∃ front first rest,
      LooksAt source front first rest ∧ finding.position = Position.start.after front := by
  have passes := Lexer.passes_scanFrom .start source.toList
  rw [found] at passes
  obtain ⟨lead, first, others, back, text, finds⟩ := passes.split _
  have place := (Lexer.Piece.position_text_of_findings finds.records).1
  have toPiece := finds.toPiece
  rw [List.append_nil] at toPiece
  exact ⟨lead, first, others ++ back, ⟨text, finds.whole.solid, tokens, toPiece⟩, place⟩

theorem exists_looksAt_token
    {source : String}
    {token : Token}
    (member : token ∈ (lex source).tokens) :
    ∃ front first rest,
      LooksAt source front first rest ∧ token.position = Position.start.after front := by
  obtain ⟨before, after, isSplit⟩ := List.append_of_mem member
  have stops : Lexing.Stops _ (lex source) :=
    Lexer.stops_lexFrom .start source.toList
  generalize isScan : Lexer.scanFrom 0 .start source.toList = findings at stops
  generalize lex source = lexing at stops isSplit
  cases stops with
  | atEnd tokens =>
      obtain rfl : tokens = before ++ token :: after := isSplit
      rw [List.map_append, List.map_cons] at isScan
      exact exists_looksAt isScan
  | atFault tokens fault behind =>
      obtain rfl : tokens = before ++ token :: after := isSplit
      rw [List.map_append, List.map_cons, List.append_assoc, List.cons_append] at isScan
      exact exists_looksAt isScan

theorem exists_looksAt_fault
    {source : String}
    {fault : LexFault}
    (isFault : (lex source).fault = some fault) :
    ∃ front first rest,
      LooksAt source front first rest ∧ fault.position = Position.start.after front := by
  have stops : Lexing.Stops _ (lex source) :=
    Lexer.stops_lexFrom .start source.toList
  generalize isScan : Lexer.scanFrom 0 .start source.toList = findings at stops
  generalize lex source = lexing at stops isFault
  cases stops with
  | atEnd tokens =>
      cases isFault
  | atFault tokens found behind =>
      cases isFault
      exact exists_looksAt isScan

/-- The value of a number token is never undefined. -/
theorem Reads.isNaN_value
    {chars text : List Char}
    {value : Float}
    (reads : Reads chars (.number value) text) :
    value.isNaN = false := by
  obtain ⟨isLongest, readsText⟩ := reads.isLongest_number
  obtain ⟨behind, _, isNumeral, _⟩ := isLongest.begins
  rw [Number.ofText?_of_isNumeral isNumeral] at readsText
  obtain ⟨decimal, _, rfl⟩ := Option.map_eq_some_iff.mp readsText
  exact decimal.isNaN_toFloat

end Grammar

section WholeTexts

open Grammar

/--
Lexing follows the grammar of tokens.  Tokens and the fault are found where lexing looks for a
piece.  A token stands at such a place exactly if it is the one of the grammar, so it is a number
exactly if some beginning of the remaining text is one, and lexing ends there exactly if neither a
token nor a comment begins.  The text of every number token reads as its value, and that value is
never undefined.
-/
theorem lex_follows_grammar
    (source : String) :
    (∀ token ∈ (lex source).tokens,
        ∃ front first rest,
          LooksAt source front first rest ∧ token.position = Position.start.after front) ∧
      (∀ fault ∈ (lex source).fault,
        ∃ front first rest,
          LooksAt source front first rest ∧ fault.position = Position.start.after front) ∧
      (∀ front first rest,
        LooksAt source front first rest →
          let place := Position.start.after front
          (∀ token,
              token ∈ (lex source).tokens ∧ token.position = place ↔
                ∃ lexeme text,
                  Reads (first :: rest) lexeme text ∧
                    token = .inSource lexeme (String.ofList text) place) ∧
            ((∃ token ∈ (lex source).tokens,
                token.position = place ∧ ∃ value, token.lexeme = .number value) ↔
              HasNumber (first :: rest)) ∧
            ((∃ fault ∈ (lex source).fault, fault.position = place) ↔
              first ≠ '#' ∧ ¬∃ lexeme text, Reads (first :: rest) lexeme text)) ∧
      ∀ token ∈ (lex source).tokens,
        ∀ value,
          token.lexeme = .number value →
            Number.ofText? token.text = some value ∧ value.isNaN = false := by
  refine ⟨fun token => exists_looksAt_token, fun found => exists_looksAt_fault, ?_, ?_⟩
  · intro front first rest looks
    exact ⟨looks.token_iff, looks.number_iff, looks.fault_iff⟩
  · intro token member value isNumber
    obtain ⟨front, first, rest, looks, isHere⟩ := exists_looksAt_token member
    obtain ⟨lexeme, text, reads, rfl⟩ := (looks.token_iff token).mp ⟨member, isHere⟩
    cases isNumber
    exact ⟨reads.isLongest_number.2, reads.isNaN_value⟩

/-- A number may end in front of a digit of another script, where none of ASCII could follow. -/
theorem lex_follows_grammar_between_digits :
    LooksAt "5٣a" [] '5' ['٣', 'a'] ∧
      ∃ token ∈ (lex "5٣a").tokens,
        token.position = .start ∧
          ∃ value,
            token.lexeme = .number value ∧
              Number.ofText? token.text = some value ∧
              value.isNaN = false := by
  have looks : LooksAt "5٣a" [] '5' ['٣', 'a'] :=
    ⟨by decide, by decide, [], .arrived _⟩
  have isRun : Number.IsDigitRun ['5'] :=
    Number.isDigitRun_cons.mpr ⟨by decide, Number.areDigits_nil⟩
  have isNumeral : Number.IsNumeral ['5'] :=
    .parts .none (.whole isRun) .none
  have ended : ∀ next ∈ ['٣', 'a'].head?, ¬InWord next ∧ next ≠ '.' := by
    simp only [List.head?_cons, Option.mem_some_iff, forall_eq']
    decide
  have hasNumber : HasNumber ['5', '٣', 'a'] :=
    ⟨['5'], ['٣', 'a'], rfl, isNumeral, ended⟩
  obtain ⟨_, _, atPlaces, numbersRead⟩ := lex_follows_grammar "5٣a"
  obtain ⟨token, member, isHere, value, isNumber⟩ := (atPlaces _ _ _ looks).2.1.mpr hasNumber
  exact ⟨looks, token, member, isHere, value, isNumber, numbersRead token member value isNumber⟩

end WholeTexts

end StackScript
