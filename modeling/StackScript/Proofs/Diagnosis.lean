import StackScript.Editor.Diagnostic
import StackScript.Proofs.Balance
import StackScript.Proofs.TokenPlaces

namespace StackScript

/-!
# Diagnostics and the reader

The reader stops at the first thing that is wrong with a text; the index of a document goes on and
collects all that is wrong.  Both agree on which texts are in order and on what is to blame.  The
first unreadable run is the fault that the reader stops at.  If all of the text can be read, the
first stray brace is the one that the reader names, and, if there is none, the last unclosed one.
-/

namespace Recovery

/-- Text that can be read to its end is lexed as it is. -/
theorem lexTolerant_of_readable
    {chars : List Char}
    (readable : (Lexer.lexFrom 0 .start chars).fault = none) :
    lexTolerant chars = ((Lexer.lexFrom 0 .start chars).tokens, []) := by
  rw [lexTolerant]
  split
  · rfl
  · next fault failed =>
    rw [readable] at failed
    cases failed

/-- The first issue is the fault that ends lexing. -/
theorem lexTolerant_of_fault
    {chars : List Char}
    {fault : LexFault}
    (failed : (Lexer.lexFrom 0 .start chars).fault = some fault) :
    ∃ others, (lexTolerant chars).2 = issueOf fault :: others := by
  rw [lexTolerant]
  split
  · next readable =>
    rw [failed] at readable
    cases readable
  · next found isFound =>
    rw [failed] at isFound
    cases isFound
    exact ⟨_, rfl⟩

end Recovery

/-- Whether an issue begins at a place; issues count from zero, places from one. -/
def Issue.IsAt (issue : Issue) (position : Position) : Prop :=
  (issue.line : Int) = position.line - 1 ∧ (issue.column : Int) = position.column - 1

namespace Index

section Equations

variable {waiting tokens : List Token} {token : Token}

theorem braceIssues_open
    (opens : token.lexeme = .openBrace) :
    braceIssues waiting (token :: tokens) = braceIssues (token :: waiting) tokens := by
  simp [braceIssues, opens]

theorem braceIssues_stray
    (closes : token.lexeme = .closeBrace) :
    braceIssues [] (token :: tokens) =
      braceIssue "Unexpected '\x7d' without a matching '\x7b'" token ::
        braceIssues [] tokens := by
  simp [braceIssues, closes]

theorem braceIssues_close
    {opener : Token}
    (closes : token.lexeme = .closeBrace) :
    braceIssues (opener :: waiting) (token :: tokens) = braceIssues waiting tokens := by
  simp [braceIssues, closes]

theorem braceIssues_plain
    (notOpen : token.lexeme ≠ .openBrace)
    (notClose : token.lexeme ≠ .closeBrace) :
    braceIssues waiting (token :: tokens) = braceIssues waiting tokens := by
  cases shape : token.lexeme <;> simp_all [braceIssues]

end Equations

section Places

variable {message : String} {brace other : Token}

theorem braceIssue_isAt
    (counted : brace.position.IsCounted) :
    (braceIssue message brace).IsAt brace.position := by
  obtain ⟨line, column⟩ := counted
  simp only [Issue.IsAt, braceIssue]
  omega

theorem braceIssue_not_isAt
    (counted : brace.position.IsCounted)
    (apart :
      brace.position.Precedes other.position ∨ other.position.Precedes brace.position) :
    ¬(braceIssue message brace).IsAt other.position := by
  obtain ⟨line, column⟩ := counted
  simp only [Position.Precedes] at apart
  simp only [Issue.IsAt, braceIssue]
  omega

end Places

/-- Every issue is about a token. -/
theorem mem_braceIssues
    {issue : Issue}
    {waiting tokens : List Token}
    (member : issue ∈ braceIssues waiting tokens) :
    ∃ message, ∃ token ∈ waiting ++ tokens, issue = braceIssue message token := by
  induction tokens generalizing waiting with
  | nil =>
      simp only [braceIssues, List.mem_map, List.mem_reverse] at member
      obtain ⟨token, isWaiting, rfl⟩ := member
      exact ⟨_, token, List.mem_append_left _ isWaiting, rfl⟩
  | cons token rest inductionHypothesis =>
      have further
          {waiting' : List Token}
          (memberLater : issue ∈ braceIssues waiting' rest)
          (within : waiting' ++ rest ⊆ waiting ++ token :: rest) :
          ∃ message, ∃ known ∈ waiting ++ token :: rest, issue = braceIssue message known := by
        obtain ⟨message, known, isKnown, isIssue⟩ := inductionHypothesis memberLater
        exact ⟨message, known, within isKnown, isIssue⟩
      by_cases opens : token.lexeme = .openBrace
      · rw [braceIssues_open opens] at member
        apply further member
        intro known isKnown
        simp only [List.cons_append, List.mem_cons, List.mem_append] at isKnown ⊢
        tauto
      · by_cases closes : token.lexeme = .closeBrace
        · cases waiting with
          | nil =>
              rw [braceIssues_stray closes] at member
              rcases List.mem_cons.mp member with isFirst | inRest
              · exact ⟨_, token, List.mem_cons_self, isFirst⟩
              · exact further inRest (List.subset_cons_self token rest)
          | cons opener outer =>
              rw [braceIssues_close closes] at member
              apply further member
              intro known isKnown
              simp only [List.cons_append, List.mem_cons, List.mem_append] at isKnown ⊢
              tauto
        · rw [braceIssues_plain opens closes] at member
          apply further member
          intro known isKnown
          simp only [List.mem_cons, List.mem_append] at isKnown ⊢
          tauto

/--
What the issues of a token list say where a check of it finds an imbalance: the first is about the
brace that has no opener, or else the last is about the one that has no closer, and no other issue
is at its place.
-/
inductive Reflects : Option Imbalance → List Issue → Prop where
  | balanced :
      Reflects none []
  | stray
      {closer : Token}
      {first : Issue}
      {others : List Issue}
      (closes : closer.lexeme = .closeBrace)
      (isFirst : first.IsAt closer.position)
      (apart : ∀ other ∈ others, ¬other.IsAt closer.position) :
      Reflects (some (.stray closer)) (first :: others)
  | unclosed
      {opener : Token}
      {last : Issue}
      {others : List Issue}
      (opens : opener.lexeme = .openBrace)
      (isLast : last.IsAt opener.position)
      (apart : ∀ other ∈ others, ¬other.IsAt opener.position) :
      Reflects (some (.unclosed opener)) (others ++ [last])

theorem Reflects.eq_none_iff
    {imbalance : Option Imbalance}
    {issues : List Issue}
    (reflects : Reflects imbalance issues) :
    imbalance = none ↔ issues = [] := by
  cases reflects <;> simp

/-- The issues of tokens in reading order reflect what the check of the reader finds. -/
theorem braceIssues_reflects
    {waiting tokens : List Token}
    (allOpen : ∀ opener ∈ waiting, opener.lexeme = .openBrace)
    (inOrder : InReadingOrder (waiting.reverse ++ tokens)) :
    Reflects (imbalanceFrom waiting tokens) (braceIssues waiting tokens) := by
  induction tokens generalizing waiting with
  | nil =>
      cases waiting with
      | nil =>
          exact .balanced
      | cons opener outer =>
          rw [List.append_nil, List.reverse_cons] at inOrder
          have counted :=
            fun token member => inOrder.counted token (List.mem_append_left [opener] member)
          have openerCounted :=
            inOrder.counted opener (List.mem_append_right _ (List.mem_singleton_self opener))
          have precede := (List.pairwise_append.mp inOrder.ordered).2.2
          simp only [braceIssues, imbalanceFrom, List.head?_cons, Option.map_some,
            List.reverse_cons, List.map_append, List.map_cons, List.map_nil]
          refine .unclosed (allOpen opener List.mem_cons_self) (braceIssue_isAt openerCounted) ?_
          intro other member
          obtain ⟨token, isOuter, rfl⟩ := List.mem_map.mp member
          exact braceIssue_not_isAt (counted token isOuter)
            (.inl (precede token isOuter opener (List.mem_singleton_self opener)))
  | cons token rest inductionHypothesis =>
      by_cases opens : token.lexeme = .openBrace
      · rw [imbalanceFrom_open opens, braceIssues_open opens]
        apply inductionHypothesis
        · simpa [opens] using allOpen
        · simpa using inOrder
      · by_cases closes : token.lexeme = .closeBrace
        · cases waiting with
          | nil =>
              have counted := inOrder.counted
              have precede := (List.pairwise_cons.mp inOrder.ordered).1
              have isStray : imbalanceFrom [] (token :: rest) = some (.stray token) := by
                simp [imbalanceFrom, closes]
              rw [isStray, braceIssues_stray closes]
              refine .stray closes (braceIssue_isAt (counted token List.mem_cons_self)) ?_
              intro other member
              obtain ⟨_, later, isLater, rfl⟩ := mem_braceIssues member
              exact braceIssue_not_isAt (counted later (List.mem_cons_of_mem token isLater))
                (.inr (precede later isLater))
          | cons opener outer =>
              rw [imbalanceFrom_close closes, braceIssues_close closes]
              apply inductionHypothesis
              · exact fun known isKnown => allOpen known (List.mem_cons_of_mem opener isKnown)
              · apply inOrder.sublist
                rw [List.reverse_cons]
                exact (List.sublist_append_left _ _).append (List.sublist_cons_self token rest)
        · rw [imbalanceFrom_plain opens closes, braceIssues_plain opens closes]
          apply inductionHypothesis allOpen
          exact inOrder.sublist
            ((List.Sublist.refl _).append (List.sublist_cons_self token rest))

/-- The index of a text that can be read to its end is that of its tokens. -/
theorem ofText_of_readable
    {text : String}
    (readable : (lex text).fault = none) :
    ofText text =
      { definitions := firstOfEach (assignments 0 [] (lex text).tokens)
        unreadable := []
        unmatched := braceIssues [] (lex text).tokens
        tokens := (lex text).tokens } := by
  simp only [ofText, Recovery.lexTolerant_of_readable readable]
  rfl

/-- The first unreadable run of an index is the fault that ends lexing. -/
theorem unreadable_ofText
    {text : String}
    {fault : LexFault}
    (failed : (lex text).fault = some fault) :
    ∃ others, (ofText text).unreadable = Recovery.issueOf fault :: others :=
  Recovery.lexTolerant_of_fault failed

end Index

namespace Diagnostic

/-- Whether a diagnostic begins at a place; diagnostics count from zero, places from one. -/
def StartsAt (diagnostic : Diagnostic) (position : Position) : Prop :=
  (diagnostic.range.startLine : Int) = position.line - 1 ∧
    (diagnostic.range.startCharacter : Int) = position.column - 1

/-- Whether a diagnostic begins at a place and reaches over so many characters of its line. -/
def Covers (diagnostic : Diagnostic) (position : Position) (size : Nat) : Prop :=
  diagnostic.StartsAt position ∧
    (diagnostic.range.endLine : Int) = position.line - 1 ∧
    (diagnostic.range.endCharacter : Int) = position.column - 1 + size

theorem ofIssue_issueOf_covers
    {fault : LexFault}
    (counted : fault.position.IsCounted) :
    (ofIssue .lexical (Recovery.issueOf fault)).Covers fault.position fault.text.length := by
  obtain ⟨line, column⟩ := counted
  simp only [Covers, StartsAt, ofIssue, Range.onLine, Recovery.issueOf]
  omega

/-- The diagnostics of a text that can be read to its end are about its braces. -/
theorem ofIndex_of_readable
    {text : String}
    (readable : (lex text).fault = none) :
    ofIndex (.ofText text) =
      (Index.braceIssues [] (lex text).tokens).map (ofIssue .unbalanced) := by
  rw [Index.ofText_of_readable readable]
  rfl

/-- The first diagnostic of a text that cannot be read to its end covers the unreadable run. -/
theorem ofIndex_of_fault
    {text : String}
    {fault : LexFault}
    (failed : (lex text).fault = some fault) :
    ∃ first others,
      ofIndex (.ofText text) = first :: others ∧
        first.code = "LexError" ∧
        first.Covers fault.position fault.text.length := by
  have recorded : fault.position ∈ (lex text).places := by
    simp [Lexing.places, failed]
  have counted := isCounted_of_mem_places_lex recorded
  obtain ⟨others, unreadable⟩ := Index.unreadable_ofText failed
  rw [ofIndex, unreadable, List.map_cons, List.cons_append]
  exact ⟨_, _, rfl, rfl, ofIssue_issueOf_covers counted⟩

/-- The brace issues of a text reflect what the reader finds wrong with its braces. -/
theorem reflects_imbalance
    (text : String) :
    Index.Reflects (imbalance? (lex text).tokens) (Index.braceIssues [] (lex text).tokens) :=
  Index.braceIssues_reflects (by simp) (inReadingOrder_lex text)

theorem ofIndex_eq_nil_iff
    (text : String) :
    ofIndex (.ofText text) = [] ↔ ∃ tokens, read text = .ok tokens := by
  cases failed : (lex text).fault with
  | some fault =>
      obtain ⟨first, others, isFirst, _⟩ := ofIndex_of_fault failed
      rw [isFirst]
      constructor
      · intro empty
        cases empty
      · rintro ⟨tokens, accepted⟩
        rw [(read_eq_ok_iff.mp accepted).1] at failed
        cases failed
  | none =>
      have lexed : lex text = ⟨(lex text).tokens, none⟩ := by
        rw [← failed]
      rw [ofIndex_of_readable failed, List.map_eq_nil_iff,
        ← (reflects_imbalance text).eq_none_iff, imbalance?_eq_none_iff]
      constructor
      · intro balanced
        exact ⟨_, read_eq_ok_iff.mpr ⟨lexed, balanced⟩⟩
      · rintro ⟨tokens, accepted⟩
        obtain ⟨isLexed, balanced⟩ := read_eq_ok_iff.mp accepted
        rw [isLexed]
        exact balanced

/-- Where the reader blames a stray brace, the first diagnostic is the only one at it. -/
theorem ofIndex_of_stray
    {text : String}
    (readable : (lex text).fault = none)
    {closer : Token}
    (blamed : imbalance? (lex text).tokens = some (.stray closer)) :
    closer.lexeme = .closeBrace ∧
      ∃ first others,
        ofIndex (.ofText text) = first :: others ∧
          first.StartsAt closer.position ∧
          ∀ other ∈ others, ¬other.StartsAt closer.position := by
  have reflects := reflects_imbalance text
  rw [ofIndex_of_readable readable]
  rw [blamed] at reflects
  generalize Index.braceIssues [] (lex text).tokens = issues at reflects ⊢
  cases reflects with
  | stray closes isFirst apart =>
      exact ⟨closes, _, _, List.map_cons, isFirst, List.forall_mem_map.mpr apart⟩

/-- Where the reader blames an unclosed brace, the last diagnostic is the only one at it. -/
theorem ofIndex_of_unclosed
    {text : String}
    (readable : (lex text).fault = none)
    {opener : Token}
    (blamed : imbalance? (lex text).tokens = some (.unclosed opener)) :
    opener.lexeme = .openBrace ∧
      ∃ others last,
        ofIndex (.ofText text) = others ++ [last] ∧
          last.StartsAt opener.position ∧
          ∀ other ∈ others, ¬other.StartsAt opener.position := by
  have reflects := reflects_imbalance text
  rw [ofIndex_of_readable readable]
  rw [blamed] at reflects
  generalize Index.braceIssues [] (lex text).tokens = issues at reflects ⊢
  cases reflects with
  | unclosed opens isLast apart =>
      exact ⟨opens, _, _, List.map_append, isLast, List.forall_mem_map.mpr apart⟩

/--
The diagnostics of a document agree with the reader.  There are none exactly if the text can be
read, and then the index holds the tokens that are read.  If the reader stops at an unreadable run,
the first diagnostic covers it.  If the reader complains about a brace, all diagnostics are about
braces, and exactly one is at that brace: the first if it is a closing brace, the last if it is an
opening one.
-/
theorem ofIndex_agrees_with_read
    (text : String) :
    let diagnostics := ofIndex (.ofText text)
    (diagnostics = [] ↔ ∃ tokens, read text = .ok tokens) ∧
      (∀ tokens, read text = .ok tokens → (Index.ofText text).tokens = tokens) ∧
      (∀ error,
        read text = .error error →
          error.kind = .lexical →
          ∃ fault first others,
            error = LexFault.toError fault ∧
              diagnostics = first :: others ∧
              first.code = "LexError" ∧
              first.Covers fault.position fault.text.length) ∧
      ∀ error,
        read text = .error error →
          error.kind = .unbalanced →
          (∀ diagnostic ∈ diagnostics, diagnostic.code = "UnbalancedBlock") ∧
            ∃ brace,
              error.token = some brace ∧
                (brace.lexeme = .closeBrace ∧
                    (∃ first others,
                      diagnostics = first :: others ∧
                        first.StartsAt brace.position ∧
                        ∀ other ∈ others, ¬other.StartsAt brace.position) ∨
                  brace.lexeme = .openBrace ∧
                    ∃ others last,
                      diagnostics = others ++ [last] ∧
                        last.StartsAt brace.position ∧
                        ∀ other ∈ others, ¬other.StartsAt brace.position) := by
  refine ⟨ofIndex_eq_nil_iff text, ?_, ?_, ?_⟩
  · intro tokens accepted
    have lexed := (read_eq_ok_iff.mp accepted).1
    rw [Index.ofText_of_readable (congrArg Lexing.fault lexed), lexed]
  · intro error refused isLexical
    rcases read_eq_error_cases refused with
        ⟨fault, failed, rfl⟩ | ⟨_, brace, ⟨_, rfl⟩ | ⟨_, rfl⟩⟩
    · obtain ⟨first, others, covered⟩ := ofIndex_of_fault failed
      exact ⟨fault, first, others, rfl, covered⟩
    · cases isLexical
    · cases isLexical
  · intro error refused isUnbalanced
    rcases read_eq_error_cases refused with
        ⟨fault, _, rfl⟩ | ⟨readable, brace, blamed⟩
    · cases isUnbalanced
    · have aboutBraces :
          ∀ diagnostic ∈ ofIndex (.ofText text), diagnostic.code = "UnbalancedBlock" := by
        rw [ofIndex_of_readable readable]
        exact List.forall_mem_map.mpr fun _ _ => rfl
      refine ⟨aboutBraces, brace, ?_⟩
      rcases blamed with ⟨isStray, rfl⟩ | ⟨isUnclosed, rfl⟩
      · exact ⟨rfl, .inl (ofIndex_of_stray readable isStray)⟩
      · exact ⟨rfl, .inr (ofIndex_of_unclosed readable isUnclosed)⟩

/-- Four texts as they are typed: one in order, two with braces to blame, one not readable. -/
theorem ofIndex_agrees_with_read_typed :
    ofIndex (.ofText "x \x7b y \x7d =") = [] ∧
      (∃ first others,
        ofIndex (.ofText "a \x7d \x7b b \x7b") = first :: others ∧
          first.StartsAt ⟨2, 1, 3⟩ ∧
          ∀ other ∈ others, ¬other.StartsAt ⟨2, 1, 3⟩) ∧
      (∃ others last,
        ofIndex (.ofText "\x7b x\n  \x7b \x7b \x7d") = others ++ [last] ∧
          last.StartsAt ⟨6, 2, 3⟩ ∧
          ∀ other ∈ others, ¬other.StartsAt ⟨6, 2, 3⟩) ∧
      ∃ first others,
        ofIndex (.ofText "x \x7b $?! y ~") = first :: others ∧
          first.code = "LexError" ∧
          first.Covers ⟨4, 1, 5⟩ 3 := by
  refine ⟨?_, ?_, ?_, ?_⟩
  · have accepted :
        read "x \x7b y \x7d =" = .ok ((read "x \x7b y \x7d =").toOption.getD []) := by
      decide +kernel
    exact (ofIndex_agrees_with_read _).1.mpr ⟨_, accepted⟩
  · have refused :
        read "a \x7d \x7b b \x7b" =
          .error ⟨.strayBrace, some (.inSource .closeBrace "\x7d" ⟨2, 1, 3⟩)⟩ := by
      decide +kernel
    obtain ⟨_, brace, isBrace, ⟨_, blamed⟩ | ⟨opens, _⟩⟩ :=
      (ofIndex_agrees_with_read _).2.2.2 _ refused rfl
    · cases isBrace
      exact blamed
    · cases isBrace
      cases opens
  · have refused :
        read "\x7b x\n  \x7b \x7b \x7d" =
          .error ⟨.unclosedBlock, some (.inSource .openBrace "\x7b" ⟨6, 2, 3⟩)⟩ := by
      decide +kernel
    obtain ⟨_, brace, isBrace, ⟨closes, _⟩ | ⟨_, blamed⟩⟩ :=
      (ofIndex_agrees_with_read _).2.2.2 _ refused rfl
    · cases isBrace
      cases closes
    · cases isBrace
      exact blamed
  · have refused :
        read "x \x7b $?! y ~" = .error (LexFault.toError ⟨"$?!", ⟨4, 1, 5⟩⟩) := by
      decide +kernel
    obtain ⟨fault, first, others, isFault, isFirst, code, covered⟩ :=
      (ofIndex_agrees_with_read _).2.2.1 _ refused rfl
    cases isFault
    exact ⟨first, others, isFirst, code, covered⟩

end Diagnostic

end StackScript
