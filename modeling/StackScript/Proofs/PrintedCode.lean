import StackScript.Proofs.Layout
import StackScript.Proofs.Provenance
import StackScript.Proofs.ReaderErrors
import StackScript.Proofs.SpacedTokens

namespace StackScript

/-!
# Code that is printed and read back

A block is shown as the texts of its tokens between braces, separated by single spaces.  Two blocks
of lexed code that are shown alike consist of the same tokens, whatever their layout was.  And what
is shown can be evaluated: the reader accepts it, and it pushes the block again.
-/

section LaidOut

/-- Layout changes nothing but places. -/
theorem Likeness.layout.code_laidOut
    (position : Position)
    (tokens : List Token) :
    layout.Code tokens (laidOut position tokens) := by
  induction tokens generalizing position with
  | nil =>
      exact .nil
  | cons token rest inductionHypothesis =>
      exact .cons ⟨rfl, rfl, rfl⟩ (inductionHypothesis _)

/-- Tokens that are laid out alike are the same but for their places. -/
theorem Likeness.layout.code_of_laidOut_eq
    {position : Position}
    {tokens tokens' : List Token}
    (same : laidOut position tokens = laidOut position tokens') :
    layout.Code tokens tokens' := by
  induction tokens generalizing position tokens' with
  | nil =>
      cases tokens' with
      | nil =>
          exact .nil
      | cons token' rest' =>
          cases same
  | cons token rest inductionHypothesis =>
      cases tokens' with
      | nil =>
          cases same
      | cons token' rest' =>
          simp only [laidOut, List.cons.injEq, Token.mk.injEq, and_true] at same
          obtain ⟨⟨lexeme, text, name⟩, sameRest⟩ := same
          rw [text] at sameRest
          exact .cons ⟨lexeme.symm, text.symm, name.symm⟩ (inductionHypothesis sameRest)

theorem laidOut_append
    (position : Position)
    (first second : List Token) :
    ∃ behind,
      laidOut position (first ++ second) = laidOut position first ++ laidOut behind second := by
  induction first generalizing position with
  | nil =>
      exact ⟨position, rfl⟩
  | cons token rest inductionHypothesis =>
      obtain ⟨behind, laid⟩ :=
        inductionHypothesis ((position.after token.text.toList).advance ' ')
      exact ⟨behind, congrArg (_ :: ·) laid⟩

theorem map_lexeme_laidOut
    (position : Position)
    (tokens : List Token) :
    (laidOut position tokens).map Token.lexeme = tokens.map Token.lexeme := by
  induction tokens generalizing position with
  | nil =>
      rfl
  | cons token rest inductionHypothesis =>
      simp [laidOut, inductionHypothesis]

end LaidOut

/-- Lexed code has the same text as other lexed code only if the tokens are the same. -/
theorem joinedText_eq_iff
    {body body' : List Token}
    (lexed : ∀ token ∈ body, token.IsLexed)
    (lexed' : ∀ token ∈ body', token.IsLexed) :
    joinedText body = joinedText body' ↔ Likeness.layout.Code body body' := by
  constructor
  · intro sameText
    have lexing := lex_joinedText lexed
    rw [sameText, lex_joinedText lexed'] at lexing
    exact Likeness.layout.code_of_laidOut_eq (congrArg Lexing.tokens lexing).symm
  · intro code
    exact code.joinedText_eq.symm

section Blocks

/-- The brace in front of a block that is shown. -/
def shownOpener : Token :=
  .inSource .openBrace "\x7b" .start

/-- The brace behind a block that is shown. -/
def shownCloser : Token :=
  .inSource .closeBrace "\x7d" .start

theorem shownOpener_isLexed : shownOpener.IsLexed :=
  ⟨"\x7b", by decide +kernel⟩

theorem shownCloser_isLexed : shownCloser.IsLexed :=
  ⟨"\x7d", by decide +kernel⟩

theorem joinedText_cons_cons
    (token second : Token)
    (rest : List Token) :
    joinedText (token :: second :: rest) =
      token.text ++ " " ++ joinedText (second :: rest) :=
  String.intercalate_cons_cons

theorem joinedText_concat
    (token : Token)
    (rest : List Token)
    (last : Token) :
    joinedText (token :: (rest ++ [last])) =
      joinedText (token :: rest) ++ " " ++ last.text := by
  induction rest generalizing token with
  | nil =>
      simp [joinedText, String.intercalate_cons_cons]
  | cons second others inductionHypothesis =>
      rw [List.cons_append, joinedText_cons_cons, inductionHypothesis, joinedText_cons_cons]
      simp only [String.append_assoc]

/-- A block is shown as its tokens between two braces. -/
theorem blockText_eq_joinedText
    (body : List Token) :
    Value.blockText body = joinedText (shownOpener :: (body ++ [shownCloser])) := by
  cases body with
  | nil =>
      decide +kernel
  | cons token rest =>
      rw [List.cons_append, joinedText_cons_cons, joinedText_concat]
      simp only [Value.blockText, List.isEmpty_cons, shownOpener, shownCloser, Token.inSource,
        String.append_assoc]
      rfl

/-- A shown block of lexed code that is balanced is read as a block of the same tokens. -/
theorem read_blockText
    {body : List Token}
    (balanced : Balanced body)
    (lexed : ∀ token ∈ body, token.IsLexed) :
    ∃ opener body' closer,
      read (Value.blockText body) = .ok (opener :: (body' ++ [closer])) ∧
        opener.lexeme = .openBrace ∧
        closer.lexeme = .closeBrace ∧
        Balanced body' ∧
        Likeness.layout.Code body body' := by
  let bodyStart := (Position.start.after "\x7b".toList).advance ' '
  obtain ⟨behind, laid⟩ := laidOut_append bodyStart body [shownCloser]
  have balancedBody : Balanced (laidOut bodyStart body) :=
    balanced.of_lexemes (map_lexeme_laidOut bodyStart body)
  refine ⟨shownOpener, laidOut bodyStart body, { shownCloser with position := behind }, ?_, rfl,
    rfl, balancedBody, Likeness.layout.code_laidOut bodyStart body⟩
  refine read_eq_ok_iff.mpr ⟨?_, .block rfl balancedBody rfl .nil⟩
  have allLexed : ∀ token ∈ shownOpener :: (body ++ [shownCloser]), token.IsLexed := by
    simpa [or_imp, forall_and, shownOpener_isLexed, shownCloser_isLexed] using lexed
  rw [blockText_eq_joinedText, lex_joinedText allLexed]
  exact congrArg (fun tokens => Lexing.mk (shownOpener :: tokens) none) laid

end Blocks

/-- Evaluating a shown block of lexed code that is balanced pushes a block of the same tokens. -/
theorem Session.eval_blockText
    (session : Session)
    {body : List Token}
    (balanced : Balanced body)
    (lexed : ∀ token ∈ body, token.IsLexed) :
    ∃ body',
      Likeness.layout.Code body body' ∧
        session.eval (Value.blockText body) =
          ({ session with machine := session.machine.push (.block body') },
            .ok (session.machine.stack.toList ++ [.block body'])) := by
  obtain ⟨opener, body', closer, accepted, opens, closes, balanced', code⟩ :=
    read_blockText balanced lexed
  refine ⟨body', code, ?_⟩
  have pushes :
      Evaluation.run (Evaluation.hostFrames - 1) (opener :: (body' ++ [closer])) session.machine =
        ⟨session.machine.push (.block body'), none⟩ := by
    rw [Evaluation.run_enough (by decide), Instruction.ofTokens_block opens balanced' closes]
    rfl
  rw [Session.eval, session.evalOn_of_read_ok accepted, pushes]
  simp [Machine.push]

/-- The code of sourced values is sourced. -/
theorem Value.IsSourced.code
    {sources : List String}
    {value : Value}
    (sourced : value.IsSourced sources)
    {body : List Token}
    (isCode : value.code? = some body) :
    SourcedCode sources body := by
  cases sourced with
  | block code | function code =>
      cases isCode
      exact code
  | _ =>
      cases isCode

/-- All code that a reachable session holds is balanced and consists of lexed tokens. -/
theorem Session.Reachable.code_isLexed
    {session : Session}
    (reachable : session.Reachable)
    {value : Value}
    (held :
      value ∈ session.machine.stack.toList ∨
        ∃ name, (name, value) ∈ session.machine.bindings.entries)
    {body : List Token}
    (isCode : value.code? = some body) :
    Balanced body ∧ ∀ token ∈ body, token.IsLexed := by
  obtain ⟨sources, history⟩ := reachable.history
  have kept : (sourcedCode sources).Keeps session.machine :=
    history.keeps_sourcedCode (List.Subset.refl sources)
  have sourced : value.IsSourced sources := by
    rcases held with onStack | ⟨name, bound⟩
    · exact kept.stack value (by simpa [Stack.toList] using onStack)
    · exact (kept.bindings name value bound).2.1
  have code := sourced.code isCode
  refine ⟨code.balanced, fun token member => ?_⟩
  obtain ⟨source, _, found⟩ := code.tokens token member
  exact ⟨source, found⟩

/--
Code can be printed and read back.  The texts of the tokens that lexing finds, separated by single
spaces, are lexed to their end as the same tokens.  So blocks of lexed tokens are equal exactly when
their tokens are the same but for their places.  And whatever session evaluates the text of a block
that a reachable session holds, as a block or in a function, pushes one value and changes nothing
else: a block that equals it.
-/
theorem printed_code_reads_back :
    (∀ source,
      ∃ tokens,
        lex (joinedText (lex source).tokens) = ⟨tokens, none⟩ ∧
          Likeness.layout.Code (lex source).tokens tokens) ∧
      (∀ body body' : List Token,
        (∀ token ∈ body, token.IsLexed) →
          (∀ token ∈ body', token.IsLexed) →
          (Value.same (.block body) (.block body') = true ↔ Likeness.layout.Code body body')) ∧
      ∀ session : Session,
        session.Reachable →
          ∀ value,
            (value ∈ session.machine.stack.toList ∨
                ∃ name, (name, value) ∈ session.machine.bindings.entries) →
              ∀ body,
                value.code? = some body →
                  ∀ reader : Session,
                    ∃ body',
                      Value.same (.block body') (.block body) = true ∧
                        reader.eval (Value.block body).plainText =
                          ({ reader with machine := reader.machine.push (.block body') },
                            .ok (reader.machine.stack.toList ++ [.block body'])) := by
  refine ⟨fun source => ?_, fun body body' lexed lexed' => ?_, ?_⟩
  · have lexed : ∀ token ∈ (lex source).tokens, token.IsLexed :=
      fun token member => ⟨source, member⟩
    exact ⟨_, lex_joinedText lexed, Likeness.layout.code_laidOut _ _⟩
  · rw [Value.same, beq_iff_eq]
    exact joinedText_eq_iff lexed lexed'
  · intro session reachable value held body isCode reader
    obtain ⟨balanced, lexed⟩ := reachable.code_isLexed held isCode
    obtain ⟨body', code, evaluated⟩ := reader.eval_blockText balanced lexed
    refine ⟨body', ?_, evaluated⟩
    rw [Value.same, code.joinedText_eq, beq_self_eq_true]

/-- A text whose tokens stand as closely as they can. -/
def Session.dense : String :=
  "f\x7b1-2<=.5e1==\x7b\x7d\x7d=# a block in a block"

/-- The tokens of a dense text and the block that it binds are found again where they are shown. -/
theorem printed_code_reads_back_dense :
    let session := ((Session.begin 50 false).eval Session.dense).1
    let body := ((lex Session.dense).tokens.drop 2).take 7
    (∃ tokens,
      lex "f \x7b 1 -2 <= .5e1 == \x7b \x7d \x7d =" = ⟨tokens, none⟩ ∧
        Likeness.layout.Code (lex Session.dense).tokens tokens) ∧
      Likeness.layout.Code body (lex "1 -2 <= .5e1 == \x7b \x7d").tokens ∧
      session.machine.bindings.get? "f" = some (.block body) ∧
      ∃ body',
        Value.same (.block body') (.block body) = true ∧
          (session.eval "\x7b 1 -2 <= .5e1 == \x7b \x7d \x7d").2 = .ok [.block body'] := by
  intro session body
  obtain ⟨tokensAgain, sameBlocks, blocksAgain⟩ := printed_code_reads_back
  have begun : Session.start [] { maxDepth := some 50 } = .ok (Session.begin 50 false) :=
    rfl
  have reachable : session.Reachable :=
    .eval (.start begun) _
  have lexed : ∀ token ∈ body, token.IsLexed := fun token member =>
    ⟨Session.dense, List.mem_of_mem_drop (List.mem_of_mem_take member)⟩
  have shown : (Value.block body).plainText = "\x7b 1 -2 <= .5e1 == \x7b \x7d \x7d" := by
    decide +kernel
  have bound : ("f", Value.block body) ∈ session.machine.bindings.entries := by
    decide +kernel
  refine ⟨?_, ?_, by decide +kernel, ?_⟩
  · have joined :
        joinedText (lex Session.dense).tokens = "f \x7b 1 -2 <= .5e1 == \x7b \x7d \x7d =" := by
      decide +kernel
    rw [← joined]
    exact tokensAgain Session.dense
  · exact (sameBlocks body _ lexed fun token member => ⟨_, member⟩).mp (by decide +kernel)
  · obtain ⟨body', same, evaluated⟩ :=
      blocksAgain session reachable (.block body) (.inr ⟨"f", bound⟩) body rfl session
    rw [shown] at evaluated
    have empty : session.machine.stack.toList = [] := by
      decide +kernel
    exact ⟨body', same, by rw [evaluated, empty]; rfl⟩

end StackScript
