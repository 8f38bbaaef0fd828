import StackScript.Instruction
import StackScript.Reading

namespace StackScript

/-!
# Balanced token lists

Braces are matched three times: by the check that reading makes, which keeps the openers that still
wait, by the capture of a block, which counts inner blocks, and by the reading of instructions,
which skips what a block has taken.  The grammar of balanced token lists is the yardstick for all
three.  The check accepts exactly the grammar, a capture takes exactly one balanced body, and the
instructions of a balanced list hold no complaint about braces.
-/

/-- The grammar of token lists whose braces nest. -/
inductive Balanced : List Token → Prop where
  | nil :
      Balanced []
  | plain
      {token : Token}
      {rest : List Token}
      (notOpen : token.lexeme ≠ .openBrace)
      (notClose : token.lexeme ≠ .closeBrace)
      (balancedRest : Balanced rest) :
      Balanced (token :: rest)
  | block
      {opener closer : Token}
      {body rest : List Token}
      (opens : opener.lexeme = .openBrace)
      (balancedBody : Balanced body)
      (closes : closer.lexeme = .closeBrace)
      (balancedRest : Balanced rest) :
      Balanced (opener :: (body ++ closer :: rest))

section Check

variable {waiting tokens : List Token} {token : Token}

/-- An opener waits in front of the others. -/
theorem imbalanceFrom_open
    (opens : token.lexeme = .openBrace) :
    imbalanceFrom waiting (token :: tokens) =
      imbalanceFrom (token :: waiting) tokens := by
  simp [imbalanceFrom, opens]

/-- A closer meets the opener that waits innermost. -/
theorem imbalanceFrom_close
    {opener : Token}
    (closes : token.lexeme = .closeBrace) :
    imbalanceFrom (opener :: waiting) (token :: tokens) =
      imbalanceFrom waiting tokens := by
  simp [imbalanceFrom, closes]

/-- Whatever is no brace leaves the waiting openers alone. -/
theorem imbalanceFrom_plain
    (notOpen : token.lexeme ≠ .openBrace)
    (notClose : token.lexeme ≠ .closeBrace) :
    imbalanceFrom waiting (token :: tokens) =
      imbalanceFrom waiting tokens := by
  cases shape : token.lexeme <;> simp_all [imbalanceFrom]

/-- A balanced list in front does not change what the check finds behind it. -/
theorem imbalanceFrom_balanced_append
    {front : List Token}
    (balanced : Balanced front)
    (waiting tokens : List Token) :
    imbalanceFrom waiting (front ++ tokens) =
      imbalanceFrom waiting tokens := by
  induction balanced generalizing waiting tokens with
  | nil =>
      rfl
  | plain notOpen notClose balancedRest inductionHypothesis =>
      rw [List.cons_append, imbalanceFrom_plain notOpen notClose,
        inductionHypothesis]
  | block opens balancedBody closes balancedRest bodyHypothesis restHypothesis =>
      rw [List.cons_append, imbalanceFrom_open opens,
        List.append_assoc, bodyHypothesis,
        List.cons_append, imbalanceFrom_close closes, restHypothesis]

/-- Where an opener waits and the check finds nothing wrong, a balanced body is closed. -/
theorem balanced_body_of_imbalanceFrom
    {opener : Token}
    {outer : List Token}
    (accepted : imbalanceFrom (opener :: outer) tokens = none) :
    ∃ body closer rest,
      tokens = body ++ closer :: rest ∧
        Balanced body ∧
        closer.lexeme = .closeBrace ∧
        imbalanceFrom outer rest = none := by
  -- An inner block leaves two lists to look at, what it holds and what stands behind it, and the
  -- second is no tail that an induction on the list would reach.
  induction size : tokens.length using Nat.strongRecOn generalizing tokens opener outer with
  | ind bound inductionHypothesis =>
      subst size
      cases tokens with
      | nil =>
          simp [imbalanceFrom] at accepted
      | cons token rest =>
          by_cases opens : token.lexeme = .openBrace
          · rw [imbalanceFrom_open opens] at accepted
            obtain ⟨inner, innerCloser, behind, restShape,
                innerBalanced, innerCloses, acceptedBehind⟩ :=
              inductionHypothesis rest.length (by simp) accepted rfl
            obtain ⟨body, closer, after, behindShape,
                bodyBalanced, closes, acceptedAfter⟩ :=
              inductionHypothesis behind.length
                (by simp [restShape]; omega) acceptedBehind rfl
            refine ⟨token :: (inner ++ innerCloser :: body), closer, after, ?_,
              .block opens innerBalanced innerCloses bodyBalanced, closes, acceptedAfter⟩
            simp [restShape, behindShape]
          · by_cases closes : token.lexeme = .closeBrace
            · rw [imbalanceFrom_close closes] at accepted
              exact ⟨[], token, rest, rfl, .nil, closes, accepted⟩
            · rw [imbalanceFrom_plain opens closes] at accepted
              obtain ⟨body, closer, after, restShape,
                  bodyBalanced, bodyCloses, acceptedAfter⟩ :=
                inductionHypothesis rest.length (by simp) accepted rfl
              exact ⟨token :: body, closer, after, by simp [restShape],
                .plain opens closes bodyBalanced, bodyCloses, acceptedAfter⟩

/-- The brace that an imbalance is about. -/
def Imbalance.brace : Imbalance → Token
  | .stray brace | .unclosed brace =>
      brace

/-- The brace that the check blames has been waiting or is one of the tokens. -/
theorem brace_mem_of_imbalanceFrom
    {imbalance : Imbalance}
    (blamed : imbalanceFrom waiting tokens = some imbalance) :
    imbalance.brace ∈ waiting ∨ imbalance.brace ∈ tokens := by
  induction tokens generalizing waiting with
  | nil =>
      obtain ⟨opener, isFirst, rfl⟩ := Option.map_eq_some_iff.mp blamed
      exact .inl (List.mem_of_mem_head? isFirst)
  | cons token rest inductionHypothesis =>
      by_cases opens : token.lexeme = .openBrace
      · rw [imbalanceFrom_open opens] at blamed
        rcases inductionHypothesis blamed with waits | later
        · rcases List.mem_cons.mp waits with isToken | waited
          · exact .inr (isToken ▸ List.mem_cons_self)
          · exact .inl waited
        · exact .inr (List.mem_cons_of_mem token later)
      · by_cases closes : token.lexeme = .closeBrace
        · cases waiting with
          | nil =>
              have isStray : imbalanceFrom [] (token :: rest) = some (.stray token) := by
                simp [imbalanceFrom, closes]
              rw [isStray] at blamed
              cases blamed
              exact .inr List.mem_cons_self
          | cons opener outer =>
              rw [imbalanceFrom_close closes] at blamed
              exact (inductionHypothesis blamed).imp
                (List.mem_cons_of_mem opener) (List.mem_cons_of_mem token)
        · rw [imbalanceFrom_plain opens closes] at blamed
          exact (inductionHypothesis blamed).imp_right (List.mem_cons_of_mem token)

/-- The check accepts exactly the balanced token lists. -/
theorem imbalance?_eq_none_iff :
    imbalance? tokens = none ↔ Balanced tokens := by
  constructor
  · intro accepted
    unfold imbalance? at accepted
    induction size : tokens.length using Nat.strongRecOn generalizing tokens with
    | ind bound inductionHypothesis =>
        subst size
        cases tokens with
        | nil =>
            exact .nil
        | cons token rest =>
            by_cases opens : token.lexeme = .openBrace
            · rw [imbalanceFrom_open opens] at accepted
              obtain ⟨body, closer, after, restShape,
                  bodyBalanced, closes, acceptedAfter⟩ :=
                balanced_body_of_imbalanceFrom accepted
              have balancedAfter : Balanced after :=
                inductionHypothesis after.length
                  (by simp [restShape]; omega) acceptedAfter rfl
              rw [restShape]
              exact .block opens bodyBalanced closes balancedAfter
            · by_cases closes : token.lexeme = .closeBrace
              · simp [imbalanceFrom, closes] at accepted
              · rw [imbalanceFrom_plain opens closes] at accepted
                exact .plain opens closes
                  (inductionHypothesis rest.length (by simp) accepted rfl)
  · intro balanced
    simpa [imbalance?, imbalanceFrom] using
      imbalanceFrom_balanced_append balanced [] []

end Check

/-- Balanced lists can be put one behind the other. -/
theorem Balanced.append
    {first second : List Token}
    (balancedFirst : Balanced first)
    (balancedSecond : Balanced second) :
    Balanced (first ++ second) := by
  rw [← imbalance?_eq_none_iff] at balancedSecond ⊢
  unfold imbalance? at balancedSecond ⊢
  rw [imbalanceFrom_balanced_append balancedFirst, balancedSecond]

/-- Whether a list is balanced depends on the classes of its tokens only. -/
theorem Balanced.of_lexemes
    {tokens tokens' : List Token}
    (balanced : Balanced tokens)
    (sameLexemes : tokens'.map Token.lexeme = tokens.map Token.lexeme) :
    Balanced tokens' := by
  induction balanced generalizing tokens' with
  | nil =>
      rw [List.map_eq_nil_iff.mp sameLexemes]
      exact .nil
  | plain notOpen notClose _ inductionHypothesis =>
      obtain ⟨token', rest', rfl, sameLexeme, sameRest⟩ := List.map_eq_cons_iff.mp sameLexemes
      exact .plain (sameLexeme ▸ notOpen) (sameLexeme ▸ notClose) (inductionHypothesis sameRest)
  | block opens _ closes _ bodyHypothesis restHypothesis =>
      obtain ⟨opener', _, rfl, sameOpener, sameTail⟩ := List.map_eq_cons_iff.mp sameLexemes
      rw [List.map_append] at sameTail
      obtain ⟨body', _, rfl, sameBody, sameBehind⟩ := List.map_eq_append_iff.mp sameTail
      obtain ⟨closer', rest', rfl, sameCloser, sameRest⟩ := List.map_eq_cons_iff.mp sameBehind
      exact .block (sameOpener.trans opens) (bodyHypothesis sameBody) (sameCloser.trans closes)
        (restHypothesis sameRest)

theorem Balanced.map
    {change : Token → Token}
    (sameLexeme : ∀ token, (change token).lexeme = token.lexeme)
    {tokens : List Token}
    (balanced : Balanced tokens) :
    Balanced (tokens.map change) :=
  balanced.of_lexemes (by simp [Function.comp_def, sameLexeme])

/-- A source text is read as its tokens when all of it is lexed and the tokens are balanced. -/
theorem read_eq_ok_iff
    {source : String}
    {tokens : List Token} :
    read source = .ok tokens ↔ lex source = ⟨tokens, none⟩ ∧ Balanced tokens := by
  unfold read checkBalance
  rcases lex source with ⟨lexed, _ | fault⟩
  · cases checked : imbalance? lexed with
    | none =>
        have balanced := imbalance?_eq_none_iff.mp checked
        simp only [checked, Except.map, Except.ok.injEq, Lexing.mk.injEq, and_true]
        exact ⟨fun same => ⟨same, same ▸ balanced⟩, And.left⟩
    | some imbalance =>
        have refused (isTokens : lexed = tokens) : ¬Balanced tokens := by
          intro balanced
          rw [← isTokens, ← imbalance?_eq_none_iff, checked] at balanced
          cases balanced
        cases imbalance <;> simpa [checked, Except.map] using refused
  · simp

/-- Reading fails at the fault that ends lexing, or else at the brace that the check blames. -/
theorem read_eq_error_cases
    {source : String}
    {error : Error}
    (refused : read source = .error error) :
    (∃ fault, (lex source).fault = some fault ∧ error = LexFault.toError fault) ∨
      (lex source).fault = none ∧
        ∃ brace,
          imbalance? (lex source).tokens = some (.stray brace) ∧
              error = Error.atToken brace .strayBrace ∨
            imbalance? (lex source).tokens = some (.unclosed brace) ∧
              error = Error.atToken brace .unclosedBlock := by
  unfold read checkBalance at refused
  generalize lex source = lexing at refused ⊢
  rcases lexing with ⟨lexed, _ | fault⟩
  · refine .inr ⟨rfl, ?_⟩
    cases checked : imbalance? lexed with
    | none =>
        simp [checked, Except.map] at refused
    | some imbalance =>
        cases imbalance with
        | stray brace =>
            simp only [checked, Except.map, Except.error.injEq] at refused
            exact ⟨brace, .inl ⟨rfl, refused.symm⟩⟩
        | unclosed brace =>
            simp only [checked, Except.map, Except.error.injEq] at refused
            exact ⟨brace, .inr ⟨rfl, refused.symm⟩⟩
  · simp only [Except.error.injEq] at refused
    exact .inl ⟨fault, rfl, refused.symm⟩

/-- Reading a source text gives a balanced token list. -/
theorem balanced_of_read
    {source : String}
    {tokens : List Token}
    (accepted : read source = .ok tokens) :
    Balanced tokens :=
  (read_eq_ok_iff.mp accepted).2

/-- A capture runs through a balanced list whatever the number of open inner blocks. -/
theorem captureFrom_balanced_append
    {front : List Token}
    (balanced : Balanced front)
    (depth : Nat)
    (tokens : List Token) :
    captureFrom depth (front ++ tokens) =
      (captureFrom depth tokens).map (front ++ ·) := by
  induction balanced generalizing depth tokens with
  | nil =>
      simp
  | @plain token rest notOpen notClose balancedRest inductionHypothesis =>
      have passed :
          captureFrom depth (token :: (rest ++ tokens)) =
            (captureFrom depth (rest ++ tokens)).map (token :: ·) := by
        cases shape : token.lexeme <;> simp_all [captureFrom]
      rw [List.cons_append, passed, inductionHypothesis]
      simp [Function.comp_def]
  | @block opener closer body rest opens balancedBody closes balancedRest
      bodyHypothesis restHypothesis =>
      have passed :
          captureFrom (depth + 1) (closer :: (rest ++ tokens)) =
            (captureFrom depth (rest ++ tokens)).map (closer :: ·) := by
        simp [captureFrom, closes]
      rw [List.cons_append, List.append_assoc, List.cons_append]
      rw [show captureFrom depth (opener :: (body ++ closer :: (rest ++ tokens))) =
          (captureFrom (depth + 1) (body ++ closer :: (rest ++ tokens))).map (opener :: ·) by
        simp [captureFrom, opens]]
      rw [bodyHypothesis, passed, restHypothesis]
      simp [Function.comp_def]

/-- The captured body of a block is what stands between its braces. -/
theorem capture?_balanced
    {body : List Token}
    {closer : Token}
    (balanced : Balanced body)
    (closes : closer.lexeme = .closeBrace)
    (rest : List Token) :
    capture? (body ++ closer :: rest) = some body := by
  unfold capture?
  rw [captureFrom_balanced_append balanced]
  simp [captureFrom, closes]

namespace Instruction

/-- Skipping tokens is reading the instructions of what stands behind them. -/
theorem ofTokensFrom_skip
    (fault : Option LexFault)
    (skip : Nat)
    (tokens : List Token) :
    ofTokensFrom fault skip tokens =
      ofTokensFrom fault 0 (tokens.drop skip) := by
  induction tokens generalizing skip with
  | nil =>
      simp [ofTokensFrom]
  | cons token rest inductionHypothesis =>
      cases skip with
      | zero =>
          rfl
      | succ remaining =>
          rw [ofTokensFrom, inductionHypothesis, List.drop_succ_cons]

@[simp] theorem ofTokens_nil :
    ofTokens [] = [] :=
  rfl

/-- A token that opens no block is one instruction. -/
theorem ofTokens_cons
    {token : Token}
    (notOpen : token.lexeme ≠ .openBrace)
    (rest : List Token) :
    ofTokens (token :: rest) = ofToken token :: ofTokens rest := by
  simp [ofTokens, ofTokensFrom, notOpen]

/-- A block in braces is one instruction. -/
theorem ofTokens_block
    {opener closer : Token}
    {body : List Token}
    (opens : opener.lexeme = .openBrace)
    (balanced : Balanced body)
    (closes : closer.lexeme = .closeBrace)
    (rest : List Token) :
    ofTokens (opener :: (body ++ closer :: rest)) =
      .push (.block body) :: ofTokens rest := by
  unfold ofTokens
  rw [ofTokensFrom]
  simp only [opens, ↓reduceIte, capture?_balanced balanced closes]
  rw [ofTokensFrom_skip]
  simp

/-- What stands behind a balanced list is read as if it stood alone. -/
theorem ofTokens_append
    {first : List Token}
    (balanced : Balanced first)
    (second : List Token) :
    ofTokens (first ++ second) = ofTokens first ++ ofTokens second := by
  induction balanced with
  | nil =>
      rfl
  | plain notOpen _ _ inductionHypothesis =>
      rw [List.cons_append, ofTokens_cons notOpen, ofTokens_cons notOpen, inductionHypothesis,
        List.cons_append]
  | block opens balancedBody closes _ _ restHypothesis =>
      rw [List.cons_append, List.append_assoc, List.cons_append,
        ofTokens_block opens balancedBody closes, ofTokens_block opens balancedBody closes,
        restHypothesis, List.cons_append]

/-- An instruction of a balanced list pushes a balanced block of it, or is one of its tokens. -/
theorem mem_ofTokens
    {tokens : List Token}
    (balanced : Balanced tokens)
    {instruction : Instruction}
    (member : instruction ∈ ofTokens tokens) :
    (∃ body ⊆ tokens, Balanced body ∧ instruction = .push (.block body)) ∨
      ∃ token ∈ tokens,
        token.lexeme ≠ .openBrace ∧
          token.lexeme ≠ .closeBrace ∧
          instruction = ofToken token := by
  induction balanced with
  | nil =>
      cases member
  | @plain token rest notOpen notClose _ inductionHypothesis =>
      rw [ofTokens_cons notOpen] at member
      rcases List.mem_cons.mp member with isFirst | inRest
      · exact .inr ⟨token, List.mem_cons_self, notOpen, notClose, isFirst⟩
      · rcases inductionHypothesis inRest with ⟨body, within, found⟩ | ⟨later, inTokens, found⟩
        · exact .inl ⟨body, List.subset_cons_of_subset _ within, found⟩
        · exact .inr ⟨later, List.mem_cons_of_mem _ inTokens, found⟩
  | @block opener closer body rest opens balancedBody closes _ _ restHypothesis =>
      rw [ofTokens_block opens balancedBody closes] at member
      have restWithin : rest ⊆ opener :: (body ++ closer :: rest) := by
        intro token inRest
        simp [inRest]
      rcases List.mem_cons.mp member with isFirst | inRest
      · exact .inl ⟨body, fun token inBody => by simp [inBody], balancedBody, isFirst⟩
      · rcases restHypothesis inRest with ⟨inner, within, found⟩ | ⟨later, inTokens, found⟩
        · exact .inl ⟨inner, List.Subset.trans within restWithin, found⟩
        · exact .inr ⟨later, restWithin inTokens, found⟩

end Instruction

end StackScript
