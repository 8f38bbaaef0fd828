import StackScript.Proofs.IndexedNames

namespace StackScript

/-!
# Names that assignments take

Which name an assignment sign outside blocks takes can be told from the tokens alone: the name
stands in front of the sign, and what stands between the two makes exactly one operand without ever
reaching for the name.  The walk of the index through any tokens, with stray braces and blocks that
are never closed, finds the names that signs take, one sign after the other, and no others.
-/

namespace Index

/-- How many operands a token outside blocks takes. -/
def taken (token : Token) : Nat :=
  match token.lexeme with
  | .operator | .assign =>
      2
  | .reserved =>
      if token.text = "fn" ∨ token.text = "call" then 1 else 0
  | _ =>
      0

/-- How many operands a token outside blocks leaves. -/
def made (token : Token) : Nat :=
  match token.lexeme with
  | .number _ | .symbol | .operator | .openBrace =>
      1
  | .reserved =>
      if token.text = "fn" ∨ token.text = "call" then 1 else 0
  | _ =>
      0

/--
Tokens behind which a document is outside all blocks: whole blocks, and tokens that open none.  A
closing brace without a partner is one of the latter.
-/
inductive Outside : List Token → Prop where
  | nil :
      Outside []
  | plain
      {token : Token}
      {rest : List Token}
      (notOpen : token.lexeme ≠ .openBrace)
      (further : Outside rest) :
      Outside (token :: rest)
  | block
      {opener closer : Token}
      {body rest : List Token}
      (opens : opener.lexeme = .openBrace)
      (balanced : Balanced body)
      (closes : closer.lexeme = .closeBrace)
      (further : Outside rest) :
      Outside (opener :: (body ++ closer :: rest))

/--
Tokens outside blocks that never take more operands than there are: with `height` operands in front
of them there are `final` behind them.
-/
inductive Piles : Nat → List Token → Nat → Prop where
  | nil
      (height : Nat) :
      Piles height [] height
  | plain
      {height final : Nat}
      {token : Token}
      {rest : List Token}
      (notOpen : token.lexeme ≠ .openBrace)
      (enough : taken token ≤ height)
      (further : Piles (height - taken token + made token) rest final) :
      Piles height (token :: rest) final
  | block
      {height final : Nat}
      {opener closer : Token}
      {body rest : List Token}
      (opens : opener.lexeme = .openBrace)
      (balanced : Balanced body)
      (closes : closer.lexeme = .closeBrace)
      (further : Piles (height + 1) rest final) :
      Piles height (opener :: (body ++ closer :: rest)) final

/--
The assignment sign at a place of the tokens takes a name: the name stands in front of it outside
all blocks, and what stands between them makes one operand above the name.
-/
def TakesName (tokens : List Token) (place : Nat) (name : Token) : Prop :=
  ∃ front between sign rest,
    tokens = front ++ name :: (between ++ sign :: rest) ∧
      place = front.length + (between.length + 1) ∧
      Outside front ∧
      name.lexeme = .symbol ∧
      Piles 0 between 1 ∧
      sign.lexeme = .assign

theorem Outside.append
    {first second : List Token}
    (outsideFirst : Outside first)
    (outsideSecond : Outside second) :
    Outside (first ++ second) := by
  induction outsideFirst with
  | nil =>
      exact outsideSecond
  | plain notOpen _ inductionHypothesis =>
      exact .plain notOpen inductionHypothesis
  | block opens balanced closes _ inductionHypothesis =>
      rw [List.cons_append, List.append_assoc, List.cons_append]
      exact .block opens balanced closes inductionHypothesis

theorem Piles.append
    {height middle final : Nat}
    {first second : List Token}
    (earlier : Piles height first middle)
    (later : Piles middle second final) :
    Piles height (first ++ second) final := by
  induction earlier with
  | nil =>
      exact later
  | plain notOpen enough _ inductionHypothesis =>
      exact .plain notOpen enough (inductionHypothesis later)
  | block opens balanced closes _ inductionHypothesis =>
      rw [List.cons_append, List.append_assoc, List.cons_append]
      exact .block opens balanced closes (inductionHypothesis later)

section Blocks

variable {token : Token} {rest : List Token}

theorem blockSize_open
    (opens : token.lexeme = .openBrace)
    (depth : Nat) :
    blockSize depth (token :: rest) = blockSize (depth + 1) rest + 1 := by
  simp [blockSize, opens]

theorem blockSize_plain
    (notOpen : token.lexeme ≠ .openBrace)
    (notClose : token.lexeme ≠ .closeBrace)
    (depth : Nat) :
    blockSize depth (token :: rest) = blockSize depth rest + 1 := by
  cases shape : token.lexeme <;> simp_all [blockSize]

/-- The end of a block is found behind a balanced body, or all tokens belong to the block. -/
theorem blockSize_cases
    (depth : Nat)
    (tokens : List Token) :
    (∃ body closer behind,
      tokens = body ++ closer :: behind ∧ Balanced body ∧ closer.lexeme = .closeBrace) ∨
      blockSize depth tokens = tokens.length := by
  -- Behind an inner block the list goes on, which is no tail that an induction on it would reach.
  induction size : tokens.length using Nat.strongRecOn generalizing depth tokens with
  | ind bound inductionHypothesis =>
      subst size
      cases tokens with
      | nil =>
          exact .inr rfl
      | cons token rest =>
          by_cases closes : token.lexeme = .closeBrace
          · exact .inl ⟨[], token, rest, rfl, .nil, closes⟩
          · by_cases opens : token.lexeme = .openBrace
            · rcases inductionHypothesis rest.length (by simp) (depth + 1) rest rfl with
                  ⟨inner, innerCloser, behind, rfl, innerBalanced, innerCloses⟩ | swallowed
              · have shorter :
                    behind.length < (token :: (inner ++ innerCloser :: behind)).length := by
                  simp
                  omega
                rcases inductionHypothesis behind.length shorter depth behind rfl with
                    ⟨body, closer, after, rfl, balanced, isCloser⟩ | swallowed
                · exact .inl ⟨token :: (inner ++ innerCloser :: body), closer, after, by simp,
                    .block opens innerBalanced innerCloses balanced, isCloser⟩
                · right
                  rw [blockSize_open opens, blockSize_balanced_append innerBalanced]
                  simp only [blockSize, innerCloses, swallowed, List.length_cons,
                    List.length_append]
              · right
                rw [blockSize_open opens, swallowed, List.length_cons]
            · rcases inductionHypothesis rest.length (by simp) depth rest rfl with
                  ⟨body, closer, behind, rfl, balanced, isCloser⟩ | swallowed
              · exact .inl ⟨token :: body, closer, behind, rfl, .plain opens closes balanced,
                  isCloser⟩
              · right
                rw [blockSize_plain opens closes, swallowed, List.length_cons]

end Blocks

/-- The tokens of a document: plain ones, whole blocks, and perhaps a block that is never closed. -/
inductive Layered : List Token → Prop where
  | nil :
      Layered []
  | plain
      {token : Token}
      {rest : List Token}
      (notOpen : token.lexeme ≠ .openBrace)
      (further : Layered rest) :
      Layered (token :: rest)
  | block
      {opener closer : Token}
      {body rest : List Token}
      (opens : opener.lexeme = .openBrace)
      (balanced : Balanced body)
      (closes : closer.lexeme = .closeBrace)
      (further : Layered rest) :
      Layered (opener :: (body ++ closer :: rest))
  | unclosed
      {opener : Token}
      {rest : List Token}
      (opens : opener.lexeme = .openBrace)
      (swallowed : blockSize 0 rest = rest.length) :
      Layered (opener :: rest)

/-- Every token list is the tokens of a document. -/
theorem layered
    (tokens : List Token) :
    Layered tokens := by
  induction size : tokens.length using Nat.strongRecOn generalizing tokens with
  | ind bound inductionHypothesis =>
      subst size
      cases tokens with
      | nil =>
          exact .nil
      | cons token rest =>
          by_cases opens : token.lexeme = .openBrace
          · rcases blockSize_cases 0 rest with
                ⟨body, closer, behind, rfl, balanced, closes⟩ | swallowed
            · exact .block opens balanced closes
                (inductionHypothesis behind.length (by simp; omega) behind rfl)
            · exact .unclosed opens swallowed
          · exact .plain opens (inductionHypothesis rest.length (by simp) rest rfl)

/-- The definition that an assignment sign makes of a name and of the operand above it. -/
theorem mem_announced_iff
    {operands : List Operand}
    {token : Token}
    {definition : Definition} :
    definition ∈ announced operands token ↔
      token.lexeme = .assign ∧
        ∃ upper name below,
          operands = upper :: .name name :: below ∧
            definition? (.name name) upper = some definition := by
  by_cases isAssign : token.lexeme = .assign
  · rcases operands with _ | ⟨upper, _ | ⟨lower, below⟩⟩
    · simp [announced, isAssign, take, definition?]
    · simp [announced, isAssign, take, definition?]
    · cases lower with
      | name name =>
          simp [announced, isAssign, take]
      | _ =>
          simp [announced, isAssign, take, definition?]
  · simp [announced_eq_nil isAssign, isAssign]

/-- A token outside blocks takes operands and leaves others; only a symbol leaves a name. -/
theorem simulate_eq
    (operands : List Operand)
    (token : Token) :
    ∃ pushed,
      simulate operands token = pushed ++ operands.drop (taken token) ∧
        pushed.length = made token ∧
        ∀ name, .name name ∈ pushed → name = token ∧ token.lexeme = .symbol := by
  have one (operands : List Operand) : (take operands).2 = operands.drop 1 := by
    cases operands <;> rfl
  have two : (take (take operands).2).2 = operands.drop 2 := by
    rw [one, one, List.drop_drop]
  cases shape : token.lexeme with
  | symbol =>
      exact ⟨[.name token], by simp [simulate, taken, shape], by simp [made, shape], by simp⟩
  | number value =>
      exact ⟨[.value], by simp [simulate, taken, shape], by simp [made, shape], by simp⟩
  | operator =>
      exact ⟨[.value], by simp [simulate, taken, shape, two], by simp [made, shape], by simp⟩
  | openBrace =>
      exact ⟨[.block], by simp [simulate, taken, shape], by simp [made, shape], by simp⟩
  | assign =>
      exact ⟨[], by simp [simulate, taken, shape, two], by simp [made, shape], by simp⟩
  | closeBrace | unknown _ =>
      exact ⟨[], by simp [simulate, taken, shape], by simp [made, shape], by simp⟩
  | reserved =>
      by_cases makes : token.text = "fn"
      · exact ⟨[.function], by simp [simulate, taken, shape, makes, one],
          by simp [made, shape, makes], by simp⟩
      · by_cases calls : token.text = "call"
        · exact ⟨[.value], by simp [simulate, taken, shape, calls, one],
            by simp [made, shape, calls], by simp⟩
        · exact ⟨[], by simp [simulate, taken, shape, makes, calls],
            by simp [made, shape, makes, calls], by simp⟩

/-- The assignments to names outside blocks, each with the place of its sign among the tokens. -/
def placedAssignments
    (place skip : Nat)
    (operands : List Operand) :
    List Token → List (Nat × Definition)
  | [] =>
      []
  | token :: rest =>
      match skip with
      | remaining + 1 =>
          placedAssignments (place + 1) remaining operands rest
      | 0 =>
          let block := if token.lexeme = .openBrace then blockSize 0 rest else 0
          (announced operands token).map (place, ·) ++
            placedAssignments (place + 1) block (simulate operands token) rest

/-- Without their places, these are the assignments that the index finds. -/
theorem map_placedAssignments
    (place skip : Nat)
    (operands : List Operand)
    (tokens : List Token) :
    (placedAssignments place skip operands tokens).map Prod.snd =
      assignments skip operands tokens := by
  induction tokens generalizing place skip operands with
  | nil =>
      rfl
  | cons token rest inductionHypothesis =>
      cases skip with
      | succ remaining =>
          exact inductionHypothesis (place + 1) remaining operands
      | zero =>
          simp only [placedAssignments, List.map_append, List.map_map, inductionHypothesis]
          by_cases opens : token.lexeme = .openBrace
          · simp [opens, announced, assignments]
          · rw [assignments_cons operands opens]
            simp [opens, Function.comp_def]

/-- A token makes at most one definition. -/
theorem announced_cases
    (operands : List Operand)
    (token : Token) :
    announced operands token = [] ∨ ∃ definition, announced operands token = [definition] := by
  unfold announced
  split
  · cases definition? (take (take operands).2).1 (take operands).1 with
    | none =>
        exact .inl rfl
    | some definition =>
        exact .inr ⟨definition, rfl⟩
  · exact .inl rfl

/-- The signs follow one another. -/
theorem pairwise_placedAssignments
    (place skip : Nat)
    (operands : List Operand)
    (tokens : List Token) :
    (placedAssignments place skip operands tokens).Pairwise (·.1 < ·.1) ∧
      ∀ found ∈ placedAssignments place skip operands tokens, place ≤ found.1 := by
  induction tokens generalizing place skip operands with
  | nil =>
      exact ⟨.nil, List.forall_mem_nil _⟩
  | cons token rest inductionHypothesis =>
      cases skip with
      | succ remaining =>
          obtain ⟨ordered, behind⟩ := inductionHypothesis (place + 1) remaining operands
          exact ⟨ordered, fun found member => Nat.le_of_succ_le (behind found member)⟩
      | zero =>
          simp only [placedAssignments]
          generalize (if token.lexeme = .openBrace then blockSize 0 rest else 0) = block
          obtain ⟨ordered, behind⟩ :=
            inductionHypothesis (place + 1) block (simulate operands token)
          have later (found : Nat × Definition)
              (member : found ∈
                placedAssignments (place + 1) block (simulate operands token) rest) :
              place ≤ found.1 :=
            Nat.le_of_succ_le (behind found member)
          rcases announced_cases operands token with none | ⟨definition, one⟩
          · rw [none]
            exact ⟨ordered, later⟩
          · rw [one]
            exact ⟨.cons behind ordered, List.forall_mem_cons.mpr ⟨Nat.le_refl place, later⟩⟩

section PlacedAssignments

variable (place : Nat) (operands : List Operand)

/-- A token that opens no block is one step of the walk. -/
theorem placedAssignments_cons
    {token : Token}
    (notOpen : token.lexeme ≠ .openBrace)
    (rest : List Token) :
    placedAssignments place 0 operands (token :: rest) =
      (announced operands token).map (place, ·) ++
        placedAssignments (place + 1) 0 (simulate operands token) rest := by
  simp [placedAssignments, notOpen]

/-- Skipping tokens is walking through what stands behind them. -/
theorem placedAssignments_skip
    (skip : Nat)
    (tokens : List Token) :
    placedAssignments place skip operands tokens =
      placedAssignments (place + skip) 0 operands (tokens.drop skip) := by
  induction tokens generalizing place skip with
  | nil =>
      simp [placedAssignments]
  | cons token rest inductionHypothesis =>
      cases skip with
      | zero =>
          rfl
      | succ remaining =>
          rw [placedAssignments, inductionHypothesis, List.drop_succ_cons, Nat.add_assoc,
            Nat.add_comm 1 remaining]

/-- An opening brace leads behind its block. -/
theorem placedAssignments_open
    {opener : Token}
    (opens : opener.lexeme = .openBrace)
    (rest : List Token) :
    placedAssignments place 0 operands (opener :: rest) =
      placedAssignments (place + 1 + blockSize 0 rest) 0 (.block :: operands)
        (rest.drop (blockSize 0 rest)) := by
  rw [← placedAssignments_skip]
  simp [placedAssignments, announced, simulate, opens]

/-- A whole block is one operand. -/
theorem placedAssignments_block
    {opener closer : Token}
    {body : List Token}
    (opens : opener.lexeme = .openBrace)
    (balanced : Balanced body)
    (closes : closer.lexeme = .closeBrace)
    (rest : List Token) :
    placedAssignments place 0 operands (opener :: (body ++ closer :: rest)) =
      placedAssignments (place + (body.length + 2)) 0 (.block :: operands) rest := by
  have size : blockSize 0 (body ++ closer :: rest) = body.length + 1 :=
    blockSize_block balanced closes rest
  have behind : place + 1 + (body.length + 1) = place + (body.length + 2) := by
    omega
  rw [placedAssignments_open place operands opens, size, behind]
  simp

/-- Nothing is found in a block that is never closed. -/
theorem placedAssignments_unclosed
    {opener : Token}
    {rest : List Token}
    (opens : opener.lexeme = .openBrace)
    (swallowed : blockSize 0 rest = rest.length) :
    placedAssignments place 0 operands (opener :: rest) = [] := by
  rw [placedAssignments_open place operands opens, swallowed, List.drop_length]
  rfl

end PlacedAssignments

/--
The names among the operands are where the tokens say they are: each stands outside all blocks, and
what stands behind it makes the operands above it.
-/
def Traced (passed : List Token) (operands : List Operand) : Prop :=
  ∀ height name,
    operands[height]? = some (.name name) →
      ∃ front between,
        passed = front ++ name :: between ∧
          Outside front ∧
          name.lexeme = .symbol ∧
          Piles 0 between height

namespace Traced

variable {passed : List Token} {operands : List Operand}

/-- In front of all tokens there are no operands. -/
theorem nil : Traced [] [] := by
  intro height name found
  cases found

/-- A token that opens no block moves the names below what it takes to below what it makes. -/
theorem plain
    (traced : Traced passed operands)
    (outside : Outside passed)
    {token : Token}
    (notOpen : token.lexeme ≠ .openBrace) :
    Traced (passed ++ [token]) (simulate operands token) := by
  intro height name found
  obtain ⟨pushed, shape, count, onlySymbols⟩ := simulate_eq operands token
  rw [shape] at found
  by_cases isPushed : height < pushed.length
  · rw [List.getElem?_append_left isPushed] at found
    obtain ⟨rfl, isSymbol⟩ := onlySymbols name (List.mem_of_getElem? found)
    have single : made name = 1 := by
      simp [made, isSymbol]
    obtain rfl : height = 0 := by
      omega
    exact ⟨passed, [], rfl, outside, isSymbol, .nil 0⟩
  · rw [List.getElem?_append_right (Nat.le_of_not_lt isPushed), List.getElem?_drop] at found
    obtain ⟨front, between, rfl, outsideFront, isSymbol, piles⟩ := traced _ name found
    refine ⟨front, between ++ [token], by simp, outsideFront, isSymbol, piles.append ?_⟩
    refine .plain notOpen (Nat.le_add_right _ _) ?_
    have above :
        taken token + (height - pushed.length) - taken token + made token = height := by
      omega
    rw [above]
    exact .nil height

/-- A whole block puts one operand above all names. -/
theorem block
    (traced : Traced passed operands)
    {opener closer : Token}
    {body : List Token}
    (opens : opener.lexeme = .openBrace)
    (balanced : Balanced body)
    (closes : closer.lexeme = .closeBrace) :
    Traced (passed ++ opener :: (body ++ [closer])) (.block :: operands) := by
  intro height name found
  cases height with
  | zero =>
      cases found
  | succ below =>
      obtain ⟨front, between, rfl, outsideFront, isSymbol, piles⟩ := traced below name found
      exact ⟨front, between ++ opener :: (body ++ [closer]), by simp, outsideFront, isSymbol,
        piles.append (.block opens balanced closes (.nil (below + 1)))⟩

end Traced

/-- Every definition on the walk is that of a name which the sign at its place takes. -/
theorem takesName_of_mem
    {tokens : List Token}
    (layers : Layered tokens)
    {passed : List Token}
    {operands : List Operand}
    (outside : Outside passed)
    (traced : Traced passed operands)
    {place : Nat}
    {definition : Definition}
    (member : (place, definition) ∈ placedAssignments passed.length 0 operands tokens) :
    ∃ name upper,
      TakesName (passed ++ tokens) place name ∧
        definition? (.name name) upper = some definition := by
  -- What has been passed grows along with the walk, and the names stay traced in it.
  induction layers generalizing passed operands with
  | nil =>
      cases member
  | @plain token rest notOpen _ inductionHypothesis =>
      rw [placedAssignments_cons _ _ notOpen] at member
      rcases List.mem_append.mp member with isHere | isLater
      · obtain ⟨found, isFound, pair⟩ := List.mem_map.mp isHere
        cases pair
        obtain ⟨isAssign, upper, name, below, rfl, isDefinition⟩ := mem_announced_iff.mp isFound
        obtain ⟨front, between, rfl, outsideFront, isSymbol, piles⟩ := traced 1 name rfl
        exact ⟨name, upper,
          ⟨front, between, token, rest, by simp, by simp, outsideFront, isSymbol, piles, isAssign⟩,
          isDefinition⟩
      · have further := inductionHypothesis (outside.append (.plain notOpen .nil))
          (traced.plain outside notOpen)
        rw [List.length_append, List.append_assoc] at further
        exact further isLater
  | @block opener closer body rest opens balanced closes _ inductionHypothesis =>
      rw [placedAssignments_block _ _ opens balanced closes] at member
      have further := inductionHypothesis
        (outside.append (.block opens balanced closes .nil)) (traced.block opens balanced closes)
      have sameTokens :
          passed ++ opener :: (body ++ [closer]) ++ rest =
            passed ++ opener :: (body ++ closer :: rest) := by
        simp
      have samePlace :
          (passed ++ opener :: (body ++ [closer])).length =
            passed.length + (body.length + 2) := by
        simp
      rw [sameTokens, samePlace] at further
      exact further member
  | unclosed opens swallowed =>
      rw [placedAssignments_unclosed _ _ opens swallowed] at member
      cases member

/-- The walk gets behind tokens outside of which no block is open. -/
theorem Outside.walk
    {front : List Token}
    (outside : Outside front)
    (place : Nat)
    (operands : List Operand) :
    ∃ after,
      ∀ rest,
        placedAssignments (place + front.length) 0 after rest <:+
          placedAssignments place 0 operands (front ++ rest) := by
  induction outside generalizing place operands with
  | nil =>
      exact ⟨operands, fun _ => List.suffix_rfl⟩
  | @plain token front notOpen _ inductionHypothesis =>
      obtain ⟨after, further⟩ := inductionHypothesis (place + 1) (simulate operands token)
      refine ⟨after, fun rest => ?_⟩
      rw [List.cons_append, placedAssignments_cons _ _ notOpen, List.length_cons,
        Nat.add_comm front.length, ← Nat.add_assoc]
      exact (further rest).trans (List.suffix_append _ _)
  | @block opener closer body front opens balanced closes _ inductionHypothesis =>
      obtain ⟨after, further⟩ :=
        inductionHypothesis (place + (body.length + 2)) (.block :: operands)
      refine ⟨after, fun rest => ?_⟩
      have samePlace :
          place + (opener :: (body ++ closer :: front)).length =
            place + (body.length + 2) + front.length := by
        simp only [List.length_cons, List.length_append]
        omega
      rw [List.cons_append, List.append_assoc, List.cons_append,
        placedAssignments_block _ _ opens balanced closes, samePlace]
      exact further rest

/-- The walk gets behind tokens that find enough operands, and leaves the operands below alone. -/
theorem Piles.walk
    {height final : Nat}
    {between : List Token}
    (piles : Piles height between final)
    (place : Nat)
    (upper : List Operand)
    (enough : upper.length = height)
    (lower : List Operand) :
    ∃ after,
      after.length = final ∧
        ∀ rest,
          placedAssignments (place + between.length) 0 (after ++ lower) rest <:+
            placedAssignments place 0 (upper ++ lower) (between ++ rest) := by
  -- The operands above the frame are as many as the judgment says, whatever they are.
  induction piles generalizing place upper with
  | nil height =>
      exact ⟨upper, enough, fun _ => List.suffix_rfl⟩
  | @plain height _ token between notOpen takes _ inductionHypothesis =>
      obtain ⟨pushed, shape, count, _⟩ := simulate_eq (upper ++ lower) token
      rw [List.drop_append_of_le_length (enough ▸ takes), ← List.append_assoc] at shape
      have left :
          (pushed ++ upper.drop (taken token)).length = height - taken token + made token := by
        rw [List.length_append, List.length_drop, enough, count, Nat.add_comm]
      obtain ⟨after, size, further⟩ := inductionHypothesis (place + 1) _ left
      refine ⟨after, size, fun rest => ?_⟩
      rw [List.cons_append, placedAssignments_cons _ _ notOpen, shape, List.length_cons,
        Nat.add_comm between.length, ← Nat.add_assoc]
      exact (further rest).trans (List.suffix_append _ _)
  | @block height _ opener closer body between opens balanced closes _ inductionHypothesis =>
      obtain ⟨after, size, further⟩ :=
        inductionHypothesis (place + (body.length + 2)) (.block :: upper)
          (congrArg Nat.succ enough)
      refine ⟨after, size, fun rest => ?_⟩
      have samePlace :
          place + (opener :: (body ++ closer :: between)).length =
            place + (body.length + 2) + between.length := by
        simp only [List.length_cons, List.length_append]
        omega
      rw [List.cons_append, List.append_assoc, List.cons_append,
        placedAssignments_block _ _ opens balanced closes, samePlace]
      exact further rest

/-- The walk meets every sign that takes a name. -/
theorem TakesName.exists_mem
    {tokens : List Token}
    {place : Nat}
    {name : Token}
    (takes : TakesName tokens place name) :
    ∃ definition,
      (place, definition) ∈ placedAssignments 0 0 [] tokens ∧ definition.name = name.text := by
  obtain ⟨front, between, sign, rest, rfl, rfl, outside, isSymbol, piles, isAssign⟩ := takes
  have nameNotOpen : name.lexeme ≠ .openBrace := by
    simp [isSymbol]
  have signNotOpen : sign.lexeme ≠ .openBrace := by
    simp [isAssign]
  obtain ⟨lower, toName⟩ := outside.walk 0 []
  obtain ⟨after, single, toSign⟩ :=
    piles.walk (0 + front.length + 1) [] rfl (.name name :: lower)
  obtain ⟨upper, rfl⟩ := List.length_eq_one_iff.mp single
  obtain ⟨definition, isDefinition, named⟩ :
      ∃ definition,
        definition? (.name name) upper = some definition ∧ definition.name = name.text :=
    ⟨_, rfl, rfl⟩
  refine ⟨definition, (toName _).subset ?_, named⟩
  have pushesName : simulate lower name = .name name :: lower := by
    simp [simulate, isSymbol]
  have isAnnounced : definition ∈ announced ([upper] ++ .name name :: lower) sign :=
    mem_announced_iff.mpr ⟨isAssign, upper, name, lower, rfl, isDefinition⟩
  have samePlace : front.length + (between.length + 1) = 0 + front.length + 1 + between.length := by
    omega
  rw [placedAssignments_cons _ _ nameNotOpen, pushesName, samePlace]
  refine List.mem_append_right _ ((toSign _).subset ?_)
  rw [placedAssignments_cons _ _ signNotOpen]
  exact List.mem_append_left _ (List.mem_map_of_mem isAnnounced)

/-- Every definition on the walk through a document is that of a name which a sign takes. -/
theorem exists_takesName_of_placed
    {tokens : List Token}
    {place : Nat}
    {definition : Definition}
    (member : (place, definition) ∈ placedAssignments 0 0 [] tokens) :
    ∃ name upper,
      TakesName tokens place name ∧ definition? (.name name) upper = some definition :=
  takesName_of_mem (layered tokens) .nil .nil member

theorem TakesName.mem
    {tokens : List Token}
    {place : Nat}
    {name : Token}
    (takes : TakesName tokens place name) :
    name ∈ tokens := by
  obtain ⟨front, between, sign, rest, rfl, _⟩ := takes
  simp

theorem TakesName.isSymbol
    {tokens : List Token}
    {place : Nat}
    {name : Token}
    (takes : TakesName tokens place name) :
    name.lexeme = .symbol := by
  obtain ⟨_, _, _, _, _, _, _, isSymbol, _⟩ := takes
  exact isSymbol

end Index

end StackScript
