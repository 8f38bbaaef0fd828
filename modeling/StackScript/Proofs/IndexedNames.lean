import StackScript.Proofs.Diagnosis
import StackScript.Proofs.Effects
import StackScript.Proofs.Entries
import StackScript.Proofs.InlineCall
import StackScript.Proofs.LexedTokens
import StackScript.Proofs.Sequencing

namespace StackScript

/-!
# Indexed names and bound names

The index of a document finds the names that the document binds without running it: it walks through
the tokens with a simulated stack that knows names from numbers, blocks and functions.  As long as
nothing is called outside blocks, the simulated stack describes the stack of the machine after every
token, and the walk meets every assignment that the machine makes.  So a run binds no name that the
index does not know, a run that succeeds binds all of them, and what the index says about the first
value of a name holds when it is bound.
-/

/-- A token list is what stands in front of one of its tokens, the token, and what stands behind. -/
theorem eq_take_append_of_getElem?
    {tokens : List Token}
    {count : Nat}
    {token : Token}
    (isToken : tokens[count]? = some token) :
    tokens = tokens.take count ++ token :: tokens.drop (count + 1) := by
  obtain ⟨within, rfl⟩ := List.getElem?_eq_some_iff.mp isToken
  rw [List.getElem_cons_drop, List.take_append_drop]

/-- Whether a token stands outside all blocks of a token list. -/
def Token.IsOutermost (token : Token) (tokens : List Token) : Prop :=
  ∃ front rest, tokens = front ++ token :: rest ∧ Balanced front

namespace Token.IsOutermost

variable {token : Token} {rest : List Token}

theorem cons
    (outermost : token.IsOutermost rest)
    {first : Token}
    (notOpen : first.lexeme ≠ .openBrace)
    (notClose : first.lexeme ≠ .closeBrace) :
    token.IsOutermost (first :: rest) := by
  obtain ⟨front, behind, rfl, balanced⟩ := outermost
  exact ⟨first :: front, behind, rfl, .plain notOpen notClose balanced⟩

theorem behind_block
    (outermost : token.IsOutermost rest)
    {opener closer : Token}
    {body : List Token}
    (opens : opener.lexeme = .openBrace)
    (balancedBody : Balanced body)
    (closes : closer.lexeme = .closeBrace) :
    token.IsOutermost (opener :: (body ++ closer :: rest)) := by
  obtain ⟨front, behind, rfl, balanced⟩ := outermost
  exact ⟨opener :: (body ++ closer :: front), behind, by simp,
    .block opens balancedBody closes balanced⟩

/-- A token stands outermost where the tokens in front of it are balanced. -/
theorem iff_getElem?
    {tokens : List Token} :
    token.IsOutermost tokens ↔
      ∃ count < tokens.length,
        imbalance? (tokens.take count) = none ∧ tokens[count]? = some token := by
  constructor
  · rintro ⟨front, behind, rfl, balanced⟩
    refine ⟨front.length, by simp, ?_, by simp⟩
    rw [List.take_left, imbalance?_eq_none_iff]
    exact balanced
  · rintro ⟨count, _, balanced, isToken⟩
    exact ⟨_, _, eq_take_append_of_getElem? isToken, imbalance?_eq_none_iff.mp balanced⟩

end Token.IsOutermost

/-- Reading finds regular tokens only. -/
theorem isRegular_of_mem_read
    {source : String}
    {tokens : List Token}
    (accepted : read source = .ok tokens)
    {token : Token}
    (member : token ∈ tokens) :
    token.IsRegular := by
  have lexed := (read_eq_ok_iff.mp accepted).1
  have found : token ∈ (lex source).tokens := by
    rw [lexed]
    exact member
  exact isRegular_of_mem_lex found

/-- Whether nothing is called outside the blocks of a token list. -/
def CallFree (tokens : List Token) : Prop :=
  ∀ token : Token,
    token.IsOutermost tokens → token.lexeme = .reserved → token.text ≠ "call"

namespace CallFree

variable {tokens : List Token}

instance (tokens : List Token) : Decidable (CallFree tokens) :=
  decidable_of_iff
    (∀ count < tokens.length,
      imbalance? (tokens.take count) = none →
        ∀ token ∈ tokens[count]?, token.lexeme = .reserved → token.text ≠ "call") <| by
    simp only [CallFree, Token.IsOutermost.iff_getElem?]
    constructor
    · rintro checked token ⟨count, within, balanced, isToken⟩
      exact checked count within balanced token isToken
    · intro callFree count within balanced token isToken
      exact callFree token ⟨count, within, balanced, isToken⟩

theorem tail
    {first : Token}
    (callFree : CallFree (first :: tokens))
    (notOpen : first.lexeme ≠ .openBrace)
    (notClose : first.lexeme ≠ .closeBrace) :
    CallFree tokens :=
  fun token outermost => callFree token (outermost.cons notOpen notClose)

theorem behind_block
    {opener closer : Token}
    {body : List Token}
    (callFree : CallFree (opener :: (body ++ closer :: tokens)))
    (opens : opener.lexeme = .openBrace)
    (balanced : Balanced body)
    (closes : closer.lexeme = .closeBrace) :
    CallFree tokens :=
  fun token outermost => callFree token (outermost.behind_block opens balanced closes)

theorem front
    {behind : List Token}
    (callFree : CallFree (tokens ++ behind)) :
    CallFree tokens := by
  rintro token ⟨front, rest, rfl, balanced⟩
  exact callFree token ⟨front, rest ++ behind, by simp, balanced⟩

end CallFree

namespace Index

section FirstOfEach

variable {definition first : Definition} {front definitions : List Definition} {name : String}

/-- Keeping the first definition of every name keeps every name. -/
theorem mem_names_firstOfEach_iff :
    name ∈ (firstOfEach definitions).map Definition.name ↔
      name ∈ definitions.map Definition.name := by
  induction definitions with
  | nil =>
      rfl
  | cons first rest inductionHypothesis =>
      have isKept :
          (∃ later ∈ firstOfEach rest, later.name ≠ first.name ∧ later.name = name) ↔
            name ≠ first.name ∧ name ∈ rest.map Definition.name := by
        rw [← inductionHypothesis, List.mem_map]
        constructor
        · rintro ⟨later, member, isOther, rfl⟩
          exact ⟨isOther, later, member, rfl⟩
        · rintro ⟨isOther, later, member, rfl⟩
          exact ⟨later, member, isOther, rfl⟩
      simp only [firstOfEach, List.map_cons, List.mem_cons, List.mem_map, List.mem_filter,
        bne_iff_ne, and_assoc, isKept]
      by_cases isFirst : name = first.name <;> simp [isFirst]

/-- A kept definition is the first one of its name. -/
theorem eq_first_of_mem_firstOfEach
    (member : definition ∈ firstOfEach (front ++ first :: definitions))
    (isNew : ∀ earlier ∈ front, earlier.name ≠ definition.name)
    (named : first.name = definition.name) :
    definition = first := by
  induction front with
  | nil =>
      rcases List.mem_cons.mp member with isFirst | later
      · exact isFirst
      · simp [named] at later
  | cons earlier rest inductionHypothesis =>
      have isOther := isNew earlier List.mem_cons_self
      rcases List.mem_cons.mp member with isEarlier | later
      · rw [isEarlier] at isOther
        exact absurd rfl isOther
      · exact inductionHypothesis (List.mem_of_mem_filter later)
          fun known isKnown => isNew known (List.mem_cons_of_mem earlier isKnown)

end FirstOfEach

/-- The size of a block counts a balanced list token by token. -/
theorem blockSize_balanced_append
    {front : List Token}
    (balanced : Balanced front)
    (depth : Nat)
    (tokens : List Token) :
    blockSize depth (front ++ tokens) = front.length + blockSize depth tokens := by
  induction balanced generalizing depth tokens with
  | nil =>
      simp
  | @plain token rest notOpen notClose _ inductionHypothesis =>
      have passed :
          blockSize depth (token :: (rest ++ tokens)) = blockSize depth (rest ++ tokens) + 1 := by
        cases shape : token.lexeme <;> simp_all [blockSize]
      rw [List.cons_append, passed, inductionHypothesis, List.length_cons]
      omega
  | @block opener closer body rest opens _ closes _ bodyHypothesis restHypothesis =>
      have entered (behind : List Token) :
          blockSize depth (opener :: behind) = blockSize (depth + 1) behind + 1 := by
        simp [blockSize, opens]
      have left (behind : List Token) :
          blockSize (depth + 1) (closer :: behind) = blockSize depth behind + 1 := by
        simp [blockSize, closes]
      rw [List.cons_append, List.append_assoc, List.cons_append, entered, bodyHypothesis, left,
        restHypothesis]
      simp only [List.length_cons, List.length_append]
      omega

/-- A block is skipped up to its closing brace. -/
theorem blockSize_block
    {closer : Token}
    {body : List Token}
    (balanced : Balanced body)
    (closes : closer.lexeme = .closeBrace)
    (behind : List Token) :
    blockSize 0 (body ++ closer :: behind) = body.length + 1 := by
  rw [blockSize_balanced_append balanced]
  simp [blockSize, closes]

theorem drop_blockSize
    {closer : Token}
    {body : List Token}
    (balanced : Balanced body)
    (closes : closer.lexeme = .closeBrace)
    (behind : List Token) :
    (body ++ closer :: behind).drop (blockSize 0 (body ++ closer :: behind)) = behind := by
  rw [blockSize_block balanced closes]
  simp

/-- Skipping tokens is walking through what stands behind them. -/
theorem assignments_skip
    (skip : Nat)
    (operands : List Operand)
    (tokens : List Token) :
    assignments skip operands tokens = assignments 0 operands (tokens.drop skip) := by
  induction tokens generalizing skip with
  | nil =>
      simp [assignments]
  | cons token rest inductionHypothesis =>
      cases skip with
      | zero =>
          rfl
      | succ remaining =>
          rw [assignments, inductionHypothesis, List.drop_succ_cons]

/-- Behind a block the walk goes on with one operand more. -/
theorem assignments_open
    {opener : Token}
    (opens : opener.lexeme = .openBrace)
    (operands : List Operand)
    (rest : List Token) :
    assignments 0 operands (opener :: rest) =
      assignments 0 (.block :: operands) (rest.drop (blockSize 0 rest)) := by
  rw [assignments]
  simp only [opens, simulate]
  rw [assignments_skip]

/-- The definition that a token makes of the operands in front of it, if any. -/
def announced (operands : List Operand) (token : Token) : List Definition :=
  match token.lexeme with
  | .assign =>
      (definition? (take (take operands).2).1 (take operands).1).toList
  | _ =>
      []

/-- A token that opens no block is one step of the walk. -/
theorem assignments_cons
    (operands : List Operand)
    {token : Token}
    (notOpen : token.lexeme ≠ .openBrace)
    (rest : List Token) :
    assignments 0 operands (token :: rest) =
      announced operands token ++ assignments 0 (simulate operands token) rest := by
  cases shape : token.lexeme <;> simp_all [assignments, announced]

theorem announced_eq_nil
    {operands : List Operand}
    {token : Token}
    (notAssign : token.lexeme ≠ .assign) :
    announced operands token = [] := by
  unfold announced
  split
  · contradiction
  · rfl

/--
A walk through the tokens of a balanced list: the operands in front of it, the definitions that it
finds, and the operands behind it.
-/
inductive Walk : List Operand → List Token → List Definition → List Operand → Prop where
  | nil
      (operands : List Operand) :
      Walk operands [] [] operands
  | plain
      {operands after : List Operand}
      {token : Token}
      {rest : List Token}
      {found : List Definition}
      (notOpen : token.lexeme ≠ .openBrace)
      (notClose : token.lexeme ≠ .closeBrace)
      (further : Walk (simulate operands token) rest found after) :
      Walk operands (token :: rest) (announced operands token ++ found) after
  | block
      {operands after : List Operand}
      {opener closer : Token}
      {body rest : List Token}
      {found : List Definition}
      (opens : opener.lexeme = .openBrace)
      (balanced : Balanced body)
      (closes : closer.lexeme = .closeBrace)
      (further : Walk (.block :: operands) rest found after) :
      Walk operands (opener :: (body ++ closer :: rest)) found after

/-- There is a walk through every balanced list. -/
theorem Walk.of_balanced
    {tokens : List Token}
    (balanced : Balanced tokens)
    (operands : List Operand) :
    ∃ found after, Walk operands tokens found after := by
  induction balanced generalizing operands with
  | nil =>
      exact ⟨[], operands, .nil operands⟩
  | @plain token _ notOpen notClose _ inductionHypothesis =>
      obtain ⟨found, after, further⟩ := inductionHypothesis (simulate operands token)
      exact ⟨_, after, .plain notOpen notClose further⟩
  | block opens balancedBody closes _ _ restHypothesis =>
      obtain ⟨found, after, further⟩ := restHypothesis (.block :: operands)
      exact ⟨found, after, .block opens balancedBody closes further⟩

/-- The assignments of a document are those on the walk, and then those behind it. -/
theorem Walk.assignments_append
    {operands after : List Operand}
    {tokens : List Token}
    {found : List Definition}
    (walk : Walk operands tokens found after)
    (behind : List Token) :
    assignments 0 operands (tokens ++ behind) = found ++ assignments 0 after behind := by
  induction walk with
  | nil =>
      rfl
  | @plain operands _ token rest found notOpen _ _ inductionHypothesis =>
      rw [List.cons_append, assignments_cons operands notOpen, inductionHypothesis,
        List.append_assoc]
  | @block operands _ opener closer body rest _ opens balanced closes _ inductionHypothesis =>
      rw [List.cons_append, List.append_assoc, List.cons_append, assignments_open opens,
        drop_blockSize balanced closes]
      exact inductionHypothesis

/-- What an operand of the simulated stack says about a value. -/
inductive Operand.Describes : Operand → Value → Prop where
  | name (token : Token) :
      Describes (.name token) (.name token.text)
  | value (number : Float) :
      Describes .value (.number number)
  | block (body : List Token) :
      Describes .block (.block body)
  | function (body : List Token) :
      Describes .function (.function body)

theorem Operand.Describes.eq_name
    {operand : Operand}
    {name : String}
    (describes : operand.Describes (.name name)) :
    ∃ token : Token, operand = .name token ∧ token.text = name := by
  cases describes with
  | name token =>
      exact ⟨token, rfl, rfl⟩

/-- Whether all names that a machine binds are constants or defined by the given definitions. -/
def NamesWithin (found : List Definition) (machine : Machine) : Prop :=
  ∀ name ∈ machine.bindings.names,
    name ∈ Machine.constants.map Prod.fst ∨ name ∈ found.map Definition.name

/--
What a walk knows about the machine that has come as far: its operands, its names, and that every
definition found so far has been carried out.
-/
structure Accounts
    (found : List Definition)
    (operands : List Operand)
    (machine : Machine) :
    Prop where
  stack :
    List.Forall₂ Operand.Describes operands machine.stack.topFirst
  names :
    ∀ name,
      name ∈ machine.bindings.names ↔
        name ∈ Machine.constants.map Prod.fst ∨ name ∈ found.map Definition.name
  carriedOut :
    ∀ definition ∈ found, ∃ value, Event.bound definition.name value ∈ machine.journal
  vocabulary :
    machine.vocabulary = Builtin.all

end Index

/-- What holds of the machine where an evaluation finished, or where an error stopped it. -/
def Outcome.Ends (outcome : Outcome) (finished stopped : Machine → Prop) : Prop :=
  match outcome.error with
  | none =>
      finished outcome.machine
  | some _ =>
      stopped outcome.machine

theorem Outcome.Ends.mono_stopped
    {outcome : Outcome}
    {finished stopped stopped' : Machine → Prop}
    (ends : outcome.Ends finished stopped)
    (weaken : ∀ machine, stopped machine → stopped' machine) :
    outcome.Ends finished stopped' := by
  rcases outcome with ⟨machine, _ | error⟩
  · exact ends
  · exact weaken machine ends

namespace Evaluation

variable {frames : Nat} {runBody : Runner}
  {finished stopped : Machine → Prop} {machine after : Machine}

theorem ends_settle_of_failure
    {answer : Machine × Option Cause}
    {cause : Cause}
    (failed : answer = (after, some cause))
    (holds : stopped after)
    (token : Token) :
    (settle token answer).Ends finished stopped := by
  subst failed
  exact holds

theorem ends_settle_of_success
    {answer : Machine × Option Cause}
    (succeeded : answer = (after, none))
    (holds : finished after)
    (token : Token) :
    (settle token answer).Ends finished stopped := by
  subst succeeded
  exact holds

/-- What one step leads to is where the others start. -/
theorem ends_execute_cons
    {instruction : Instruction}
    {rest : List Instruction}
    {between : Machine → Prop}
    (first : (step frames runBody instruction machine).Ends between stopped)
    (others : ∀ after, between after → (execute frames runBody rest after).Ends finished stopped) :
    (execute frames runBody (instruction :: rest) machine).Ends finished stopped := by
  rw [execute]
  generalize step frames runBody instruction machine = outcome at first ⊢
  rcases outcome with ⟨after, _ | error⟩
  · exact others after first
  · exact first

end Evaluation

namespace Index

theorem NamesWithin.append
    {found : List Definition}
    {machine : Machine}
    (within : NamesWithin found machine)
    (further : List Definition) :
    NamesWithin (found ++ further) machine := by
  intro name member
  rw [List.map_append, List.mem_append]
  exact (within name member).imp_right .inl

namespace Accounts

open Evaluation

variable {found : List Definition} {operands : List Operand} {machine : Machine}

/-- In front of a fresh machine nothing has been found. -/
theorem fresh
    (limit : Int) :
    Accounts [] [] (Machine.fresh limit) where
  stack :=
    .nil
  names name := by
    have known : (Machine.fresh limit).bindings.names = Machine.constants.map Prod.fst := rfl
    simp [known]
  carriedOut := by
    simp
  vocabulary :=
    rfl

theorem namesWithin
    (accounts : Accounts found operands machine) :
    NamesWithin found machine :=
  fun name member => (accounts.names name).mp member

/-- A failure that only takes values binds no name. -/
theorem namesWithin_of_popped
    (accounts : Accounts found operands machine)
    {after : Machine}
    (popped : machine.Popped after) :
    NamesWithin found after := by
  obtain ⟨stack, rfl, _⟩ := popped
  exact accounts.namesWithin

/-- Only the stack changes, and the simulated stack follows. -/
theorem restack
    (accounts : Accounts found operands machine)
    {operands' : List Operand}
    {values : List Value}
    (described : List.Forall₂ Operand.Describes operands' values) :
    Accounts found operands' { machine with stack := ⟨values⟩ } :=
  { accounts with stack := described }

theorem push
    (accounts : Accounts found operands machine)
    {operand : Operand}
    {value : Value}
    (described : operand.Describes value) :
    Accounts found (operand :: operands) (machine.push value) :=
  accounts.restack (.cons described accounts.stack)

/-- An operator leaves a number in place of its operands. -/
theorem operate
    (accounts : Accounts found operands machine)
    {sign : List Char}
    (isSign : sign ∈ Lexer.signs)
    (token : Token) :
    (settle token (Evaluation.operate (String.ofList sign) machine)).Ends
      (Accounts found (.value :: (take (take operands).2).2)) (NamesWithin found) := by
  obtain ⟨builtin, isFound, isNumeric⟩ := Lexer.exists_numeric_of_sign isSign
  have applied : Evaluation.operate (String.ofList sign) machine = machine.apply builtin := by
    rw [Evaluation.operate, accounts.vocabulary, isFound]
  rcases machine.apply_numeric_cases isNumeric with
      ⟨after, cause, popped, failed⟩ | ⟨upper, lower, rest, number, shape, succeeded⟩
  · exact ends_settle_of_failure (applied.trans failed)
      (accounts.namesWithin_of_popped popped) token
  · have described := accounts.stack
    rw [shape] at described
    obtain _ | ⟨_, _ | ⟨_, below⟩⟩ := described
    exact ends_settle_of_success (applied.trans succeeded)
      (accounts.restack (.cons (.value number) below)) token

/-- What becomes of the top is a function. -/
theorem makeFunction
    (accounts : Accounts found operands machine)
    (token : Token) :
    (settle token (Evaluation.makeFunction machine)).Ends
      (Accounts found (.function :: (take operands).2)) (NamesWithin found) := by
  rcases makeFunction_cases machine with
      ⟨after, cause, popped, _, failed⟩ | ⟨top, rest, body, shape, _, succeeded⟩
  · exact ends_settle_of_failure failed (accounts.namesWithin_of_popped popped) token
  · have described := accounts.stack
    rw [shape] at described
    obtain _ | ⟨_, below⟩ := described
    exact ends_settle_of_success succeeded
      (accounts.restack (.cons (.function body) below)) token

/-- An assignment carries out the definition that its operands announce. -/
theorem assign
    (accounts : Accounts found operands machine)
    (token : Token) :
    (settle token (Evaluation.assign machine)).Ends
      (Accounts
        (found ++ (definition? (take (take operands).2).1 (take operands).1).toList)
        (take (take operands).2).2)
      (NamesWithin found) := by
  rcases assign_cases machine with
      ⟨after, cause, popped, _, failed⟩ |
      ⟨name, value, rest, resolved, shape, _, _, succeeded⟩
  · exact ends_settle_of_failure failed (accounts.namesWithin_of_popped popped) token
  · have described := accounts.stack
    rw [shape] at described
    obtain _ | ⟨_, _ | ⟨named, below⟩⟩ := described
    cases named
    refine ends_settle_of_success succeeded ⟨below, ?_, ?_, accounts.vocabulary⟩ token
    · intro other
      rw [Bindings.names, Bindings.mem_names_insertEntry_iff]
      have known := accounts.names other
      rw [Bindings.names] at known
      simp [known, take, definition?, or_assoc]
    · intro definition member
      rcases List.mem_append.mp member with earlier | isNew
      · obtain ⟨bound, recorded⟩ := accounts.carriedOut definition earlier
        exact ⟨bound, List.mem_cons_of_mem _ recorded⟩
      · simp only [take, definition?, Option.toList_some, List.mem_singleton] at isNew
        subst isNew
        exact ⟨resolved, List.mem_cons_self⟩

/-- A token outside blocks takes the machine where the walk goes, or fails and binds nothing. -/
theorem step
    (accounts : Accounts found operands machine)
    (frames : Nat)
    (runBody : Runner)
    {token : Token}
    (regular : token.IsRegular)
    (notOpen : token.lexeme ≠ .openBrace)
    (notClose : token.lexeme ≠ .closeBrace)
    (notCall : token.lexeme = .reserved → token.text ≠ "call") :
    (Evaluation.step frames runBody (Instruction.ofToken token) machine).Ends
      (Accounts (found ++ announced operands token) (simulate operands token))
      (NamesWithin found) := by
  -- What is no assignment announces nothing.
  have quiet
      {outcome : Outcome}
      {after : List Operand}
      (notAssign : token.lexeme ≠ .assign)
      (ends : outcome.Ends (Accounts found after) (NamesWithin found)) :
      outcome.Ends (Accounts (found ++ announced operands token) after) (NamesWithin found) := by
    rwa [announced_eq_nil notAssign, List.append_nil]
  obtain ⟨lexeme, text, name, position⟩ := token
  obtain ⟨spells, isText⟩ := regular
  cases spells with
  | number value _ =>
      exact quiet (by simp) (accounts.push (.value value))
  | symbol =>
      obtain rfl : name = some text := isText
      exact quiet (by simp) (accounts.push (.name _))
  | @operator sign isSign =>
      obtain rfl : name = some (String.ofList sign) := isText
      exact quiet (by simp) (accounts.operate isSign _)
  | reserved isReserved =>
      rcases List.mem_pair.mp isReserved with rfl | rfl
      · exact quiet (by simp) (accounts.makeFunction _)
      · exact absurd rfl (notCall rfl)
  | assign =>
      exact accounts.assign _
  | openBrace =>
      exact absurd rfl notOpen
  | closeBrace =>
      exact absurd rfl notClose

/-- A run goes along with the walk through its tokens, or stops at a failure on the way. -/
theorem execute
    {tokens : List Token}
    {further : List Definition}
    {after : List Operand}
    (accounts : Accounts found operands machine)
    (walk : Walk operands tokens further after)
    (frames : Nat)
    (runBody : Runner)
    (regular : ∀ token ∈ tokens, token.IsRegular)
    (callFree : CallFree tokens) :
    (Evaluation.execute frames runBody (Instruction.ofTokens tokens) machine).Ends
      (Accounts (found ++ further) after) (NamesWithin (found ++ further)) := by
  induction walk generalizing found machine with
  | nil =>
      rw [List.append_nil]
      exact accounts
  | @plain operands _ token rest later notOpen notClose _ inductionHypothesis =>
      rw [Instruction.ofTokens_cons notOpen, ← List.append_assoc]
      have first :=
        accounts.step frames runBody (regular token List.mem_cons_self) notOpen notClose
          (callFree token ⟨[], rest, rfl, .nil⟩)
      apply ends_execute_cons (first.mono_stopped fun _ within => ?_)
      · intro between accountsBetween
        exact inductionHypothesis accountsBetween
          (fun known member => regular known (List.mem_cons_of_mem token member))
          (callFree.tail notOpen notClose)
      · exact (within.append _).append later
  | @block operands _ opener closer body rest later opens balanced closes _ inductionHypothesis =>
      rw [Instruction.ofTokens_block opens balanced closes]
      have first :
          (Evaluation.step frames runBody (.push (.block body)) machine).Ends
            (Accounts found (.block :: operands)) (NamesWithin (found ++ later)) :=
        accounts.push (.block body)
      apply ends_execute_cons first
      intro between accountsBetween
      exact inductionHypothesis accountsBetween
        (fun known member => regular known (by simp [member]))
        (callFree.behind_block opens balanced closes)

/-- Wherever an evaluation ends, its names are within what the walk finds. -/
theorem namesWithin_of_ends
    {outcome : Outcome}
    (ends : outcome.Ends (Accounts found operands) (NamesWithin found)) :
    NamesWithin found outcome.machine := by
  rcases outcome with ⟨after, _ | error⟩
  · exact namesWithin ends
  · exact ends

/-- A program on a fresh machine goes along with the walk from its first token on. -/
theorem run
    {frames : Nat}
    (enough : 4 ≤ frames)
    {tokens : List Token}
    (balanced : Balanced tokens)
    (regular : ∀ token ∈ tokens, token.IsRegular)
    (callFree : CallFree tokens)
    (limit : Int) :
    ∃ found after,
      Walk [] tokens found after ∧
        (Evaluation.run frames tokens (Machine.fresh limit)).Ends
          (Accounts found after) (NamesWithin found) := by
  obtain ⟨found, after, walk⟩ := Walk.of_balanced balanced []
  rw [run_enough enough]
  exact ⟨found, after, walk, (Accounts.fresh limit).execute walk _ _ regular callFree⟩

end Accounts

end Index

/-- Whether an event is the binding of a name. -/
def Event.binds (name : String) : Event → Bool
  | .bound known _ =>
      known == name
  | _ =>
      false

namespace Evaluation

/-- A name below a value is bound to what the value stands for. -/
theorem assign_of_resolved
    {machine : Machine}
    {name : String}
    {value resolved : Value}
    {rest : List Value}
    (shape : machine.stack.topFirst = value :: .name name :: rest)
    (isResolved : machine.resolve value = .ok resolved)
    (notName : ∀ other, resolved ≠ .name other) :
    assign machine =
      ({ machine with
          stack := ⟨rest⟩
          bindings := ⟨Bindings.insertEntry name resolved machine.bindings.entries⟩
          journal := .bound name resolved :: machine.journal }, none) := by
  have taken : machine.stack.popN 2 = .ok ([.name name, value], ⟨rest⟩) := by
    simp [Stack.popN, Stack.size, shape]
  simp only [assign, taken, Machine.resolve_withStack, isResolved]
  cases resolved with
  | name other =>
      exact absurd rfl (notName other)
  | _ =>
      rfl

/--
A run comes to the first assignment to a name: all that stands in front of an assignment sign
outside blocks has run, the name is below the value, and nothing has been bound to it so far.
-/
structure ComesToFirst
    (machine : Machine)
    (tokens front : List Token)
    (sign : Token)
    (name : String) :
    Prop where
  isAssign :
    sign.lexeme = .assign
  isNext :
    ∃ rest, tokens = front ++ sign :: rest
  balanced :
    Balanced front
  reached :
    ∃ before value lower,
      evaluate front machine = ⟨before, none⟩ ∧
        before.stack.topFirst = value :: .name name :: lower ∧
        ∀ earlier, Event.bound name earlier ∉ before.journal

/-- Whether a run comes to the first assignment to a name can be computed. -/
theorem ComesToFirst.of_computed
    {machine : Machine}
    {tokens : List Token}
    {sign : Token}
    {name : String}
    (count : Nat)
    (isNext : tokens[count]? = some sign)
    (isAssign : sign.lexeme = .assign)
    (balanced : imbalance? (tokens.take count) = none)
    (finishes : (evaluate (tokens.take count) machine).error = none)
    (below : (evaluate (tokens.take count) machine).machine.stack.topFirst[1]? = some (.name name))
    (isNew : (evaluate (tokens.take count) machine).machine.journal.all (!·.binds name)) :
    ComesToFirst machine tokens (tokens.take count) sign name where
  isAssign :=
    isAssign
  isNext :=
    ⟨_, eq_take_append_of_getElem? isNext⟩
  balanced :=
    imbalance?_eq_none_iff.mp balanced
  reached := by
    generalize evaluate (tokens.take count) machine = outcome at finishes below isNew ⊢
    obtain ⟨before, error⟩ := outcome
    obtain ⟨⟨values⟩, _⟩ := before
    match values, below with
    | value :: _ :: lower, below =>
        cases below
        cases finishes
        refine ⟨_, value, lower, rfl, rfl, ?_⟩
        intro earlier recorded
        simpa [Event.binds] using List.all_eq_true.mp isNew _ recorded

/-- An assignment that is reached and succeeds is the next step of the run. -/
theorem evaluate_assign
    {front : List Token}
    {sign : Token}
    {machine before after : Machine}
    (balanced : Balanced front)
    (ran : evaluate front machine = ⟨before, none⟩)
    (regular : sign.IsRegular)
    (isAssign : sign.lexeme = .assign)
    (assigned : assign before = (after, none)) :
    evaluate (front ++ [sign]) machine = ⟨after, none⟩ := by
  have instruction : Instruction.ofTokens [sign] = [.form .assign sign] := by
    have spells := regular.spells
    rw [isAssign] at spells
    generalize isText : sign.text = text at spells
    cases spells
    simp [Instruction.ofTokens, Instruction.ofTokensFrom, Instruction.atEnd, Instruction.ofToken,
      Form.ofText?, isAssign, isText]
  have next : run hostFrames [sign] before = ⟨after, none⟩ := by
    rw [run_enough (by decide), instruction, execute_singleton, step, assigned, settle]
  rw [evaluate] at ran ⊢
  rw [run_append _ balanced, ran]
  exact next

end Evaluation

namespace Index

open Evaluation

/-- The definitions of a text that is read are the first ones on the walk through its tokens. -/
theorem definitions_ofText
    {source : String}
    {tokens : List Token}
    (accepted : read source = .ok tokens) :
    (ofText source).definitions = firstOfEach (assignments 0 [] tokens) := by
  have lexed := (read_eq_ok_iff.mp accepted).1
  rw [ofText_of_readable (congrArg Lexing.fault lexed), lexed]

/-- The names that are defined are those that the walk finds. -/
theorem mem_names_definitions_iff
    {source name : String}
    {tokens : List Token}
    {found : List Definition}
    {after : List Operand}
    (accepted : read source = .ok tokens)
    (walk : Walk [] tokens found after) :
    name ∈ (ofText source).definitions.map Definition.name ↔
      name ∈ found.map Definition.name := by
  have walked := walk.assignments_append []
  rw [List.append_nil, assignments, List.append_nil] at walked
  rw [definitions_ofText accepted, mem_names_firstOfEach_iff, walked]

/-- What the index says about the first value of a name describes the value that is bound. -/
theorem describes_first
    {tokens front : List Token}
    {sign : Token}
    {limit : Int}
    {definition : Definition}
    (regular : ∀ token ∈ tokens, token.IsRegular)
    (callFree : CallFree tokens)
    (member : definition ∈ firstOfEach (assignments 0 [] tokens))
    (comes : ComesToFirst (Machine.fresh limit) tokens front sign definition.name) :
    ∃ operand value,
      definition.kind = Operand.definitionKind operand ∧
        operand.Describes value ∧
        ((∀ other, value ≠ .name other) →
          ∃ after,
            evaluate (front ++ [sign]) (Machine.fresh limit) = ⟨after, none⟩ ∧
              after.bindings.get? definition.name = some value) := by
  obtain ⟨isAssign, ⟨rest, rfl⟩, balanced, before, value, lower, ran, shape, isNew⟩ := comes
  obtain ⟨found, operands, walk, ends⟩ :=
    Accounts.run (by decide : 4 ≤ hostFrames) balanced
      (fun token inFront => regular token (by simp [inFront])) callFree.front limit
  rw [evaluate] at ran
  rw [ran] at ends
  obtain ⟨described, _, carriedOut, _⟩ := ends
  rw [shape] at described
  obtain _ | @⟨upper, _, _, _, aboutValue, _ | @⟨named, _, below, _, aboutName, _⟩⟩ := described
  obtain ⟨token, rfl, isText⟩ := aboutName.eq_name
  -- The walk finds the definition where the run makes it, and neither has met the name before.
  have announces :
      announced (upper :: .name token :: below) sign =
        [{ name := token.text
           kind := upper.definitionKind
           line := (token.position.line - 1).toNat
           column := (token.position.column - 1).toNat }] := by
    simp [announced, isAssign, take, definition?]
  rw [walk.assignments_append, assignments_cons _ (by simp [isAssign]), announces,
    List.singleton_append] at member
  have isFirst := eq_first_of_mem_firstOfEach member
    (fun earlier inFound sameName => by
      obtain ⟨bound, recorded⟩ := carriedOut earlier inFound
      exact isNew bound (sameName ▸ recorded))
    isText
  refine ⟨upper, value, congrArg Definition.kind isFirst, aboutValue, ?_⟩
  intro notName
  have resolved : before.resolve value = .ok value := by
    cases value with
    | name other =>
        exact absurd rfl (notName other)
    | _ =>
        rfl
  exact ⟨_,
    evaluate_assign balanced ran (regular sign (by simp)) isAssign
      (assign_of_resolved shape resolved notName),
    Bindings.lookup_insertEntry_self _ _ _⟩

/--
The index foretells what a run binds, as long as nothing is called outside blocks.  Wherever the run
of a text on a fresh machine ends, the bound names are constants or defined by the index; if it ends
without an error, they are exactly these.  When the run comes to the first assignment to a name that
the index calls a function, the assignment succeeds and binds a function; and likewise for blocks.
-/
theorem definitions_foretell_bindings
    {source : String}
    {tokens : List Token}
    (accepted : read source = .ok tokens)
    (callFree : CallFree tokens)
    (limit : Int)
    (strict : Bool) :
    let session := Session.begin limit strict
    let bound := (session.eval source).1.machine.bindings.names
    let defined := (ofText source).definitions.map Definition.name
    (∀ name ∈ bound, name = "PI" ∨ name = "E" ∨ name ∈ defined) ∧
      (∀ values,
        (session.eval source).2 = .ok values →
          ∀ name, name ∈ bound ↔ name = "PI" ∨ name = "E" ∨ name ∈ defined) ∧
      ∀ definition ∈ (ofText source).definitions,
        ∀ front sign,
          ComesToFirst session.machine tokens front sign definition.name →
            (definition.kind = .function →
              ∃ after body,
                evaluate (front ++ [sign]) session.machine = ⟨after, none⟩ ∧
                  after.bindings.get? definition.name = some (.function body)) ∧
            (definition.kind = .block →
              ∃ after body,
                evaluate (front ++ [sign]) session.machine = ⟨after, none⟩ ∧
                  after.bindings.get? definition.name = some (.block body)) := by
  intro session bound defined
  have regular : ∀ token ∈ tokens, token.IsRegular :=
    fun token member => isRegular_of_mem_read accepted member
  obtain ⟨found, operands, walk, ends⟩ :=
    Accounts.run (by decide : 4 ≤ hostFrames - 1) (balanced_of_read accepted) regular callFree limit
  have isKnown (name : String) :
      name ∈ Machine.constants.map Prod.fst ∨ name ∈ found.map Definition.name ↔
        name = "PI" ∨ name = "E" ∨ name ∈ defined := by
    rw [mem_names_definitions_iff accepted walk]
    simp [Machine.constants, or_assoc]
  have evaluated : session.eval source = _ :=
    session.evalOn_of_read_ok accepted
  refine ⟨?_, ?_, ?_⟩
  · intro name member
    apply (isKnown name).mp
    simp only [bound, evaluated] at member
    exact Accounts.namesWithin_of_ends ends name member
  · intro values succeeded name
    have finished : (run (hostFrames - 1) tokens (Machine.fresh limit)).error = none := by
      rw [evaluated] at succeeded
      split at succeeded
      · cases succeeded
      · assumption
    rw [Outcome.Ends, finished] at ends
    simp only [bound, evaluated, ← isKnown]
    exact ends.names name
  · intro definition member front sign comes
    rw [definitions_ofText accepted] at member
    obtain ⟨operand, value, kind, describes, binds⟩ :=
      describes_first regular callFree member comes
    rw [kind]
    constructor
    · intro isFunction
      cases describes <;> cases isFunction
      obtain ⟨after, ran, isBound⟩ := binds (by simp)
      exact ⟨after, _, ran, isBound⟩
    · intro isBlock
      cases describes <;> cases isBlock
      obtain ⟨after, ran, isBound⟩ := binds (by simp)
      exact ⟨after, _, ran, isBound⟩

/-- A block is named, made a function under another name that the block calls, and bound to it. -/
def deferring : String :=
  "b \x7b f call \x7d = f b fn = f b ="

/-- The token that stands in the first line at a column. -/
def onFirstLine (column : Nat) (lexeme : Lexeme) (text : String) : Token :=
  .inSource lexeme text ⟨column - 1, 1, column⟩

/-- The tokens of the text. -/
def deferringTokens : List Token :=
  [onFirstLine 1 .symbol "b", onFirstLine 3 .openBrace "\x7b", onFirstLine 5 .symbol "f",
    onFirstLine 7 .reserved "call", onFirstLine 12 .closeBrace "\x7d", onFirstLine 14 .assign "=",
    onFirstLine 16 .symbol "f", onFirstLine 18 .symbol "b", onFirstLine 20 .reserved "fn",
    onFirstLine 23 .assign "=", onFirstLine 25 .symbol "f", onFirstLine 27 .symbol "b",
    onFirstLine 29 .assign "="]

/-- Both names of the text are bound, one to a block and one to a function first. -/
theorem definitions_foretell_bindings_deferring :
    (∀ name,
      name ∈ ((Session.begin 50 true).eval deferring).1.machine.bindings.names ↔
        name = "PI" ∨ name = "E" ∨ name ∈ ["b", "f"]) ∧
      (∃ after body,
        evaluate (deferringTokens.take 6) (Machine.fresh 50) = ⟨after, none⟩ ∧
          after.bindings.get? "b" = some (.block body)) ∧
      ∃ after body,
        evaluate (deferringTokens.take 10) (Machine.fresh 50) = ⟨after, none⟩ ∧
          after.bindings.get? "f" = some (.function body) := by
  have accepted : read deferring = .ok deferringTokens := by
    decide +kernel
  have callFree : CallFree deferringTokens := by
    decide +kernel
  have defined :
      (ofText deferring).definitions = [⟨"b", .block, 0, 0⟩, ⟨"f", .function, 0, 15⟩] := by
    rw [definitions_ofText accepted]
    decide +kernel
  have succeeds : ((Session.begin 50 true).eval deferring).2 = .ok [] := by
    rw [Session.eval, Session.evalOn_of_read_ok _ accepted]
    decide +kernel
  obtain ⟨_, exactly, kinds⟩ := definitions_foretell_bindings accepted callFree 50 true
  rw [defined] at exactly kinds
  have comesToBlock :
      ComesToFirst (Machine.fresh 50) deferringTokens (deferringTokens.take 5)
        (onFirstLine 14 .assign "=") "b" :=
    .of_computed 5 rfl rfl (by decide +kernel) (by decide +kernel) (by decide +kernel)
      (by decide +kernel)
  have comesToFunction :
      ComesToFirst (Machine.fresh 50) deferringTokens (deferringTokens.take 9)
        (onFirstLine 23 .assign "=") "f" :=
    .of_computed 9 rfl rfl (by decide +kernel) (by decide +kernel) (by decide +kernel)
      (by decide +kernel)
  refine ⟨exactly [] succeeds, ?_, ?_⟩
  · exact (kinds _ List.mem_cons_self _ _ comesToBlock).2 rfl
  · exact (kinds _ (List.mem_cons_of_mem _ List.mem_cons_self) _ _ comesToFunction).1 rfl

end Index

end StackScript
