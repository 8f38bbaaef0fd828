import Mathlib.Data.List.Forall2
import StackScript.Instruction
import StackScript.Machine.Words

namespace StackScript

/-!
# Alike code

Two programs can run in step although they are not the same: their tokens may stand at other places,
or their names may be restricted.  A likeness says which tokens correspond.  From it follow which
values and which instructions correspond.  Code that is alike token by token is read as instructions
that are alike one by one.
-/

/-- When tokens correspond, and which names the code made of them may use. -/
structure Likeness where
  tokens : Token → Token → Prop
  names : String → Prop
  lexeme :
    ∀ {token token'}, tokens token token' → token'.lexeme = token.lexeme
  text :
    ∀ {token token'}, tokens token token' → token'.text = token.text
  name :
    ∀ {token token'}, tokens token token' → token'.name = token.name
  symbol :
    ∀ {token token' symbol}, tokens token token' →
      token.lexeme = .symbol → token.name = some symbol → names symbol
  printedName :
    names Builtin.printedName

namespace Likeness

/-- Code that corresponds token by token. -/
def Code (likeness : Likeness) (body body' : List Token) : Prop :=
  List.Forall₂ likeness.tokens body body'

/-- Values that correspond: the same but for their code. -/
inductive Values (likeness : Likeness) : Value → Value → Prop where
  | number
      (number : Float) :
      Values likeness (.number number) (.number number)
  | name
      {symbol : String}
      (permitted : likeness.names symbol) :
      Values likeness (.name symbol) (.name symbol)
  | block
      {body body' : List Token}
      (code : likeness.Code body body') :
      Values likeness (.block body) (.block body')
  | function
      {body body' : List Token}
      (code : likeness.Code body body') :
      Values likeness (.function body) (.function body')
  | builtin
      (word : Builtin) :
      Values likeness (.builtin word) (.builtin word)
  | text
      (content : String) :
      Values likeness (.text content) (.text content)

/--
Causes that correspond: the same but for the operands they show and the limit they name.
-/
inductive Causes
    (likeness : Likeness)
    (limits : Int → Int → Prop) :
    Cause → Cause → Prop where
  | same
      (cause : Cause) :
      Causes likeness limits cause cause
  | notNumber
      {operand operand' : Value}
      (operation : String)
      (operands : likeness.Values operand operand') :
      Causes likeness limits (.notNumber operation operand) (.notNumber operation operand')
  | notBlock
      {operand operand' : Value}
      (operands : likeness.Values operand operand') :
      Causes likeness limits (.notBlock operand) (.notBlock operand')
  | notName
      {operand operand' : Value}
      (operands : likeness.Values operand operand') :
      Causes likeness limits (.notName operand) (.notName operand')
  | notCallable
      {operand operand' : Value}
      (operands : likeness.Values operand operand') :
      Causes likeness limits (.notCallable operand) (.notCallable operand')
  | tooDeep
      {limit limit' : Int}
      (related : limits limit limit') :
      Causes likeness limits (.tooDeep limit) (.tooDeep limit')

/-- Errors that correspond: their causes do, and their tokens. -/
structure Errors
    (likeness : Likeness)
    (limits : Int → Int → Prop)
    (error error' : Error) :
    Prop where
  cause :
    likeness.Causes limits error.cause error'.cause
  token :
    Option.Rel likeness.tokens error.token error'.token

theorem Errors.caught
    {likeness : Likeness}
    {limits : Int → Int → Prop}
    {error error' : Error}
    (errors : likeness.Errors limits error error') :
    likeness.Errors limits error.caught error'.caught := by
  obtain ⟨cause, token⟩ := error
  obtain ⟨cause', token'⟩ := error'
  obtain ⟨causes, tokens⟩ := errors
  cases causes with
  | same cause =>
      cases cause with
      | hostFailure =>
          exact ⟨.same .hostExhausted, .none⟩
      | _ =>
          exact ⟨.same _, tokens⟩
  | notNumber operation operands =>
      exact ⟨.notNumber operation operands, tokens⟩
  | notBlock operands =>
      exact ⟨.notBlock operands, tokens⟩
  | notName operands =>
      exact ⟨.notName operands, tokens⟩
  | notCallable operands =>
      exact ⟨.notCallable operands, tokens⟩
  | tooDeep limits =>
      exact ⟨.tooDeep limits, tokens⟩

/-- Instructions that correspond. -/
inductive Instructions
    (likeness : Likeness)
    (limits : Int → Int → Prop) :
    Instruction → Instruction → Prop where
  | push
      {value value' : Value}
      (values : likeness.Values value value') :
      Instructions likeness limits (.push value) (.push value')
  | operate
      (name : String)
      {token token' : Token}
      (tokens : likeness.tokens token token') :
      Instructions likeness limits (.operate name token) (.operate name token')
  | form
      (special : Form)
      {token token' : Token}
      (tokens : likeness.tokens token token') :
      Instructions likeness limits (.form special token) (.form special token')
  | fail
      {error error' : Error}
      (errors : likeness.Errors limits error error') :
      Instructions likeness limits (.fail error) (.fail error')

section Reading

variable {likeness : Likeness} {limits : Int → Int → Prop}

/-- Corresponding code has the same text. -/
theorem Code.joinedText_eq
    {body body' : List Token}
    (code : likeness.Code body body') :
    joinedText body' = joinedText body := by
  have texts : body'.map Token.text = body.map Token.text := by
    induction code with
    | nil =>
        rfl
    | cons alike _ inductionHypothesis =>
        simp [likeness.text alike, inductionHypothesis]
  unfold joinedText
  rw [texts]

/-- Corresponding values look the same. -/
theorem Values.display_eq
    {value value' : Value}
    (values : likeness.Values value value') :
    value'.display = value.display := by
  cases values with
  | @block body body' code =>
      have sameEmpty : body'.isEmpty = body.isEmpty := by
        cases code <;> rfl
      change Value.blockText body' = Value.blockText body
      unfold Value.blockText
      rw [sameEmpty, code.joinedText_eq]
  | _ =>
      rfl

/-- An error that arose at corresponding tokens for one cause. -/
theorem Errors.atToken
    {token token' : Token}
    (tokens : likeness.tokens token token')
    (cause : Cause) :
    likeness.Errors limits (Error.atToken token cause) (Error.atToken token' cause) where
  cause :=
    .same cause
  token :=
    .some tokens

/-- Corresponding tokens are corresponding instructions. -/
theorem ofToken
    {token token' : Token}
    (tokens : likeness.tokens token token') :
    likeness.Instructions limits (Instruction.ofToken token) (Instruction.ofToken token') := by
  unfold Instruction.ofToken
  rw [likeness.lexeme tokens, likeness.text tokens, likeness.name tokens]
  cases shape : token.lexeme with
  | number value =>
      exact .push (.number value)
  | symbol =>
      simp only [Instruction.ofSymbol, likeness.name tokens]
      cases named : token.name with
      | some symbol =>
          exact .push (.name (likeness.symbol tokens shape named))
      | none =>
          exact .fail (.atToken tokens _)
  | operator =>
      exact .operate _ tokens
  | reserved | assign =>
      simp only
      cases Form.ofText? token.text with
      | some special =>
          exact .form special tokens
      | none =>
          exact .fail (.atToken tokens _)
  | openBrace | closeBrace | unknown =>
      exact .fail (.atToken tokens _)

/-- A block is captured from corresponding code as a corresponding block. -/
theorem captureFrom
    {tokens tokens' : List Token}
    (code : likeness.Code tokens tokens')
    (depth : Nat) :
    Option.Rel likeness.Code
      (StackScript.captureFrom depth tokens) (StackScript.captureFrom depth tokens') := by
  induction code generalizing depth with
  | nil =>
      exact .none
  | @cons token token' rest rest' alike _ inductionHypothesis =>
      have kept (inner : Nat) :
          Option.Rel likeness.Code
            ((StackScript.captureFrom inner rest).map (token :: ·))
            ((StackScript.captureFrom inner rest').map (token' :: ·)) := by
        have captured := inductionHypothesis inner
        generalize StackScript.captureFrom inner rest = body at captured
        generalize StackScript.captureFrom inner rest' = body' at captured
        cases captured with
        | none =>
            exact .none
        | some bodies =>
            exact .some (.cons alike bodies)
      have sameLexeme := likeness.lexeme alike
      cases shape : token.lexeme with
      | openBrace =>
          simpa [StackScript.captureFrom, sameLexeme, shape] using kept (depth + 1)
      | closeBrace =>
          cases depth with
          | zero =>
              simpa [StackScript.captureFrom, sameLexeme, shape] using Option.Rel.some .nil
          | succ outer =>
              simpa [StackScript.captureFrom, sameLexeme, shape] using kept outer
      | _ =>
          simpa [StackScript.captureFrom, sameLexeme, shape] using kept depth

/-- Corresponding code is read as corresponding instructions. -/
theorem ofTokensFrom
    {tokens tokens' : List Token}
    (code : likeness.Code tokens tokens')
    (skip : Nat) :
    List.Forall₂ (likeness.Instructions limits)
      (Instruction.ofTokensFrom none skip tokens)
      (Instruction.ofTokensFrom none skip tokens') := by
  induction code generalizing skip with
  | nil =>
      exact .nil
  | @cons token token' rest rest' alike alikeRest inductionHypothesis =>
      unfold Instruction.ofTokensFrom
      cases skip with
      | succ remaining =>
          exact inductionHypothesis remaining
      | zero =>
          simp only [likeness.lexeme alike]
          split
          · have captured : Option.Rel likeness.Code (capture? rest) (capture? rest') :=
              captureFrom alikeRest 0
            generalize capture? rest = body at captured
            generalize capture? rest' = body' at captured
            cases captured with
            | none =>
                exact .cons (.fail (.atToken alike _)) .nil
            | some bodies =>
                -- The bodies are equally long, so both lists are skipped equally far.
                simp only [← List.Forall₂.length_eq bodies]
                exact .cons (.push (.block bodies)) (inductionHypothesis _)
          · exact .cons (ofToken alike) (inductionHypothesis 0)

/-- Corresponding code is read as corresponding instructions. -/
theorem ofTokens
    {tokens tokens' : List Token}
    (code : likeness.Code tokens tokens') :
    List.Forall₂ (likeness.Instructions limits)
      (Instruction.ofTokens tokens) (Instruction.ofTokens tokens') :=
  ofTokensFrom code 0

end Reading

section Coarsening

variable {likeness coarser : Likeness} {limits : Int → Int → Prop}

/-- Corresponding code corresponds under a coarser likeness too. -/
theorem Code.coarsen
    (tokens : ∀ {token token'}, likeness.tokens token token' → coarser.tokens token token')
    {body body' : List Token}
    (code : likeness.Code body body') :
    coarser.Code body body' :=
  List.Forall₂.imp (fun _ _ alike => tokens alike) code

theorem Values.coarsen
    (tokens : ∀ {token token'}, likeness.tokens token token' → coarser.tokens token token')
    (names : ∀ {symbol}, likeness.names symbol → coarser.names symbol)
    {value value' : Value}
    (values : likeness.Values value value') :
    coarser.Values value value' := by
  cases values with
  | number number =>
      exact .number number
  | name permitted =>
      exact .name (names permitted)
  | block code =>
      exact .block (code.coarsen tokens)
  | function code =>
      exact .function (code.coarsen tokens)
  | builtin word =>
      exact .builtin word
  | text content =>
      exact .text content

theorem Causes.coarsen
    (tokens : ∀ {token token'}, likeness.tokens token token' → coarser.tokens token token')
    (names : ∀ {symbol}, likeness.names symbol → coarser.names symbol)
    {cause cause' : Cause}
    (causes : likeness.Causes limits cause cause') :
    coarser.Causes limits cause cause' := by
  cases causes with
  | same =>
      exact .same cause
  | notNumber operation operands =>
      exact .notNumber operation (operands.coarsen tokens names)
  | notBlock operands =>
      exact .notBlock (operands.coarsen tokens names)
  | notName operands =>
      exact .notName (operands.coarsen tokens names)
  | notCallable operands =>
      exact .notCallable (operands.coarsen tokens names)
  | tooDeep related =>
      exact .tooDeep related

theorem Errors.coarsen
    (tokens : ∀ {token token'}, likeness.tokens token token' → coarser.tokens token token')
    (names : ∀ {symbol}, likeness.names symbol → coarser.names symbol)
    {error error' : Error}
    (errors : likeness.Errors limits error error') :
    coarser.Errors limits error error' := by
  refine ⟨errors.cause.coarsen tokens names, ?_⟩
  have held := errors.token
  generalize error.token = token at held
  generalize error'.token = token' at held
  cases held with
  | none =>
      exact .none
  | some alike =>
      exact .some (tokens alike)

end Coarsening

/-- The likeness of code with itself. -/
def identity : Likeness where
  tokens :=
    Eq
  names _ :=
    True
  lexeme same :=
    congrArg Token.lexeme same.symm
  text same :=
    congrArg Token.text same.symm
  name same :=
    congrArg Token.name same.symm
  symbol _ _ _ :=
    trivial
  printedName :=
    trivial

namespace identity

/-- Code corresponds to itself only. -/
theorem code_iff
    {body body' : List Token} :
    identity.Code body body' ↔ body = body' := by
  unfold Code identity
  rw [List.forall₂_eq_eq_eq]

/-- Values correspond to themselves only. -/
theorem values_iff
    {value value' : Value} :
    identity.Values value value' ↔ value = value' := by
  constructor
  · intro values
    cases values with
    | block code | function code =>
        rw [code_iff.mp code]
    | _ =>
        rfl
  · rintro rfl
    cases value with
    | number number =>
        exact .number number
    | name symbol =>
        exact .name trivial
    | block body =>
        exact .block (code_iff.mpr rfl)
    | function body =>
        exact .function (code_iff.mpr rfl)
    | builtin word =>
        exact .builtin word
    | text content =>
        exact .text content

/-- Lists of values correspond to themselves only. -/
theorem forall₂_values_iff
    {values values' : List Value} :
    List.Forall₂ identity.Values values values' ↔ values = values' := by
  have isEq : identity.Values = Eq := by
    funext value value'
    exact propext values_iff
  rw [isEq, List.forall₂_eq_eq_eq]

/-- What a name is bound to, if anything, corresponds to itself. -/
theorem rel_values_refl
    (held : Option Value) :
    Option.Rel identity.Values held held := by
  cases held with
  | none =>
      exact .none
  | some value =>
      exact .some (values_iff.mpr rfl)

/-- Corresponding causes are the same, or name limits of nested calls that correspond. -/
theorem causes_cases
    {limits : Int → Int → Prop}
    {cause cause' : Cause}
    (causes : identity.Causes limits cause cause') :
    cause = cause' ∨
      ∃ limit limit',
        limits limit limit' ∧
          cause = .tooDeep limit ∧
          cause' = .tooDeep limit' := by
  cases causes with
  | same =>
      exact .inl rfl
  | notNumber operation operands =>
      exact .inl (by rw [values_iff.mp operands])
  | notBlock operands | notName operands | notCallable operands =>
      exact .inl (by rw [values_iff.mp operands])
  | tooDeep related =>
      exact .inr ⟨_, _, related, rfl, rfl⟩

/-- Corresponding errors have the same token. -/
theorem token_eq
    {limits : Int → Int → Prop}
    {error error' : Error}
    (errors : identity.Errors limits error error') :
    error.token = error'.token := by
  have tokens := errors.token
  generalize error.token = token at tokens
  generalize error'.token = token' at tokens
  cases tokens with
  | none =>
      rfl
  | some same =>
      exact congrArg some same

/-- Corresponding errors are the same, or name limits of nested calls that correspond. -/
theorem errors_cases
    {limits : Int → Int → Prop}
    {error error' : Error}
    (errors : identity.Errors limits error error') :
    error' = error ∨
      ∃ limit limit',
        limits limit limit' ∧
          error = ⟨.tooDeep limit, error.token⟩ ∧
          error' = ⟨.tooDeep limit', error.token⟩ := by
  have sameToken := token_eq errors
  rcases error with ⟨cause, token⟩
  rcases error' with ⟨cause', token'⟩
  obtain rfl : token = token' := sameToken
  rcases causes_cases errors.cause with sameCause | ⟨limit, limit', related, isLimit, isLimit'⟩
  · exact .inl (by rw [show cause = cause' from sameCause])
  · exact .inr ⟨limit, limit', related, congrArg (Error.mk · token) isLimit,
      congrArg (Error.mk · token) isLimit'⟩

end identity

/-- Where tokens and limits correspond to themselves only, so do errors. -/
theorem errors_eq
    {likeness : Likeness}
    (sameToken : ∀ {token token'}, likeness.tokens token token' → token = token')
    {error error' : Option Error}
    (errors : Option.Rel (likeness.Errors Eq) error error') :
    error' = error := by
  cases errors with
  | none =>
      rfl
  | some errors =>
      have identical : identity.Errors Eq _ _ :=
        errors.coarsen sameToken fun _ => trivial
      rcases identity.errors_cases identical with
          same | ⟨limit, limit', sameLimit, isLimit, isLimit'⟩
      · rw [same]
      · rw [isLimit', ← show limit = limit' from sameLimit, ← isLimit]

end Likeness

end StackScript
