import StackScript.Proofs.Balance
import StackScript.Proofs.Discipline
import StackScript.Proofs.LexedTokens

namespace StackScript

/-!
# Where errors come from

All code that a session has stored was found by lexing the source texts that it was given since it
was fresh.  So every token that an error is blamed on stands in one of these texts, and failures
that only code of other origin could have do not arise.
-/

/-- A token that lexing finds in one of the source texts. -/
def Token.IsSourced (sources : List String) (token : Token) : Prop :=
  ∃ source ∈ sources, token ∈ (lex source).tokens

theorem Token.IsSourced.isRegular
    {sources : List String}
    {token : Token}
    (sourced : token.IsSourced sources) :
    token.IsRegular := by
  obtain ⟨source, _, member⟩ := sourced
  exact isRegular_of_mem_lex member

/-- Balanced code all of whose tokens are sourced. -/
structure SourcedCode (sources : List String) (body : List Token) : Prop where
  balanced :
    Balanced body
  tokens :
    ∀ token ∈ body, token.IsSourced sources

/-- A value whose name or code is sourced. -/
inductive Value.IsSourced (sources : List String) : Value → Prop where
  | number (number : Float) :
      IsSourced sources (.number number)
  | builtin (builtin : Builtin) :
      IsSourced sources (.builtin builtin)
  | name
      {name : String}
      (isName : Lexer.IsName name) :
      IsSourced sources (.name name)
  | block
      {body : List Token}
      (code : SourcedCode sources body) :
      IsSourced sources (.block body)
  | function
      {body : List Token}
      (code : SourcedCode sources body) :
      IsSourced sources (.function body)

/-- A token that carries out something: an operator or a special form. -/
inductive Token.Acts (token : Token) : Prop where
  | operator (isOperator : token.lexeme = .operator)
  | word
      (isReserved : token.lexeme = .reserved)
      (isForm : token.text = "fn" ∨ token.text = "call")
  | sign
      (isAssign : token.lexeme = .assign)
      (isForm : token.text = "=")

/-- An instruction of sourced code.  None fails by itself. -/
inductive Instruction.IsSourced (sources : List String) : Instruction → Prop where
  | push
      {value : Value}
      (sourced : value.IsSourced sources) :
      IsSourced sources (.push value)
  | operate
      {sign : List Char}
      {token : Token}
      (sourced : token.IsSourced sources)
      (isOperator : token.lexeme = .operator)
      (isSign : sign ∈ Lexer.signs)
      (text : token.text = String.ofList sign) :
      IsSourced sources (.operate token.text token)
  | form
      {special : Form}
      {token : Token}
      (sourced : token.IsSourced sources)
      (notOperator : token.lexeme ≠ .operator)
      (acts : token.Acts) :
      IsSourced sources (.form special token)

/-- The failures that operations report in sourced code. -/
inductive Cause.IsOfRunning : Cause → Prop where
  | underflow (expected held : Int) :
      IsOfRunning (.underflow expected held)
  | unbound
      {name : String}
      (isName : Lexer.IsName name) :
      IsOfRunning (.unbound name)
  | notNumber (operation : String) (operand : Value) :
      IsOfRunning (.notNumber operation operand)
  | notBlock (operand : Value) :
      IsOfRunning (.notBlock operand)
  | notName (operand : Value) :
      IsOfRunning (.notName operand)
  | notCallable (operand : Value) :
      IsOfRunning (.notCallable operand)
  | divisionByZero :
      IsOfRunning .divisionByZero
  | moduloByZero :
      IsOfRunning .moduloByZero
  | tooDeep (limit : Int) :
      IsOfRunning (.tooDeep limit)
  | hostExhausted :
      IsOfRunning .hostExhausted
  | hostFailure :
      IsOfRunning .hostFailure

/-- An error at a sourced token that carries out something, and not for want of its operator. -/
def Error.IsAtAction (sources : List String) (error : Error) : Prop :=
  ∃ token,
    error.token = some token ∧
      token.Acts ∧
      token.IsSourced sources ∧
      (token.lexeme = .operator → error.cause ≠ .unbound token.text)

/-- An error that running sourced code can end with. -/
structure Error.IsBlamed (sources : List String) (error : Error) : Prop where
  cause :
    error.cause.IsOfRunning
  token :
    error.IsAtAction sources

variable {sources : List String}

/-- A sourced token that is no brace is a sourced instruction. -/
theorem Token.IsSourced.instruction
    {token : Token}
    (sourced : token.IsSourced sources)
    (notOpen : token.lexeme ≠ .openBrace)
    (notClose : token.lexeme ≠ .closeBrace) :
    (Instruction.ofToken token).IsSourced sources := by
  obtain ⟨spells, named⟩ := sourced.isRegular
  rcases token with ⟨lexeme, text, name, position⟩
  simp only at spells named notOpen notClose
  cases spells with
  | number value text =>
      exact .push (.number value)
  | symbol isName =>
      subst named
      exact .push (.name isName)
  | operator isSign =>
      subst named
      exact .operate sourced rfl isSign rfl
  | reserved isReserved =>
      have spelled : text = "fn" ∨ text = "call" := by
        simpa [Lexer.reservedWords] using isReserved
      rcases spelled with rfl | rfl
      · exact .form sourced (by simp) (.word rfl (.inl rfl))
      · exact .form sourced (by simp) (.word rfl (.inr rfl))
  | assign =>
      exact .form sourced (by simp) (.sign rfl rfl)
  | openBrace =>
      exact (notOpen rfl).elim
  | closeBrace =>
      exact (notClose rfl).elim

/-- Sourced code consists of sourced instructions. -/
theorem SourcedCode.instructions
    {body : List Token}
    (code : SourcedCode sources body) :
    ∀ instruction ∈ Instruction.ofTokens body, instruction.IsSourced sources := by
  intro instruction member
  rcases Instruction.mem_ofTokens code.balanced member with
      ⟨inner, within, balanced, rfl⟩ | ⟨token, inBody, notOpen, notClose, rfl⟩
  · exact .push (.block ⟨balanced, fun token inInner => code.tokens token (within inInner)⟩)
  · exact (code.tokens token inBody).instruction notOpen notClose

/-- What is read from a source text is sourced code. -/
theorem SourcedCode.of_read
    {source : String}
    (isSource : source ∈ sources)
    {tokens : List Token}
    (accepted : read source = .ok tokens) :
    SourcedCode sources tokens := by
  obtain ⟨lexed, balanced⟩ := read_eq_ok_iff.mp accepted
  refine ⟨balanced, fun token member => ⟨source, isSource, ?_⟩⟩
  rw [lexed]
  exact member

theorem Cause.IsOfRunning.blamed
    {cause : Cause}
    (running : cause.IsOfRunning)
    {token : Token}
    (acts : token.Acts)
    (sourced : token.IsSourced sources)
    (known : token.lexeme = .operator → ¬Lexer.IsName token.text) :
    Error.IsBlamed sources ⟨cause, some token⟩ := by
  refine ⟨running, token, rfl, acts, sourced, ?_⟩
  -- What is found unbound is a word, which no operator is.
  intro isOperator isUnbound
  obtain rfl : cause = .unbound token.text :=
    isUnbound
  cases running with
  | unbound isName =>
      exact known isOperator isName

/-- The discipline of sourced code. -/
def sourcedCode (sources : List String) : Discipline where
  values :=
    Value.IsSourced sources
  bound name value :=
    Lexer.IsName name ∧ value.IsSourced sources ∧ ∀ other, value ≠ .name other
  instructions :=
    Instruction.IsSourced sources
  causes :=
    Cause.IsOfRunning
  errors :=
    Error.IsBlamed sources
  number :=
    .number
  builtin :=
    .builtin
  constants {name value} member := by
    simp only [Machine.constants, List.mem_cons, Prod.mk.injEq, List.not_mem_nil, or_false]
      at member
    rcases member with ⟨rfl, rfl⟩ | ⟨rfl, rfl⟩
    · exact ⟨⟨⟨'P', ['I'], rfl, by decide, by decide⟩, by decide⟩, .number _, by simp⟩
    · exact ⟨⟨⟨'E', [], rfl, by decide, by decide⟩, by decide⟩, .number _, by simp⟩
  lookup bound :=
    bound.2.1
  bind target sourced notName := by
    cases target with
    | name isName =>
        exact ⟨isName, sourced, notName⟩
  function block := by
    cases block with
    | block code =>
        exact .function code
  code function := by
    cases function with
    | function code =>
        exact code.instructions
  push pushed := by
    cases pushed with
    | push sourced =>
        exact sourced
  fail failed := by
    cases failed
  reports {machine cause} stored reports := by
    cases reports with
    | operation reports =>
        cases reports with
        | unbound onStack =>
            cases stored.stack _ onStack with
            | name isName =>
                exact .unbound isName
        | unprintable =>
            exact .unbound ⟨⟨'p', "rint_arg".toList, rfl, by decide, by decide⟩, by decide⟩
        | @unresolvedBinding name target known bound =>
            exact ((stored.bindings known _ bound).2.2 target rfl).elim
        | _ =>
            constructor
    | _ =>
        constructor
  operate sourced failure := by
    cases sourced with
    | operate sourced isOperator isSign text =>
        have notName : ¬Lexer.IsName _ :=
          text ▸ Lexer.not_isName_of_sign isSign
        rcases failure with running | ⟨unknown, _⟩
        · exact running.blamed (.operator isOperator) sourced fun _ => notName
        · rw [text] at unknown
          obtain ⟨_, known, _⟩ := Lexer.exists_numeric_of_sign isSign
          rw [unknown] at known
          cases known
  form sourced running := by
    cases sourced with
    | form sourced notOperator acts =>
        exact running.blamed acts sourced fun isOperator => (notOperator isOperator).elim
  attach {error token} _ blamed := by
    obtain ⟨running, inner, isInner, blamed⟩ := blamed
    exact ⟨running, inner, by simp [Error.attach, isInner], blamed⟩

/-- Sessions that are given source texts keep to the code of these texts. -/
theorem respects_sourcedCode
    (sources : List String) :
    Session.Respects (· ∈ sources) (sourcedCode sources).Keeps :=
  (sourcedCode sources).respected fun isSource accepted =>
    (SourcedCode.of_read isSource accepted).instructions

/-- A session has stored nothing but code from the source texts it was given. -/
theorem Session.History.keeps_sourcedCode
    {given : List String}
    {session : Session}
    (history : History given session)
    (within : given ⊆ sources) :
    (sourcedCode sources).Keeps session.machine :=
  history.holds ((respects_sourcedCode sources).restrict fun _ isGiven => within isGiven)

/-- Reading fails at an unreadable run or at a brace. -/
theorem read_error
    {source : String}
    {error : Error}
    (refused : read source = .error error) :
    (∃ fault, error = LexFault.toError fault) ∨
      ∃ brace cause,
        error = Error.atToken brace cause ∧ (cause = .strayBrace ∨ cause = .unclosedBlock) := by
  rcases read_eq_error_cases refused with
      ⟨fault, _, rfl⟩ | ⟨_, brace, ⟨_, rfl⟩ | ⟨_, rfl⟩⟩
  · exact .inl ⟨fault, rfl⟩
  · exact .inr ⟨brace, _, rfl, .inl rfl⟩
  · exact .inr ⟨brace, _, rfl, .inr rfl⟩

/-- The kinds of the errors with which evaluations end. -/
def ErrorKind.ofEvaluation : List ErrorKind :=
  [.lexical, .unbalanced, .underflow, .unbound, .typeMismatch, .notCallable, .arithmetic,
    .recursion]

/-- The causes that need tokens or bindings which were built by hand. -/
def Cause.IsForeign : Cause → Prop
  | .missingForm _ | .unknownKind _ | .namelessSymbol | .namelessBinding _
  | .unresolvedBinding _ _ | .reported _ _ =>
      True
  | _ =>
      False

/-- What is said of every error of an evaluation in a session that was given source texts. -/
structure Error.IsExplained (sources : List String) (error : Error) : Prop where
  kind :
    error.kind ∈ ErrorKind.ofEvaluation
  position :
    error.position?.isSome
  notForeign :
    ¬error.cause.IsForeign
  /-- The host gives out inside of calls only, which make an error of the program out of it. -/
  notOfHost :
    error.cause ≠ .hostFailure
  token :
    error.kind ∈ ErrorKind.operational → error.IsAtAction sources

theorem Error.IsExplained.of_read_error
    {source : String}
    {error : Error}
    (refused : read source = .error error) :
    error.IsExplained sources := by
  have lexical : ErrorKind.lexical ∉ ErrorKind.operational := by
    decide
  have unbalanced : ErrorKind.unbalanced ∉ ErrorKind.operational := by
    decide
  rcases read_error refused with ⟨fault, rfl⟩ | ⟨brace, cause, rfl, rfl | rfl⟩
  · exact ⟨.head _, rfl, id, nofun, fun operational => (lexical operational).elim⟩
  · exact ⟨.tail _ (.head _), rfl, id, nofun, fun operational => (unbalanced operational).elim⟩
  · exact ⟨.tail _ (.head _), rfl, id, nofun, fun operational => (unbalanced operational).elim⟩

theorem Error.IsBlamed.isExplained
    {error : Error}
    (blamed : error.IsBlamed sources)
    (notOfHost : error.cause ≠ .hostFailure) :
    error.IsExplained sources := by
  obtain ⟨running, token, isToken, acts⟩ := blamed
  rcases error with ⟨cause, held⟩
  obtain rfl : held = some token :=
    isToken
  refine ⟨?_, ?_, ?_, notOfHost, fun _ => ⟨token, rfl, acts⟩⟩
  · cases running <;> simp [Error.kind, Cause.kind, ErrorKind.ofEvaluation]
  · cases running <;> rfl
  · cases running <;> exact id

/--
An evaluation succeeds or ends with an error of a closed set of kinds, which has a place.  If the
error is not one of the reader, then it is blamed on an operator or on a special form that lexing
has found in the source or in another one that the session was given since it was fresh.  No error
needs tokens or bindings built by hand, none is the host's own, no operator is unknown, builtins
never miscount the operands that were taken for them, and a division by zero is an error like the
others.
-/
theorem Session.History.eval_is_explained
    {session : Session}
    (history : History sources session)
    (source : String) :
    ((∃ values, (session.eval source).2 = .ok values) ∨
        ∃ error,
          (session.eval source).2 = .error error ∧ error.IsExplained (source :: sources)) ∧
      (∀ (machine : Machine) (builtin : Builtin) (operands seen : List Value) (stack : Stack),
        machine.stack.popN builtin.arity = .ok (operands, stack) →
          { machine with stack }.seenBy builtin operands = .ok seen →
          ∃ effect, builtin.perform seen { machine with stack } = .ok effect) ∧
      ∀ builtin ∈ [Builtin.divide, .modulo],
        ∀ (machine : Machine) (left right : Float),
          right == 0 →
            ∃ cause,
              builtin.perform [.number left, .number right] machine =
                  .ok ⟨machine, .error cause⟩ ∧
                cause.kind = .arithmetic := by
  refine ⟨?_, ?_, ?_⟩
  · cases answer : (session.eval source).2 with
    | ok values =>
        exact .inl ⟨values, rfl⟩
    | error error =>
        refine .inr ⟨error, rfl, ?_⟩
        rcases evalOn_error_cases answer with refused | ⟨tokens, accepted, ended⟩
        · exact .of_read_error refused
        · have kept : (sourcedCode (source :: sources)).Keeps session.machine :=
            history.keeps_sourcedCode (List.subset_cons_self source sources)
          have code : SourcedCode (source :: sources) tokens :=
            .of_read List.mem_cons_self accepted
          -- The outermost run is no function body, so that all its failures have a token.
          have enough : 4 ≤ Evaluation.hostFrames - 1 := by
            decide
          have outcome := kept.accepts_run code.instructions enough
          refine (outcome.error error ended).isExplained ?_
          refine Evaluation.run_ne_hostFailure (by decide) (fun other member => ?_) ended
          cases code.instructions _ member
  · intro machine builtin operands seen stack taken allSeen
    have counted : seen.length = builtin.arity :=
      (Machine.length_seenBy allSeen).trans (Stack.popN_ok taken).2
    exact Builtin.perform_counted counted { machine with stack }
  · intro builtin isDivision machine left right isZero
    simp only [List.mem_cons, List.not_mem_nil, or_false] at isDivision
    rcases isDivision with rfl | rfl
    · refine ⟨.divisionByZero, ?_, rfl⟩
      simp [Builtin.perform, Builtin.numeric?, Builtin.numbers, isZero, Except.map]
    · refine ⟨.moduloByZero, ?_, rfl⟩
      simp [Builtin.perform, Builtin.numeric?, Builtin.numbers, isZero, Except.map]

/-- A text that binds a function which divides by zero. -/
def Session.dividing : String :=
  "f \x7b 1 0 / \x7d fn ="

/-- Calling the function later is blamed on the operator in the text that has bound it. -/
theorem Session.History.eval_is_explained_dividing :
    let operator := Token.inSource .operator "/" ⟨8, 1, 9⟩
    let session := ((Session.begin 50 false).eval Session.dividing).1
    (session.eval "2 f call").2 = .error ⟨.divisionByZero, some operator⟩ ∧
      operator ∈ (lex Session.dividing).tokens ∧
      Error.IsExplained ["2 f call", Session.dividing] ⟨.divisionByZero, some operator⟩ := by
  intro operator session
  have failed : (session.eval "2 f call").2 = .error ⟨.divisionByZero, some operator⟩ := by
    decide +kernel
  have history : History [Session.dividing] session :=
    (History.begin 50 false).eval Session.dividing
  refine ⟨failed, by decide +kernel, ?_⟩
  rcases (history.eval_is_explained "2 f call").1 with
      ⟨values, succeeded⟩ | ⟨error, same, explained⟩
  · rw [failed] at succeeded
    cases succeeded
  · rw [failed] at same
    cases same
    exact explained

end StackScript
