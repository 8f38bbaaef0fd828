import StackScript.Proofs.Balance
import StackScript.Proofs.Discipline

namespace StackScript

/-!
# Errors of the reader

Unreadable text and braces that do not nest are found while a source is read, before anything runs.
The evaluator has complaints about braces of its own, which would come too late: after values were
pushed, names bound and text printed.  They never arise, because all code that a session has stored
is balanced, and balanced code has balanced blocks only.
-/

/-- Whether an error is one that reading a source reports. -/
def Error.IsReaderError (error : Error) : Prop :=
  error.kind = .lexical ∨ error.kind = .unbalanced

/-- The code that a block or a function holds. -/
def Value.code? : Value → Option (List Token)
  | .block body | .function body =>
      some body
  | _ =>
      none

/-- A value whose code, if it holds any, is balanced. -/
def Value.HoldsBalanced (value : Value) : Prop :=
  ∀ body, value.code? = some body → Balanced body

/-- An instruction that pushes balanced code only and reports no error of the reader. -/
def Instruction.IsBalanced : Instruction → Prop
  | .push value =>
      value.HoldsBalanced
  | .fail error =>
      ¬error.IsReaderError
  | _ =>
      True

/-- A token that is no brace is an instruction without code and without errors of the reader. -/
theorem Instruction.ofToken_isBalanced
    {token : Token}
    (notOpen : token.lexeme ≠ .openBrace)
    (notClose : token.lexeme ≠ .closeBrace) :
    (ofToken token).IsBalanced := by
  unfold ofToken
  split
  · simp [IsBalanced, Value.HoldsBalanced, Value.code?]
  · unfold ofSymbol
    split
    · simp [IsBalanced, Value.HoldsBalanced, Value.code?]
    · simp [IsBalanced, Error.IsReaderError, Error.kind, Error.atToken, Cause.kind]
  · trivial
  · split
    · trivial
    · simp [IsBalanced, Error.IsReaderError, Error.kind, Error.atToken, Cause.kind]
  · split
    · trivial
    · simp [IsBalanced, Error.IsReaderError, Error.kind, Error.atToken, Cause.kind]
  · next isOpen =>
    exact (notOpen isOpen).elim
  · next isClose =>
    exact (notClose isClose).elim
  · simp [IsBalanced, Error.IsReaderError, Error.kind, Error.atToken, Cause.kind]

/-- The instructions of balanced code push balanced code and report no error of the reader. -/
theorem Balanced.instructions
    {tokens : List Token}
    (balanced : Balanced tokens) :
    ∀ instruction ∈ Instruction.ofTokens tokens, instruction.IsBalanced := by
  intro instruction member
  rcases Instruction.mem_ofTokens balanced member with
      ⟨body, _, balancedBody, rfl⟩ | ⟨token, _, notOpen, notClose, rfl⟩
  · intro code isCode
    cases isCode
    exact balancedBody
  · exact Instruction.ofToken_isBalanced notOpen notClose

/-- An operational failure is no error of the reader. -/
theorem Cause.IsOperational.not_isReaderError
    {cause : Cause}
    (operational : cause.IsOperational)
    (token : Option Token) :
    ¬Error.IsReaderError ⟨cause, token⟩ := by
  rintro (kind | kind) <;>
    simp_all [Cause.IsOperational, ErrorKind.operational, Error.kind]

/-- The discipline of balanced code. -/
def balancedCode : Discipline where
  values :=
    Value.HoldsBalanced
  bound _ :=
    Value.HoldsBalanced
  instructions :=
    Instruction.IsBalanced
  causes :=
    Cause.IsOperational
  errors error :=
    ¬error.IsReaderError
  number _ := by
    simp [Value.HoldsBalanced, Value.code?]
  builtin _ := by
    simp [Value.HoldsBalanced, Value.code?]
  constants {name value} member := by
    simp only [Machine.constants, List.mem_cons, Prod.mk.injEq, List.not_mem_nil, or_false]
      at member
    rcases member with ⟨_, rfl⟩ | ⟨_, rfl⟩ <;> simp [Value.HoldsBalanced, Value.code?]
  lookup balanced :=
    balanced
  bind _ balanced _ :=
    balanced
  function block body isBody :=
    block body isBody
  code function :=
    (function _ rfl).instructions
  push pushed :=
    pushed
  fail failed :=
    failed
  reports _ reports :=
    reports.operational
  operate _ failure := by
    rcases failure with operational | ⟨_, rfl⟩
    · exact operational.not_isReaderError _
    · simp [Error.IsReaderError, Error.kind, Cause.kind]
  form _ operational :=
    operational.not_isReaderError _
  attach _ notReader :=
    notReader

/-- Balanced code is all that a reachable session has stored. -/
theorem Session.Reachable.keeps_balancedCode
    {session : Session}
    (reachable : session.Reachable) :
    balancedCode.Keeps session.machine :=
  reachable.holds
    (balancedCode.respected fun _ accepted => (balanced_of_read accepted).instructions)

/-- Running balanced code on a machine that stores balanced code reports no error of the reader. -/
theorem Balanced.run_error
    {tokens : List Token}
    (balanced : Balanced tokens)
    {machine : Machine}
    (kept : balancedCode.Keeps machine)
    {frames : Nat}
    {error : Error}
    (failed : (Evaluation.run frames tokens machine).error = some error) :
    ¬error.IsReaderError := by
  have stored : Value.HoldsBalanced (.function tokens) := by
    intro body isBody
    cases isBody
    exact balanced
  rcases (balancedCode.obeys_run frames tokens machine stored kept).error error failed with
      notReader | ⟨cause, operational, rfl⟩
  · exact notReader
  · exact Cause.IsOperational.not_isReaderError operational none

/--
An evaluation that ends with an error of the reader has had no effect at all, whatever the session
has been through.  Once a source is read, no run of it reports such an error, because every block
and every function on the stack or among the bindings is balanced.
-/
theorem Session.Reachable.readerErrors_leave_no_trace
    {session : Session}
    (reachable : session.Reachable)
    (source : String) :
    (∀ error,
      (session.eval source).2 = .error error →
        error.IsReaderError →
        (session.eval source).1 = session) ∧
      (∀ tokens,
        read source = .ok tokens →
          ∀ frames error,
            (Evaluation.run frames tokens session.machine).error = some error →
              ¬error.IsReaderError) ∧
      (∀ value,
        (value ∈ session.machine.stack.toList ∨
            ∃ name, (name, value) ∈ session.machine.bindings.entries) →
          ∀ body, value.code? = some body → Balanced body) := by
  have kept := reachable.keeps_balancedCode
  have afterReading :
      ∀ tokens,
        read source = .ok tokens →
          ∀ frames error,
            (Evaluation.run frames tokens session.machine).error = some error →
              ¬error.IsReaderError :=
    fun tokens accepted frames error failed => (balanced_of_read accepted).run_error kept failed
  refine ⟨?_, afterReading, ?_⟩
  · intro error failed isReader
    cases accepted : read source with
    | error refusal =>
        rw [Session.eval, session.evalOn_of_read_error accepted]
    | ok tokens =>
        rw [Session.eval, session.evalOn_of_read_ok accepted] at failed
        cases ended : (Evaluation.run (Evaluation.hostFrames - 1) tokens session.machine).error with
        | none =>
            simp [ended] at failed
        | some raised =>
            simp only [ended, Except.error.injEq] at failed
            subst failed
            exact (afterReading tokens accepted _ raised ended isReader).elim
  · rintro value (onStack | ⟨name, bound⟩)
    · exact kept.stack value (by simpa [Stack.toList] using onStack)
    · exact kept.bindings name value bound

/-- The session that has bound a function and holds a number, which is reachable. -/
def Session.sample : Session :=
  ((Session.begin 50 false).eval "f \x7b n n * \x7d fn = 7").1

/-- Text that would print and bind before its open brace is met leaves such a session as it is. -/
theorem Session.sample_survives_open_brace :
    ∃ error,
      (Session.sample.eval "print_arg 1 = print call \x7b").2 = .error error ∧
        error.IsReaderError ∧
        (Session.sample.eval "print_arg 1 = print call \x7b").1 = Session.sample := by
  have begun : Session.start [] { maxDepth := some 50 } = .ok (Session.begin 50 false) :=
    rfl
  have reachable : Session.sample.Reachable :=
    .eval (.start begun) _
  have failed :
      (Session.sample.eval "print_arg 1 = print call \x7b").2 =
        .error ⟨.unclosedBlock, some (Token.inSource .openBrace "\x7b" ⟨25, 1, 26⟩)⟩ :=
    rfl
  exact ⟨_, failed, .inr rfl,
    (reachable.readerErrors_leave_no_trace _).1 _ failed (.inr rfl)⟩

end StackScript
