import StackScript.Proofs.InlineCall
import StackScript.Proofs.Sequencing

namespace StackScript

/-!
# Steps that fail

A run ends at the first token that fails.  Operands are taken before anybody looks at them, so a
step that fails may have taken some, but it has done nothing else: names and printed text are as the
tokens in front have left them, and the stack lacks at most the operands of this one step.  A step
that finds too few operands takes none of them; only a call has taken its target by then.

Calls of functions are another matter, because the body has run up to its own failure.
-/

/-- The special form that a token stands for, if it is of a class that has them. -/
def Token.form? (token : Token) : Option Form :=
  match token.lexeme with
  | .reserved | .assign =>
      Form.ofText? token.text
  | _ =>
      none

/-- Whether a token calls a function on a machine. -/
def Token.CallsFunction (token : Token) (machine : Machine) : Prop :=
  token.form? = some .call ∧
    ∃ top ∈ machine.stack.topFirst.head?, ∃ body, machine.resolve top = .ok (.function body)

/-- Whether a token takes all of its operands together: operators and all forms but the call. -/
def Token.TakesTogether (token : Token) : Prop :=
  token.lexeme = .operator ∨ token.form? = some .makeFunction ∨ token.form? = some .assign

/-- A token pushes a value, is carried out as an operator or a form, or cannot be carried out. -/
theorem Instruction.ofToken_cases
    (token : Token) :
    (∃ value, ofToken token = .push value) ∨
      (∃ name, ofToken token = .operate name token) ∨
      (∃ special, token.form? = some special ∧ ofToken token = .form special token) ∨
      ∃ cause, cause.kind ≠ .underflow ∧ ofToken token = .fail (Error.atToken token cause) := by
  have formOrFailure
      (hasForms : token.lexeme = .reserved ∨ token.lexeme = .assign) :
      (∃ special, token.form? = some special ∧ ofToken token = .form special token) ∨
        ∃ cause, cause.kind ≠ .underflow ∧ ofToken token = .fail (Error.atToken token cause) := by
    cases found : Form.ofText? token.text with
    | some special =>
        left
        rcases hasForms with shape | shape <;>
          exact ⟨special, by simp [Token.form?, shape, found], by simp [ofToken, shape, found]⟩
    | none =>
        right
        rcases hasForms with shape | shape <;>
          exact ⟨.missingForm token.text, by simp [Cause.kind], by simp [ofToken, shape, found]⟩
  cases shape : token.lexeme with
  | number value =>
      exact .inl ⟨.number value, by simp [ofToken, shape]⟩
  | symbol =>
      cases named : token.name with
      | some name =>
          exact .inl ⟨.name name, by simp [ofToken, shape, ofSymbol, named]⟩
      | none =>
          refine .inr (.inr (.inr ⟨.namelessSymbol, by simp [Cause.kind], ?_⟩))
          simp [ofToken, shape, ofSymbol, named]
  | operator =>
      exact .inr (.inl ⟨token.name.getD "None", by simp [ofToken, shape]⟩)
  | reserved =>
      exact .inr (.inr (formOrFailure (.inl shape)))
  | assign =>
      exact .inr (.inr (formOrFailure (.inr shape)))
  | openBrace =>
      exact .inr (.inr (.inr ⟨.unclosedBlock, by simp [Cause.kind], by simp [ofToken, shape]⟩))
  | closeBrace =>
      exact .inr (.inr (.inr ⟨.strayBrace, by simp [Cause.kind], by simp [ofToken, shape]⟩))
  | unknown kind =>
      exact .inr (.inr (.inr ⟨.unknownKind kind, by simp [Cause.kind], by simp [ofToken, shape]⟩))

namespace Machine

/-- The machine without its top values. -/
def dropTop (machine : Machine) (count : Nat) : Machine :=
  { machine with stack := ⟨machine.stack.topFirst.drop count⟩ }

/-- A machine has lost so many values from the top of its stack, and nothing else has happened. -/
structure Loses (before : Machine) (count : Nat) (after : Machine) : Prop where
  held :
    count ≤ before.stack.size
  left :
    after = before.dropTop count

namespace Loses

theorem nothing
    (machine : Machine) :
    machine.Loses 0 machine where
  held :=
    Nat.zero_le _
  left :=
    rfl

theorem trans
    {first second third : Machine}
    {count more : Nat}
    (earlier : first.Loses count second)
    (later : second.Loses more third) :
    first.Loses (count + more) third := by
  obtain ⟨held, rfl⟩ := earlier
  obtain ⟨heldLater, rfl⟩ := later
  refine ⟨?_, by simp [dropTop, List.drop_drop]⟩
  simp only [dropTop, Stack.size, List.length_drop] at held heldLater ⊢
  omega

/-- Taking several values together loses as many. -/
theorem of_popN
    {machine : Machine}
    {count : Nat}
    {operands : List Value}
    {stack : Stack}
    (taken : machine.stack.popN count = .ok (operands, stack)) :
    machine.Loses count { machine with stack } := by
  unfold Stack.popN at taken
  split at taken
  · cases taken
  · next enough =>
    cases taken
    exact ⟨Nat.le_of_not_lt enough, rfl⟩

/-- Finding the target of a call loses at most that. -/
theorem of_target
    {frames : Nat}
    {machine after : Machine}
    {result : Except Cause Value}
    (found : Evaluation.target frames machine = (after, result)) :
    ∃ count ≤ 1, machine.Loses count after := by
  unfold Evaluation.target Stack.pop at found
  cases shape : machine.stack.topFirst with
  | nil =>
      simp only [shape, Prod.mk.injEq] at found
      obtain ⟨rfl, _⟩ := found
      exact ⟨0, Nat.zero_le 1, .nothing machine⟩
  | cons top rest =>
      simp only [shape, Prod.mk.injEq] at found
      obtain ⟨rfl, _⟩ := found
      exact ⟨1, Nat.le_refl 1, by simp [Stack.size, shape], by simp [dropTop, shape]⟩

end Loses

/--
A failure for some cause has cost at most so many values, and none if the cause is that there were
too few.
-/
def FailsAtMost (before : Machine) (most : Nat) (after : Machine) (cause : Cause) : Prop :=
  ∃ count ≤ most, before.Loses count after ∧ (cause.kind = .underflow → count = 0)

theorem FailsAtMost.mono
    {before after : Machine}
    {most more : Nat}
    {cause : Cause}
    (fails : before.FailsAtMost most after cause)
    (within : most ≤ more) :
    before.FailsAtMost more after cause := by
  obtain ⟨count, few, loses, underflow⟩ := fails
  exact ⟨count, Nat.le_trans few within, loses, underflow⟩

/-- A failure that leaves the machine as it is costs nothing. -/
theorem failsAtMost_unchanged
    (machine : Machine)
    (most : Nat)
    (cause : Cause) :
    machine.FailsAtMost most machine cause :=
  ⟨0, Nat.zero_le most, .nothing machine, fun _ => rfl⟩

end Machine

namespace Builtin

theorem arity_le_two
    (builtin : Builtin) :
    builtin.arity ≤ 2 := by
  cases builtin <;> decide

/-- Numbers are refused, and divided by zero, but never for want of operands. -/
theorem perform_numeric_error
    {builtin : Builtin}
    {compute : Float → Float → Except Cause Float}
    {operands : List Value}
    {machine after : Machine}
    {cause : Cause}
    (isNumeric : builtin.numeric? = some compute)
    (failed : builtin.perform operands machine = .ok ⟨after, .error cause⟩) :
    after = machine ∧ cause.kind ≠ .underflow := by
  unfold perform at failed
  simp only [isNumeric] at failed
  split at failed
  · next refusal refused =>
    obtain ⟨operand, rfl⟩ := numbers_error refused
    cases failed
    exact ⟨rfl, by simp [Cause.kind]⟩
  · next left right _ =>
    cases computed : compute left right with
    | error reason =>
        rw [computed] at failed
        cases failed
        rcases numeric?_error isNumeric computed with rfl | rfl
        · exact ⟨rfl, by simp [Cause.kind]⟩
        · exact ⟨rfl, by simp [Cause.kind]⟩
    | ok number =>
        rw [computed] at failed
        cases failed
  · cases failed

/-- A builtin that fails on the operands taken for it leaves the machine as it is. -/
theorem perform_error
    {builtin : Builtin}
    {operands : List Value}
    {machine after : Machine}
    {cause : Cause}
    (failed : builtin.perform operands machine = .ok ⟨after, .error cause⟩) :
    after = machine ∧ cause.kind ≠ .underflow := by
  cases builtin with
  | print =>
      simp only [perform, numeric?, Bindings.get] at failed
      cases bound : machine.bindings.get? printedName with
      | none =>
          simp only [bound] at failed
          cases failed
          exact ⟨rfl, by simp [Cause.kind]⟩
      | some value =>
          simp only [bound] at failed
          cases failed
  | showStack | drop =>
      cases failed
  | dup =>
      rcases operands with _ | ⟨_, _ | ⟨_, _⟩⟩ <;> cases failed
  | swap | «over» =>
      rcases operands with _ | ⟨_, _ | ⟨_, _ | ⟨_, _⟩⟩⟩ <;> cases failed
  | _ =>
      exact perform_numeric_error rfl failed

end Builtin

namespace Machine

/-- An operand cannot be seen only because it is an unbound name. -/
theorem seenBy_error_kind
    {machine : Machine}
    {builtin : Builtin}
    {operands : List Value}
    {cause : Cause}
    (unseen : machine.seenBy builtin operands = .error cause) :
    cause.kind ≠ .underflow := by
  unfold seenBy at unseen
  split at unseen
  · cases unseen
  · obtain ⟨name, _, rfl⟩ := resolveAll_error unseen
    simp [Cause.kind]

/-- A builtin that fails has taken its operands, or none if there were too few. -/
theorem apply_failsAtMost
    {machine after : Machine}
    {builtin : Builtin}
    {cause : Cause}
    (failed : machine.apply builtin = (after, some cause)) :
    machine.FailsAtMost builtin.arity after cause := by
  rcases machine.apply_cases builtin with
      ⟨_, _, shape⟩ | ⟨operands, stack, taken, ⟨_, unseen, shape⟩ |
        ⟨seen, ⟨_, result⟩, _, performed, shape⟩⟩
  · cases shape.symm.trans failed
    exact machine.failsAtMost_unchanged _ cause
  · cases shape.symm.trans failed
    exact ⟨_, Nat.le_refl _, .of_popN taken,
      fun underflow => (seenBy_error_kind unseen underflow).elim⟩
  · rcases result with reason | _ | value
    · cases shape.symm.trans failed
      obtain ⟨rfl, notUnderflow⟩ := Builtin.perform_error performed
      exact ⟨_, Nat.le_refl _, .of_popN taken, fun underflow => (notUnderflow underflow).elim⟩
    · cases shape.symm.trans failed
    · cases shape.symm.trans failed

end Machine

namespace Evaluation

variable {frames : Nat} {runBody : Runner} {machine after : Machine} {cause : Cause} {error : Error}

theorem operate_failsAtMost
    {name : String}
    (failed : operate name machine = (after, some cause)) :
    machine.FailsAtMost 2 after cause := by
  unfold operate at failed
  split at failed
  · next builtin _ =>
    exact (Machine.apply_failsAtMost failed).mono builtin.arity_le_two
  · cases failed
    exact machine.failsAtMost_unchanged 2 _

theorem makeFunction_failsAtMost
    (failed : makeFunction machine = (after, some cause)) :
    machine.FailsAtMost 2 after cause := by
  unfold makeFunction Stack.pop at failed
  cases shape : machine.stack.topFirst with
  | nil =>
      simp only [shape] at failed
      cases failed
      exact machine.failsAtMost_unchanged 2 _
  | cons top rest =>
      have loses : machine.Loses 1 { machine with stack := ⟨rest⟩ } :=
        ⟨by simp [Stack.size, shape], by simp [Machine.dropTop, shape]⟩
      simp only [shape, Machine.resolve_withStack] at failed
      cases resolved : machine.resolve top with
      | error reason =>
          obtain ⟨name, _, rfl⟩ := Machine.resolve_error resolved
          simp only [resolved] at failed
          cases failed
          exact ⟨1, by decide, loses, by simp [Cause.kind]⟩
      | ok found =>
          cases found with
          | block body =>
              simp only [resolved] at failed
              cases failed
          | _ =>
              simp only [resolved] at failed
              cases failed
              exact ⟨1, by decide, loses, by simp [Cause.kind]⟩

theorem assign_failsAtMost
    (failed : assign machine = (after, some cause)) :
    machine.FailsAtMost 2 after cause := by
  unfold assign at failed
  cases taken : machine.stack.popN 2 with
  | error reason =>
      simp only [taken] at failed
      cases failed
      exact machine.failsAtMost_unchanged 2 _
  | ok answer =>
      obtain ⟨operands, stack⟩ := answer
      obtain ⟨_, count⟩ := Stack.popN_ok taken
      obtain ⟨below, value, rfl⟩ := List.length_eq_two.mp count
      have loses : machine.Loses 2 { machine with stack } :=
        .of_popN taken
      cases below with
      | name target =>
          simp only [taken, Machine.resolve_withStack] at failed
          cases resolved : machine.resolve value with
          | error reason =>
              obtain ⟨name, _, rfl⟩ := Machine.resolve_error resolved
              simp only [resolved] at failed
              cases failed
              exact ⟨2, Nat.le_refl 2, loses, by simp [Cause.kind]⟩
          | ok found =>
              cases found with
              | name other =>
                  simp only [resolved] at failed
                  cases failed
                  exact ⟨2, Nat.le_refl 2, loses, by simp [Cause.kind]⟩
              | _ =>
                  simp only [resolved] at failed
                  cases failed
      | _ =>
          simp only [taken] at failed
          cases failed
          exact ⟨2, Nat.le_refl 2, loses, by simp [Cause.kind]⟩

/-- A call that fails without having called a function loses its target and a builtin's operands. -/
theorem call_loses
    (noFunction : ∀ popped body, target frames machine ≠ (popped, .ok (.function body)))
    (failed : call frames runBody machine = ⟨after, some error⟩) :
    ∃ count ≤ 3, machine.Loses count after := by
  generalize found : target frames machine = result
  obtain ⟨popped, missing | callee⟩ := result
  · rw [call_of_target_error runBody found] at failed
    cases failed
    obtain ⟨count, few, loses⟩ := Machine.Loses.of_target found
    exact ⟨count, by omega, loses⟩
  · obtain ⟨count, few, loses⟩ := Machine.Loses.of_target found
    rw [call_of_target_ok runBody found] at failed
    cases callee with
    | function body =>
        exact (noFunction popped body found).elim
    | builtin builtin =>
        simp only [callValue] at failed
        rcases applied : popped.apply builtin with ⟨stopped, _ | cause⟩
        · rw [applied] at failed
          cases failed
        · rw [applied] at failed
          cases failed
          obtain ⟨more, within, later, _⟩ := Machine.apply_failsAtMost applied
          have two := builtin.arity_le_two
          exact ⟨count + more, by omega, loses.trans later⟩
    | _ =>
        cases failed
        exact ⟨count, by omega, loses⟩

theorem settle_failed
    {token : Token}
    {answer : Machine × Option Cause}
    (failed : settle token answer = ⟨after, some error⟩) :
    ∃ cause, answer = (after, some cause) ∧ error = Error.atToken token cause := by
  rcases answer with ⟨stopped, _ | cause⟩
  · cases failed
  · cases failed
    exact ⟨cause, rfl, rfl⟩

theorem blame_failed
    {token : Token}
    {outcome : Outcome}
    (failed : blame token outcome = ⟨after, some error⟩) :
    ∃ raised, outcome = ⟨after, some raised⟩ ∧ error = raised.attach token := by
  rcases outcome with ⟨stopped, _ | raised⟩
  · cases failed
  · cases failed
    exact ⟨raised, rfl, rfl⟩

/-- What a step that fails has lost, unless it has called a function. -/
theorem step_loses
    {token : Token}
    (noFunction : ¬token.CallsFunction machine)
    (failed : step frames runBody (Instruction.ofToken token) machine = ⟨after, some error⟩) :
    ∃ count ≤ 3,
      machine.Loses count after ∧
        (error.kind = .underflow → token.TakesTogether → count = 0) := by
  have together
      {answer : Machine × Option Cause}
      (settled : settle token answer = ⟨after, some error⟩)
      (fails : ∀ cause, answer = (after, some cause) → machine.FailsAtMost 2 after cause) :
      ∃ count ≤ 3,
        machine.Loses count after ∧
          (error.kind = .underflow → token.TakesTogether → count = 0) := by
    obtain ⟨cause, isAnswer, rfl⟩ := settle_failed settled
    obtain ⟨count, few, loses, underflow⟩ := fails cause isAnswer
    exact ⟨count, by omega, loses, fun isUnderflow _ => underflow isUnderflow⟩
  rcases Instruction.ofToken_cases token with
      ⟨value, isPush⟩ | ⟨name, isOperate⟩ | ⟨special, isForm, isSpecial⟩ | ⟨cause, other, isFail⟩
  · rw [isPush] at failed
    cases failed
  · rw [isOperate] at failed
    exact together failed fun _ => operate_failsAtMost
  · rw [isSpecial] at failed
    cases special with
    | makeFunction =>
        exact together failed fun _ => makeFunction_failsAtMost
    | assign =>
        exact together failed fun _ => assign_failsAtMost
    | call =>
        have notTogether : ¬token.TakesTogether := by
          rintro (isOperator | isFunction | isAssign)
          · simp [Token.form?, isOperator] at isForm
          · cases isForm.symm.trans isFunction
          · cases isForm.symm.trans isAssign
        obtain ⟨raised, stopped, _⟩ := blame_failed failed
        have missing (popped : Machine) (body : List Token) :
            target frames machine ≠ (popped, .ok (.function body)) :=
          fun found =>
            let ⟨top, isTop, isFunction⟩ := exists_top_of_target found
            noFunction ⟨isForm, top, isTop, body, isFunction⟩
        obtain ⟨count, few, loses⟩ := call_loses missing stopped
        exact ⟨count, few, loses, fun _ together => (notTogether together).elim⟩
  · rw [isFail] at failed
    cases failed
    exact ⟨0, by decide, .nothing machine, fun _ _ => rfl⟩

/--
A run of a token list is stopped by one of its tokens: the tokens in front of it are balanced and
run to their end, and it fails on the machine that they leave.
-/
structure StoppedBy
    (frames : Nat)
    (tokens : List Token)
    (machine : Machine)
    (stopped : Outcome)
    (front : List Token)
    (token : Token)
    (before : Machine) : Prop where
  isNext :
    ∃ rest, tokens = front ++ token :: rest
  outermost :
    Balanced front
  ran :
    run (frames + 4) front machine = ⟨before, none⟩
  notOpen :
    token.lexeme ≠ .openBrace
  fails :
    step frames (run frames) (Instruction.ofToken token) before = stopped

section Stopping

variable {tokens front : List Token} {token : Token} {before : Machine}

/-- An instruction that succeeds in front of what is stopped belongs to what has run. -/
theorem run_behind
    {instruction : Instruction}
    {first rest : List Token}
    {between : Machine}
    (isFirst : Instruction.ofTokens (first ++ rest) = instruction :: Instruction.ofTokens rest)
    (succeeded : step frames (run frames) instruction machine = ⟨between, none⟩) :
    run (frames + 4) (first ++ rest) machine = run (frames + 4) rest between := by
  rw [run, run, isFirst, execute_cons_ok succeeded]

/-- A run of a balanced list that fails is stopped by one of its tokens. -/
theorem exists_stoppedBy
    (balanced : Balanced tokens)
    (failed : run (frames + 4) tokens machine = ⟨after, some error⟩) :
    ∃ front token before,
      StoppedBy frames tokens machine ⟨after, some error⟩ front token before := by
  induction balanced generalizing machine with
  | nil =>
      cases failed
  | @plain first rest notOpen notClose _ inductionHypothesis =>
      have isFirst (others : List Token) :
          Instruction.ofTokens ([first] ++ others) =
            Instruction.ofToken first :: Instruction.ofTokens others :=
        Instruction.ofTokens_cons notOpen others
      rcases stepped : step frames (run frames) (Instruction.ofToken first) machine with
          ⟨between, _ | raised⟩
      · rw [← List.singleton_append, run_behind (isFirst rest) stepped] at failed
        obtain ⟨front, token, before, ⟨behind, rfl⟩, outermost, ran, plain, fails⟩ :=
          inductionHypothesis failed
        refine ⟨first :: front, token, before, ⟨behind, rfl⟩, .plain notOpen notClose outermost,
          ?_, plain, fails⟩
        rw [← List.singleton_append, run_behind (isFirst front) stepped]
        exact ran
      · refine ⟨[], first, machine, ⟨rest, rfl⟩, .nil, rfl, notOpen, ?_⟩
        rw [run, Instruction.ofTokens_cons notOpen, execute, stepped] at failed
        rw [stepped]
        exact failed
  | @block opener closer body rest opens balancedBody closes _ _ restHypothesis =>
      have isFirst (others : List Token) :
          Instruction.ofTokens (opener :: (body ++ [closer]) ++ others) =
            .push (.block body) :: Instruction.ofTokens others := by
        simpa using Instruction.ofTokens_block opens balancedBody closes others
      have pushed :
          step frames (run frames) (.push (.block body)) machine =
            ⟨machine.push (.block body), none⟩ :=
        rfl
      have sameTokens (others : List Token) :
          opener :: (body ++ closer :: others) = opener :: (body ++ [closer]) ++ others := by
        simp
      rw [sameTokens, run_behind (isFirst rest) pushed] at failed
      obtain ⟨front, token, before, ⟨behind, rfl⟩, outermost, ran, plain, fails⟩ :=
        restHypothesis failed
      refine ⟨opener :: (body ++ closer :: front), token, before, ⟨behind, by simp⟩,
        .block opens balancedBody closes outermost, ?_, plain, fails⟩
      rw [sameTokens, run_behind (isFirst front) pushed]
      exact ran

/-- What stands behind the token that stops a run has no effect. -/
theorem StoppedBy.run_others
    (stops : StoppedBy frames tokens machine ⟨after, some error⟩ front token before)
    (others : List Token) :
    run (frames + 4) (front ++ token :: others) machine = ⟨after, some error⟩ := by
  obtain ⟨_, outermost, ran, notOpen, fails⟩ := stops
  rw [run_append _ outermost, ran]
  simp only
  rw [run, Instruction.ofTokens_cons notOpen, execute, fails]

end Stopping

/--
A run of a balanced token list that fails is stopped by one of its tokens outside all blocks.  The
tokens in front of it have run to their end, and whatever stands behind it has no effect.  Unless it
calls a function, it has taken at most three values from the stack and has changed nothing else; an
operator, a function that is made and a binding have taken nothing if there were too few operands.
All of this holds on every host, so it holds of `evaluate`.
-/
theorem run_stops_cleanly
    (frames : Nat)
    {tokens : List Token}
    (balanced : Balanced tokens)
    {machine after : Machine}
    {error : Error}
    (failed : run (frames + 4) tokens machine = ⟨after, some error⟩) :
    ∃ front token rest before,
      tokens = front ++ token :: rest ∧
        Balanced front ∧
        run (frames + 4) front machine = ⟨before, none⟩ ∧
        (∀ others, run (frames + 4) (front ++ token :: others) machine = ⟨after, some error⟩) ∧
        (¬token.CallsFunction before →
          ∃ count ≤ 3,
            count ≤ before.stack.size ∧
              after = before.dropTop count ∧
              (error.kind = .underflow → token.TakesTogether → count = 0)) := by
  obtain ⟨front, token, before, stops⟩ := exists_stoppedBy balanced failed
  obtain ⟨rest, isNext⟩ := stops.isNext
  refine ⟨front, token, rest, before, isNext, stops.outermost, stops.ran, stops.run_others, ?_⟩
  intro noFunction
  obtain ⟨count, few, ⟨held, left⟩, underflow⟩ := step_loses noFunction stops.fails
  exact ⟨count, few, held, left, underflow⟩

/-- A program that divides by zero, with a value below and a token behind. -/
def dividing : List Token :=
  (read "7 1 0 / 5").toOption.getD []

/-- Both operands of the division are gone, and the value below them is left. -/
theorem run_stops_cleanly_dividing :
    let stopped := run 12 dividing (.fresh 5)
    stopped.Raises .arithmetic ∧
      stopped.machine.stack.toList = [.number 7] ∧
      ∃ front token rest before,
        dividing = front ++ token :: rest ∧
          run 12 front (.fresh 5) = ⟨before, none⟩ ∧
          run 12 (front ++ [token]) (.fresh 5) = stopped ∧
          ∃ count ≤ 3, count ≤ before.stack.size ∧ stopped.machine = before.dropTop count := by
  intro stopped
  have raises : stopped.Raises .arithmetic := by
    decide +kernel
  have leaves : stopped.machine.stack.toList = [.number 7] := by
    decide +kernel
  have balanced : Balanced dividing :=
    imbalance?_eq_none_iff.mp (by decide +kernel)
  have noCall : ∀ token ∈ dividing, token.form? ≠ some .call := by
    decide +kernel
  refine ⟨raises, leaves, ?_⟩
  obtain ⟨error, isError, _⟩ := Option.map_eq_some_iff.mp raises
  obtain ⟨front, token, rest, before, split, _, ran, alone, costs⟩ :=
    run_stops_cleanly 8 balanced (show stopped = ⟨stopped.machine, some error⟩ by rw [← isError])
  have noFunction : ¬token.CallsFunction before :=
    fun calls => noCall token (by simp [split]) calls.1
  obtain ⟨count, few, held, left, _⟩ := costs noFunction
  refine ⟨front, token, rest, before, split, ran, ?_, count, few, held, left⟩
  rw [alone [], ← isError]

end Evaluation

end StackScript
