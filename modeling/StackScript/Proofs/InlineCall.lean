import StackScript.Proofs.Balance
import StackScript.Proofs.Headroom

namespace StackScript

/-!
# Calls in place

A body that stands in braces, is made a function and called at once does what the body does alone.
The call costs one level of nesting, so the two runs have the same room left; and every error is
blamed on a token before it leaves the body, so the call adds none of its own.
-/

/-- The tokens that stand around a body to call it in place. -/
structure CallSite where
  opener : Token
  closer : Token
  maker : Token
  caller : Token
  opens : opener.lexeme = .openBrace
  closes : closer.lexeme = .closeBrace
  makes : maker.lexeme = .reserved ∧ maker.text = "fn"
  calls : caller.lexeme = .reserved ∧ caller.text = "call"

/-- A body called in place. -/
def CallSite.around (site : CallSite) (body : List Token) : List Token :=
  site.opener :: (body ++ [site.closer, site.maker, site.caller])

/--
Outcomes that agree in all that a program computes and prints, and in the error with its token.
Only the limit of nested calls that the error names may differ.
-/
structure Outcome.AgreesUpToLimit (limit limit' : Int) (outcome outcome' : Outcome) : Prop where
  stack :
    outcome.machine.stack = outcome'.machine.stack
  bindings :
    outcome.machine.bindings = outcome'.machine.bindings
  output :
    outcome.machine.output = outcome'.machine.output
  kind :
    outcome.error.map Error.kind = outcome'.error.map Error.kind
  token :
    outcome.error.map Error.token = outcome'.error.map Error.token
  message :
    outcome.error.map Error.message = outcome'.error.map Error.message ∨
      outcome.error.map Error.cause = some (.tooDeep limit) ∧
        outcome'.error.map Error.cause = some (.tooDeep limit')

/-- An instruction that does not fail before it knows where. -/
def Instruction.IsLocated : Instruction → Prop
  | .fail error =>
      error.token.isSome
  | _ =>
      True

namespace Instruction

/-- A token that cannot be carried out is blamed itself. -/
theorem ofToken_isLocated
    (token : Token) :
    (ofToken token).IsLocated := by
  unfold ofToken ofSymbol
  repeat' split
  all_goals simp [IsLocated, Error.atToken]

/-- The instructions of tokens know where they fail. -/
theorem ofTokensFrom_isLocated
    (skip : Nat)
    (tokens : List Token) :
    ∀ instruction ∈ ofTokensFrom none skip tokens, instruction.IsLocated := by
  induction tokens generalizing skip with
  | nil =>
      simp [ofTokensFrom, atEnd]
  | cons token rest inductionHypothesis =>
      unfold ofTokensFrom
      cases skip with
      | succ remaining =>
          exact inductionHypothesis remaining
      | zero =>
          simp only
          split
          · split
            · next body _ =>
              exact List.forall_mem_cons.mpr ⟨trivial, inductionHypothesis _⟩
            · simp [unclosed, IsLocated, Error.atToken]
          · exact List.forall_mem_cons.mpr ⟨ofToken_isLocated token, inductionHypothesis 0⟩

end Instruction

namespace Evaluation

variable {frames : Nat} {runBody : Runner}

/-- An instruction that knows where it fails blames a token for every failure. -/
theorem step_error_located
    {instruction : Instruction}
    {machine : Machine}
    {error : Error}
    (located : instruction.IsLocated)
    (failed : (step frames runBody instruction machine).error = some error) :
    error.token.isSome := by
  cases instruction with
  | push value =>
      cases failed
  | operate name token =>
      obtain ⟨cause, _, rfl⟩ := settle_error_cases failed
      rfl
  | form special token =>
      cases special with
      | makeFunction | assign =>
          obtain ⟨cause, _, rfl⟩ := settle_error_cases failed
          rfl
      | call =>
          obtain ⟨raised, _, rfl⟩ := Option.map_eq_some_iff.mp failed
          simp [Error.attach]
  | fail raised =>
      cases failed
      exact located

/-- Instructions behind one that succeeds go on where it ended. -/
theorem execute_cons_ok
    {instruction : Instruction}
    {rest : List Instruction}
    {machine after : Machine}
    (succeeded : step frames runBody instruction machine = ⟨after, none⟩) :
    execute frames runBody (instruction :: rest) machine = execute frames runBody rest after := by
  rw [execute, succeeded]

/-- One instruction alone is one step. -/
theorem execute_singleton
    (frames : Nat)
    (runBody : Runner)
    (instruction : Instruction)
    (machine : Machine) :
    execute frames runBody [instruction] machine = step frames runBody instruction machine := by
  rw [execute]
  split
  · next after succeeded =>
    rw [succeeded, execute]
  · rfl

/-- Every failure of a run that begins is blamed on a token. -/
theorem run_error_located
    {tokens : List Token}
    {machine : Machine}
    {error : Error}
    (failed : (run (frames + 4) tokens machine).error = some error) :
    error.token.isSome := by
  have located := Instruction.ofTokensFrom_isLocated 0 tokens
  change
    (execute frames (run frames) (Instruction.ofTokensFrom none 0 tokens) machine).error = _
    at failed
  generalize Instruction.ofTokensFrom none 0 tokens = instructions at located failed
  induction instructions generalizing machine with
  | nil =>
      cases failed
  | cons instruction rest inductionHypothesis =>
      obtain ⟨first, others⟩ := List.forall_mem_cons.mp located
      unfold execute at failed
      split at failed
      · exact inductionHypothesis others failed
      · exact step_error_located first failed

end Evaluation

namespace CallSite

open Evaluation

variable (site : CallSite)

/-- A body called in place is called on the machine as it is. -/
theorem run_around
    (frames : Nat)
    {body : List Token}
    (balanced : Balanced body)
    (machine : Machine) :
    run (frames + 4) (site.around body) machine =
      blame site.caller (callFunction frames (run frames) body machine) := by
  have making : Instruction.ofToken site.maker = .form .makeFunction site.maker := by
    simp [Instruction.ofToken, site.makes, Form.ofText?]
  have calling : Instruction.ofToken site.caller = .form .call site.caller := by
    simp [Instruction.ofToken, site.calls, Form.ofText?]
  have instructions :
      Instruction.ofTokens (site.around body) =
        [.push (.block body), .form .makeFunction site.maker, .form .call site.caller] := by
    unfold around
    rw [Instruction.ofTokens_block site.opens balanced site.closes,
      Instruction.ofTokens_cons (by simp [site.makes]),
      Instruction.ofTokens_cons (by simp [site.calls]),
      making, calling, Instruction.ofTokens_nil]
  have made :
      step frames (run frames) (.form .makeFunction site.maker) (machine.push (.block body)) =
        ⟨machine.push (.function body), none⟩ :=
    rfl
  have found :
      target frames (machine.push (.function body)) = (machine, .ok (.function body)) :=
    congrArg (Prod.mk machine) (seek_of_not_name (by simp))
  have called :
      step frames (run frames) (.form .call site.caller) (machine.push (.function body)) =
        blame site.caller (callFunction frames (run frames) body machine) := by
    change blame site.caller (call frames (run frames) (machine.push (.function body))) = _
    rw [call_of_target_ok (run frames) found]
    rfl
  rw [run, instructions, execute_cons_ok rfl, execute_cons_ok made, execute_singleton, called]

/-- What a call in place ends with agrees with what its body ends with alone. -/
theorem agrees_of_outcomes
    {limit : Int}
    {inner alone : Outcome}
    (outcomes : (Simulation.roomier (limit + 1) limit 0).Outcomes inner alone)
    (hostSuffices : ∀ error, inner.error = some error → ¬error.IsOfHost)
    (located : ∀ error, alone.error = some error → error.token.isSome) :
    (blame site.caller (leave inner)).AgreesUpToLimit (limit + 1) limit alone := by
  cases outcomes with
  | done machines =>
      exact ⟨machines.stack.symm, machines.bindings.symm, machines.output.symm, rfl, rfl, .inl rfl⟩
  | @failed after after' error error' machines errors =>
      have uncaught : error.caught = error :=
        Error.caught_of_ne_hostFailure fun isFailure => hostSuffices error rfl (.inl isFailure)
      have outcome :
          blame site.caller (leave ⟨after, some error⟩) =
            ⟨{ after with depth := after.depth - 1 }, some (error.attach site.caller)⟩ := by
        simp only [blame, leave, Option.map_some, uncaught]
      -- The body has blamed a token of its own, so the call has nothing to attach.
      have attached : (error.attach site.caller).token = error'.token := by
        obtain ⟨token, isToken⟩ := Option.isSome_iff_exists.mp (located error' rfl)
        simp [Error.attach, Likeness.identity.token_eq errors, isToken]
      have kind : error.kind = error'.kind := by
        rcases Likeness.identity.errors_cases errors with rfl | ⟨_, _, _, isLimit, isLimit'⟩
        · rfl
        · rw [isLimit, isLimit']
          rfl
      rw [outcome]
      refine ⟨machines.stack.symm, machines.bindings.symm, machines.output.symm,
        congrArg some kind, congrArg some attached, ?_⟩
      rcases Likeness.identity.errors_cases errors with
          rfl | ⟨_, _, ⟨rfl, rfl⟩, isLimit, isLimit'⟩
      · exact .inl rfl
      · exact .inr ⟨congrArg (some ∘ Error.cause) isLimit, congrArg (some ∘ Error.cause) isLimit'⟩
  | excused excused =>
      have ofHost := hostSuffices _ rfl
      rcases excused.1 with isFailure | isExhausted | ⟨_, noSlack⟩
      · exact (ofHost (.inl isFailure)).elim
      · exact (ofHost (.inr isExhausted)).elim
      · exact (Nat.lt_irrefl 0 noSlack).elim

/--
Calling a body in place is running it under a limit that is one lower, unless the host is exhausted.
The limit of the call is any that leaves room for it, and the host is any, that of `evaluate` too.
-/
theorem run_around_agrees
    {body : List Token}
    (balanced : Balanced body)
    {machine : Machine}
    {limit : Int}
    (within : (machine.depth : Int) ≤ limit)
    (frames : Nat)
    (hostSuffices :
      ∀ error,
        (run frames (site.around body) { machine with maxDepth := limit + 1 }).error =
            some error →
          ¬error.IsOfHost) :
    (run frames (site.around body) { machine with maxDepth := limit + 1 }).AgreesUpToLimit
      (limit + 1) limit
      (run frames body { machine with maxDepth := limit }) := by
  by_cases few : frames < 4
  · rw [run_tooFew few] at hostSuffices
    exact (hostSuffices _ rfl (.inl rfl)).elim
  obtain ⟨frames, rfl⟩ := Nat.exists_eq_add_of_le' (Nat.le_of_not_lt few)
  have notTooDeep : ¬limit + 1 ≤ (machine.depth : Int) := by
    omega
  rw [site.run_around frames balanced, callFunction, if_neg notTooDeep] at hostSuffices ⊢
  by_cases tooFew : frames < recordFrames
  · rw [if_pos tooFew] at hostSuffices
    exact (hostSuffices _ rfl (.inl rfl)).elim
  rw [if_neg tooFew] at hostSuffices ⊢
  have machines :
      Machine.Roomier (limit + 1) limit 0
        (enter { machine with maxDepth := limit + 1 } body)
        { machine with maxDepth := limit } :=
    { stack := rfl
      bindings := rfl
      vocabulary := rfl
      output := rfl
      maxDepth := rfl
      maxDepth' := rfl
      room := by
        simp only [enter, deepen, Machine.record]
        omega }
  refine site.agrees_of_outcomes (run_roomier (Nat.le_add_right frames 4) machines body) ?_
    fun error failed => run_error_located failed
  intro error failed ofHost
  exact hostSuffices (error.caught.attach site.caller) (by simp [blame, leave, failed])
    ofHost.caught

/-- The place of a call that is spelled out at the start of a line. -/
def sample : CallSite where
  opener :=
    Token.inSource .openBrace "\x7b" ⟨0, 1, 1⟩
  closer :=
    Token.inSource .closeBrace "\x7d" ⟨54, 1, 55⟩
  maker :=
    Token.inSource .reserved "fn" ⟨56, 1, 57⟩
  caller :=
    Token.inSource .reserved "call" ⟨59, 1, 60⟩
  opens :=
    rfl
  closes :=
    rfl
  makes :=
    ⟨rfl, rfl⟩
  calls :=
    ⟨rfl, rfl⟩

/-- A program without end prints as many lines when it is called under one level more. -/
theorem run_around_agrees_endless :
    (run 36 endless (.fresh 2)).machine.output = "1\n1\n" ∧
      (run 36 (sample.around endless) (.fresh 3)).AgreesUpToLimit 3 2
        (run 36 endless (.fresh 2)) := by
  have balanced : Balanced endless :=
    imbalance?_eq_none_iff.mp (by decide +kernel)
  have stopped :
      (run 36 (sample.around endless) (.fresh 3)).error.map Error.cause = some (.tooDeep 3) := by
    decide +kernel
  have within : ((Machine.fresh 2).depth : Int) ≤ 2 := by
    decide
  refine ⟨by decide +kernel, sample.run_around_agrees balanced within 36 ?_⟩
  intro error failed
  obtain ⟨raised, isRaised, isLimit⟩ := Option.map_eq_some_iff.mp stopped
  obtain rfl : raised = error :=
    Option.some.inj (isRaised.symm.trans failed)
  simp [Error.IsOfHost, isLimit]

end CallSite

end StackScript
