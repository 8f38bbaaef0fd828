import StackScript.Proofs.Entries
import StackScript.Proofs.Growth
import StackScript.Proofs.Reachable

namespace StackScript

/-!
# Disciplined machines

Programs build new code while they run: blocks are captured, made functions, bound, copied and
called.  A discipline is a property of stored values that all of this respects, together with what
it says of the instructions in stored code and of the errors that running them can raise.  A machine
that is disciplined stays so, however its program ends, and a session that reads disciplined code
only has stored nothing else.
-/

/-- A machine with all builtins whose values on the stack and under names have properties. -/
structure Machine.Stores
    (values : Value → Prop)
    (bound : String → Value → Prop)
    (machine : Machine) :
    Prop where
  stack :
    ∀ value ∈ machine.stack.topFirst, values value
  bindings :
    ∀ name value, (name, value) ∈ machine.bindings.entries → bound name value
  vocabulary :
    machine.vocabulary = Builtin.all

/-- Properties of stored values, of instructions and of errors that running programs respects. -/
structure Discipline where
  /-- The values on the stack. -/
  values : Value → Prop
  /-- The values under names. -/
  bound : String → Value → Prop
  instructions : Instruction → Prop
  /-- The failures that operations and calls report. -/
  causes : Cause → Prop
  errors : Error → Prop
  number :
    ∀ number, values (.number number)
  builtin :
    ∀ builtin, values (.builtin builtin)
  constants :
    ∀ {name value}, (name, value) ∈ Machine.constants → bound name value
  lookup :
    ∀ {name value}, bound name value → values value
  bind :
    ∀ {name value}, values (.name name) →
      values value →
      (∀ other, value ≠ .name other) →
      bound name value
  function :
    ∀ {body}, values (.block body) → values (.function body)
  code :
    ∀ {body}, values (.function body) →
      ∀ instruction ∈ Instruction.ofTokens body, instructions instruction
  push :
    ∀ {value}, instructions (.push value) → values value
  fail :
    ∀ {error}, instructions (.fail error) → errors error
  reports :
    ∀ {machine : Machine} {cause}, machine.Stores values bound →
      machine.CallReports cause → causes cause
  operate :
    ∀ {name token cause}, instructions (.operate name token) →
      causes cause ∨ Builtin.find? Builtin.all name = none ∧ cause = .unbound name →
      errors ⟨cause, some token⟩
  form :
    ∀ {special token cause}, instructions (.form special token) →
      causes cause → errors ⟨cause, some token⟩
  attach :
    ∀ {error token}, instructions (.form .call token) →
      errors error → errors (error.attach token)

namespace Discipline

variable (discipline : Discipline) {machine : Machine}

/-- A machine all of whose stored values are disciplined. -/
def Keeps (machine : Machine) : Prop :=
  machine.Stores discipline.values discipline.bound

/-- An outcome whose machine and whose error are disciplined. -/
structure Accepts (outcome : Outcome) : Prop where
  machine :
    discipline.Keeps outcome.machine
  error :
    ∀ error, outcome.error = some error → discipline.errors error

/-- An outcome that is disciplined but for a failure that no token is blamed for. -/
structure Tolerates (outcome : Outcome) : Prop where
  machine :
    discipline.Keeps outcome.machine
  error :
    ∀ error, outcome.error = some error →
      discipline.errors error ∨ ∃ cause, discipline.causes cause ∧ error = ⟨cause, none⟩

variable {discipline}

/-- What a disciplined value stands for is disciplined. -/
theorem Keeps.resolve
    (kept : discipline.Keeps machine)
    {value resolved : Value}
    (disciplined : discipline.values value)
    (found : machine.resolve value = .ok resolved) :
    discipline.values resolved := by
  cases value with
  | name symbol =>
      simp only [Machine.resolve] at found
      rcases machine.lookup_cases symbol with
          ⟨bound, member, isBound⟩ | ⟨builtin, isBuiltin⟩ | unbound
      · rw [isBound] at found
        cases found
        exact discipline.lookup (kept.bindings symbol _ member)
      · rw [isBuiltin] at found
        cases found
        exact discipline.builtin builtin
      · rw [unbound] at found
        cases found
  | _ =>
      cases found
      exact disciplined

/-- Taking values keeps the discipline. -/
theorem Keeps.popped
    {after : Machine}
    (kept : discipline.Keeps machine)
    (popped : machine.Popped after) :
    discipline.Keeps after := by
  obtain ⟨stack, rfl, fromBefore⟩ := popped
  exact { kept with stack := fun value member => kept.stack value (fromBefore value member) }

/-- Applying a builtin keeps the discipline. -/
theorem Keeps.reworked
    {answer : Machine × Option Cause}
    (kept : discipline.Keeps machine)
    (reworks : machine.Reworks answer) :
    discipline.Keeps answer.1 := by
  obtain ⟨stack, printed, shape, fromBefore⟩ := reworks.machine
  rw [shape]
  refine { kept with stack := ?_ }
  intro value member
  rcases fromBefore value member with held | ⟨operand, operandHeld, resolved⟩ | ⟨number, rfl⟩
  · exact kept.stack value held
  · exact kept.resolve (kept.stack operand operandHeld) resolved
  · exact discipline.number number

theorem Keeps.makeFunction
    (kept : discipline.Keeps machine) :
    discipline.Keeps (Evaluation.makeFunction machine).1 := by
  rcases Evaluation.makeFunction_cases machine with
      ⟨after, cause, popped, _, shape⟩ | ⟨top, rest, body, stackShape, resolved, shape⟩
  · rw [shape]
    exact kept.popped popped
  · rw [shape]
    have block : discipline.values (.block body) :=
      kept.resolve (kept.stack top (by simp [stackShape])) resolved
    refine { kept with stack := ?_ }
    intro value member
    rcases List.mem_cons.mp member with isFunction | inRest
    · rw [isFunction]
      exact discipline.function block
    · exact kept.stack value (by simp [stackShape, inRest])

theorem Keeps.assign
    (kept : discipline.Keeps machine) :
    discipline.Keeps (Evaluation.assign machine).1 := by
  rcases Evaluation.assign_cases machine with
      ⟨after, cause, popped, _, shape⟩ |
        ⟨name, value, rest, resolved, stackShape, found, notName, shape⟩
  · rw [shape]
    exact kept.popped popped
  · rw [shape]
    refine
      { kept with
        stack := fun other member => kept.stack other (by simp_all)
        bindings := ?_ }
    intro known held member
    rcases Bindings.mem_insertEntry member with old | isNew
    · exact kept.bindings known held old
    · cases isNew
      have target : discipline.values (.name name) :=
        kept.stack _ (by simp [stackShape])
      have disciplined : discipline.values resolved :=
        kept.resolve (kept.stack value (by simp [stackShape])) found
      exact discipline.bind target disciplined notName

theorem Keeps.operate
    (kept : discipline.Keeps machine)
    (name : String) :
    discipline.Keeps (Evaluation.operate name machine).1 := by
  unfold Evaluation.operate
  split
  · next builtin _ =>
    exact kept.reworked (machine.apply_reworks builtin)
  · exact kept

/-- An answer is disciplined once a disciplined token is blamed for its failure. -/
theorem accepts_settle
    {answer : Machine × Option Cause}
    {token : Token}
    (kept : discipline.Keeps answer.1)
    (blames : ∀ cause, answer.2 = some cause → discipline.errors ⟨cause, some token⟩) :
    discipline.Accepts (Evaluation.settle token answer) := by
  rcases answer with ⟨after, _ | cause⟩
  · exact ⟨kept, by simp [Evaluation.settle]⟩
  · refine ⟨kept, ?_⟩
    intro error failed
    cases failed
    exact blames cause rfl

/-- A tolerated outcome is disciplined once the token of a call is blamed for it. -/
theorem Tolerates.blame
    {outcome : Outcome}
    {token : Token}
    (tolerated : discipline.Tolerates outcome)
    (calls : discipline.instructions (.form .call token)) :
    discipline.Accepts (Evaluation.blame token outcome) := by
  refine ⟨tolerated.machine, ?_⟩
  intro error failed
  obtain ⟨inner, innerFailed, rfl⟩ := Option.map_eq_some_iff.mp failed
  rcases tolerated.error inner innerFailed with disciplined | ⟨cause, reported, rfl⟩
  · exact discipline.attach calls disciplined
  · exact discipline.form calls reported

/-- A failure without a token is tolerated. -/
theorem tolerates_failure
    {cause : Cause}
    (kept : discipline.Keeps machine)
    (reported : discipline.causes cause) :
    discipline.Tolerates ⟨machine, some ⟨cause, none⟩⟩ := by
  refine ⟨kept, ?_⟩
  intro error failed
  cases failed
  exact .inr ⟨cause, reported, rfl⟩

/-- Function bodies run with tolerated outcomes. -/
def Obeys (discipline : Discipline) (runBody : Runner) : Prop :=
  ∀ (body : List Token) (machine : Machine),
    discipline.values (.function body) →
      discipline.Keeps machine →
      discipline.Tolerates (runBody body machine)

/-- The end of a call passes on what was tolerated, or a failure of the host instead. -/
theorem Tolerates.leave
    {outcome : Outcome}
    (tolerated : discipline.Tolerates outcome) :
    discipline.Tolerates (Evaluation.leave outcome) := by
  refine ⟨{ tolerated.machine with }, ?_⟩
  intro error failed
  obtain ⟨inner, innerFailed, rfl⟩ := Option.map_eq_some_iff.mp failed
  rcases inner.caught_cases with same | caught
  · rw [same]
    exact tolerated.error inner innerFailed
  · rw [caught]
    exact .inr ⟨_, discipline.reports tolerated.machine .hostExhausted, rfl⟩

variable {frames : Nat} {runBody : Runner}

/-- Calling a value has a tolerated outcome. -/
theorem Keeps.callValue
    (obeys : discipline.Obeys runBody)
    (kept : discipline.Keeps machine)
    {callee : Value}
    (disciplined : discipline.values callee) :
    discipline.Tolerates (Evaluation.callValue frames runBody callee machine) := by
  cases callee with
  | function body =>
      change discipline.Tolerates (Evaluation.callFunction frames runBody body machine)
      unfold Evaluation.callFunction
      split
      · exact tolerates_failure kept (discipline.reports kept (.tooDeep _))
      split
      · exact tolerates_failure { kept with } (discipline.reports kept .hostFailure)
      · have entered : discipline.Keeps (Evaluation.enter machine body) :=
          { kept with }
        exact (obeys body _ disciplined entered).leave
  | builtin builtin =>
      have reworks := machine.apply_reworks builtin
      refine ⟨kept.reworked reworks, ?_⟩
      intro error failed
      obtain ⟨cause, fails, rfl⟩ := Option.map_eq_some_iff.mp failed
      exact .inr ⟨cause, discipline.reports kept (.operation (reworks.fails cause fails)), rfl⟩
  | _ =>
      exact tolerates_failure kept (discipline.reports kept (.notCallable _))

theorem Keeps.call
    (obeys : discipline.Obeys runBody)
    (kept : discipline.Keeps machine) :
    discipline.Tolerates (Evaluation.call frames runBody machine) := by
  cases found : Evaluation.target frames machine with
  | mk after result =>
      have keptAfter := kept.popped (Evaluation.popped_of_target found)
      cases result with
      | error cause =>
          rw [Evaluation.call_of_target_error runBody found]
          rcases Evaluation.reports_of_target found with reports | ⟨rfl, _⟩
          · exact tolerates_failure keptAfter (discipline.reports kept (.operation reports))
          · exact tolerates_failure keptAfter (discipline.reports kept .hostFailure)
      | ok callee =>
          rw [Evaluation.call_of_target_ok runBody found]
          obtain ⟨top, held, resolved⟩ := Evaluation.resolved_of_target found
          exact keptAfter.callValue obeys (kept.resolve (kept.stack top held) resolved)

/-- One disciplined instruction has a disciplined outcome. -/
theorem Keeps.step
    (frames : Nat)
    (obeys : discipline.Obeys runBody)
    (kept : discipline.Keeps machine)
    {instruction : Instruction}
    (disciplined : discipline.instructions instruction) :
    discipline.Accepts (Evaluation.step frames runBody instruction machine) := by
  cases instruction with
  | push value =>
      refine ⟨{ kept with stack := ?_ }, by simp [Evaluation.step]⟩
      intro other member
      rcases List.mem_cons.mp member with isValue | held
      · rw [isValue]
        exact discipline.push disciplined
      · exact kept.stack other held
  | operate name token =>
      refine accepts_settle (kept.operate name) fun cause failed => ?_
      rcases Evaluation.operate_fails failed with reports | ⟨unknown, isUnbound⟩
      · exact discipline.operate disciplined (.inl (discipline.reports kept (.operation reports)))
      · rw [kept.vocabulary] at unknown
        exact discipline.operate disciplined (.inr ⟨unknown, isUnbound⟩)
  | form special token =>
      cases special with
      | makeFunction =>
          exact accepts_settle kept.makeFunction fun cause failed =>
            discipline.form disciplined
              (discipline.reports kept (.operation (Evaluation.makeFunction_fails failed)))
      | call =>
          exact (kept.call obeys).blame disciplined
      | assign =>
          exact accepts_settle kept.assign fun cause failed =>
            discipline.form disciplined
              (discipline.reports kept (.operation (Evaluation.assign_fails failed)))
  | fail error =>
      refine ⟨kept, ?_⟩
      intro other failed
      cases failed
      exact discipline.fail disciplined

/-- Disciplined instructions have a disciplined outcome. -/
theorem Keeps.execute
    (frames : Nat)
    (obeys : discipline.Obeys runBody)
    (kept : discipline.Keeps machine)
    {instructions : List Instruction}
    (disciplined : ∀ instruction ∈ instructions, discipline.instructions instruction) :
    discipline.Accepts (Evaluation.execute frames runBody instructions machine) := by
  induction instructions generalizing machine with
  | nil =>
      exact ⟨kept, by simp [Evaluation.execute]⟩
  | cons instruction rest inductionHypothesis =>
      have first := kept.step frames obeys (disciplined instruction (by simp))
      unfold Evaluation.execute
      split
      · next after finished =>
        rw [finished] at first
        exact inductionHypothesis first.machine
          fun later member => disciplined later (by simp [member])
      · exact first

/-- Running function bodies respects every discipline. -/
theorem obeys_run
    (discipline : Discipline)
    (frames : Nat) :
    discipline.Obeys (Evaluation.run frames) := by
  induction frames using Evaluation.framesInduction with
  | tooFew frames few =>
      intro body machine _ kept
      rw [Evaluation.run_tooFew few]
      exact tolerates_failure kept (discipline.reports kept .hostFailure)
  | nested frames inductionHypothesis =>
      intro body machine disciplined kept
      have accepted := kept.execute frames inductionHypothesis (discipline.code disciplined)
      exact ⟨accepted.machine, fun error failed => .inl (accepted.error error failed)⟩

section Runs

variable {tokens : List Token}

/-- A run of disciplined code has a disciplined outcome, unless it does not even begin. -/
theorem Keeps.accepts_run
    (kept : discipline.Keeps machine)
    (disciplined : ∀ instruction ∈ Instruction.ofTokens tokens, discipline.instructions instruction)
    (enough : 4 ≤ frames) :
    discipline.Accepts (Evaluation.run frames tokens machine) := by
  rw [Evaluation.run_enough enough]
  exact kept.execute _ (discipline.obeys_run _) disciplined

/-- A run of disciplined code keeps the discipline. -/
theorem Keeps.run
    (kept : discipline.Keeps machine)
    (disciplined : ∀ instruction ∈ Instruction.ofTokens tokens, discipline.instructions instruction)
    (frames : Nat) :
    discipline.Keeps (Evaluation.run frames tokens machine).machine := by
  by_cases enough : 4 ≤ frames
  · exact (kept.accepts_run disciplined enough).machine
  · rw [Evaluation.run_tooFew (Nat.lt_of_not_le enough)]
    exact kept

end Runs

/-- A discipline that permitted source texts obey holds while a session is given such texts. -/
theorem respected
    (discipline : Discipline)
    {permitted : String → Prop}
    (reads :
      ∀ {source tokens}, permitted source →
        read source = .ok tokens →
        ∀ instruction ∈ Instruction.ofTokens tokens, discipline.instructions instruction) :
    Session.Respects permitted discipline.Keeps where
  fresh limit output journal :=
    { stack := by simp [Machine.fresh, Machine.register, Stack.empty]
      bindings := fun name value member => discipline.constants member
      vocabulary := rfl }
  run frames isPermitted accepted kept :=
    kept.run (reads isPermitted accepted) frames
  record event kept :=
    { kept with }
  clearStack kept :=
    { kept with stack := by simp [Stack.empty] }

end Discipline

end StackScript
