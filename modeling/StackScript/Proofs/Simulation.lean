import StackScript.Proofs.Growth
import StackScript.Proofs.Likeness

namespace StackScript

/-!
# Runs that stay in step

Two runs stay in step when corresponding machines stay so under the few things that operations do
with a machine: take values, push them, read and bind names, print, begin and end a call.  A
simulation lists these, and every operation, every instruction and every run follows from them.

The second run may be excused from following once the first has failed, for instance because it has
more room than the first had.  The builtins that the first run applies may be restricted.
-/

/-- An evaluation that ends with an error of the given kind. -/
def Outcome.Raises (outcome : Outcome) (kind : ErrorKind) : Prop :=
  outcome.error.map Error.kind = some kind

instance (outcome : Outcome) (kind : ErrorKind) : Decidable (outcome.Raises kind) :=
  inferInstanceAs (Decidable (_ = _))

namespace Evaluation

/-- The builtins that an instruction applies, in order. -/
def stepApplied
    (frames : Nat)
    (bodyApplied : List Token → Machine → List Builtin) :
    Instruction → Machine → List Builtin
  | .operate name _, machine =>
      (Builtin.find? machine.vocabulary name).toList
  | .form .call _, machine =>
      match target frames machine with
      | (popped, .ok (.function body)) =>
          if popped.maxDepth ≤ popped.depth ∨ frames < recordFrames then
            []
          else
            bodyApplied body (enter popped body)
      | (_, .ok (.builtin builtin)) =>
          [builtin]
      | _ =>
          []
  | _, _ =>
      []

/-- The builtins that instructions apply until one fails, in order. -/
def executeApplied
    (frames : Nat)
    (runBody : Runner)
    (bodyApplied : List Token → Machine → List Builtin) :
    List Instruction → Machine → List Builtin
  | [], _ =>
      []
  | instruction :: rest, machine =>
      stepApplied frames bodyApplied instruction machine ++
        match step frames runBody instruction machine with
        | ⟨after, none⟩ =>
            executeApplied frames runBody bodyApplied rest after
        | _ =>
            []

/-- The builtins that a run applies, those of nested calls included, in order. -/
def applied : (frames : Nat) → List Token → Machine → List Builtin
  | frames + 4, tokens, machine =>
      executeApplied frames (run frames) (applied frames) (Instruction.ofTokens tokens) machine
  | _, _, _ =>
      []

end Evaluation

/-- Machines that correspond, with what the second may be excused from. -/
structure Simulation extends Likeness where
  machines : Machine → Machine → Prop
  limits : Int → Int → Prop
  /-- After a failure of the first run with this cause, the second need not follow. -/
  excused : Cause → Machine → Machine → Prop
  /-- The builtins that the first run may apply. -/
  allowed : Builtin → Prop
  vocabulary :
    ∀ {machine machine'}, machines machine machine' →
      machine'.vocabulary = machine.vocabulary
  push :
    ∀ {machine machine' value value'}, machines machine machine' →
      toLikeness.Values value value' →
      machines (machine.push value) (machine'.push value')
  take :
    ∀ {machine machine' count taken stack}, machines machine machine' →
      machine.stack.popN count = .ok (taken, stack) →
      ∃ taken' stack',
        machine'.stack.popN count = .ok (taken', stack') ∧
          List.Forall₂ toLikeness.Values taken taken' ∧
          machines { machine with stack } { machine' with stack := stack' }
  underflow :
    ∀ {machine machine' count cause}, machines machine machine' →
      machine.stack.popN count = .error cause →
      machine'.stack.popN count = .error cause ∨ excused cause machine machine'
  get? :
    ∀ {machine machine' name}, machines machine machine' →
      names name →
      Option.Rel toLikeness.Values (machine.bindings.get? name) (machine'.bindings.get? name)
  bind :
    ∀ {machine machine' name value value'}, machines machine machine' →
      names name →
      toLikeness.Values value value' →
      machines
        { machine with
          bindings := ⟨Bindings.insertEntry name value machine.bindings.entries⟩
          journal := .bound name value :: machine.journal }
        { machine' with
          bindings := ⟨Bindings.insertEntry name value' machine'.bindings.entries⟩
          journal := .bound name value' :: machine'.journal }
  printLine :
    ∀ {machine machine'} line, machines machine machine' →
      machines (machine.printLine line) (machine'.printLine line)
  showStack :
    ∀ {machine machine'}, machines machine machine' →
      allowed .showStack →
      machines
        (machine.printLine (Builtin.stackLine machine.stack))
        (machine'.printLine (Builtin.stackLine machine'.stack))
  tooDeep :
    ∀ {machine machine'}, machines machine machine' →
      machine.maxDepth ≤ machine.depth →
      (machine'.maxDepth ≤ machine'.depth ∧ limits machine.maxDepth machine'.maxDepth) ∨
        excused (.tooDeep machine.maxDepth) machine machine'
  deepen :
    ∀ {machine machine'}, machines machine machine' →
      ¬machine.maxDepth ≤ machine.depth →
      machines (Evaluation.deepen machine) (Evaluation.deepen machine')
  enter :
    ∀ {machine machine' body body'}, machines machine machine' →
      toLikeness.Code body body' →
      ¬machine.maxDepth ≤ machine.depth →
      ¬machine'.maxDepth ≤ machine'.depth ∧
        machines (Evaluation.enter machine body) (Evaluation.enter machine' body')
  leave :
    ∀ {machine machine'}, machines machine machine' →
      0 < machine.depth →
      0 < machine'.depth →
      machines
        { machine with depth := machine.depth - 1 }
        { machine' with depth := machine'.depth - 1 }
  excused_later :
    ∀ {cause machine machine' after after'}, excused cause machine machine' →
      after.output = machine.output →
      (∃ printed, after'.output = machine'.output ++ printed) →
      excused cause after after'
  /-- An excuse for a failure of the host is one for what a call makes of it. -/
  excused_caught :
    ∀ {machine machine'}, excused .hostFailure machine machine' →
      excused .hostExhausted machine machine'

namespace Simulation

variable (simulation : Simulation)

/-- Answers of operations that correspond, unless the second is excused. -/
inductive Answers : Machine × Option Cause → Machine × Option Cause → Prop where
  | done
      {machine machine' : Machine}
      (machines : simulation.machines machine machine') :
      Answers (machine, none) (machine', none)
  | failed
      {machine machine' : Machine}
      {cause cause' : Cause}
      (machines : simulation.machines machine machine')
      (causes : simulation.Causes simulation.limits cause cause') :
      Answers (machine, some cause) (machine', some cause')
  | excused
      {machine : Machine}
      {cause : Cause}
      {answer' : Machine × Option Cause}
      (excused : simulation.excused cause machine answer'.1) :
      Answers (machine, some cause) answer'

/-- Outcomes of runs that correspond, unless the second is excused. -/
inductive Outcomes : Outcome → Outcome → Prop where
  | done
      {machine machine' : Machine}
      (machines : simulation.machines machine machine') :
      Outcomes ⟨machine, none⟩ ⟨machine', none⟩
  | failed
      {machine machine' : Machine}
      {error error' : Error}
      (machines : simulation.machines machine machine')
      (errors : simulation.Errors simulation.limits error error') :
      Outcomes ⟨machine, some error⟩ ⟨machine', some error'⟩
  | excused
      {machine : Machine}
      {error : Error}
      {outcome' : Outcome}
      (excused : simulation.excused error.cause machine outcome'.machine) :
      Outcomes ⟨machine, some error⟩ outcome'

/-- Results of builtins that correspond. -/
inductive Results : Except Cause (Option Value) → Except Cause (Option Value) → Prop where
  | failed
      {cause cause' : Cause}
      (causes : simulation.Causes simulation.limits cause cause') :
      Results (.error cause) (.error cause')
  | silent :
      Results (.ok none) (.ok none)
  | yielded
      {value value' : Value}
      (values : simulation.Values value value') :
      Results (.ok (some value)) (.ok (some value'))

/-- Effects of builtins that correspond. -/
structure Effects (effect effect' : Effect) : Prop where
  machines :
    simulation.machines effect.machine effect'.machine
  results :
    simulation.Results effect.result effect'.result

variable {simulation} {machine machine' : Machine}

/-- An excuse lasts however the second run goes on. -/
theorem excused_extends
    {cause : Cause}
    {after' : Machine}
    (excused : simulation.excused cause machine machine')
    (extends' : machine'.Extends after') :
    simulation.excused cause machine after' :=
  simulation.excused_later excused rfl extends'.output

section Values

/-- Corresponding machines look a name up alike. -/
theorem lookup_ok
    (machines : simulation.machines machine machine')
    {name : String}
    {value : Value}
    (permitted : simulation.names name)
    (found : machine.lookup name = .ok value) :
    ∃ value', machine'.lookup name = .ok value' ∧ simulation.Values value value' := by
  have bound := simulation.get? machines permitted
  unfold Machine.lookup at found ⊢
  rw [simulation.vocabulary machines]
  generalize machine.bindings.get? name = held at bound found
  generalize machine'.bindings.get? name = held' at bound
  cases bound with
  | some values =>
      cases found
      exact ⟨_, rfl, values⟩
  | none =>
      cases known : Builtin.find? machine.vocabulary name with
      | some builtin =>
          simp only [known, Except.ok.injEq] at found
          subst found
          exact ⟨_, rfl, .builtin builtin⟩
      | none =>
          simp [known] at found

theorem lookup_error
    (machines : simulation.machines machine machine')
    {name : String}
    {cause : Cause}
    (permitted : simulation.names name)
    (failed : machine.lookup name = .error cause) :
    machine'.lookup name = .error cause := by
  have bound := simulation.get? machines permitted
  unfold Machine.lookup at failed ⊢
  rw [simulation.vocabulary machines]
  generalize machine.bindings.get? name = held at bound failed
  generalize machine'.bindings.get? name = held' at bound
  cases bound with
  | some values =>
      cases failed
  | none =>
      exact failed

/-- Corresponding values stand for corresponding values. -/
theorem resolve_ok
    (machines : simulation.machines machine machine')
    {value value' resolved : Value}
    (values : simulation.Values value value')
    (found : machine.resolve value = .ok resolved) :
    ∃ resolved', machine'.resolve value' = .ok resolved' ∧
      simulation.Values resolved resolved' := by
  have alike := values
  cases values with
  | name permitted =>
      exact lookup_ok machines permitted found
  | _ =>
      cases found
      exact ⟨_, rfl, alike⟩

theorem resolve_error
    (machines : simulation.machines machine machine')
    {value value' : Value}
    {cause : Cause}
    (values : simulation.Values value value')
    (failed : machine.resolve value = .error cause) :
    machine'.resolve value' = .error cause := by
  cases values with
  | name permitted =>
      exact lookup_error machines permitted failed
  | _ =>
      cases failed

/-- Several corresponding values stand for corresponding values. -/
theorem resolveAll_ok
    (machines : simulation.machines machine machine')
    {operands operands' resolved : List Value}
    (values : List.Forall₂ simulation.Values operands operands')
    (found : machine.resolveAll operands = .ok resolved) :
    ∃ resolved', machine'.resolveAll operands' = .ok resolved' ∧
      List.Forall₂ simulation.Values resolved resolved' := by
  induction values generalizing resolved with
  | nil =>
      cases found
      exact ⟨[], rfl, .nil⟩
  | @cons operand operand' rest rest' first _ inductionHypothesis =>
      obtain ⟨value, more, firstFound, restFound, rfl⟩ :=
        Machine.resolveAll_cons_ok_iff.mp found
      obtain ⟨value', firstFound', firstValues⟩ := resolve_ok machines first firstFound
      obtain ⟨more', restFound', restValues⟩ := inductionHypothesis restFound
      exact ⟨value' :: more',
        Machine.resolveAll_cons_ok_iff.mpr ⟨value', more', firstFound', restFound', rfl⟩,
        .cons firstValues restValues⟩

theorem resolveAll_error
    (machines : simulation.machines machine machine')
    {operands operands' : List Value}
    {cause : Cause}
    (values : List.Forall₂ simulation.Values operands operands')
    (failed : machine.resolveAll operands = .error cause) :
    machine'.resolveAll operands' = .error cause := by
  induction values with
  | nil =>
      cases failed
  | @cons operand operand' rest rest' first _ inductionHypothesis =>
      rw [Machine.resolveAll_cons_error_iff] at failed ⊢
      rcases failed with firstFailed | ⟨⟨value, firstFound⟩, restFailed⟩
      · exact .inl (resolve_error machines first firstFailed)
      · obtain ⟨value', firstFound', _⟩ := resolve_ok machines first firstFound
        exact .inr ⟨⟨value', firstFound'⟩, inductionHypothesis restFailed⟩

/-- Corresponding operands are the same numbers. -/
theorem numbers_ok
    {operands operands' : List Value}
    {operation : String}
    {numbers : List Float}
    (values : List.Forall₂ simulation.Values operands operands')
    (found : Builtin.numbers operation operands = .ok numbers) :
    Builtin.numbers operation operands' = .ok numbers := by
  induction values generalizing numbers with
  | nil =>
      exact found
  | cons first _ inductionHypothesis =>
      cases first with
      | number number =>
          obtain ⟨more, restFound, rfl⟩ := Builtin.numbers_cons_ok_iff.mp found
          exact Builtin.numbers_cons_ok_iff.mpr ⟨more, inductionHypothesis restFound, rfl⟩
      | _ =>
          cases found

/-- Corresponding operands are refused alike as numbers. -/
theorem numbers_error
    {operands operands' : List Value}
    {operation : String}
    {cause : Cause}
    (values : List.Forall₂ simulation.Values operands operands')
    (failed : Builtin.numbers operation operands = .error cause) :
    ∃ cause', Builtin.numbers operation operands' = .error cause' ∧
      simulation.Causes simulation.limits cause cause' := by
  induction values with
  | nil =>
      cases failed
  | cons first _ inductionHypothesis =>
      have alike := first
      cases first with
      | number number =>
          simp only [Builtin.numbers_cons_error_iff] at failed ⊢
          exact inductionHypothesis failed
      | _ =>
          cases failed
          exact ⟨_, rfl, .notNumber operation alike⟩

end Values

section Builtins

/-- Corresponding machines print alike what is bound to be printed. -/
theorem print_follows
    (machines : simulation.machines machine machine')
    {operands operands' : List Value}
    {effect : Effect}
    (performed : Builtin.print.perform operands machine = .ok effect) :
    ∃ effect', Builtin.print.perform operands' machine' = .ok effect' ∧
      simulation.Effects effect effect' := by
  have bound := simulation.get? machines simulation.printedName
  simp only [Builtin.perform, Builtin.numeric?, Bindings.get] at performed ⊢
  generalize machine.bindings.get? Builtin.printedName = held at bound performed
  generalize machine'.bindings.get? Builtin.printedName = held' at bound
  cases bound with
  | none =>
      cases performed
      exact ⟨_, rfl, machines, .failed (.same _)⟩
  | some values =>
      cases performed
      refine ⟨_, rfl, ?_, .silent⟩
      rw [values.display_eq]
      exact simulation.printLine _ machines

/-- Corresponding operands are computed with alike. -/
theorem numeric_follows
    (machines : simulation.machines machine machine')
    {builtin : Builtin}
    {compute : Float → Float → Except Cause Float}
    {operands operands' : List Value}
    {effect : Effect}
    (isNumeric : builtin.numeric? = some compute)
    (values : List.Forall₂ simulation.Values operands operands')
    (performed : builtin.perform operands machine = .ok effect) :
    ∃ effect', builtin.perform operands' machine' = .ok effect' ∧
      simulation.Effects effect effect' := by
  unfold Builtin.perform at performed ⊢
  simp only [isNumeric] at performed ⊢
  cases found : Builtin.numbers builtin.name operands with
  | error cause =>
      obtain ⟨cause', found', causes⟩ := numbers_error values found
      simp only [found, Except.ok.injEq] at performed
      subst performed
      simp only [found', Except.ok.injEq, exists_eq_left']
      exact ⟨machines, .failed causes⟩
  | ok numbers =>
      simp only [found] at performed
      simp only [numbers_ok values found]
      match numbers, performed with
      | [left, right], performed =>
          cases performed
          refine ⟨_, rfl, machines, ?_⟩
          cases compute left right with
          | error cause =>
              exact .failed (.same cause)
          | ok number =>
              exact .yielded (.number number)

/-- Corresponding operands have corresponding effects. -/
theorem perform_follows
    (machines : simulation.machines machine machine')
    {builtin : Builtin}
    {operands operands' : List Value}
    {effect : Effect}
    (allowed : simulation.allowed builtin)
    (counted : operands.length = builtin.arity)
    (values : List.Forall₂ simulation.Values operands operands')
    (performed : builtin.perform operands machine = .ok effect) :
    ∃ effect', builtin.perform operands' machine' = .ok effect' ∧
      simulation.Effects effect effect' := by
  cases builtin with
  | print =>
      exact print_follows machines performed
  | showStack =>
      cases performed
      exact ⟨_, rfl, simulation.showStack machines allowed, .silent⟩
  | drop =>
      cases performed
      exact ⟨_, rfl, machines, .silent⟩
  | dup =>
      obtain ⟨_, rfl⟩ := List.length_eq_one_iff.mp counted
      rcases values with _ | ⟨top, _ | _⟩
      cases performed
      exact ⟨_, rfl, simulation.push (simulation.push machines top) top, .silent⟩
  | swap =>
      obtain ⟨_, _, rfl⟩ := List.length_eq_two.mp counted
      rcases values with _ | ⟨below, _ | ⟨top, _ | _⟩⟩
      cases performed
      exact ⟨_, rfl, simulation.push (simulation.push machines top) below, .silent⟩
  | «over» =>
      obtain ⟨_, _, rfl⟩ := List.length_eq_two.mp counted
      rcases values with _ | ⟨below, _ | ⟨top, _ | _⟩⟩
      cases performed
      exact ⟨_, rfl,
        simulation.push (simulation.push (simulation.push machines below) top) below, .silent⟩
  | _ =>
      exact numeric_follows machines rfl values performed

theorem Effects.answers
    {effect effect' : Effect}
    (effects : simulation.Effects effect effect') :
    simulation.Answers effect.answer effect'.answer := by
  rcases effect with ⟨after, result⟩
  rcases effect' with ⟨after', result'⟩
  rcases effects with ⟨machines, results⟩
  cases results with
  | failed causes =>
      exact .failed machines causes
  | silent =>
      exact .done machines
  | yielded values =>
      exact .done (simulation.push machines values)

/-- A builtin sees corresponding operands as corresponding values. -/
theorem seenBy_ok
    (machines : simulation.machines machine machine')
    {builtin : Builtin}
    {operands operands' seen : List Value}
    (values : List.Forall₂ simulation.Values operands operands')
    (allSeen : machine.seenBy builtin operands = .ok seen) :
    ∃ seen', machine'.seenBy builtin operands' = .ok seen' ∧
      List.Forall₂ simulation.Values seen seen' := by
  unfold Machine.seenBy at allSeen ⊢
  by_cases raw : builtin.isRaw = true
  · simp only [raw, ↓reduceIte, Except.ok.injEq] at allSeen ⊢
    subst allSeen
    exact ⟨operands', rfl, values⟩
  · simp only [raw] at allSeen ⊢
    exact resolveAll_ok machines values allSeen

theorem seenBy_error
    (machines : simulation.machines machine machine')
    {builtin : Builtin}
    {operands operands' : List Value}
    {cause : Cause}
    (values : List.Forall₂ simulation.Values operands operands')
    (failed : machine.seenBy builtin operands = .error cause) :
    machine'.seenBy builtin operands' = .error cause := by
  unfold Machine.seenBy at failed ⊢
  by_cases raw : builtin.isRaw = true
  · simp [raw] at failed
  · simp only [raw] at failed ⊢
    exact resolveAll_error machines values failed

/-- Corresponding machines apply a builtin alike. -/
theorem apply_follows
    (machines : simulation.machines machine machine')
    {builtin : Builtin}
    (allowed : simulation.allowed builtin) :
    simulation.Answers (machine.apply builtin) (machine'.apply builtin) := by
  rcases machine.apply_cases builtin with
      ⟨cause, failed, shape⟩ | ⟨operands, stack, taken, ⟨cause, unresolved, shape⟩ |
        ⟨seen, effect, allSeen, performed, shape⟩⟩
  · rw [shape]
    rcases simulation.underflow machines failed with failed' | excused
    · rw [machine'.apply_of_underflow failed']
      exact .failed machines (.same cause)
    · exact .excused (excused_extends excused (machine'.apply_reworks builtin).extends)
  · rw [shape]
    obtain ⟨operands', stack', taken', values, popped⟩ := simulation.take machines taken
    have unresolved' := seenBy_error popped values unresolved
    rw [machine'.apply_of_unresolved taken' unresolved']
    exact .failed popped (.same cause)
  · rw [shape]
    obtain ⟨operands', stack', taken', values, popped⟩ := simulation.take machines taken
    obtain ⟨seen', allSeen', seenValues⟩ := seenBy_ok popped values allSeen
    have counted : seen.length = builtin.arity :=
      (Machine.length_seenBy allSeen).trans (Stack.popN_ok taken).2
    obtain ⟨effect', performed', effects⟩ :=
      perform_follows popped allowed counted seenValues performed
    rw [machine'.apply_of_performed taken' allSeen' performed']
    exact effects.answers

end Builtins

section Operations

/-- Corresponding machines give up corresponding top values. -/
theorem pop_ok
    (machines : simulation.machines machine machine')
    {top : Value}
    {stack : Stack}
    (popped : machine.stack.pop = .ok (top, stack)) :
    ∃ top' stack',
      machine'.stack.pop = .ok (top', stack') ∧
        simulation.Values top top' ∧
        simulation.machines { machine with stack } { machine' with stack := stack' } := by
  have taken : machine.stack.popN 1 = .ok ([top], stack) := by
    rw [Stack.popN_one, popped]
    rfl
  obtain ⟨taken', stack', shape', values, after⟩ := simulation.take machines taken
  rw [Stack.popN_one] at shape'
  cases popped' : machine'.stack.pop with
  | error cause =>
      simp [popped', Except.map] at shape'
  | ok found =>
      simp only [popped', Except.map, Except.ok.injEq, Prod.mk.injEq] at shape'
      obtain ⟨rfl, rfl⟩ := shape'
      rcases values with _ | ⟨topValues, _ | _⟩
      exact ⟨found.1, found.2, rfl, topValues, after⟩

/-- Corresponding machines lack a top value alike, unless the second is excused. -/
theorem pop_error
    (machines : simulation.machines machine machine')
    {cause : Cause}
    (failed : machine.stack.pop = .error cause) :
    machine'.stack.pop = .error cause ∨ simulation.excused cause machine machine' := by
  have underflow : machine.stack.popN 1 = .error cause := by
    rw [Stack.popN_one, failed]
    rfl
  rcases simulation.underflow machines underflow with underflow' | excused
  · left
    rw [Stack.popN_one] at underflow'
    cases popped' : machine'.stack.pop with
    | error cause' =>
        simpa [popped', Except.map] using underflow'
    | ok found =>
        simp [popped', Except.map] at underflow'
  · exact .inr excused

/-- Corresponding machines carry out an operator alike. -/
theorem operate_follows
    (machines : simulation.machines machine machine')
    {name : String}
    (allowed : ∀ builtin ∈ Builtin.find? machine.vocabulary name, simulation.allowed builtin) :
    simulation.Answers
      (Evaluation.operate name machine) (Evaluation.operate name machine') := by
  unfold Evaluation.operate
  rw [simulation.vocabulary machines]
  cases found : Builtin.find? machine.vocabulary name with
  | some builtin =>
      exact apply_follows machines (allowed builtin (by simp [found]))
  | none =>
      exact .failed machines (.same _)

/-- Corresponding machines make functions alike. -/
theorem makeFunction_follows
    (machines : simulation.machines machine machine') :
    simulation.Answers
      (Evaluation.makeFunction machine) (Evaluation.makeFunction machine') := by
  cases popped : machine.stack.pop with
  | error cause =>
      rcases pop_error machines popped with popped' | excused
      · simp only [Evaluation.makeFunction, popped, popped']
        exact .failed machines (.same cause)
      · have later := excused_extends excused (Evaluation.makeFunction_extends machine')
        simp only [Evaluation.makeFunction, popped]
        exact .excused later
  | ok taken =>
      obtain ⟨top, stack⟩ := taken
      obtain ⟨top', stack', popped', values, after⟩ := pop_ok machines popped
      simp only [Evaluation.makeFunction, popped, popped']
      cases resolved : { machine with stack }.resolve top with
      | error cause =>
          simp only [resolve_error after values resolved]
          exact .failed after (.same cause)
      | ok found =>
          obtain ⟨found', resolved', foundValues⟩ := resolve_ok after values resolved
          simp only [resolved']
          have alike := foundValues
          cases foundValues with
          | block code =>
              exact .done (simulation.push after (.function code))
          | _ =>
              exact .failed after (.notBlock alike)

/-- Corresponding machines bind names alike. -/
theorem assign_follows
    (machines : simulation.machines machine machine') :
    simulation.Answers (Evaluation.assign machine) (Evaluation.assign machine') := by
  cases taken : machine.stack.popN 2 with
  | error cause =>
      rcases simulation.underflow machines taken with taken' | excused
      · simp only [Evaluation.assign, taken, taken']
        exact .failed machines (.same cause)
      · have later := excused_extends excused (Evaluation.assign_extends machine')
        simp only [Evaluation.assign, taken]
        exact .excused later
  | ok answer =>
      obtain ⟨operands, stack⟩ := answer
      obtain ⟨operands', stack', taken', values, after⟩ := simulation.take machines taken
      obtain ⟨below, value, rfl⟩ := List.length_eq_two.mp (Stack.popN_ok taken).2
      rcases values with _ | ⟨belowValues, _ | ⟨valueValues, _ | _⟩⟩
      unfold Evaluation.assign
      simp only [taken, taken']
      have belowAlike := belowValues
      cases belowValues with
      | @name target permitted =>
          simp only
          cases resolved : { machine with stack }.resolve value with
          | error cause =>
              simp only [resolve_error after valueValues resolved]
              exact .failed after (.same cause)
          | ok found =>
              obtain ⟨found', resolved', foundValues⟩ := resolve_ok after valueValues resolved
              simp only [resolved']
              have alike := foundValues
              cases foundValues with
              | name _ =>
                  exact .failed after (.same _)
              | _ =>
                  exact .done (simulation.bind after permitted alike)
      | _ =>
          exact .failed after (.notName belowAlike)

end Operations

section Calls

variable {runBody runBody' : Runner}

/-- Settling corresponding answers at corresponding tokens gives corresponding outcomes. -/
theorem Answers.settle
    {answer answer' : Machine × Option Cause}
    {token token' : Token}
    (answers : simulation.Answers answer answer')
    (tokens : simulation.tokens token token') :
    simulation.Outcomes (Evaluation.settle token answer) (Evaluation.settle token' answer') := by
  cases answers with
  | done machines =>
      exact .done machines
  | failed machines causes =>
      exact .failed machines ⟨causes, .some tokens⟩
  | excused excused =>
      exact .excused (by simpa [Error.atToken] using excused)

theorem Answers.outcomeOf
    {answer answer' : Machine × Option Cause}
    (answers : simulation.Answers answer answer') :
    simulation.Outcomes (Evaluation.outcomeOf answer) (Evaluation.outcomeOf answer') := by
  cases answers with
  | done machines =>
      exact .done machines
  | failed machines causes =>
      exact .failed machines ⟨causes, .none⟩
  | excused excused =>
      exact .excused excused

/-- Blaming corresponding tokens keeps outcomes corresponding. -/
theorem Outcomes.blame
    {outcome outcome' : Outcome}
    {token token' : Token}
    (outcomes : simulation.Outcomes outcome outcome')
    (tokens : simulation.tokens token token') :
    simulation.Outcomes (Evaluation.blame token outcome) (Evaluation.blame token' outcome') := by
  cases outcomes with
  | done machines =>
      exact .done machines
  | @failed machine machine' error error' machines errors =>
      refine .failed machines ⟨errors.cause, ?_⟩
      have inner := errors.token
      simp only [Error.attach]
      generalize error.token = held at inner
      generalize error'.token = held' at inner
      cases inner with
      | none =>
          exact .some tokens
      | some innerTokens =>
          exact .some innerTokens
  | excused excused =>
      exact .excused excused

/-- Leaving a call keeps outcomes corresponding, if their bodies ran at least one level down. -/
theorem Outcomes.leave
    {outcome outcome' : Outcome}
    (outcomes : simulation.Outcomes outcome outcome')
    (raised : 0 < outcome.machine.depth)
    (raised' : 0 < outcome'.machine.depth) :
    simulation.Outcomes (Evaluation.leave outcome) (Evaluation.leave outcome') := by
  cases outcomes with
  | done machines =>
      exact .done (simulation.leave machines raised raised')
  | failed machines errors =>
      exact .failed (simulation.leave machines raised raised') errors.caught
  | @excused machine error _ excused =>
      have caught : simulation.excused error.caught.cause machine outcome'.machine := by
        obtain ⟨cause, token⟩ := error
        cases cause with
        | hostFailure =>
            exact simulation.excused_caught excused
        | _ =>
            exact excused
      exact .excused (simulation.excused_later caught rfl ⟨"", String.append_empty.symm⟩)

/--
Two hosts that stay in step, as far as the first applies what is allowed: the second has the frames
that the first has, or it has more and is excused where those of the first run out.
-/
structure Keeps
    (simulation : Simulation)
    (bodyApplied : List Token → Machine → List Builtin)
    (frames frames' : Nat)
    (runBody runBody' : Runner) :
    Prop where
  room :
    frames ≤ frames'
  exhausted :
    frames = frames' ∨
      ∀ {machine machine'}, simulation.machines machine machine' →
        simulation.excused .hostFailure machine machine'
  extending :
    Evaluation.Extending runBody
  extending' :
    Evaluation.Extending runBody'
  follows :
    ∀ ⦃body body' : List Token⦄ ⦃machine machine' : Machine⦄,
      simulation.Code body body' →
        simulation.machines machine machine' →
        (∀ builtin ∈ bodyApplied body machine, simulation.allowed builtin) →
        simulation.Outcomes (runBody body machine) (runBody' body' machine')

variable {bodyApplied : List Token → Machine → List Builtin} {frames frames' : Nat}

/-- Where the first host gives out, so does the second, or it is excused. -/
theorem hostFails_follows
    (keeps : simulation.Keeps bodyApplied frames frames' runBody runBody')
    (machines : simulation.machines machine machine')
    {failed : Machine}
    (sameOutput : failed.output = machine.output)
    {outcome' : Outcome}
    (extends' : machine'.Extends outcome'.machine)
    (alike : frames = frames' → simulation.Outcomes (Evaluation.hostFails failed) outcome') :
    simulation.Outcomes (Evaluation.hostFails failed) outcome' := by
  rcases keeps.exhausted with same | excused
  · exact alike same
  · exact .excused (simulation.excused_later (excused machines) sameOutput extends'.output)

/-- Corresponding machines call a function alike. -/
theorem callFunction_follows
    (keeps : simulation.Keeps bodyApplied frames frames' runBody runBody')
    (machines : simulation.machines machine machine')
    {body body' : List Token}
    (code : simulation.Code body body')
    (allowed :
      ¬(machine.maxDepth ≤ machine.depth ∨ frames < Evaluation.recordFrames) →
        ∀ builtin ∈ bodyApplied body (Evaluation.enter machine body),
          simulation.allowed builtin) :
    simulation.Outcomes
      (Evaluation.callFunction frames runBody body machine)
      (Evaluation.callFunction frames' runBody' body' machine') := by
  have extends' :
      machine'.Extends (Evaluation.callFunction frames' runBody' body' machine').machine :=
    Evaluation.callFunction_extends frames' keeps.extending' body' machine'
  by_cases tooDeep : machine.maxDepth ≤ machine.depth
  · rcases simulation.tooDeep machines tooDeep with ⟨tooDeep', limits⟩ | excused
    · simp only [Evaluation.callFunction, tooDeep, tooDeep', ↓reduceIte]
      exact .failed machines ⟨.tooDeep limits, .none⟩
    · have later := excused_extends excused extends'
      rw [Evaluation.callFunction, if_pos tooDeep]
      exact .excused later
  obtain ⟨notTooDeep', entered⟩ := simulation.enter machines code tooDeep
  by_cases tooFew : frames < Evaluation.recordFrames
  · rw [Evaluation.callFunction, if_neg tooDeep, if_pos tooFew]
    have sameOutput : (Evaluation.deepen machine).output = machine.output :=
      rfl
    refine hostFails_follows keeps machines sameOutput extends' fun same => ?_
    rw [Evaluation.callFunction, if_neg notTooDeep', if_pos (same ▸ tooFew)]
    exact .failed (simulation.deepen machines tooDeep) ⟨.same _, .none⟩
  · have enough' : ¬frames' < Evaluation.recordFrames :=
      fun tooFew' => tooFew (Nat.lt_of_le_of_lt keeps.room tooFew')
    simp only [Evaluation.callFunction, tooDeep, tooFew, notTooDeep', enough', ↓reduceIte]
    have depth := (keeps.extending body (Evaluation.enter machine body)).depth
    have depth' := (keeps.extending' body' (Evaluation.enter machine' body')).depth
    exact (keeps.follows code entered (allowed (by simp [tooDeep, tooFew]))).leave
      (Nat.lt_of_lt_of_le (Nat.succ_pos _) depth) (Nat.lt_of_lt_of_le (Nat.succ_pos _) depth')

/-- A call that finds something finds something that corresponds with as many frames or more. -/
theorem seek_ok
    (machines : simulation.machines machine machine')
    (room : frames ≤ frames')
    {value value' callee : Value}
    (values : simulation.Values value value')
    (found : Evaluation.seek frames machine value = .ok callee) :
    ∃ callee', Evaluation.seek frames' machine' value' = .ok callee' ∧
      simulation.Values callee callee' := by
  obtain ⟨callee', resolved', calleeValues⟩ :=
    resolve_ok machines values (Evaluation.resolve_of_seek found)
  refine ⟨callee', ?_, calleeValues⟩
  cases values with
  | name permitted =>
      cases frames with
      | zero =>
          cases found
      | succ fewer =>
          rwa [Evaluation.seek_of_pos (by omega)]
  | _ =>
      rwa [Evaluation.seek_of_not_name (by simp)]

/-- A call that fails to find anything does so on both hosts, or the second is excused. -/
theorem seek_error
    (keeps : simulation.Keeps bodyApplied frames frames' runBody runBody')
    (machines : simulation.machines machine machine')
    {value value' : Value}
    {cause : Cause}
    (values : simulation.Values value value')
    (failed : Evaluation.seek frames machine value = .error cause) :
    Evaluation.seek frames' machine' value' = .error cause ∨
      simulation.excused cause machine machine' := by
  cases values with
  | name permitted =>
      cases frames with
      | zero =>
          cases failed
          rcases keeps.exhausted with rfl | excused
          · exact .inl rfl
          · exact .inr (excused machines)
      | succ fewer =>
          rw [Evaluation.seek_of_pos (by omega)] at failed
          rw [Evaluation.seek_of_pos (Nat.lt_of_lt_of_le (Nat.succ_pos _) keeps.room)]
          exact .inl (resolve_error machines (.name permitted) failed)
  | _ =>
      rw [Evaluation.seek_of_not_name (by simp)] at failed
      cases failed

/-- Corresponding machines call what corresponding names stand for alike. -/
theorem call_follows
    (keeps : simulation.Keeps bodyApplied frames frames' runBody runBody')
    (machines : simulation.machines machine machine')
    {token : Token}
    (allowed :
      ∀ builtin ∈ Evaluation.stepApplied frames bodyApplied (.form .call token) machine,
        simulation.allowed builtin) :
    simulation.Outcomes
      (Evaluation.call frames runBody machine)
      (Evaluation.call frames' runBody' machine') := by
  have extends' : machine'.Extends (Evaluation.call frames' runBody' machine').machine :=
    Evaluation.call_extends frames' keeps.extending' machine'
  cases popped : machine.stack.pop with
  | error cause =>
      rcases pop_error machines popped with popped' | excused
      · simp only [Evaluation.call, popped, popped']
        exact .failed machines ⟨.same cause, .none⟩
      · have later := excused_extends excused extends'
        simp only [Evaluation.call, popped]
        exact .excused later
  | ok taken =>
      obtain ⟨top, stack⟩ := taken
      obtain ⟨top', stack', popped', values, after⟩ := pop_ok machines popped
      simp only [Evaluation.stepApplied, Evaluation.target, popped,
        ← Evaluation.seek_withStack frames machine stack] at allowed
      cases found : Evaluation.seek frames { machine with stack } top with
      | error cause =>
          have failed :
              Evaluation.call frames runBody machine =
                ⟨{ machine with stack }, some ⟨cause, none⟩⟩ := by
            simp only [Evaluation.call, popped, found]
          rw [failed]
          rcases seek_error keeps after values found with failed' | excused
          · simp only [Evaluation.call, popped', failed']
            exact .failed after ⟨.same cause, .none⟩
          · exact .excused (simulation.excused_later excused rfl extends'.output)
      | ok callee =>
          obtain ⟨callee', found', calleeValues⟩ := seek_ok after keeps.room values found
          simp only [Evaluation.call, popped, popped', found, found']
          simp only [found] at allowed
          have alike := calleeValues
          cases calleeValues with
          | function code =>
              refine callFunction_follows keeps after code ?_
              intro runs
              simpa [runs] using allowed
          | builtin word =>
              exact (apply_follows after (allowed word (by simp))).outcomeOf
          | _ =>
              exact .failed after ⟨.notCallable alike, .none⟩

end Calls

section Runs

variable {runBody runBody' : Runner} {bodyApplied : List Token → Machine → List Builtin}
  {frames frames' : Nat}

/-- Corresponding instructions are carried out alike. -/
theorem step_follows
    (keeps : simulation.Keeps bodyApplied frames frames' runBody runBody')
    (machines : simulation.machines machine machine')
    {instruction instruction' : Instruction}
    (instructions : simulation.Instructions simulation.limits instruction instruction')
    (allowed :
      ∀ builtin ∈ Evaluation.stepApplied frames bodyApplied instruction machine,
        simulation.allowed builtin) :
    simulation.Outcomes
      (Evaluation.step frames runBody instruction machine)
      (Evaluation.step frames' runBody' instruction' machine') := by
  cases instructions with
  | push values =>
      exact .done (simulation.push machines values)
  | operate name tokens =>
      have answers := operate_follows machines fun builtin found =>
        allowed builtin (by simpa [Evaluation.stepApplied] using found)
      exact answers.settle tokens
  | form special tokens =>
      cases special with
      | makeFunction =>
          exact (makeFunction_follows machines).settle tokens
      | call =>
          exact (call_follows keeps machines allowed).blame tokens
      | assign =>
          exact (assign_follows machines).settle tokens
  | fail errors =>
      exact .failed machines errors

/-- Corresponding lists of instructions are carried out alike. -/
theorem execute_follows
    (keeps : simulation.Keeps bodyApplied frames frames' runBody runBody')
    (machines : simulation.machines machine machine')
    {instructions instructions' : List Instruction}
    (alike : List.Forall₂ (simulation.Instructions simulation.limits) instructions instructions')
    (allowed :
      ∀ builtin ∈ Evaluation.executeApplied frames runBody bodyApplied instructions machine,
        simulation.allowed builtin) :
    simulation.Outcomes
      (Evaluation.execute frames runBody instructions machine)
      (Evaluation.execute frames' runBody' instructions' machine') := by
  induction alike generalizing machine machine' with
  | nil =>
      exact .done machines
  | @cons instruction instruction' rest rest' first _ inductionHypothesis =>
      unfold Evaluation.executeApplied at allowed
      have stepped :=
        step_follows keeps machines first fun builtin member =>
          allowed builtin (List.mem_append_left _ member)
      unfold Evaluation.execute
      generalize Evaluation.step frames runBody instruction machine = outcome at stepped allowed
      generalize Evaluation.step frames' runBody' instruction' machine' = outcome' at stepped
      cases stepped with
      | done after =>
          exact inductionHypothesis after fun builtin member =>
            allowed builtin (List.mem_append_right _ member)
      | failed after errors =>
          exact .failed after errors
      | excused excused =>
          -- The first run ends here; the second may go on, which the excuse outlives.
          refine .excused ?_
          rcases outcome' with ⟨after', _ | error'⟩
          · exact excused_extends excused
              (Evaluation.execute_extends frames' keeps.extending' rest' after')
          · exact excused

/--
Runs of corresponding code on corresponding machines stay in step.  The second host may have more
frames than the first, if it is excused where those of the first run out.
-/
theorem run_keeps
    (simulation : Simulation)
    {frames frames' : Nat}
    (room : frames ≤ frames')
    (exhausted :
      frames = frames' ∨
        ∀ {machine machine'}, simulation.machines machine machine' →
          simulation.excused .hostFailure machine machine') :
    simulation.Keeps (Evaluation.applied frames) frames frames'
      (Evaluation.run frames) (Evaluation.run frames') := by
  have extending := Evaluation.run_extends
  induction frames using Evaluation.framesInduction generalizing frames' with
  | tooFew frames few =>
      refine ⟨room, exhausted, extending frames, extending frames', ?_⟩
      intro body body' machine machine' _ machines _
      rw [Evaluation.run_tooFew few]
      rcases exhausted with rfl | excused
      · rw [Evaluation.run_tooFew few]
        exact .failed machines ⟨.same _, .none⟩
      · exact .excused (excused_extends (excused machines) (extending frames' body' machine'))
  | nested frames inductionHypothesis =>
      obtain ⟨fewer', rfl⟩ : ∃ fewer', frames' = fewer' + 4 :=
        Nat.exists_eq_add_of_le' (Nat.le_trans (Nat.le_add_left 4 frames) room)
      have inner :=
        inductionHypothesis (Nat.le_of_add_le_add_right room)
          (exhausted.imp Nat.add_right_cancel id)
      refine ⟨room, exhausted, extending _, extending _, ?_⟩
      intro body body' machine machine' code machines allowed
      exact execute_follows inner machines (Likeness.ofTokens code) allowed

/-- Where nothing is excused and all builtins are allowed, runs on one host end in step. -/
theorem run_in_step
    (simulation : Simulation)
    (notExcused : ∀ {cause machine machine'}, ¬simulation.excused cause machine machine')
    (allowed : ∀ builtin, simulation.allowed builtin)
    (frames : Nat)
    {tokens tokens' : List Token}
    (code : simulation.Code tokens tokens')
    (machines : simulation.machines machine machine') :
    let outcome := Evaluation.run frames tokens machine
    let outcome' := Evaluation.run frames tokens' machine'
    simulation.machines outcome.machine outcome'.machine ∧
      Option.Rel (simulation.Errors simulation.limits) outcome.error outcome'.error := by
  intro outcome outcome'
  have outcomes : simulation.Outcomes outcome outcome' :=
    (simulation.run_keeps (Nat.le_refl frames) (.inl rfl)).follows code machines
      fun builtin _ => allowed builtin
  generalize outcome = first at outcomes ⊢
  generalize outcome' = second at outcomes ⊢
  cases outcomes with
  | done after =>
      exact ⟨after, .none⟩
  | failed after errors =>
      exact ⟨after, .some errors⟩
  | excused excused =>
      exact (notExcused excused).elim

end Runs

end Simulation

end StackScript
