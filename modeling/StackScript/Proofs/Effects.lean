import Mathlib.Data.List.Basic
import StackScript.Evaluation

namespace StackScript

/-!
# What operations can do to a machine

Each operation of the evaluator is described once: what it may leave on the stack, what it may
print, which failures it may report, and what it leaves alone.  Everything a run preserves is
derived from these descriptions.
-/

/-- The kinds of failure that operations report while a program runs. -/
def ErrorKind.operational : List ErrorKind :=
  [.underflow, .unbound, .typeMismatch, .notCallable, .arithmetic, .recursion]

/-- Whether a cause is one that operations report. -/
def Cause.IsOperational (cause : Cause) : Prop :=
  cause.kind ∈ ErrorKind.operational

/--
The failures that operations other than calls can report on a machine.  A name that is found unbound
stands on the stack or is the one to be printed.  A name is refused as a value only where one is
bound already.
-/
inductive Machine.Reports (machine : Machine) : Cause → Prop where
  | underflow (expected held : Int) :
      machine.Reports (.underflow expected held)
  | unbound
      {name : String}
      (onStack : .name name ∈ machine.stack.topFirst) :
      machine.Reports (.unbound name)
  | unprintable :
      machine.Reports (.unbound Builtin.printedName)
  | notNumber (operation : String) (operand : Value) :
      machine.Reports (.notNumber operation operand)
  | notBlock (operand : Value) :
      machine.Reports (.notBlock operand)
  | notName (operand : Value) :
      machine.Reports (.notName operand)
  | unresolvedBinding
      {name target known : String}
      (bound : (known, .name target) ∈ machine.bindings.entries) :
      machine.Reports (.unresolvedBinding name target)
  | divisionByZero :
      machine.Reports .divisionByZero
  | moduloByZero :
      machine.Reports .moduloByZero

/-- The failures that calls can report on a machine. -/
inductive Machine.CallReports (machine : Machine) : Cause → Prop where
  | operation
      {cause : Cause}
      (reports : machine.Reports cause) :
      machine.CallReports cause
  | notCallable (operand : Value) :
      machine.CallReports (.notCallable operand)
  | tooDeep (limit : Int) :
      machine.CallReports (.tooDeep limit)
  | hostExhausted :
      machine.CallReports .hostExhausted
  | hostFailure :
      machine.CallReports .hostFailure

/-- Operations other than calls do not fail because of the host. -/
theorem Machine.Reports.ne_hostFailure
    {machine : Machine}
    {cause : Cause}
    (reports : machine.Reports cause) :
    cause ≠ .hostFailure := by
  rintro rfl
  cases reports

/-- Whatever operations and calls can report is operational. -/
theorem Machine.CallReports.operational
    {machine : Machine}
    {cause : Cause}
    (reports : machine.CallReports cause) :
    cause.IsOperational := by
  cases reports with
  | operation reports =>
      cases reports <;> simp [Cause.IsOperational, ErrorKind.operational, Cause.kind]
  | _ =>
      simp [Cause.IsOperational, ErrorKind.operational, Cause.kind]

/-- A call passes an error on as it is, or reports a failure of the host instead. -/
theorem Error.caught_cases
    (error : Error) :
    error.caught = error ∨ error.caught = ⟨.hostExhausted, none⟩ := by
  unfold caught
  split
  · exact .inr rfl
  · exact .inl rfl

theorem Error.caught_of_ne_hostFailure
    {error : Error}
    (notOfHost : error.cause ≠ .hostFailure) :
    error.caught = error := by
  unfold caught
  split
  · contradiction
  · rfl

namespace Stack

/-- Taking the top value is taking one value. -/
theorem popN_one
    (stack : Stack) :
    stack.popN 1 = stack.pop.map fun taken => ([taken.1], taken.2) := by
  rcases stack with ⟨values⟩
  cases values with
  | nil =>
      rfl
  | cons top rest =>
      simp [popN, pop, size, Except.map]

/-- Only an underflow keeps values from being taken. -/
theorem popN_error
    {stack : Stack}
    {count : Nat}
    {cause : Cause}
    (failed : stack.popN count = .error cause) :
    cause = .underflow count stack.size := by
  unfold popN at failed
  split at failed
  · cases failed
    rfl
  · cases failed

/-- Taken values and what stays make up the stack. -/
theorem popN_ok
    {stack after : Stack}
    {count : Nat}
    {values : List Value}
    (taken : stack.popN count = .ok (values, after)) :
    stack.topFirst = values.reverse ++ after.topFirst ∧
      values.length = count := by
  unfold popN at taken
  split at taken
  · cases taken
  · next enough =>
    cases taken
    simp only [size] at enough
    simp only [List.reverse_reverse, List.take_append_drop,
      List.length_reverse, List.length_take, true_and]
    omega

end Stack

namespace Machine

/--
What running a program never changes or takes back: the builtins, the limit for the depth of calls,
the depth that is reached, and the text that is already printed.
-/
structure Extends (before after : Machine) : Prop where
  vocabulary :
    after.vocabulary = before.vocabulary
  depth :
    before.depth ≤ after.depth
  maxDepth :
    after.maxDepth = before.maxDepth
  output :
    ∃ printed, after.output = before.output ++ printed

namespace Extends

theorem refl
    (machine : Machine) :
    machine.Extends machine where
  vocabulary := rfl
  depth := Nat.le_refl _
  maxDepth := rfl
  output := ⟨"", by simp⟩

theorem trans
    {first second third : Machine}
    (earlier : first.Extends second)
    (later : second.Extends third) :
    first.Extends third where
  vocabulary :=
    later.vocabulary.trans earlier.vocabulary
  depth :=
    Nat.le_trans earlier.depth later.depth
  maxDepth :=
    later.maxDepth.trans earlier.maxDepth
  output := by
    obtain ⟨printedFirst, firstShape⟩ := earlier.output
    obtain ⟨printedSecond, secondShape⟩ := later.output
    exact ⟨printedFirst ++ printedSecond,
      by rw [secondShape, firstShape, String.append_assoc]⟩

end Extends

/-- Looking up a name finds a binding or a builtin, or the name is unbound. -/
theorem lookup_cases
    (machine : Machine)
    (name : String) :
    (∃ value, (name, value) ∈ machine.bindings.entries ∧
        machine.lookup name = .ok value) ∨
      (∃ builtin, machine.lookup name = .ok (.builtin builtin)) ∨
      machine.lookup name = .error (.unbound name) := by
  unfold lookup
  cases bound : machine.bindings.get? name with
  | some value =>
      left
      obtain ⟨before, after, shape, _⟩ := List.lookup_eq_some_iff.mp bound
      exact ⟨value, by simp [shape], rfl⟩
  | none =>
      right
      cases found : Builtin.find? machine.vocabulary name with
      | some builtin =>
          exact .inl ⟨builtin, rfl⟩
      | none =>
          exact .inr rfl

/-- Resolving fails only on an unbound name. -/
theorem resolve_error
    {machine : Machine}
    {value : Value}
    {cause : Cause}
    (failed : machine.resolve value = .error cause) :
    ∃ name, value = .name name ∧ cause = .unbound name := by
  cases value with
  | name symbol =>
      rcases machine.lookup_cases symbol with
          ⟨bound, _, found⟩ | ⟨builtin, found⟩ | unbound
      · simp [resolve, found] at failed
      · simp [resolve, found] at failed
      · simp only [resolve, unbound, Except.error.injEq] at failed
        exact ⟨symbol, rfl, failed.symm⟩
  | _ =>
      simp [resolve] at failed

/-- A value stands for a name only if some name is bound to that name. -/
theorem bound_of_resolve_name
    {machine : Machine}
    {value : Value}
    {target : String}
    (found : machine.resolve value = .ok (.name target)) :
    ∃ known, (known, .name target) ∈ machine.bindings.entries := by
  cases value with
  | name symbol =>
      rcases machine.lookup_cases symbol with
          ⟨bound, member, isBound⟩ | ⟨builtin, isBuiltin⟩ | unbound
      · simp only [resolve, isBound, Except.ok.injEq] at found
        subst found
        exact ⟨symbol, member⟩
      · simp [resolve, isBuiltin] at found
      · simp [resolve, unbound] at found
  | _ =>
      simp [resolve] at found

/-- Several values are resolved when each of them is. -/
theorem resolveAll_cons_ok_iff
    {machine : Machine}
    {value : Value}
    {rest resolved : List Value} :
    machine.resolveAll (value :: rest) = .ok resolved ↔
      ∃ first others,
        machine.resolve value = .ok first ∧
          machine.resolveAll rest = .ok others ∧
          first :: others = resolved := by
  rw [resolveAll]
  cases machine.resolve value <;> cases machine.resolveAll rest <;> simp

/-- The first value that cannot be resolved decides how resolving several fails. -/
theorem resolveAll_cons_error_iff
    {machine : Machine}
    {value : Value}
    {rest : List Value}
    {cause : Cause} :
    machine.resolveAll (value :: rest) = .error cause ↔
      machine.resolve value = .error cause ∨
        (∃ first, machine.resolve value = .ok first) ∧
          machine.resolveAll rest = .error cause := by
  rw [resolveAll]
  cases machine.resolve value <;> cases machine.resolveAll rest <;> simp

theorem resolveAll_error
    {machine : Machine}
    {values : List Value}
    {cause : Cause}
    (failed : machine.resolveAll values = .error cause) :
    ∃ name, .name name ∈ values ∧ cause = .unbound name := by
  induction values with
  | nil =>
      cases failed
  | cons value rest inductionHypothesis =>
      rcases resolveAll_cons_error_iff.mp failed with firstFailed | ⟨_, restFailed⟩
      · obtain ⟨name, rfl, isUnbound⟩ := resolve_error firstFailed
        exact ⟨name, by simp, isUnbound⟩
      · obtain ⟨name, member, isUnbound⟩ := inductionHypothesis restFailed
        exact ⟨name, by simp [member], isUnbound⟩

end Machine

namespace Builtin

/-- A numeric builtin fails only on a division by zero. -/
theorem numeric?_error
    {builtin : Builtin}
    {compute : Float → Float → Except Cause Float}
    {left right : Float}
    {cause : Cause}
    (isNumeric : builtin.numeric? = some compute)
    (failed : compute left right = .error cause) :
    cause = .divisionByZero ∨ cause = .moduloByZero := by
  cases builtin <;> simp only [numeric?, Option.some.injEq, reduceCtorEq] at isNumeric <;>
    subst isNumeric <;>
    simp only [reduceCtorEq] at failed
  all_goals
    split at failed
    · cases failed
      simp
    · cases failed

theorem numbers_cons_ok_iff
    {operation : String}
    {number : Float}
    {rest : List Value}
    {found : List Float} :
    numbers operation (.number number :: rest) = .ok found ↔
      ∃ others, numbers operation rest = .ok others ∧ number :: others = found := by
  rw [numbers]
  cases numbers operation rest <;> simp

theorem numbers_cons_error_iff
    {operation : String}
    {number : Float}
    {rest : List Value}
    {cause : Cause} :
    numbers operation (.number number :: rest) = .error cause ↔
      numbers operation rest = .error cause := by
  rw [numbers]
  cases numbers operation rest <;> simp

/-- Numbers are refused only because an operand is none. -/
theorem numbers_error
    {operation : String}
    {operands : List Value}
    {cause : Cause}
    (failed : numbers operation operands = .error cause) :
    ∃ operand, cause = .notNumber operation operand := by
  induction operands with
  | nil =>
      cases failed
  | cons operand rest inductionHypothesis =>
      cases operand with
      | number value =>
          exact inductionHypothesis (numbers_cons_error_iff.mp failed)
      | _ =>
          cases failed
          exact ⟨_, rfl⟩

theorem length_numbers
    {operation : String}
    {operands : List Value}
    {found : List Float}
    (allNumbers : numbers operation operands = .ok found) :
    found.length = operands.length := by
  induction operands generalizing found with
  | nil =>
      cases allNumbers
      rfl
  | cons operand rest inductionHypothesis =>
      cases operand with
      | number value =>
          obtain ⟨others, restNumbers, rfl⟩ := numbers_cons_ok_iff.mp allNumbers
          simp [inductionHypothesis restNumbers]
      | _ =>
          cases allNumbers

/-- A builtin that is given as many operands as it takes never miscounts them. -/
theorem perform_counted
    {builtin : Builtin}
    {operands : List Value}
    (counted : operands.length = builtin.arity)
    (machine : Machine) :
    ∃ effect, builtin.perform operands machine = .ok effect := by
  -- Two operands are two numbers or a refusal, so the pattern of the numeric builtins is met.
  have numericCounted
      {compute : Float → Float → Except Cause Float}
      (isNumeric : builtin.numeric? = some compute)
      (two : builtin.arity = 2) :
      ∃ effect, builtin.perform operands machine = .ok effect := by
    unfold perform
    simp only [isNumeric]
    cases found : numbers builtin.name operands with
    | error cause =>
        exact ⟨_, rfl⟩
    | ok numbers =>
        have length := length_numbers found
        rw [counted, two] at length
        obtain ⟨left, right, rfl⟩ := List.length_eq_two.mp length
        exact ⟨_, rfl⟩
  cases builtin with
  | print =>
      simp only [perform, numeric?]
      cases machine.bindings.get printedName with
      | error cause =>
          exact ⟨_, rfl⟩
      | ok value =>
          exact ⟨_, rfl⟩
  | showStack | drop =>
      exact ⟨_, rfl⟩
  | dup =>
      obtain ⟨top, rfl⟩ := List.length_eq_one_iff.mp counted
      exact ⟨_, rfl⟩
  | swap | «over» =>
      obtain ⟨below, top, rfl⟩ := List.length_eq_two.mp counted
      exact ⟨_, rfl⟩
  | _ =>
      exact numericCounted rfl rfl

end Builtin

/--
What a builtin can do with the operands that were taken for it: print, push some of them again, and
yield a number or report a failure.
-/
structure Effect.Bounded
    (operands : List Value)
    (before : Machine)
    (effect : Effect) :
    Prop where
  machine :
    ∃ pushed printed,
      effect.machine =
          { before with
            stack := ⟨pushed ++ before.stack.topFirst⟩
            output := before.output ++ printed } ∧
        ∀ value ∈ pushed, value ∈ operands
  yields :
    ∀ value, effect.result = .ok (some value) → ∃ number, value = .number number
  fails :
    ∀ cause, effect.result = .error cause → before.Reports cause

/-- The answer to an operation with an effect: what it yields is pushed. -/
def Effect.answer : Effect → Machine × Option Cause
  | ⟨after, .error cause⟩ =>
      (after, some cause)
  | ⟨after, .ok none⟩ =>
      (after, none)
  | ⟨after, .ok (some value)⟩ =>
      (after.push value, none)

namespace Effect.Bounded

variable {operands : List Value} {machine : Machine}

/-- Printing a line is bounded. -/
theorem prints
    (line : String) :
    Bounded operands machine ⟨machine.printLine line, .ok none⟩ where
  machine :=
    ⟨[], line ++ "\n", by simp [Machine.printLine, String.append_assoc], by simp⟩
  yields := by
    simp
  fails := by
    simp

/-- Pushing operands again is bounded. -/
theorem restacks
    {pushed : List Value}
    (fromOperands : ∀ value ∈ pushed, value ∈ operands) :
    Bounded operands machine
      ⟨{ machine with stack := ⟨pushed ++ machine.stack.topFirst⟩ }, .ok none⟩ where
  machine :=
    ⟨pushed, "", by simp, fromOperands⟩
  yields := by
    simp
  fails := by
    simp

/-- A failure that leaves the machine alone is bounded. -/
theorem failed
    {cause : Cause}
    (reports : machine.Reports cause) :
    Bounded operands machine ⟨machine, .error cause⟩ where
  machine :=
    ⟨[], "", by simp, by simp⟩
  yields := by
    simp
  fails other same := by
    cases same
    exact reports

/-- A number that leaves the machine alone is bounded. -/
theorem yielded
    (number : Float) :
    Bounded operands machine ⟨machine, .ok (some (.number number))⟩ where
  machine :=
    ⟨[], "", by simp, by simp⟩
  yields value same := by
    cases same
    exact ⟨number, rfl⟩
  fails := by
    simp

end Effect.Bounded

namespace Builtin

/-- Numeric builtins leave the machine alone: they report a failure or yield a number. -/
theorem perform_numeric_cases
    {builtin : Builtin}
    {compute : Float → Float → Except Cause Float}
    {operands : List Value}
    {machine : Machine}
    {effect : Effect}
    (isNumeric : builtin.numeric? = some compute)
    (performed : builtin.perform operands machine = .ok effect) :
    (∃ cause, machine.Reports cause ∧ effect = ⟨machine, .error cause⟩) ∨
      ∃ number, effect = ⟨machine, .ok (some (.number number))⟩ := by
  unfold perform at performed
  simp only [isNumeric] at performed
  split at performed
  · next cause refused =>
    cases performed
    obtain ⟨operand, rfl⟩ := numbers_error refused
    exact .inl ⟨_, .notNumber _ operand, rfl⟩
  · next left right _ =>
    cases performed
    cases computed : compute left right with
    | error cause =>
        rcases numeric?_error isNumeric computed with rfl | rfl
        · exact .inl ⟨_, .divisionByZero, rfl⟩
        · exact .inl ⟨_, .moduloByZero, rfl⟩
    | ok number =>
        exact .inr ⟨number, rfl⟩
  · cases performed

/-- Numeric builtins are bounded. -/
theorem perform_numeric_bounded
    {builtin : Builtin}
    {compute : Float → Float → Except Cause Float}
    {operands : List Value}
    {machine : Machine}
    {effect : Effect}
    (isNumeric : builtin.numeric? = some compute)
    (performed : builtin.perform operands machine = .ok effect) :
    effect.Bounded operands machine := by
  rcases perform_numeric_cases isNumeric performed with ⟨cause, reports, rfl⟩ | ⟨number, rfl⟩
  · exact .failed reports
  · exact .yielded number

/-- Every builtin is bounded. -/
theorem perform_bounded
    {builtin : Builtin}
    {operands : List Value}
    {machine : Machine}
    {effect : Effect}
    (performed : builtin.perform operands machine = .ok effect) :
    effect.Bounded operands machine := by
  cases builtin with
  | print =>
      simp only [perform, numeric?, Bindings.get] at performed
      cases bound : machine.bindings.get? printedName with
      | none =>
          simp only [bound, Except.ok.injEq] at performed
          subst performed
          exact .failed .unprintable
      | some value =>
          simp only [bound, Except.ok.injEq] at performed
          subst performed
          exact .prints value.display
  | showStack =>
      simp only [perform, numeric?, Except.ok.injEq] at performed
      subst performed
      exact .prints (stackLine machine.stack)
  | drop =>
      simp only [perform, numeric?, Except.ok.injEq] at performed
      subst performed
      exact .restacks fun value (again : value ∈ []) => by
        cases again
  | dup =>
      match operands, performed with
      | [top], performed =>
          cases performed
          exact .restacks fun value (again : value ∈ [top, top]) => by
            simp_all
  | swap =>
      match operands, performed with
      | [below, top], performed =>
          cases performed
          exact .restacks fun value (again : value ∈ [below, top]) => again
  | «over» =>
      match operands, performed with
      | [below, top], performed =>
          cases performed
          exact .restacks fun value (again : value ∈ [below, top, below]) => by
            simp only [List.mem_cons] at again ⊢
            rcases again with first | second | third | none
            · exact .inl first
            · exact .inr (.inl second)
            · exact .inl third
            · cases none
  | _ =>
      exact perform_numeric_bounded rfl performed

end Builtin

namespace Machine

/-- The machine after values were taken from its stack, and nothing else happened. -/
def Popped (before after : Machine) : Prop :=
  ∃ stack,
    after = { before with stack } ∧
      ∀ value ∈ stack.topFirst, value ∈ before.stack.topFirst

/-- Taking several values together takes values. -/
theorem Popped.of_popN
    {machine : Machine}
    {count : Nat}
    {operands : List Value}
    {stack : Stack}
    (taken : machine.stack.popN count = .ok (operands, stack)) :
    machine.Popped { machine with stack } :=
  ⟨stack, rfl, fun value member => by simp [(Stack.popN_ok taken).1, member]⟩

/-- What can be reported when values were taken could be reported before. -/
theorem Popped.reports
    {before after : Machine}
    (popped : before.Popped after)
    {cause : Cause}
    (reports : after.Reports cause) :
    before.Reports cause := by
  obtain ⟨stack, rfl, fromBefore⟩ := popped
  cases reports with
  | unbound onStack =>
      exact .unbound (fromBefore _ onStack)
  | unresolvedBinding bound =>
      exact .unresolvedBinding bound
  | unprintable =>
      exact .unprintable
  | _ =>
      constructor

/-- Taking values from the stack extends a machine. -/
theorem Popped.extends
    {before after : Machine}
    (popped : before.Popped after) :
    before.Extends after := by
  obtain ⟨stack, rfl, _⟩ := popped
  exact ⟨rfl, Nat.le_refl _, rfl, "", by simp⟩

/-- What a value stands for does not depend on the stack. -/
theorem resolve_withStack
    (machine : Machine)
    (stack : Stack)
    (value : Value) :
    { machine with stack }.resolve value = machine.resolve value := by
  cases value <;> rfl

/-- Every resolved value is what one of the values stands for. -/
theorem mem_of_resolveAll
    {machine : Machine}
    {values resolved : List Value}
    (allResolved : machine.resolveAll values = .ok resolved)
    {value : Value}
    (member : value ∈ resolved) :
    ∃ operand ∈ values, machine.resolve operand = .ok value := by
  induction values generalizing resolved with
  | nil =>
      cases allResolved
      cases member
  | cons first rest inductionHypothesis =>
      obtain ⟨found, others, firstResolved, restResolved, rfl⟩ :=
        resolveAll_cons_ok_iff.mp allResolved
      rcases List.mem_cons.mp member with isFirst | inRest
      · subst isFirst
        exact ⟨first, by simp, firstResolved⟩
      · obtain ⟨operand, operandMember, operandResolved⟩ :=
          inductionHypothesis restResolved inRest
        exact ⟨operand, by simp [operandMember], operandResolved⟩

/--
What applying a builtin can do to a machine: operands, or what they stand for, and numbers may be
pushed, text may be printed, and failures may be reported.
-/
structure Reworks (before : Machine) (answer : Machine × Option Cause) : Prop where
  machine :
    ∃ stack printed,
      answer.1 = { before with stack, output := before.output ++ printed } ∧
        ∀ value ∈ stack.topFirst,
          value ∈ before.stack.topFirst ∨
            (∃ operand ∈ before.stack.topFirst, before.resolve operand = .ok value) ∨
            ∃ number, value = .number number
  fails :
    ∀ cause, answer.2 = some cause → before.Reports cause

/-- Reporting a failure after taking values is within bounds. -/
theorem Popped.reworks
    {before after : Machine}
    (popped : before.Popped after)
    {cause : Cause}
    (reports : before.Reports cause) :
    before.Reworks (after, some cause) where
  machine := by
    obtain ⟨stack, rfl, fromBefore⟩ := popped
    exact ⟨stack, "", by simp, fun value member => .inl (fromBefore value member)⟩
  fails other same := by
    cases same
    exact reports

/-- Carrying out a builtin on operands from the stack keeps the stack within bounds. -/
theorem reworked_stack
    {machine : Machine}
    {stack : Stack}
    {operands : List Value}
    {effect : Effect}
    (stays : ∀ value ∈ stack.topFirst, value ∈ machine.stack.topFirst)
    (fromStack :
      ∀ value ∈ operands,
        value ∈ machine.stack.topFirst ∨
          ∃ operand ∈ machine.stack.topFirst, machine.resolve operand = .ok value)
    (bounded : effect.Bounded operands { machine with stack }) :
    ∃ after printed,
      effect.machine = { machine with stack := after, output := machine.output ++ printed } ∧
        ∀ value ∈ after.topFirst,
          value ∈ machine.stack.topFirst ∨
            (∃ operand ∈ machine.stack.topFirst, machine.resolve operand = .ok value) ∨
            ∃ number, value = .number number := by
  obtain ⟨pushed, printed, shape, fromOperands⟩ := bounded.machine
  refine ⟨⟨pushed ++ stack.topFirst⟩, printed, shape, ?_⟩
  intro value member
  rcases List.mem_append.mp member with again | stayed
  · rcases fromStack value (fromOperands value again) with held | resolved
    · exact .inl held
    · exact .inr (.inl resolved)
  · exact .inl (stays value stayed)

/-- The operands as a builtin sees them: as they are, or what they stand for. -/
def seenBy (machine : Machine) (builtin : Builtin) (operands : List Value) :
    Except Cause (List Value) :=
  if builtin.isRaw then
    .ok operands
  else
    machine.resolveAll operands

theorem length_resolveAll
    {machine : Machine}
    {values resolved : List Value}
    (allResolved : machine.resolveAll values = .ok resolved) :
    resolved.length = values.length := by
  induction values generalizing resolved with
  | nil =>
      cases allResolved
      rfl
  | cons first rest inductionHypothesis =>
      obtain ⟨found, others, _, restResolved, rfl⟩ := resolveAll_cons_ok_iff.mp allResolved
      simp [inductionHypothesis restResolved]

/-- A builtin sees as many operands as there are. -/
theorem length_seenBy
    {machine : Machine}
    {builtin : Builtin}
    {operands seen : List Value}
    (allSeen : machine.seenBy builtin operands = .ok seen) :
    seen.length = operands.length := by
  unfold seenBy at allSeen
  split at allSeen
  · cases allSeen
    rfl
  · exact length_resolveAll allSeen

section Apply

variable {builtin : Builtin} {operands seen : List Value} {stack : Stack} {cause : Cause}

/-- A builtin that lacks operands fails and takes none. -/
theorem apply_of_underflow
    (machine : Machine)
    (failed : machine.stack.popN builtin.arity = .error cause) :
    machine.apply builtin = (machine, some cause) := by
  simp [apply, failed]

/-- A builtin that cannot see its operands fails when it has taken them. -/
theorem apply_of_unresolved
    (machine : Machine)
    (taken : machine.stack.popN builtin.arity = .ok (operands, stack))
    (unresolved : { machine with stack }.seenBy builtin operands = .error cause) :
    machine.apply builtin = ({ machine with stack }, some cause) := by
  unfold seenBy at unresolved
  simp [apply, taken, unresolved]

/-- A builtin that sees its operands is carried out on them. -/
theorem apply_of_performed
    (machine : Machine)
    {effect : Effect}
    (taken : machine.stack.popN builtin.arity = .ok (operands, stack))
    (allSeen : { machine with stack }.seenBy builtin operands = .ok seen)
    (performed : builtin.perform seen { machine with stack } = .ok effect) :
    machine.apply builtin = effect.answer := by
  unfold seenBy at allSeen
  simp only [apply, taken, allSeen, performed]
  rcases effect with ⟨after, _ | _ | value⟩ <;> rfl

/--
Applying a builtin fails for want of operands, fails because an operand is unbound, or carries the
builtin out on the operands that were taken.
-/
theorem apply_cases
    (machine : Machine)
    (builtin : Builtin) :
    (∃ cause,
      machine.stack.popN builtin.arity = .error cause ∧
        machine.apply builtin = (machine, some cause)) ∨
      ∃ operands stack,
        machine.stack.popN builtin.arity = .ok (operands, stack) ∧
          ((∃ cause,
            { machine with stack }.seenBy builtin operands = .error cause ∧
              machine.apply builtin = ({ machine with stack }, some cause)) ∨
            ∃ seen effect,
              { machine with stack }.seenBy builtin operands = .ok seen ∧
                builtin.perform seen { machine with stack } = .ok effect ∧
                machine.apply builtin = effect.answer) := by
  cases taken : machine.stack.popN builtin.arity with
  | error cause =>
      exact .inl ⟨cause, rfl, machine.apply_of_underflow taken⟩
  | ok answer =>
      obtain ⟨operands, stack⟩ := answer
      refine .inr ⟨operands, stack, rfl, ?_⟩
      cases allSeen : { machine with stack }.seenBy builtin operands with
      | error cause =>
          exact .inl ⟨cause, rfl, machine.apply_of_unresolved taken allSeen⟩
      | ok seen =>
          have counted : seen.length = builtin.arity :=
            (length_seenBy allSeen).trans (Stack.popN_ok taken).2
          obtain ⟨effect, performed⟩ :=
            Builtin.perform_counted counted { machine with stack }
          exact .inr ⟨seen, effect, rfl, performed,
            machine.apply_of_performed taken allSeen performed⟩

/-- Applying a numeric builtin fails, or a number takes the place of two operands. -/
theorem apply_numeric_cases
    (machine : Machine)
    (isNumeric : builtin.numeric?.isSome) :
    (∃ after cause, machine.Popped after ∧ machine.apply builtin = (after, some cause)) ∨
      ∃ upper lower rest number,
        machine.stack.topFirst = upper :: lower :: rest ∧
          machine.apply builtin =
            ({ machine with stack := ⟨.number number :: rest⟩ }, none) := by
  obtain ⟨compute, isCompute⟩ := Option.isSome_iff_exists.mp isNumeric
  have two : builtin.arity = 2 := by
    cases builtin <;> first | rfl | cases isNumeric
  rcases machine.apply_cases builtin with
      ⟨cause, _, failed⟩ | ⟨operands, stack, taken, ⟨cause, _, failed⟩ | performedCase⟩
  · exact .inl ⟨machine, cause, ⟨machine.stack, rfl, fun _ member => member⟩, failed⟩
  · exact .inl ⟨_, cause, .of_popN taken, failed⟩
  · obtain ⟨seen, effect, _, performed, answered⟩ := performedCase
    rcases Builtin.perform_numeric_cases isCompute performed with
        ⟨cause, _, rfl⟩ | ⟨number, rfl⟩
    · exact .inl ⟨_, cause, .of_popN taken, answered⟩
    · obtain ⟨shape, count⟩ := Stack.popN_ok taken
      rw [two] at count
      obtain ⟨lower, upper, rfl⟩ := List.length_eq_two.mp count
      exact .inr ⟨upper, lower, stack.topFirst, number, by simpa using shape, answered⟩

end Apply

/-- Applying a builtin stays within bounds. -/
theorem apply_reworks
    (machine : Machine)
    (builtin : Builtin) :
    machine.Reworks (machine.apply builtin) := by
  rcases machine.apply_cases builtin with
      ⟨cause, failed, shape⟩ | ⟨operands, stack, taken, ⟨cause, unresolved, shape⟩ |
        ⟨seen, effect, allSeen, performed, shape⟩⟩
  · rw [shape]
    obtain rfl := Stack.popN_error failed
    exact Popped.reworks ⟨machine.stack, rfl, fun value member => member⟩ (.underflow _ _)
  · rw [shape]
    obtain ⟨stackShape, _⟩ := Stack.popN_ok taken
    have unbound : ∃ name, .name name ∈ operands ∧ cause = .unbound name := by
      unfold seenBy at unresolved
      split at unresolved
      · cases unresolved
      · exact resolveAll_error unresolved
    obtain ⟨name, member, rfl⟩ := unbound
    exact (Popped.of_popN taken).reworks (.unbound (by simp [stackShape, member]))
  · rw [shape]
    obtain ⟨stackShape, _⟩ := Stack.popN_ok taken
    -- A builtin sees an operand as it is, or sees what it stands for.
    have fromStack :
        ∀ value ∈ seen,
          value ∈ machine.stack.topFirst ∨
            ∃ operand ∈ machine.stack.topFirst, machine.resolve operand = .ok value := by
      intro value member
      unfold seenBy at allSeen
      split at allSeen
      · cases allSeen
        exact .inl (by simp [stackShape, member])
      · obtain ⟨operand, operandMember, operandResolved⟩ :=
          mem_of_resolveAll allSeen member
        rw [resolve_withStack] at operandResolved
        exact .inr ⟨operand, by simp [stackShape, operandMember], operandResolved⟩
    have bounded := Builtin.perform_bounded performed
    obtain ⟨reworked, printed, afterShape, fromBefore⟩ :=
      reworked_stack (fun value member => by simp [stackShape, member]) fromStack bounded
    rcases effect with ⟨after, cause | _ | value⟩
    · refine ⟨⟨reworked, printed, afterShape, fromBefore⟩, ?_⟩
      intro other same
      cases same
      exact (Popped.of_popN taken).reports (bounded.fails cause rfl)
    · exact ⟨⟨reworked, printed, afterShape, fromBefore⟩, by simp [Effect.answer]⟩
    · obtain ⟨number, rfl⟩ := bounded.yields value rfl
      simp only at afterShape
      refine ⟨⟨reworked.push (.number number), printed,
        by simp [Effect.answer, afterShape, push], ?_⟩, by simp [Effect.answer]⟩
      intro value member
      rcases List.mem_cons.mp member with isNumber | stayed
      · exact .inr (.inr ⟨number, isNumber⟩)
      · exact fromBefore value stayed

/-- Whatever stays within bounds extends the machine. -/
theorem Reworks.extends
    {before : Machine}
    {answer : Machine × Option Cause}
    (reworks : before.Reworks answer) :
    before.Extends answer.1 := by
  obtain ⟨stack, printed, shape, _⟩ := reworks.machine
  rw [shape]
  exact ⟨rfl, Nat.le_refl _, rfl, printed, rfl⟩

end Machine

namespace Evaluation

section Seek

variable {frames : Nat} {machine : Machine} {value callee : Value} {cause : Cause}

/-- A call looks up a value as others do, unless it is a name and the host has no frame for that. -/
theorem seek_cases
    (frames : Nat)
    (machine : Machine)
    (value : Value) :
    seek frames machine value = machine.resolve value ∨
      seek frames machine value = .error .hostFailure ∧ frames = 0 := by
  cases frames with
  | zero =>
      cases value with
      | name symbol =>
          exact .inr ⟨rfl, rfl⟩
      | _ =>
          exact .inl rfl
  | succ frames =>
      exact .inl rfl

theorem seek_of_pos
    (enough : 0 < frames) :
    seek frames machine value = machine.resolve value := by
  cases frames with
  | zero =>
      cases enough
  | succ fewer =>
      rfl

theorem seek_of_not_name
    (notName : ∀ name, value ≠ .name name) :
    seek frames machine value = .ok value := by
  cases value with
  | name symbol =>
      exact absurd rfl (notName symbol)
  | _ =>
      cases frames <;> rfl

@[simp] theorem seek_withStack
    (frames : Nat)
    (machine : Machine)
    (stack : Stack) :
    seek frames { machine with stack } = seek frames machine := by
  funext value
  cases frames <;> cases value <;> rfl

theorem resolve_of_seek
    (found : seek frames machine value = .ok callee) :
    machine.resolve value = .ok callee := by
  rcases seek_cases frames machine value with same | ⟨failed, _⟩
  · exact same ▸ found
  · rw [failed] at found
    cases found

/-- Looking up fails because the host gives out or a name is unbound. -/
theorem seek_error
    (failed : seek frames machine value = .error cause) :
    cause = .hostFailure ∧ frames = 0 ∨ ∃ name, value = .name name ∧ cause = .unbound name := by
  rcases seek_cases frames machine value with same | ⟨hostFailed, noFrame⟩
  · exact .inr (Machine.resolve_error (same ▸ failed))
  · rw [hostFailed] at failed
    cases failed
    exact .inl ⟨rfl, noFrame⟩

end Seek

/-- What a call finds on top of the stack, and the machine without it. -/
def target (frames : Nat) (machine : Machine) : Machine × Except Cause Value :=
  match machine.stack.pop with
  | .error cause =>
      (machine, .error cause)
  | .ok (top, stack) =>
      ({ machine with stack }, seek frames machine top)

section Target

variable {frames : Nat} {machine after : Machine} {result : Except Cause Value} {cause : Cause}
  {callee : Value}

/-- A call whose target is missing fails. -/
theorem call_of_target_error
    (runBody : Runner)
    (missing : target frames machine = (after, .error cause)) :
    call frames runBody machine = ⟨after, some ⟨cause, none⟩⟩ := by
  unfold target at missing
  unfold call
  cases popped : machine.stack.pop with
  | error first =>
      simp only [popped, Prod.mk.injEq, Except.error.injEq] at missing
      simp [missing.1, missing.2]
  | ok taken =>
      simp only [popped, Prod.mk.injEq] at missing
      obtain ⟨rfl, unresolved⟩ := missing
      simp only [seek_withStack, unresolved]

/-- A call whose target is found calls it. -/
theorem call_of_target_ok
    (runBody : Runner)
    (found : target frames machine = (after, .ok callee)) :
    call frames runBody machine = callValue frames runBody callee after := by
  unfold target at found
  unfold call
  cases popped : machine.stack.pop with
  | error first =>
      simp [popped] at found
  | ok taken =>
      simp only [popped, Prod.mk.injEq] at found
      obtain ⟨rfl, resolved⟩ := found
      simp only [seek_withStack, resolved]

/-- Finding the target of a call only takes it from the stack. -/
theorem popped_of_target
    (found : target frames machine = (after, result)) :
    machine.Popped after := by
  unfold target Stack.pop at found
  cases shape : machine.stack.topFirst with
  | nil =>
      simp only [shape, Prod.mk.injEq] at found
      obtain ⟨rfl, _⟩ := found
      exact ⟨machine.stack, rfl, fun value member => member⟩
  | cons top rest =>
      simp only [shape, Prod.mk.injEq] at found
      obtain ⟨rfl, _⟩ := found
      exact ⟨⟨rest⟩, rfl, fun value member => by simp_all⟩

/-- A target is missing because the stack is empty, the host gives out or a name is unbound. -/
theorem reports_of_target
    (missing : target frames machine = (after, .error cause)) :
    machine.Reports cause ∨ cause = .hostFailure ∧ frames = 0 := by
  unfold target Stack.pop at missing
  cases shape : machine.stack.topFirst with
  | nil =>
      simp only [shape, Prod.mk.injEq, Except.error.injEq] at missing
      obtain ⟨_, rfl⟩ := missing
      exact .inl (.underflow 1 0)
  | cons top rest =>
      simp only [shape, Prod.mk.injEq] at missing
      rcases seek_error missing.2 with noFrame | ⟨name, rfl, rfl⟩
      · exact .inr noFrame
      · exact .inl (.unbound (by simp [shape]))

/-- A target is what the top of the stack stands for. -/
theorem exists_top_of_target
    (found : target frames machine = (after, .ok callee)) :
    ∃ top ∈ machine.stack.topFirst.head?, machine.resolve top = .ok callee := by
  unfold target Stack.pop at found
  cases shape : machine.stack.topFirst with
  | nil =>
      simp [shape] at found
  | cons top rest =>
      simp only [shape, Prod.mk.injEq] at found
      exact ⟨top, rfl, resolve_of_seek found.2⟩

theorem resolved_of_target
    (found : target frames machine = (after, .ok callee)) :
    ∃ top ∈ machine.stack.topFirst, machine.resolve top = .ok callee := by
  obtain ⟨top, isTop, resolved⟩ := exists_top_of_target found
  exact ⟨top, List.mem_of_mem_head? isTop, resolved⟩

end Target

/-- Making a function fails, or a block on top of the stack becomes a function. -/
theorem makeFunction_cases
    (machine : Machine) :
    (∃ after cause,
      machine.Popped after ∧
        machine.Reports cause ∧
        makeFunction machine = (after, some cause)) ∨
      ∃ top rest body,
        machine.stack.topFirst = top :: rest ∧
          machine.resolve top = .ok (.block body) ∧
          makeFunction machine =
            ({ machine with stack := ⟨.function body :: rest⟩ }, none) := by
  unfold makeFunction Stack.pop
  cases shape : machine.stack.topFirst with
  | nil =>
      left
      exact ⟨machine, .underflow 1 0,
        ⟨machine.stack, rfl, fun value member => member⟩, .underflow 1 0, rfl⟩
  | cons top rest =>
      have popped : machine.Popped { machine with stack := ⟨rest⟩ } :=
        ⟨⟨rest⟩, rfl, fun value member => by simp_all⟩
      simp only [Machine.resolve_withStack]
      cases resolved : machine.resolve top with
      | error cause =>
          left
          obtain ⟨name, rfl, rfl⟩ := Machine.resolve_error resolved
          exact ⟨_, _, popped, .unbound (by simp [shape]), rfl⟩
      | ok found =>
          cases found with
          | block body =>
              right
              exact ⟨top, rest, body, rfl, resolved, rfl⟩
          | _ =>
              left
              exact ⟨_, _, popped, .notBlock _, rfl⟩

/-- Binding fails, or a name is bound to what the top of the stack stands for. -/
theorem assign_cases
    (machine : Machine) :
    (∃ after cause,
      machine.Popped after ∧
        machine.Reports cause ∧
        assign machine = (after, some cause)) ∨
      ∃ name value rest resolved,
        machine.stack.topFirst = value :: .name name :: rest ∧
          machine.resolve value = .ok resolved ∧
          (∀ other, resolved ≠ .name other) ∧
          assign machine =
            ({ machine with
                stack := ⟨rest⟩
                bindings := ⟨Bindings.insertEntry name resolved machine.bindings.entries⟩
                journal := .bound name resolved :: machine.journal }, none) := by
  unfold assign
  cases taken : machine.stack.popN 2 with
  | error cause =>
      left
      obtain rfl := Stack.popN_error taken
      exact ⟨machine, _, ⟨machine.stack, rfl, fun value member => member⟩, .underflow _ _, rfl⟩
  | ok answer =>
      obtain ⟨operands, stack⟩ := answer
      obtain ⟨shape, count⟩ := Stack.popN_ok taken
      obtain ⟨below, value, rfl⟩ := List.length_eq_two.mp count
      have popped : machine.Popped { machine with stack } :=
        .of_popN taken
      cases below with
      | name target =>
          simp only [Machine.resolve_withStack]
          cases resolved : machine.resolve value with
          | error cause =>
              left
              obtain ⟨name, rfl, rfl⟩ := Machine.resolve_error resolved
              exact ⟨_, _, popped, .unbound (by simp [shape]), rfl⟩
          | ok found =>
              cases found with
              | name other =>
                  left
                  obtain ⟨known, bound⟩ := Machine.bound_of_resolve_name resolved
                  exact ⟨_, _, popped, .unresolvedBinding bound, rfl⟩
              | _ =>
                  right
                  exact ⟨target, value, stack.topFirst, _, by simpa using shape, resolved,
                    by simp, rfl⟩
      | _ =>
          left
          exact ⟨_, _, popped, .notName _, rfl⟩

section Failures

variable {machine : Machine} {cause : Cause}

theorem operate_fails
    {name : String}
    (failed : (operate name machine).2 = some cause) :
    machine.Reports cause ∨
      Builtin.find? machine.vocabulary name = none ∧ cause = .unbound name := by
  unfold operate at failed
  split at failed
  · next builtin _ =>
    exact .inl ((machine.apply_reworks builtin).fails cause failed)
  · next unknown =>
    cases failed
    exact .inr ⟨unknown, rfl⟩

theorem makeFunction_fails
    (failed : (makeFunction machine).2 = some cause) :
    machine.Reports cause := by
  rcases makeFunction_cases machine with
      ⟨after, first, _, reports, shape⟩ | ⟨_, _, _, _, _, shape⟩
  · rw [shape] at failed
    cases failed
    exact reports
  · rw [shape] at failed
    cases failed

theorem assign_fails
    (failed : (assign machine).2 = some cause) :
    machine.Reports cause := by
  rcases assign_cases machine with
      ⟨after, first, _, reports, shape⟩ | ⟨_, _, _, _, _, _, _, shape⟩
  · rw [shape] at failed
    cases failed
    exact reports
  · rw [shape] at failed
    cases failed

end Failures

end Evaluation

end StackScript
