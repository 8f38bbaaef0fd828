import StackScript.Proofs.Entries
import StackScript.Proofs.Simulation

namespace StackScript

/-!
# The layout of code

Stored code remembers where its tokens stood, so that errors can be reported there.  Nothing else
depends on it: machines that store the same code in different layouts compute and print the same,
and fail for the same reasons.
-/

namespace Likeness

variable {likeness : Likeness}

theorem displayAll_eq
    {values values' : List Value}
    (alike : List.Forall₂ likeness.Values values values') :
    Value.displayAll values' = Value.displayAll values := by
  have shown : values'.map Value.display = values.map Value.display := by
    induction alike with
    | nil =>
        rfl
    | cons first _ inductionHypothesis =>
        simp [first.display_eq, inductionHypothesis]
  unfold Value.displayAll
  rw [shown]

theorem Causes.kind_eq
    {limits : Int → Int → Prop}
    {cause cause' : Cause}
    (causes : likeness.Causes limits cause cause') :
    cause'.kind = cause.kind := by
  cases causes <;> rfl

/-- Where limits correspond to themselves only, corresponding causes are worded alike. -/
theorem Causes.message_eq
    {cause cause' : Cause}
    (causes : likeness.Causes Eq cause cause') :
    cause'.message = cause.message := by
  cases causes with
  | same =>
      rfl
  | @notNumber operand operand' operation operands =>
      change _ ++ operand'.display ++ _ = _ ++ operand.display ++ _
      rw [operands.display_eq]
  | @notBlock operand operand' operands
  | @notName operand operand' operands
  | @notCallable operand operand' operands =>
      change _ ++ operand'.display ++ _ = _ ++ operand.display ++ _
      rw [operands.display_eq]
  | tooDeep sameLimit =>
      rw [sameLimit]

end Likeness

/-- Machines that store corresponding values and agree in everything else but their journals. -/
structure Machine.Alike (likeness : Likeness) (machine machine' : Machine) : Prop where
  stack :
    List.Forall₂ likeness.Values machine.stack.topFirst machine'.stack.topFirst
  bindings :
    machine.bindings.Related likeness.Values machine'.bindings
  vocabulary :
    machine'.vocabulary = machine.vocabulary
  output :
    machine'.output = machine.output
  depth :
    machine'.depth = machine.depth
  maxDepth :
    machine'.maxDepth = machine.maxDepth

namespace Machine.Alike

variable {likeness : Likeness} {machine machine' : Machine}

theorem size_eq
    (machines : machine.Alike likeness machine') :
    machine'.stack.size = machine.stack.size :=
  machines.stack.length_eq.symm

/-- The values of corresponding machines correspond from the bottom as well. -/
theorem toList
    (machines : machine.Alike likeness machine') :
    List.Forall₂ likeness.Values machine.stack.toList machine'.stack.toList :=
  List.forall₂_reverse_iff.mpr machines.stack

theorem take
    (machines : machine.Alike likeness machine')
    {count : Nat}
    {taken : List Value}
    {stack : Stack}
    (found : machine.stack.popN count = .ok (taken, stack)) :
    ∃ taken' stack',
      machine'.stack.popN count = .ok (taken', stack') ∧
        List.Forall₂ likeness.Values taken taken' ∧
        { machine with stack }.Alike likeness { machine' with stack := stack' } := by
  unfold Stack.popN at found
  split at found
  · cases found
  · next enough =>
    cases found
    have enough' : ¬machine'.stack.size < count := by
      rwa [machines.size_eq]
    refine ⟨_, _, if_neg enough', ?_, ?_⟩
    · exact List.forall₂_reverse_iff.mpr (List.forall₂_take count machines.stack)
    · exact { machines with stack := List.forall₂_drop count machines.stack }

theorem underflow
    (machines : machine.Alike likeness machine')
    {count : Nat}
    {cause : Cause}
    (failed : machine.stack.popN count = .error cause) :
    machine'.stack.popN count = .error cause := by
  unfold Stack.popN at failed ⊢
  rw [machines.size_eq]
  split at failed
  · next short =>
    rw [if_pos short]
    exact failed
  · cases failed

theorem stackLine_eq
    (machines : machine.Alike likeness machine') :
    Builtin.stackLine machine'.stack = Builtin.stackLine machine.stack := by
  unfold Builtin.stackLine
  rw [machines.size_eq, Likeness.displayAll_eq machines.toList]

end Machine.Alike

/-- Runs of corresponding code on machines that store corresponding values stay in step. -/
def Simulation.alike (likeness : Likeness) : Simulation where
  toLikeness :=
    likeness
  machines :=
    Machine.Alike likeness
  limits :=
    Eq
  excused _ _ _ :=
    False
  allowed _ :=
    True
  vocabulary machines :=
    machines.vocabulary
  push machines values :=
    { machines with stack := .cons values machines.stack }
  take machines found :=
    machines.take found
  underflow machines failed :=
    .inl (machines.underflow failed)
  get? machines _ :=
    machines.bindings.get? _
  bind machines _ values :=
    { machines with bindings := machines.bindings.insertEntry _ values }
  printLine line machines :=
    { machines with output := by simp [Machine.printLine, machines.output] }
  showStack machines _ :=
    { machines with
      output := by simp [Machine.printLine, machines.output, machines.stackLine_eq] }
  tooDeep machines tooDeep := by
    left
    rw [machines.depth, machines.maxDepth]
    exact ⟨tooDeep, rfl⟩
  deepen machines _ :=
    { machines with depth := by simp [Evaluation.deepen, machines.depth] }
  enter machines _ notTooDeep := by
    refine ⟨by rwa [machines.depth, machines.maxDepth], ?_⟩
    exact
      { machines with
        depth := by simp [Evaluation.enter, Evaluation.deepen, Machine.record, machines.depth] }
  leave machines _ _ :=
    { machines with depth := by simp [machines.depth] }
  excused_later excused _ _ :=
    excused
  excused_caught excused :=
    excused

/-- The likeness of code with itself in another layout. -/
def Likeness.layout : Likeness where
  tokens token token' :=
    token'.lexeme = token.lexeme ∧ token'.text = token.text ∧ token'.name = token.name
  names _ :=
    True
  lexeme alike :=
    alike.1
  text alike :=
    alike.2.1
  name alike :=
    alike.2.2
  symbol _ _ _ :=
    trivial
  printedName :=
    trivial

/-- Outcomes that are the same but for the layout of stored code and the place of the error. -/
structure Outcome.SameUpToLayout (outcome outcome' : Outcome) : Prop where
  machine :
    outcome.machine.Alike .layout outcome'.machine
  kind :
    outcome'.error.map Error.kind = outcome.error.map Error.kind
  message :
    outcome'.error.map Error.message = outcome.error.map Error.message

namespace Evaluation

/-- A program does the same in every layout, whatever the layout of the code that is stored. -/
theorem run_sameUpToLayout
    (frames : Nat)
    {tokens tokens' : List Token}
    (code : Likeness.layout.Code tokens tokens')
    {machine machine' : Machine}
    (machines : machine.Alike .layout machine') :
    (run frames tokens machine).SameUpToLayout (run frames tokens' machine') := by
  obtain ⟨after, errors⟩ :=
    (Simulation.alike .layout).run_in_step id (fun _ => trivial) frames code machines
  generalize run frames tokens machine = outcome at after errors ⊢
  generalize run frames tokens' machine' = outcome' at after errors ⊢
  rcases outcome with ⟨machine, error⟩
  rcases outcome' with ⟨machine', error'⟩
  cases errors with
  | none =>
      exact ⟨after, rfl, rfl⟩
  | some errors =>
      exact ⟨after, congrArg some errors.cause.kind_eq, congrArg some errors.cause.message_eq⟩

end Evaluation

end StackScript
