import StackScript.Proofs.Past
import StackScript.Proofs.PrintedCode
import StackScript.Proofs.Sequencing

namespace StackScript

/-!
# Equal code is interchangeable

Two functions are equal when their code looks the same.  If the code was lexed, then it consists of
the same tokens in two layouts, and no program can tell the two functions apart: it computes and
prints the same with either.  Tokens built by hand can look like others that they are not, and then
equal functions may do different things.
-/

/-- Machines with related values that agree in all else that a program depends on. -/
structure Machine.Agrees
    (values : Value → Value → Prop)
    (machine machine' : Machine) :
    Prop where
  stack :
    List.Forall₂ values machine.stack.topFirst machine'.stack.topFirst
  bindings :
    machine.bindings.Related values machine'.bindings
  vocabulary :
    machine'.vocabulary = machine.vocabulary
  depth :
    machine'.depth = machine.depth
  maxDepth :
    machine'.maxDepth = machine.maxDepth

namespace Machine.Agrees

variable {values : Value → Value → Prop} {machine machine' : Machine}

theorem coarsen
    {coarser : Value → Value → Prop}
    (agrees : machine.Agrees values machine')
    (weaker : ∀ {value value'}, values value value' → coarser value value') :
    machine.Agrees coarser machine' :=
  { agrees with
    stack := agrees.stack.imp fun _ _ related => weaker related
    bindings := agrees.bindings.imp fun _ _ related => ⟨related.1, weaker related.2⟩ }

/-- Machines that agree up to layout are alike once their pasts are forgotten. -/
theorem hushed
    (agrees : machine.Agrees Likeness.layout.Values machine') :
    machine.hushed.Alike .layout machine'.hushed where
  stack :=
    agrees.stack
  bindings :=
    agrees.bindings
  vocabulary :=
    agrees.vocabulary
  output :=
    rfl
  depth :=
    agrees.depth
  maxDepth :=
    agrees.maxDepth

end Machine.Agrees

/--
Runs that cannot be told apart but by places in code: they leave the same values, print the same
and succeed both, or fail both with errors of one kind and wording.
-/
structure Outcome.AgreesWith (outcome outcome' : Outcome) (before before' : Machine) : Prop where
  machine :
    outcome.machine.Agrees Likeness.layout.Values outcome'.machine
  printed :
    ∃ printed,
      outcome.machine.output = before.output ++ printed ∧
        outcome'.machine.output = before'.output ++ printed
  kind :
    outcome'.error.map Error.kind = outcome.error.map Error.kind
  message :
    outcome'.error.map Error.message = outcome.error.map Error.message

namespace Evaluation

/-- Runs of the same code in two layouts agree, whatever was printed before. -/
theorem run_agrees
    (host : Nat)
    {tokens tokens' : List Token}
    (code : Likeness.layout.Code tokens tokens')
    {machine machine' : Machine}
    (agrees : machine.Agrees Likeness.layout.Values machine') :
    (run host tokens machine).AgreesWith (run host tokens' machine') machine machine' := by
  have same := run_sameUpToLayout host code agrees.hushed
  have ran := run_withPast host tokens machine.hushed machine.output machine.journal
  have ran' := run_withPast host tokens' machine'.hushed machine'.output machine'.journal
  rw [machine.withPast_of_hushed] at ran
  rw [machine'.withPast_of_hushed] at ran'
  rw [ran, ran']
  refine ⟨{ same.machine with }, ⟨_, rfl, ?_⟩, same.kind, same.message⟩
  rw [← same.machine.output]
  rfl

end Evaluation

/-- A value, and what may stand in its place: itself, or a function of lexed code that equals it. -/
inductive Value.Interchangeable : Value → Value → Prop where
  | same
      (value : Value) :
      Interchangeable value value
  | function
      {body body' : List Token}
      (lexed : ∀ token ∈ body, token.IsLexed)
      (lexed' : ∀ token ∈ body', token.IsLexed)
      (equal : Value.same (.function body) (.function body') = true) :
      Interchangeable (.function body) (.function body')

/-- Interchangeable values are the same in two layouts. -/
theorem Value.Interchangeable.values
    {value value' : Value}
    (interchangeable : value.Interchangeable value') :
    Likeness.layout.Values value value' := by
  cases interchangeable with
  | same =>
      exact Likeness.layout.values_refl value
  | function lexed lexed' equal =>
      rw [Value.same, beq_iff_eq] at equal
      exact .function ((joinedText_eq_iff lexed lexed').mp equal)

/--
Programs do not depend on layout.  Token lists that agree but for places do the same on machines
whose values agree but for places in code: they leave values that agree, print the same, and succeed
both or fail both with the same kind of error and the same wording.  So it makes no difference
either if functions of lexed code are replaced by others that equal them.
-/
theorem Evaluation.run_blind_to_layout
    (host : Nat)
    {tokens tokens' : List Token}
    (code : Likeness.layout.Code tokens tokens')
    (machine machine' : Machine) :
    (machine.Agrees Likeness.layout.Values machine' →
      (run host tokens machine).AgreesWith (run host tokens' machine') machine machine') ∧
      (machine.Agrees Value.Interchangeable machine' →
        (run host tokens machine).AgreesWith (run host tokens' machine') machine machine') := by
  refine ⟨run_agrees host code, fun agrees => ?_⟩
  exact run_agrees host code (agrees.coarsen Value.Interchangeable.values)

namespace Evaluation

/-- A machine with one function on its stack. -/
def holding (body : List Token) : Machine :=
  { Machine.fresh 50 with stack := .ofList [.function body] }

/-- A program that calls the function on the stack and prints what it leaves. -/
def showingResult : List Token :=
  (lex "call print_arg swap call = print call").tokens

/-- Two functions of lexed code that look the same print the same. -/
theorem run_blind_to_layout_showing :
    let body := (lex "1 2 +").tokens
    let body' := (lex " 1   2\n+ # spread out").tokens
    (holding body).Agrees Value.Interchangeable (holding body') ∧
      (evaluate showingResult (holding body)).machine.output = "3\n" ∧
      (evaluate showingResult (holding body')).machine.output = "3\n" := by
  intro body body'
  have agrees : (holding body).Agrees Value.Interchangeable (holding body') :=
    { stack :=
        .cons
          (.function (fun _ member => ⟨_, member⟩) (fun _ member => ⟨_, member⟩)
            (by decide +kernel))
          .nil
      bindings := List.forall₂_same.mpr fun entry _ => ⟨rfl, .same entry.2⟩
      vocabulary := rfl
      depth := rfl
      maxDepth := rfl }
  have prints : (evaluate showingResult (holding body)).machine.output = "3\n" := by
    decide +kernel
  have code : Likeness.layout.Code showingResult showingResult :=
    List.forall₂_same.mpr fun _ _ => ⟨rfl, rfl, rfl⟩
  obtain ⟨printed, isPrinted, isPrinted'⟩ :=
    ((run_blind_to_layout hostFrames code (holding body) (holding body')).2 agrees).printed
  have silent (code : List Token) : (holding code).output = "" := rfl
  rw [silent] at isPrinted isPrinted'
  refine ⟨agrees, prints, ?_⟩
  rw [evaluate] at prints ⊢
  rw [isPrinted', ← isPrinted, prints]

/-- A function built by hand around one name that holds a space. -/
def oneName : List Token :=
  [.inSource .symbol "a b" .start]

/-- A function around two names. -/
def twoNames : List Token :=
  [.inSource .symbol "a" .start, .inSource .symbol "b" .start]

/-- Equal functions that were built by hand can leave different values when they are called. -/
theorem equal_functions_built_by_hand_differ :
    Value.same (.function oneName) (.function twoNames) = true ∧
      (evaluate (lex "call").tokens (holding oneName)).machine.stack.toList = [.name "a b"] ∧
      (evaluate (lex "call").tokens (holding twoNames)).machine.stack.toList =
        [.name "a", .name "b"] ∧
      ¬(evaluate (lex "call").tokens (holding oneName)).AgreesWith
        (evaluate (lex "call").tokens (holding twoNames)) (holding oneName) (holding twoNames) := by
  have leavesOne :
      (evaluate (lex "call").tokens (holding oneName)).machine.stack.topFirst = [.name "a b"] := by
    decide +kernel
  have leavesTwo :
      (evaluate (lex "call").tokens (holding twoNames)).machine.stack.topFirst =
        [.name "b", .name "a"] := by
    decide +kernel
  refine ⟨by decide +kernel, by simp [Stack.toList, leavesOne], by simp [Stack.toList, leavesTwo],
    fun agrees => ?_⟩
  have sameSize := agrees.machine.stack.length_eq
  rw [leavesOne, leavesTwo] at sameSize
  cases sameSize

end Evaluation

end StackScript
