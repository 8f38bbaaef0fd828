import StackScript.Proofs.Simulation
import StackScript.Reading

namespace StackScript

/-!
# Room for nested calls

What a program computes depends on the depth of calls and its limit only through the room that is
left between them.  A run with more room, in the machine or in the host, goes the same way as one
with less, unless the latter runs out of room; then all that it printed is printed by the former
too.
-/

namespace Machine

/--
Two machines that differ only in their journals and in the room for nested calls, of which the
second has more by `slack`.
-/
structure Roomier (limit limit' : Int) (slack : Nat) (machine machine' : Machine) : Prop where
  stack :
    machine'.stack = machine.stack
  bindings :
    machine'.bindings = machine.bindings
  vocabulary :
    machine'.vocabulary = machine.vocabulary
  output :
    machine'.output = machine.output
  maxDepth :
    machine.maxDepth = limit
  maxDepth' :
    machine'.maxDepth = limit'
  room :
    limit' - machine'.depth = limit - machine.depth + slack

namespace Roomier

variable {limit limit' : Int} {slack : Nat} {machine machine' : Machine}

/-- Printing leaves the room as it is. -/
theorem printLine
    (machines : machine.Roomier limit limit' slack machine')
    (line : String) :
    (machine.printLine line).Roomier limit limit' slack (machine'.printLine line) :=
  { machines with output := by simp [Machine.printLine, machines.output] }

/-- Where the first machine has no room, the second has none but its slack. -/
theorem tooDeep
    (machines : machine.Roomier limit limit' slack machine')
    (noRoom : machine.maxDepth ≤ machine.depth) :
    machine'.maxDepth ≤ machine'.depth ∨ 0 < slack := by
  have room := machines.room
  rw [machines.maxDepth] at noRoom
  rw [machines.maxDepth']
  omega

/-- Raising the depth takes the same room from both machines. -/
theorem deepen
    (machines : machine.Roomier limit limit' slack machine') :
    (Evaluation.deepen machine).Roomier limit limit' slack (Evaluation.deepen machine') := by
  have room := machines.room
  refine { machines with room := ?_ }
  simp only [Evaluation.deepen]
  omega

/-- A call takes the same room from both machines. -/
theorem enter
    (machines : machine.Roomier limit limit' slack machine')
    (body : List Token) :
    (Evaluation.enter machine body).Roomier limit limit' slack
      (Evaluation.enter machine' body) :=
  { machines.deepen with }

/-- Where the first machine has room for a call, so has the second. -/
theorem notTooDeep
    (machines : machine.Roomier limit limit' slack machine')
    (hasRoom : ¬machine.maxDepth ≤ machine.depth) :
    ¬machine'.maxDepth ≤ machine'.depth := by
  have room := machines.room
  rw [machines.maxDepth] at hasRoom
  rw [machines.maxDepth']
  omega

/-- The end of a call gives the same room back to both machines. -/
theorem leave
    (machines : machine.Roomier limit limit' slack machine')
    (raised : 0 < machine.depth)
    (raised' : 0 < machine'.depth) :
    { machine with depth := machine.depth - 1 }.Roomier limit limit' slack
      { machine' with depth := machine'.depth - 1 } := by
  have room := machines.room
  refine { machines with room := ?_ }
  simp only
  omega

end Roomier

end Machine

/--
Runs with different room for nested calls stay in step.  The one with more room is excused when the
other runs out of it, and has then printed all that the other has.
-/
def Simulation.roomier (limit limit' : Int) (slack : Nat) : Simulation where
  toLikeness :=
    Likeness.identity
  machines :=
    Machine.Roomier limit limit' slack
  limits first second :=
    first = limit ∧ second = limit'
  excused cause machine machine' :=
    (cause = .hostFailure ∨ cause = .hostExhausted ∨ cause = .tooDeep limit ∧ 0 < slack) ∧
      ∃ printed, machine'.output = machine.output ++ printed
  allowed _ :=
    True
  vocabulary machines :=
    machines.vocabulary
  push machines values := by
    obtain rfl := Likeness.identity.values_iff.mp values
    exact { machines with stack := by rw [Machine.push, Machine.push, machines.stack] }
  take machines taken :=
    ⟨_, _, machines.stack ▸ taken, Likeness.identity.forall₂_values_iff.mpr rfl,
      { machines with stack := rfl }⟩
  underflow machines failed :=
    .inl (machines.stack ▸ failed)
  get? machines _ :=
    machines.bindings ▸ Likeness.identity.rel_values_refl _
  bind machines _ values := by
    obtain rfl := Likeness.identity.values_iff.mp values
    exact { machines with bindings := by rw [machines.bindings] }
  printLine line machines :=
    machines.printLine line
  showStack machines _ :=
    machines.stack ▸ machines.printLine _
  tooDeep machines noRoom := by
    rcases machines.tooDeep noRoom with noRoom' | slackLeft
    · exact .inl ⟨noRoom', machines.maxDepth, machines.maxDepth'⟩
    · exact .inr ⟨.inr (.inr ⟨congrArg _ machines.maxDepth, slackLeft⟩), "",
        by rw [machines.output, String.append_empty]⟩
  deepen machines _ :=
    machines.deepen
  enter machines code hasRoom := by
    obtain rfl := Likeness.identity.code_iff.mp code
    exact ⟨machines.notTooDeep hasRoom, machines.enter _⟩
  leave machines raised raised' :=
    machines.leave raised raised'
  excused_later excused sameOutput later := by
    obtain ⟨excuse, printed, ahead⟩ := excused
    obtain ⟨more, output⟩ := later
    exact ⟨excuse, printed ++ more, by rw [output, ahead, sameOutput, String.append_assoc]⟩
  excused_caught excused :=
    ⟨.inr (.inl rfl), excused.2⟩

namespace Evaluation

/-- Runs of one program with different room for nested calls stay in step. -/
theorem run_roomier
    {frames frames' : Nat}
    (room : frames ≤ frames')
    {limit limit' : Int}
    {slack : Nat}
    {machine machine' : Machine}
    (machines : machine.Roomier limit limit' slack machine')
    (tokens : List Token) :
    (Simulation.roomier limit limit' slack).Outcomes
      (run frames tokens machine) (run frames' tokens machine') := by
  refine ((Simulation.roomier limit limit' slack).run_keeps room (.inr ?_)).follows
    (Likeness.identity.code_iff.mpr rfl) machines fun _ _ => trivial
  intro machine machine' machines
  exact ⟨.inl rfl, "", by simp [machines.output]⟩

/--
Raising the limit of nested calls changes nothing for a program that stays within it: stack,
bindings, output and error are the same.  A program that exceeds the lower limit prints under the
higher one all that it prints under the lower.  This holds on every host, so it holds of `evaluate`.
-/
theorem run_of_higher_limit
    (frames : Nat)
    (tokens : List Token)
    (machine : Machine)
    {limit limit' : Int}
    (higher : limit ≤ limit') :
    let tight := run frames tokens { machine with maxDepth := limit }
    let ample := run frames tokens { machine with maxDepth := limit' }
    (¬tight.Raises .recursion →
      ample.machine.stack = tight.machine.stack ∧
        ample.machine.bindings = tight.machine.bindings ∧
        ample.machine.output = tight.machine.output ∧
        ample.error = tight.error) ∧
      (tight.Raises .recursion →
        ∃ printed, ample.machine.output = tight.machine.output ++ printed) := by
  intro tight ample
  have machines :
      Machine.Roomier limit limit' (limit' - limit).toNat
        { machine with maxDepth := limit } { machine with maxDepth := limit' } :=
    { stack := rfl
      bindings := rfl
      vocabulary := rfl
      output := rfl
      maxDepth := rfl
      maxDepth' := rfl
      room := by
        simp only
        omega }
  have outcomes :
      (Simulation.roomier limit limit' (limit' - limit).toNat).Outcomes tight ample :=
    run_roomier (Nat.le_refl frames) machines tokens
  generalize tight = first at outcomes ⊢
  generalize ample = second at outcomes ⊢
  cases outcomes with
  | done machines =>
      simp [Outcome.Raises, machines.stack, machines.bindings, machines.output]
  | @failed after after' error error' machines errors =>
      refine ⟨fun notRecursion => ?_, fun _ => ⟨"", by simp [machines.output]⟩⟩
      refine ⟨machines.stack, machines.bindings, machines.output, ?_⟩
      rcases Likeness.identity.errors_cases errors with same | ⟨lower, _, _, isTooDeep, _⟩
      · exact congrArg some same
      · exact (notRecursion (congrArg (some ∘ Error.kind) isTooDeep)).elim
  | excused excused =>
      obtain ⟨noRoom, printed, ahead⟩ := excused
      refine ⟨fun notRecursion => (notRecursion ?_).elim, fun _ => ⟨printed, ahead⟩⟩
      rcases noRoom with hasFailed | isExhausted | ⟨isTooDeep, _⟩
      · simp [Outcome.Raises, Error.kind, hasFailed, Cause.kind]
      · simp [Outcome.Raises, Error.kind, isExhausted, Cause.kind]
      · simp [Outcome.Raises, Error.kind, isTooDeep, Cause.kind]

/-- A program that prints one and then calls itself, without end. -/
def endless : List Token :=
  (read "print_arg 1 = f \x7b print call f call \x7d fn = f call").toOption.getD []

/-- Two nested calls print two lines, and three print these and one more. -/
theorem run_of_higher_limit_endless :
    (run 20 endless (.fresh 2)).Raises .recursion ∧
      (run 20 endless (.fresh 2)).machine.output = "1\n1\n" ∧
      ∃ printed, (run 20 endless (.fresh 3)).machine.output = "1\n1\n" ++ printed := by
  have raises : (run 20 endless (.fresh 2)).Raises .recursion := by
    decide +kernel
  have output : (run 20 endless (.fresh 2)).machine.output = "1\n1\n" := by
    decide +kernel
  refine ⟨raises, output, ?_⟩
  have further := (run_of_higher_limit 20 endless (.fresh 2) (by decide : (2 : Int) ≤ 3)).2 raises
  rwa [← output]

end Evaluation

end StackScript
