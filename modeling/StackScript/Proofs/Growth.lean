import StackScript.Proofs.Effects

namespace StackScript

/-!
# Runs only extend machines

Whatever a program does, and wherever it stops, the machine it leaves extends the machine it was
given: what is printed stays printed, and nested calls restore the depth that they raise.  Only a
call that the host fails before it waits for its body leaves the depth raised.
-/

/-- A failure of the host, whether or not a call has made an error of the program out of it. -/
def Error.IsOfHost (error : Error) : Prop :=
  error.cause = .hostFailure ∨ error.cause = .hostExhausted

theorem Error.IsOfHost.caught
    {error : Error}
    (ofHost : error.IsOfHost) :
    error.caught.IsOfHost := by
  rcases ofHost with isFailure | isExhausted
  · exact .inr (by simp [Error.caught, isFailure])
  · exact .inr (by simp [Error.caught, isExhausted])

theorem Error.caught_ne_hostFailure
    (error : Error) :
    error.caught.cause ≠ .hostFailure := by
  unfold caught
  split
  · simp
  · assumption

/-- Applying a builtin leaves the depth alone. -/
theorem Machine.depth_apply
    (machine : Machine)
    (builtin : Builtin) :
    (machine.apply builtin).1.depth = machine.depth := by
  obtain ⟨stack, printed, shape, _⟩ := (machine.apply_reworks builtin).machine
  rw [shape]

namespace Evaluation

/--
Whether an outcome has the depth of a machine, or one more because the host failed.  That can happen
only if the frames of the host, but for those of whole nested calls, are too few to record a call.
-/
def LeavesDepth (frames : Nat) (machine : Machine) (outcome : Outcome) : Prop :=
  outcome.machine.depth = machine.depth ∨
    frames % 4 < recordFrames ∧
      outcome.machine.depth = machine.depth + 1 ∧
      ∃ error, outcome.error = some error ∧ error.IsOfHost

/-- A way to run function bodies that only extends machines. -/
def Extending (runBody : Runner) : Prop :=
  ∀ (body : List Token) (machine : Machine),
    machine.Extends (runBody body machine).machine

@[simp] theorem settle_machine
    (token : Token)
    (answer : Machine × Option Cause) :
    (settle token answer).machine = answer.1 := by
  rcases answer with ⟨machine, _ | cause⟩ <;> rfl

theorem settle_error_cases
    {token : Token}
    {answer : Machine × Option Cause}
    {error : Error}
    (failed : (settle token answer).error = some error) :
    ∃ cause, answer.2 = some cause ∧ error = Error.atToken token cause := by
  rcases answer with ⟨machine, _ | cause⟩
  · cases failed
  · cases failed
    exact ⟨cause, rfl, rfl⟩

/-- Applying what an operator names extends the machine. -/
theorem operate_extends
    (name : String)
    (machine : Machine) :
    machine.Extends (operate name machine).1 := by
  unfold operate
  split
  · exact (machine.apply_reworks _).extends
  · exact .refl machine

theorem makeFunction_extends
    (machine : Machine) :
    machine.Extends (makeFunction machine).1 := by
  rcases makeFunction_cases machine with
      ⟨after, cause, popped, _, shape⟩ | ⟨top, rest, body, _, _, shape⟩
  · rw [shape]
    exact popped.extends
  · rw [shape]
    exact ⟨rfl, Nat.le_refl _, rfl, "", by simp⟩

theorem assign_extends
    (machine : Machine) :
    machine.Extends (assign machine).1 := by
  rcases assign_cases machine with
      ⟨after, cause, popped, _, shape⟩ | ⟨name, value, rest, resolved, _, _, _, shape⟩
  · rw [shape]
    exact popped.extends
  · rw [shape]
    exact ⟨rfl, Nat.le_refl _, rfl, "", by simp⟩

variable {frames : Nat} {runBody : Runner}

theorem callFunction_extends
    (frames : Nat)
    (extending : Extending runBody)
    (body : List Token)
    (machine : Machine) :
    machine.Extends (callFunction frames runBody body machine).machine := by
  unfold callFunction
  split
  · exact .refl machine
  split
  · exact ⟨rfl, Nat.le_succ _, rfl, "", by simp [hostFails, deepen]⟩
  · have inner := extending body (enter machine body)
    have depth : machine.depth + 1 ≤ (runBody body (enter machine body)).machine.depth :=
      inner.depth
    exact ⟨inner.vocabulary, Nat.le_sub_one_of_lt depth, inner.maxDepth, inner.output⟩

theorem call_extends
    (frames : Nat)
    (extending : Extending runBody)
    (machine : Machine) :
    machine.Extends (call frames runBody machine).machine := by
  cases found : target frames machine with
  | mk after result =>
      have popped := (popped_of_target found).extends
      cases result with
      | error cause =>
          rw [call_of_target_error runBody found]
          exact popped
      | ok callee =>
          rw [call_of_target_ok runBody found]
          cases callee with
          | function body =>
              exact popped.trans (callFunction_extends frames extending body after)
          | builtin builtin =>
              exact popped.trans (after.apply_reworks builtin).extends
          | _ =>
              exact popped

theorem step_extends
    (frames : Nat)
    (extending : Extending runBody)
    (instruction : Instruction)
    (machine : Machine) :
    machine.Extends (step frames runBody instruction machine).machine := by
  cases instruction with
  | push value =>
      exact ⟨rfl, Nat.le_refl _, rfl, "", by simp [step, Machine.push]⟩
  | operate name token =>
      simpa [step] using operate_extends name machine
  | form special token =>
      cases special with
      | makeFunction =>
          simpa [step] using makeFunction_extends machine
      | call =>
          exact call_extends frames extending machine
      | assign =>
          simpa [step] using assign_extends machine
  | fail error =>
      exact .refl machine

/-- A list of instructions extends the machine, wherever it stops. -/
theorem execute_extends
    (frames : Nat)
    (extending : Extending runBody)
    (instructions : List Instruction)
    (machine : Machine) :
    machine.Extends (execute frames runBody instructions machine).machine := by
  induction instructions generalizing machine with
  | nil =>
      exact .refl machine
  | cons instruction rest inductionHypothesis =>
      have first := step_extends frames extending instruction machine
      unfold execute
      split
      · next after finished =>
        rw [finished] at first
        exact first.trans (inductionHypothesis after)
      · exact first

/-- Frames are too few to run anything, or they are those of a nested call and four more. -/
@[elab_as_elim]
theorem framesInduction
    {motive : Nat → Prop}
    (tooFew : ∀ frames < 4, motive frames)
    (nested : ∀ frames, motive frames → motive (frames + 4))
    (frames : Nat) :
    motive frames := by
  induction frames using Nat.strongRecOn with
  | ind frames inductionHypothesis =>
      by_cases few : frames < 4
      · exact tooFew frames few
      · obtain ⟨fewer, rfl⟩ := Nat.exists_eq_add_of_le' (Nat.le_of_not_lt few)
        exact nested fewer (inductionHypothesis fewer (by omega))

/-- With too few frames nothing runs. -/
theorem run_tooFew
    (few : frames < 4)
    (tokens : List Token)
    (machine : Machine) :
    run frames tokens machine = hostFails machine := by
  match frames with
  | 0 | 1 | 2 | 3 =>
      rfl
  | frames + 4 =>
      omega

/-- With enough frames the instructions of the tokens are carried out. -/
theorem run_enough
    (enough : 4 ≤ frames)
    (tokens : List Token)
    (machine : Machine) :
    run frames tokens machine =
      execute (frames - 4) (run (frames - 4)) (Instruction.ofTokens tokens) machine := by
  obtain ⟨fewer, rfl⟩ := Nat.exists_eq_add_of_le' enough
  rfl

/-- A run extends the machine, wherever it stops. -/
theorem run_extends
    (frames : Nat) :
    Extending (run frames) := by
  induction frames using framesInduction with
  | tooFew frames few =>
      intro body machine
      rw [run_tooFew few]
      exact .refl machine
  | nested frames inductionHypothesis =>
      intro body machine
      exact execute_extends frames inductionHypothesis (Instruction.ofTokens body) machine

variable {machine after : Machine} {outcome : Outcome}

/-- What succeeds leaves the depth as it was. -/
theorem LeavesDepth.of_success
    (leaves : LeavesDepth frames machine ⟨after, none⟩) :
    after.depth = machine.depth := by
  rcases leaves with restored | ⟨_, _, error, failed, _⟩
  · exact restored
  · cases failed

theorem LeavesDepth.of_popped
    (popped : machine.Popped after)
    (leaves : LeavesDepth frames after outcome) :
    LeavesDepth frames machine outcome := by
  obtain ⟨stack, rfl, _⟩ := popped
  exact leaves

/-- Attaching a token leaves the depth as it is. -/
theorem LeavesDepth.blame
    (leaves : LeavesDepth frames machine outcome)
    (token : Token) :
    LeavesDepth frames machine (Evaluation.blame token outcome) := by
  rcases leaves with restored | ⟨few, raised, error, failed, ofHost⟩
  · exact .inl restored
  · exact .inr ⟨few, raised, error.attach token, by simp [Evaluation.blame, failed], ofHost⟩

/-- A call that ends lowers the depth by the one that it has raised. -/
theorem LeavesDepth.leave
    {body : List Token}
    (inner : LeavesDepth frames (enter machine body) outcome) :
    LeavesDepth frames machine (Evaluation.leave outcome) := by
  have entered : (enter machine body).depth = machine.depth + 1 :=
    rfl
  have left : (Evaluation.leave outcome).machine.depth = outcome.machine.depth - 1 :=
    rfl
  rcases inner with restored | ⟨few, raised, error, failed, ofHost⟩
  · exact .inl (by omega)
  · refine .inr ⟨few, by omega, error.caught, by simp [Evaluation.leave, failed], ?_⟩
    exact ofHost.caught

/-- Only a call that the host fails too early leaves the depth raised. -/
theorem callFunction_leavesDepth
    (leaves : ∀ body machine, LeavesDepth frames machine (runBody body machine))
    (body : List Token)
    (machine : Machine) :
    LeavesDepth frames machine (callFunction frames runBody body machine) := by
  unfold callFunction
  split
  · exact .inl rfl
  split
  · next few =>
    exact .inr ⟨Nat.lt_of_le_of_lt (Nat.mod_le _ _) few, rfl, _, rfl, .inl rfl⟩
  · exact (leaves body (enter machine body)).leave

theorem call_leavesDepth
    (leaves : ∀ body machine, LeavesDepth frames machine (runBody body machine))
    (machine : Machine) :
    LeavesDepth frames machine (call frames runBody machine) := by
  cases found : target frames machine with
  | mk after result =>
      have popped := popped_of_target found
      cases result with
      | error cause =>
          rw [call_of_target_error runBody found]
          exact .of_popped popped (.inl rfl)
      | ok callee =>
          rw [call_of_target_ok runBody found]
          cases callee with
          | function body =>
              exact .of_popped popped (callFunction_leavesDepth leaves body after)
          | builtin builtin =>
              exact .of_popped popped (.inl (after.depth_apply builtin))
          | _ =>
              exact .of_popped popped (.inl rfl)

/-- Only a call can change the depth. -/
theorem depth_step_of_not_call
    {instruction : Instruction}
    (notCall : ∀ token, instruction ≠ .form .call token)
    (machine : Machine) :
    (step frames runBody instruction machine).machine.depth = machine.depth := by
  cases instruction with
  | push value =>
      rfl
  | operate name token =>
      rw [step, settle_machine, operate]
      split
      · exact machine.depth_apply _
      · rfl
  | form special token =>
      cases special with
      | makeFunction =>
          rw [step, settle_machine]
          rcases makeFunction_cases machine with
              ⟨after, cause, ⟨stack, rfl, _⟩, _, shape⟩ | ⟨top, rest, body, _, _, shape⟩
          · rw [shape]
          · rw [shape]
      | call =>
          exact absurd rfl (notCall token)
      | assign =>
          rw [step, settle_machine]
          rcases assign_cases machine with
              ⟨after, cause, ⟨stack, rfl, _⟩, _, shape⟩ |
                ⟨name, value, rest, resolved, _, _, _, shape⟩
          · rw [shape]
          · rw [shape]
  | fail error =>
      rfl

theorem step_leavesDepth
    (leaves : ∀ body machine, LeavesDepth frames machine (runBody body machine))
    (instruction : Instruction)
    (machine : Machine) :
    LeavesDepth frames machine (step frames runBody instruction machine) := by
  by_cases isCall : ∃ token, instruction = .form .call token
  · obtain ⟨token, rfl⟩ := isCall
    exact (call_leavesDepth leaves machine).blame token
  · exact .inl (depth_step_of_not_call (not_exists.mp isCall) machine)

theorem execute_leavesDepth
    (leaves : ∀ body machine, LeavesDepth frames machine (runBody body machine))
    (instructions : List Instruction)
    (machine : Machine) :
    LeavesDepth frames machine (execute frames runBody instructions machine) := by
  induction instructions generalizing machine with
  | nil =>
      exact .inl rfl
  | cons instruction rest inductionHypothesis =>
      have first := step_leavesDepth leaves instruction machine
      unfold execute
      split
      · next after finished =>
        rw [finished] at first
        have behind := inductionHypothesis after
        rwa [LeavesDepth, first.of_success] at behind
      · exact first

/--
A run leaves the depth that it began with, or one more where the host fails between raising the
depth and protecting the call, for which it must have so many frames that a nested call finds too
few.
-/
theorem run_leavesDepth
    (frames : Nat)
    (tokens : List Token)
    (machine : Machine) :
    LeavesDepth frames machine (run frames tokens machine) := by
  induction frames using framesInduction generalizing tokens machine with
  | tooFew frames few =>
      rw [run_tooFew few]
      exact .inl rfl
  | nested frames inductionHypothesis =>
      rw [LeavesDepth, Nat.add_mod_right]
      exact execute_leavesDepth inductionHypothesis (Instruction.ofTokens tokens) machine

section HostFailure

variable {error : Error}

/-- With the frames to record it, a call passes on no failure of the host itself. -/
theorem call_ne_hostFailure
    (enough : recordFrames ≤ frames)
    (failed : (call frames runBody machine).error = some error) :
    error.cause ≠ .hostFailure := by
  cases found : target frames machine with
  | mk after result =>
      cases result with
      | error cause =>
          rw [call_of_target_error runBody found] at failed
          cases failed
          rcases reports_of_target found with reports | ⟨_, noFrame⟩
          · exact reports.ne_hostFailure
          · subst noFrame
            cases enough
      | ok callee =>
          rw [call_of_target_ok runBody found] at failed
          cases callee with
          | function body =>
              rw [callValue, callFunction] at failed
              split at failed
              · cases failed
                simp
              rw [if_neg (Nat.not_lt.mpr enough)] at failed
              obtain ⟨inner, _, rfl⟩ := Option.map_eq_some_iff.mp failed
              exact inner.caught_ne_hostFailure
          | builtin builtin =>
              obtain ⟨cause, fails, rfl⟩ := Option.map_eq_some_iff.mp failed
              exact ((after.apply_reworks builtin).fails cause fails).ne_hostFailure
          | _ =>
              cases failed
              simp

/-- With these frames, no instruction ends with a failure of the host unless it is one itself. -/
theorem step_ne_hostFailure
    (enough : recordFrames ≤ frames)
    {instruction : Instruction}
    (notOfHost : ∀ other, instruction = .fail other → other.cause ≠ .hostFailure)
    (failed : (step frames runBody instruction machine).error = some error) :
    error.cause ≠ .hostFailure := by
  cases instruction with
  | push value =>
      cases failed
  | operate name token =>
      obtain ⟨cause, fails, rfl⟩ := settle_error_cases failed
      rcases operate_fails fails with reports | ⟨_, rfl⟩
      · exact reports.ne_hostFailure
      · simp [Error.atToken]
  | form special token =>
      cases special with
      | makeFunction =>
          obtain ⟨cause, fails, rfl⟩ := settle_error_cases failed
          exact (makeFunction_fails fails).ne_hostFailure
      | call =>
          obtain ⟨inner, innerFailed, rfl⟩ := Option.map_eq_some_iff.mp failed
          have notOfHost : inner.cause ≠ .hostFailure :=
            call_ne_hostFailure enough innerFailed
          exact notOfHost
      | assign =>
          obtain ⟨cause, fails, rfl⟩ := settle_error_cases failed
          exact (assign_fails fails).ne_hostFailure
  | fail other =>
      cases failed
      exact notOfHost _ rfl

theorem execute_ne_hostFailure
    (enough : recordFrames ≤ frames)
    {instructions : List Instruction}
    (notOfHost : ∀ other, .fail other ∈ instructions → other.cause ≠ .hostFailure)
    (failed : (execute frames runBody instructions machine).error = some error) :
    error.cause ≠ .hostFailure := by
  induction instructions generalizing machine with
  | nil =>
      cases failed
  | cons instruction rest inductionHypothesis =>
      unfold execute at failed
      split at failed
      · exact inductionHypothesis (fun other member => notOfHost other (.tail _ member)) failed
      · exact step_ne_hostFailure enough (fun other same => notOfHost other (same ▸ .head _)) failed

/-- A run whose calls the host can record is never ended by a failure of the host itself. -/
theorem run_ne_hostFailure
    (enough : 4 + recordFrames ≤ frames)
    {tokens : List Token}
    (notOfHost :
      ∀ other, .fail other ∈ Instruction.ofTokens tokens → other.cause ≠ .hostFailure)
    (failed : (run frames tokens machine).error = some error) :
    error.cause ≠ .hostFailure := by
  obtain ⟨fewer, rfl⟩ := Nat.exists_eq_add_of_le' (Nat.le_of_add_right_le enough)
  exact execute_ne_hostFailure (by omega) notOfHost failed

end HostFailure

end Evaluation

end StackScript
