import Mathlib.Data.Nat.Find
import Mathlib.Logic.Relation
import StackScript.Proofs.Balance
import StackScript.Proofs.Growth

namespace StackScript

/-!
# Evaluation step by step

A run is computed as a whole, within the frames that the host has for nested calls.  Here evaluation
goes one step at a time, and no bound is built in: a configuration holds the tokens that are left,
the calls that wait for them, and the machine.  A step carries out the instruction in front, enters
the body of a function, returns to a caller, or passes an error on to one.

On every host, even on one without bound, the steps come to an end.  The induction is on the room
for nested calls that the machine has left, and within a body on the tokens that are left of it.
-/

/-- Which numbers of frames a host can hold. -/
abbrev Host :=
  Nat → Bool

namespace Host

/-- The host that holds any number of frames. -/
def unbounded : Host :=
  fun _ => true

/-- The host that holds a number of frames and no more. -/
def holding (frames : Nat) : Host :=
  fun needed => needed ≤ frames

/-- Whether a host can begin a body for which a number of calls wait, with four frames each. -/
def begins (host : Host) (waiting : Nat) : Bool :=
  host (4 * waiting + 4)

/--
The frames that a host has for a call made by such a body: with one it looks up a name, with two it
records the call.
-/
def spare (host : Host) (waiting : Nat) : Nat :=
  if host (4 * waiting + 5) then
    if host (4 * waiting + 6) then 2 else 1
  else
    0

end Host

/-- What evaluation goes on with: the tokens that are left, or an error to pass on. -/
inductive Control where
  | running (tokens : List Token)
  | failing (error : Error)
  deriving DecidableEq

/-- The error that is passed on, if there is one. -/
def Control.error? : Control → Option Error
  | .running _ =>
      none
  | .failing error =>
      some error

/-- A call that waits for the body it has entered: its token, and the tokens behind it. -/
structure Caller where
  token : Token
  rest : List Token
  deriving DecidableEq

/-- A moment of an evaluation.  The innermost caller stands first. -/
structure Configuration where
  control : Control
  callers : List Caller
  machine : Machine
  deriving DecidableEq

namespace Instruction

/-- The instruction in front of a token list, and the tokens that it leaves. -/
def takeFirst (token : Token) (rest : List Token) : Instruction × List Token :=
  if token.lexeme = .openBrace then
    match capture? rest with
    | some body =>
        (.push (.block body), rest.drop (body.length + 1))
    | none =>
        (.fail (Error.atToken token .unclosedBlock), [])
  else
    (ofToken token, rest)

/-- Taking instructions from the front one by one gives the instructions of a token list. -/
theorem ofTokens_eq_takeFirst
    (token : Token)
    (rest : List Token) :
    ofTokens (token :: rest) =
      (takeFirst token rest).1 :: ofTokens (takeFirst token rest).2 := by
  unfold takeFirst ofTokens
  rw [ofTokensFrom]
  by_cases opens : token.lexeme = .openBrace
  · simp only [opens, ↓reduceIte]
    cases capture? rest with
    | some body =>
        simp only [ofTokensFrom_skip none (body.length + 1)]
    | none =>
        rfl
  · simp only [opens, ↓reduceIte]

/-- An instruction that is taken from the front leaves fewer tokens. -/
theorem length_takeFirst_le
    (token : Token)
    (rest : List Token) :
    (takeFirst token rest).2.length ≤ rest.length := by
  unfold takeFirst
  split
  · split <;> simp
  · exact Nat.le_refl _

end Instruction

namespace Evaluation

/-- A way to run function bodies that does nothing. -/
def idle : Runner :=
  fun _ machine => ⟨machine, none⟩

/--
The body that an instruction enters with the frames that there are for a call, the token of the call
and the machine inside.
-/
def entered? (frames : Nat) (instruction : Instruction) (machine : Machine) :
    Option (Token × List Token × Machine) :=
  match instruction with
  | .form .call token =>
      match target frames machine with
      | (after, .ok (.function body)) =>
          if after.maxDepth ≤ after.depth ∨ frames < recordFrames then
            none
          else
            some (token, body, enter after body)
      | _ =>
          none
  | _ =>
      none

end Evaluation

namespace Configuration

/-- What follows a completed instruction: the tokens behind it, or the error it ended with. -/
def settled (rest : List Token) (callers : List Caller) : Outcome → Configuration
  | ⟨machine, none⟩ =>
      ⟨.running rest, callers, machine⟩
  | ⟨machine, some error⟩ =>
      ⟨.failing error, callers, machine⟩

/-- The beginning of a body, if the host can hold it. -/
def entering
    (host : Host)
    (body : List Token)
    (callers : List Caller)
    (machine : Machine) :
    Configuration where
  control :=
    if host.begins callers.length then .running body else .failing ⟨.hostFailure, none⟩
  callers :=
    callers
  machine :=
    machine

/-- Carry out an instruction; a function body is entered, not run. -/
def perform
    (host : Host)
    (instruction : Instruction)
    (rest : List Token)
    (callers : List Caller)
    (machine : Machine) :
    Configuration :=
  let frames := host.spare callers.length
  match Evaluation.entered? frames instruction machine with
  | some (caller, body, inside) =>
      entering host body (⟨caller, rest⟩ :: callers) inside
  | none =>
      settled rest callers (Evaluation.step frames Evaluation.idle instruction machine)

/-- One step, unless the evaluation has ended. -/
def next? (host : Host) (configuration : Configuration) : Option Configuration :=
  match configuration with
  | ⟨.running (token :: rest), callers, machine⟩ =>
      let (instruction, behind) := Instruction.takeFirst token rest
      some (perform host instruction behind callers machine)
  | ⟨.running [], caller :: callers, machine⟩ =>
      some (settled caller.rest callers (Evaluation.leave ⟨machine, none⟩))
  | ⟨.failing error, caller :: callers, machine⟩ =>
      some (settled caller.rest callers
        (Evaluation.blame caller.token (Evaluation.leave ⟨machine, some error⟩)))
  | _ =>
      none

/-- The beginning of an evaluation. -/
def start (host : Host) (tokens : List Token) (machine : Machine) : Configuration :=
  entering host tokens [] machine

/-- The end of an evaluation. -/
def ended (outcome : Outcome) : Configuration :=
  settled [] [] outcome

/-- A configuration that is reached by finitely many steps. -/
def Reaches (host : Host) : Configuration → Configuration → Prop :=
  Relation.ReflTransGen fun before after => before.next? host = some after

/-- Whether the steps from a configuration never end. -/
def RunsForever (host : Host) (configuration : Configuration) : Prop :=
  ∃ trace : Nat → Configuration,
    trace 0 = configuration ∧
      ∀ index, (trace index).next? host = some (trace (index + 1))

variable {host : Host} {configuration middle final : Configuration}

/-- A step and what is reached behind it. -/
theorem Reaches.step
    (stepped : configuration.next? host = some middle)
    (reached : middle.Reaches host final) :
    configuration.Reaches host final :=
  Relation.ReflTransGen.head stepped reached

/-- An evaluation that has ended takes no step. -/
theorem next?_ended
    (host : Host)
    (outcome : Outcome) :
    (ended outcome).next? host = none := by
  rcases outcome with ⟨machine, _ | error⟩ <;> rfl

/-- What reaches a configuration without a next step does not run for ever. -/
theorem Reaches.not_runsForever
    (reached : configuration.Reaches host final)
    (isFinal : final.next? host = none) :
    ¬configuration.RunsForever host := by
  induction reached using Relation.ReflTransGen.head_induction_on with
  | refl =>
      rintro ⟨trace, rfl, steps⟩
      have stepped := steps 0
      rw [isFinal] at stepped
      cases stepped
  | head stepped _ inductionHypothesis =>
      rintro ⟨trace, rfl, steps⟩
      have same := (steps 0).symm.trans stepped
      cases same
      exact inductionHypothesis
        ⟨fun index => trace (index + 1), rfl, fun index => steps (index + 1)⟩

/-- What holds at first and is kept by every step holds of all that is reached. -/
theorem Reaches.holds
    (reached : configuration.Reaches host final)
    (property : Configuration → Prop)
    (kept :
      ∀ {before after : Configuration},
        before.next? host = some after → property before → property after)
    (initially : property configuration) :
    property final := by
  induction reached with
  | refl =>
      exact initially
  | tail _ stepped inductionHypothesis =>
      exact kept stepped inductionHypothesis

@[simp] theorem settled_machine
    (rest : List Token)
    (callers : List Caller)
    (outcome : Outcome) :
    (settled rest callers outcome).machine = outcome.machine := by
  rcases outcome with ⟨machine, _ | error⟩ <;> rfl

@[simp] theorem settled_callers
    (rest : List Token)
    (callers : List Caller)
    (outcome : Outcome) :
    (settled rest callers outcome).callers = callers := by
  rcases outcome with ⟨machine, _ | error⟩ <;> rfl

/--
All that a step can do: carry out an instruction that enters no body, enter a body, or leave one
with or without an error.
-/
theorem next?_cases
    {after : Configuration}
    (stepped : configuration.next? host = some after) :
    (∃ token rest instruction behind,
      let frames := host.spare configuration.callers.length
      configuration.control = .running (token :: rest) ∧
        Instruction.takeFirst token rest = (instruction, behind) ∧
        ((Evaluation.entered? frames instruction configuration.machine = none ∧
            after =
              settled behind configuration.callers
                (Evaluation.step frames Evaluation.idle instruction configuration.machine)) ∨
          ∃ caller body inside,
            Evaluation.entered? frames instruction configuration.machine =
                some (caller, body, inside) ∧
              after = entering host body (⟨caller, behind⟩ :: configuration.callers) inside)) ∨
      ∃ caller callers,
        configuration.callers = caller :: callers ∧
          after =
            settled caller.rest callers
              (Evaluation.blame caller.token
                (Evaluation.leave ⟨configuration.machine, configuration.control.error?⟩)) := by
  rcases configuration with ⟨control, callers, machine⟩
  cases control with
  | running tokens =>
      cases tokens with
      | cons token rest =>
          left
          rcases taken : Instruction.takeFirst token rest with ⟨instruction, behind⟩
          refine ⟨token, rest, instruction, behind, rfl, taken, ?_⟩
          simp only [next?, taken, perform, Option.some.injEq] at stepped
          cases entered : Evaluation.entered? (host.spare callers.length) instruction machine with
          | none =>
              rw [entered] at stepped
              exact .inl ⟨rfl, stepped.symm⟩
          | some call =>
              obtain ⟨caller, body, inside⟩ := call
              rw [entered] at stepped
              exact .inr ⟨caller, body, inside, rfl, stepped.symm⟩
      | nil =>
          right
          cases callers with
          | nil =>
              cases stepped
          | cons caller callers =>
              cases stepped
              exact ⟨caller, callers, rfl, rfl⟩
  | failing error =>
      right
      cases callers with
      | nil =>
          cases stepped
      | cons caller callers =>
          cases stepped
          exact ⟨caller, callers, rfl, rfl⟩

end Configuration

namespace Evaluation

variable {frames : Nat} {instruction : Instruction} {machine : Machine}

/-- An instruction that enters no body is carried out whatever would run the body. -/
theorem step_of_not_entered
    (runBody : Runner)
    (notEntered : entered? frames instruction machine = none) :
    step frames runBody instruction machine = step frames idle instruction machine := by
  cases instruction with
  | form special token =>
      cases special with
      | call =>
          simp only [step]
          cases found : target frames machine with
          | mk after result =>
              cases result with
              | error cause =>
                  rw [call_of_target_error _ found, call_of_target_error _ found]
              | ok callee =>
                  rw [call_of_target_ok _ found, call_of_target_ok _ found]
                  cases callee with
                  | function body =>
                      have stopped : after.maxDepth ≤ after.depth ∨ frames < recordFrames := by
                        by_contra goesOn
                        simp [entered?, found, goesOn] at notEntered
                      simp only [callValue, callFunction]
                      rcases stopped with noRoom | tooFew
                      · rw [if_pos noRoom, if_pos noRoom]
                      · rw [if_pos tooFew, if_pos tooFew]
                  | _ =>
                      rfl
      | _ =>
          rfl
  | _ =>
      rfl

/--
A body is entered by a call whose target is a function, where the machine has room and the host can
record the call.
-/
theorem entered_cases
    {caller : Token}
    {body : List Token}
    {inside : Machine}
    (entered : entered? frames instruction machine = some (caller, body, inside)) :
    ∃ after,
      instruction = .form .call caller ∧
        target frames machine = (after, .ok (.function body)) ∧
        after.depth < after.maxDepth ∧
        recordFrames ≤ frames ∧
        inside = enter after body := by
  unfold entered? at entered
  split at entered
  · next token =>
    split at entered
    · next after found targetShape =>
      split at entered
      · cases entered
      · next goesOn =>
        cases entered
        obtain ⟨hasRoom, enough⟩ := not_or.mp goesOn
        exact ⟨after, rfl, targetShape, Int.not_le.mp hasRoom, Nat.le_of_not_lt enough, rfl⟩
    · cases entered
  · cases entered

/-- An instruction that enters a body runs it inside a call. -/
theorem step_of_entered
    (runBody : Runner)
    {caller : Token}
    {body : List Token}
    {inside : Machine}
    (entered : entered? frames instruction machine = some (caller, body, inside)) :
    step frames runBody instruction machine = blame caller (leave (runBody body inside)) := by
  obtain ⟨after, rfl, found, hasRoom, enough, rfl⟩ := entered_cases entered
  simp only [step, call_of_target_ok _ found, callValue, callFunction,
    if_neg (Int.not_le.mpr hasRoom), if_neg (Nat.not_lt.mpr enough)]

section Few

/-- A call needs no more than the two frames with which it is recorded. -/
theorem seek_min
    (frames : Nat)
    (machine : Machine) :
    seek (min frames recordFrames) machine = seek frames machine := by
  funext value
  cases frames with
  | zero =>
      rfl
  | succ fewer =>
      rw [seek_of_pos (Nat.succ_pos fewer), seek_of_pos]
      exact Nat.lt_min.mpr ⟨Nat.succ_pos fewer, Nat.succ_pos 1⟩

theorem target_min
    (frames : Nat)
    (machine : Machine) :
    target (min frames recordFrames) machine = target frames machine := by
  simp only [target, seek_min]

theorem min_lt_recordFrames_iff :
    min frames recordFrames < recordFrames ↔ frames < recordFrames := by
  omega

theorem entered?_min
    (frames : Nat)
    (instruction : Instruction)
    (machine : Machine) :
    entered? (min frames recordFrames) instruction machine =
      entered? frames instruction machine := by
  simp only [entered?, target_min, min_lt_recordFrames_iff]

theorem callValue_min
    (frames : Nat)
    (runBody : Runner)
    (callee : Value)
    (machine : Machine) :
    callValue (min frames recordFrames) runBody callee machine =
      callValue frames runBody callee machine := by
  cases callee with
  | function body =>
      simp only [callValue, callFunction, min_lt_recordFrames_iff]
  | _ =>
      rfl

theorem step_min
    (frames : Nat)
    (runBody : Runner)
    (instruction : Instruction)
    (machine : Machine) :
    step (min frames recordFrames) runBody instruction machine =
      step frames runBody instruction machine := by
  cases instruction with
  | form special token =>
      cases special with
      | call =>
          simp only [step, call, seek_min, callValue_min]
      | _ =>
          rfl
  | _ =>
      rfl

end Few

end Evaluation

/-- The number of nested calls that a machine has room for. -/
def Machine.room (machine : Machine) : Nat :=
  (machine.maxDepth - machine.depth).toNat

namespace Machine

/-- Taking values from the stack leaves the room as it is. -/
theorem Popped.room
    {before after : Machine}
    (popped : before.Popped after) :
    after.room = before.room := by
  obtain ⟨stack, rfl, _⟩ := popped
  rfl

/-- An instruction that succeeds leaves the room as it is. -/
theorem room_of_step
    {frames : Nat}
    {instruction : Instruction}
    {machine after : Machine}
    (succeeds :
      Evaluation.step frames (Evaluation.run frames) instruction machine = ⟨after, none⟩) :
    after.room = machine.room := by
  have extended :=
    Evaluation.step_extends frames (Evaluation.run_extends frames) instruction machine
  have depth :=
    Evaluation.step_leavesDepth (Evaluation.run_leavesDepth frames) instruction machine
  rw [succeeds] at extended depth
  rw [room, room, extended.maxDepth, depth.of_success]

/-- Inside a call there is room for one call less. -/
theorem room_of_entered
    {frames : Nat}
    {instruction : Instruction}
    {machine : Machine}
    {caller : Token}
    {body : List Token}
    {inside : Machine}
    (entered : Evaluation.entered? frames instruction machine = some (caller, body, inside)) :
    machine.room = inside.room + 1 := by
  obtain ⟨after, _, found, hasRoom, _, rfl⟩ := Evaluation.entered_cases entered
  rw [← (Evaluation.popped_of_target found).room]
  simp only [Machine.room, Evaluation.enter, Evaluation.deepen, Machine.record]
  omega

end Machine

/--
A host that serves a run with the given frames where a number of calls wait, as far as a machine has
room for more.  Either it does not begin the body, and the frames are too few, or it begins the body
and has the frames that are left for the calls in it.
-/
inductive Host.Serves (host : Host) : (waiting room frames : Nat) → Prop where
  | refused
      {waiting room frames : Nat}
      (few : frames < 4)
      (refuses : host.begins waiting = false) :
      Serves host waiting room frames
  | begun
      {waiting room frames : Nat}
      (begins : host.begins waiting = true)
      (spare : host.spare waiting = min frames Evaluation.recordFrames)
      (inside :
        Evaluation.recordFrames ≤ frames →
          ∀ less, room = less + 1 → Serves host (waiting + 1) less frames) :
      Serves host waiting room (frames + 4)

namespace Host

/-- A host without a frame to spare for recording calls serves a run that has none either. -/
theorem serves_of_spare_lt
    {host : Host}
    {waiting : Nat}
    (begins : host.begins waiting = true)
    (few : host.spare waiting < Evaluation.recordFrames)
    (room : Nat) :
    host.Serves waiting room (host.spare waiting + 4) := by
  refine .begun begins (Nat.min_eq_left (Nat.le_of_lt few)).symm ?_
  intro enough
  exact absurd few (Nat.not_lt.mpr enough)

theorem spare_le
    (host : Host)
    (waiting : Nat) :
    host.spare waiting ≤ Evaluation.recordFrames := by
  unfold spare
  split
  · split <;> decide
  · decide

/-- A host that serves the calls inside a body serves a run of the body. -/
theorem exists_serves_of_inside
    {host : Host}
    {waiting room frames : Nat}
    (enough : Evaluation.recordFrames ≤ frames)
    (inside : ∀ less, room = less + 1 → host.Serves (waiting + 1) less frames) :
    ∃ all, Evaluation.recordFrames ≤ all ∧ host.Serves waiting room all := by
  cases begins : host.begins waiting with
  | false =>
      exact ⟨2, Nat.le_refl _, .refused (by decide) begins⟩
  | true =>
      by_cases few : host.spare waiting < Evaluation.recordFrames
      · refine ⟨host.spare waiting + 4, ?_, serves_of_spare_lt begins few room⟩
        exact Nat.le_trans (by decide) (Nat.le_add_left 4 _)
      · have spare : host.spare waiting = Evaluation.recordFrames :=
          Nat.le_antisymm (host.spare_le waiting) (Nat.le_of_not_lt few)
        refine ⟨frames + 4, Nat.le_add_right_of_le enough, .begun begins ?_ fun _ => inside⟩
        rw [spare, Nat.min_eq_right enough]

/-- Every host serves some run, with so many frames at least as recording a call takes. -/
theorem exists_serves
    (host : Host)
    (waiting room : Nat) :
    ∃ frames, Evaluation.recordFrames ≤ frames ∧ host.Serves waiting room frames := by
  induction room generalizing waiting with
  | zero =>
      refine exists_serves_of_inside (Nat.le_refl _) ?_
      rintro _ ⟨⟩
  | succ less inductionHypothesis =>
      obtain ⟨frames, enough, serves⟩ := inductionHypothesis (waiting + 1)
      refine exists_serves_of_inside enough ?_
      rintro _ ⟨⟩
      exact serves

/-- A host without bound serves a run with frames for all the calls that there is room for. -/
theorem unbounded_serves
    (waiting room more : Nat) :
    unbounded.Serves waiting room (4 * (room + 1) + 2 + more) := by
  have spare (frames : Nat) (enough : 2 ≤ frames) :
      unbounded.spare waiting = min frames Evaluation.recordFrames :=
    (Nat.min_eq_right enough).symm
  induction room generalizing waiting with
  | zero =>
      rw [show 4 * (0 + 1) + 2 + more = 2 + more + 4 by omega]
      refine .begun rfl (spare _ (by omega)) ?_
      rintro _ _ ⟨⟩
  | succ less inductionHypothesis =>
      rw [show 4 * (less + 1 + 1) + 2 + more = 4 * (less + 1) + 2 + more + 4 by omega]
      refine .begun rfl (spare _ (by omega)) ?_
      rintro _ _ ⟨⟩
      exact inductionHypothesis (waiting + 1) spare

/-- A host with frames for the calls that wait, and for the run, serves the run. -/
theorem holding_serves
    (waiting room frames : Nat) :
    (holding (4 * waiting + frames)).Serves waiting room frames := by
  induction frames using Evaluation.framesInduction generalizing waiting room with
  | tooFew frames few =>
      refine .refused few ?_
      simp only [begins, holding, decide_eq_false_iff_not]
      omega
  | nested frames inductionHypothesis =>
      refine .begun ?_ ?_ ?_
      · simp only [begins, holding, decide_eq_true_eq]
        omega
      · simp only [spare, holding, decide_eq_true_eq, Evaluation.recordFrames]
        split
        · split <;> omega
        · omega
      · intro _ less _
        have inside := inductionHypothesis (waiting + 1) less
        rwa [show 4 * (waiting + 1) + frames = 4 * waiting + (frames + 4) by omega] at inside

end Host

namespace Configuration

variable {host : Host} {callers : List Caller}

/-- Leaving a body goes on behind the call, or passes the error on with the call's token. -/
theorem next?_settled_caller
    (host : Host)
    (caller : Caller)
    (callers : List Caller)
    (outcome : Outcome) :
    (settled [] (caller :: callers) outcome).next? host =
      some (settled caller.rest callers
        (Evaluation.blame caller.token (Evaluation.leave outcome))) := by
  rcases outcome with ⟨machine, _ | error⟩ <;> rfl

/-- A host on which steps reach, for every token list, what a run with the given frames computes. -/
def Computes (host : Host) (frames : Nat) : Prop :=
  ∀ (tokens : List Token) (callers : List Caller) (machine : Machine),
    host.Serves callers.length machine.room frames →
      (entering host tokens callers machine).Reaches host
        (settled [] callers (Evaluation.run frames tokens machine))

/-- The body that is being run was begun, and the frames that are left serve the calls in it. -/
structure Begun (host : Host) (waiting room frames : Nat) : Prop where
  spare :
    host.spare waiting = min frames Evaluation.recordFrames
  inside :
    Evaluation.recordFrames ≤ frames →
      ∀ less, room = less + 1 → host.Serves (waiting + 1) less frames

/-- An instruction is carried out in finitely many steps, with all that it calls. -/
theorem reaches_step
    {frames : Nat}
    (computes : Computes host frames)
    {token : Token}
    {rest behind : List Token}
    {instruction : Instruction}
    (taken : Instruction.takeFirst token rest = (instruction, behind))
    (machine : Machine)
    (begun : Begun host callers.length machine.room frames) :
    Reaches host ⟨.running (token :: rest), callers, machine⟩
      (settled behind callers
        (Evaluation.step frames (Evaluation.run frames) instruction machine)) := by
  have stepped :
      next? host ⟨.running (token :: rest), callers, machine⟩ =
        some (perform host instruction behind callers machine) := by
    simp only [next?, taken]
  refine .step stepped ?_
  simp only [perform, begun.spare, Evaluation.entered?_min, Evaluation.step_min]
  cases entered : Evaluation.entered? frames instruction machine with
  | none =>
      rw [Evaluation.step_of_not_entered (Evaluation.run frames) entered]
      exact .refl
  | some call =>
      obtain ⟨caller, body, inside⟩ := call
      obtain ⟨_, _, _, _, enough, _⟩ := Evaluation.entered_cases entered
      have inner := computes body (⟨caller, behind⟩ :: callers) inside
        (begun.inside enough inside.room (Machine.room_of_entered entered))
      rw [Evaluation.step_of_entered (Evaluation.run frames) entered]
      exact Relation.ReflTransGen.tail inner (next?_settled_caller host _ _ _)

/-- The instructions of a body are carried out in finitely many steps. -/
theorem reaches_execute
    {frames : Nat}
    (computes : Computes host frames)
    (tokens : List Token)
    (machine : Machine)
    (begun : Begun host callers.length machine.room frames) :
    Reaches host ⟨.running tokens, callers, machine⟩
      (settled [] callers
        (Evaluation.execute frames (Evaluation.run frames)
          (Instruction.ofTokens tokens) machine)) := by
  induction size : tokens.length using Nat.strongRecOn generalizing tokens machine with
  | ind size inductionHypothesis =>
    cases tokens with
    | nil =>
        exact .refl
    | cons token rest =>
        rcases taken : Instruction.takeFirst token rest with ⟨instruction, behind⟩
        have first := reaches_step computes taken machine begun
        have fewer : behind.length ≤ rest.length := by
          simpa [taken] using Instruction.length_takeFirst_le token rest
        rw [Instruction.ofTokens_eq_takeFirst, taken, Evaluation.execute]
        rcases stepped : Evaluation.step frames (Evaluation.run frames) instruction machine with
          ⟨after, _ | error⟩
        · have sameRoom := Machine.room_of_step stepped
          rw [stepped] at first
          refine first.trans (inductionHypothesis behind.length ?_ behind after ?_ rfl)
          · rw [← size, List.length_cons]
            omega
          · rwa [sameRoom]
        · rw [stepped] at first
          exact first

/-- On every host, steps compute what a run computes. -/
theorem computes
    (host : Host)
    (frames : Nat) :
    Computes host frames := by
  induction frames using Evaluation.framesInduction with
  | tooFew frames few =>
      intro tokens callers machine serves
      cases serves with
      | refused _ refuses =>
          simp only [entering, refuses, Evaluation.run_tooFew few]
          exact .refl
      | begun =>
          omega
  | nested frames inductionHypothesis =>
      intro tokens callers machine serves
      generalize total : frames + 4 = all at serves
      cases serves with
      | refused few =>
          omega
      | begun begins spare inside =>
          obtain rfl := Nat.add_right_cancel total
          simp only [entering, begins]
          exact reaches_execute inductionHypothesis tokens machine ⟨spare, inside⟩

/-- On a host that holds a number of frames, steps end with the outcome of the run with these. -/
theorem reaches_run
    (frames : Nat)
    (tokens : List Token)
    (machine : Machine) :
    (start (.holding frames) tokens machine).Reaches (.holding frames)
      (.ended (Evaluation.run frames tokens machine)) := by
  have serves := Host.holding_serves 0 machine.room frames
  rw [Nat.mul_zero, Nat.zero_add] at serves
  exact computes _ frames tokens [] machine serves

end Configuration

namespace Evaluation

/--
Every evaluation comes to an end, whatever functions it makes, rebinds and calls.  On every host the
steps end with the outcome of a run and there is no endless sequence of them; on a host that holds a
number of frames they end with the outcome of the run with these frames, which is that of `evaluate`
for `hostFrames`; and on a host without bound the limit of the machine alone brings them to the
outcome of every run that the host does not cut short.
-/
theorem evaluation_comes_to_an_end
    (tokens : List Token)
    (machine : Machine) :
    (∀ host : Host,
      ¬(Configuration.start host tokens machine).RunsForever host ∧
        ∃ frames,
          (Configuration.start host tokens machine).Reaches host
            (.ended (run frames tokens machine))) ∧
      (∀ frames,
        (Configuration.start (.holding frames) tokens machine).Reaches (.holding frames)
          (.ended (run frames tokens machine))) ∧
      (Configuration.start (.holding hostFrames) tokens machine).Reaches (.holding hostFrames)
        (.ended (evaluate tokens machine)) ∧
      ∀ more,
        (Configuration.start .unbounded tokens machine).Reaches .unbounded
          (.ended (run (4 * (machine.room + 1) + 2 + more) tokens machine)) := by
  have reached
      {host : Host}
      {frames : Nat}
      (serves : host.Serves 0 machine.room frames) :
      (Configuration.start host tokens machine).Reaches host
        (.ended (run frames tokens machine)) :=
    Configuration.computes host frames tokens [] machine serves
  have served (frames : Nat) :=
    Configuration.reaches_run frames tokens machine
  refine ⟨?_, served, served hostFrames, fun more => reached (Host.unbounded_serves _ _ _)⟩
  intro host
  obtain ⟨frames, _, serves⟩ := host.exists_serves 0 machine.room
  exact ⟨(reached serves).not_runsForever (Configuration.next?_ended _ _), frames, reached serves⟩

end Evaluation

end StackScript
