import StackScript.Instruction
import StackScript.Machine.Words

namespace StackScript

/-!
# Evaluation

A program runs instruction by instruction on a machine; the first error ends it and leaves the
machine as it is at that moment.  Calling a function runs its body on the same stack and bindings.
Nested calls are limited twice: by the machine's own depth limit, and by the frames that the host
has left for them.  The frames are the recursion argument of `run`, so every evaluation ends.  Where
they run out inside the body of a call, the call ends like any other and the depth is lowered again.
A call itself needs some frames between raising the depth and running its body, and where these are
missing nothing lowers the depth.
-/

/-- The machine where an evaluation ended, and the error that ended it, if any. -/
structure Outcome where
  machine : Machine
  error : Option Error
  deriving DecidableEq

/-- How function bodies are run. -/
abbrev Runner :=
  List Token → Machine → Outcome

namespace Evaluation

/-- The outcome of an operation carried out at a token. -/
def settle (token : Token) : Machine × Option Cause → Outcome
  | (machine, none) =>
      ⟨machine, none⟩
  | (machine, some cause) =>
      ⟨machine, some (Error.atToken token cause)⟩

/-- Turn the block on top of the stack into a function. -/
def makeFunction (machine : Machine) : Machine × Option Cause :=
  match machine.stack.pop with
  | .error cause =>
      (machine, some cause)
  | .ok (top, stack) =>
      let popped := { machine with stack }
      match popped.resolve top with
      | .error cause =>
          (popped, some cause)
      | .ok (.block body) =>
          (popped.push (.function body), none)
      | .ok other =>
          (popped, some (.notBlock other))

/-- Bind the name below the top of the stack to what the top stands for. -/
def assign (machine : Machine) : Machine × Option Cause :=
  match machine.stack.popN 2 with
  | .error cause =>
      (machine, some cause)
  | .ok ([.name target, value], stack) =>
      let popped := { machine with stack }
      match popped.resolve value with
      | .error cause =>
          (popped, some cause)
      | .ok resolved =>
          match popped.bindings.set target resolved with
          | .error cause =>
              (popped, some cause)
          | .ok bindings =>
              ({ popped with bindings }.record (.bound target resolved), none)
  | .ok (operands, stack) =>
      ({ machine with stack }, operands.head?.map .notName)

/-- The host gives out on a machine. -/
def hostFails (machine : Machine) : Outcome where
  machine :=
    machine
  error :=
    some ⟨.hostFailure, none⟩

/-- Raise the depth for a nested call. -/
def deepen (machine : Machine) : Machine :=
  { machine with depth := machine.depth + 1 }

/-- Begin a nested call. -/
def enter (machine : Machine) (body : List Token) : Machine :=
  (deepen machine).record (.called body (machine.depth + 1))

/-- End a nested call. -/
def leave (outcome : Outcome) : Outcome where
  machine :=
    { outcome.machine with depth := outcome.machine.depth - 1 }
  error :=
    outcome.error.map Error.caught

/-- The frames that it takes to record a call. -/
def recordFrames : Nat :=
  2

/--
Call a function body within the machine's depth limit.  The call is recorded when the depth is
raised already; if the host gives out there, nothing lowers the depth again.
-/
def callFunction
    (frames : Nat)
    (runBody : Runner)
    (body : List Token)
    (machine : Machine) :
    Outcome :=
  if machine.maxDepth ≤ machine.depth then
    ⟨machine, some ⟨.tooDeep machine.maxDepth, none⟩⟩
  else if frames < recordFrames then
    hostFails (deepen machine)
  else
    leave (runBody body (enter machine body))

/-- An outcome with a machine, a cause and no token. -/
def outcomeOf : Machine × Option Cause → Outcome
  | (machine, cause) =>
      ⟨machine, cause.map fun failure => ⟨failure, none⟩⟩

/-- Call a value. -/
def callValue
    (frames : Nat)
    (runBody : Runner)
    (callee : Value)
    (machine : Machine) :
    Outcome :=
  match callee with
  | .function body =>
      callFunction frames runBody body machine
  | .builtin builtin =>
      outcomeOf (machine.apply builtin)
  | other =>
      ⟨machine, some ⟨.notCallable other, none⟩⟩

/-- What a value stands for in a call; looking up a name takes a frame more than the call itself. -/
def seek (frames : Nat) (machine : Machine) (value : Value) : Except Cause Value :=
  match frames, value with
  | 0, .name _ =>
      .error .hostFailure
  | _, _ =>
      machine.resolve value

/-- Call what the top of the stack stands for. -/
def call (frames : Nat) (runBody : Runner) (machine : Machine) : Outcome :=
  match machine.stack.pop with
  | .error cause =>
      ⟨machine, some ⟨cause, none⟩⟩
  | .ok (top, stack) =>
      let popped := { machine with stack }
      match seek frames popped top with
      | .error cause =>
          ⟨popped, some ⟨cause, none⟩⟩
      | .ok callee =>
          callValue frames runBody callee popped

/-- Attach a token to the error of an outcome, unless an inner token is attached already. -/
def blame (token : Token) (outcome : Outcome) : Outcome where
  machine :=
    outcome.machine
  error :=
    outcome.error.map fun error => error.attach token

/-- Apply the builtin that an operator names. -/
def operate (name : String) (machine : Machine) : Machine × Option Cause :=
  match Builtin.find? machine.vocabulary name with
  | some builtin =>
      machine.apply builtin
  | none =>
      (machine, some (.unbound name))

/-- Carry out one instruction. -/
def step
    (frames : Nat)
    (runBody : Runner)
    (instruction : Instruction)
    (machine : Machine) :
    Outcome :=
  match instruction with
  | .push value =>
      ⟨machine.push value, none⟩
  | .operate name token =>
      settle token (operate name machine)
  | .form .makeFunction token =>
      settle token (makeFunction machine)
  | .form .assign token =>
      settle token (assign machine)
  | .form .call token =>
      blame token (call frames runBody machine)
  | .fail error =>
      ⟨machine, some error⟩

/-- Carry out instructions in order until one fails. -/
def execute (frames : Nat) (runBody : Runner) : List Instruction → Machine → Outcome
  | [], machine =>
      ⟨machine, none⟩
  | instruction :: rest, machine =>
      match step frames runBody instruction machine with
      | ⟨after, none⟩ =>
          execute frames runBody rest after
      | failed =>
          failed

/--
Run a token list on a host with the given number of frames.  Each nested call takes four of them:
for its evaluation, the step in it, the special form and the application.  What other operations
take for a moment is not counted.
-/
def run : (frames : Nat) → Runner
  | frames + 4, tokens, machine =>
      execute frames (run frames) (Instruction.ofTokens tokens) machine
  | _, _, machine =>
      hostFails machine

/--
The frames that the host has left for an evaluation.  The host holds a thousand, and the program
around the evaluation has taken fourteen of them.
-/
def hostFrames : Nat :=
  986

end Evaluation

/-- Evaluate a token list. -/
def evaluate (tokens : List Token) (machine : Machine) : Outcome :=
  Evaluation.run Evaluation.hostFrames tokens machine

/-- Evaluate a source text lazily: a fault counts only when everything in front of it has run. -/
def evaluateLexing (lexing : Lexing) (machine : Machine) : Outcome :=
  let frames := Evaluation.hostFrames - 4
  Evaluation.execute frames (Evaluation.run frames) (Instruction.ofLexing lexing) machine

end StackScript
