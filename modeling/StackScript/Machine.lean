import StackScript.Bindings
import StackScript.Journal
import StackScript.Stack

namespace StackScript

/-!
# The machine

A machine is the state of one execution: the operand stack, the bindings, the builtins it knows, the
text printed so far, the journal, and the depth of nested calls with its limit.
-/

/-- The state of an execution. -/
structure Machine where
  stack : Stack := Stack.empty
  bindings : Bindings := Bindings.empty
  vocabulary : List Builtin := []
  output : String := ""
  /-- The events recorded so far, the latest first. -/
  journal : List Event := []
  depth : Nat := 0
  maxDepth : Int
  deriving DecidableEq

namespace Machine

/-- The names that are bound before a program starts. -/
def constants : List (String × Value) :=
  [("PI", .number (Float.ofBits 0x400921FB54442D18)),
    ("E", .number (Float.ofBits 0x4005BF0A8B145769))]

/-- Give a machine the builtins and the constants. -/
def register (machine : Machine) : Machine :=
  { machine with
    vocabulary := Builtin.all
    bindings := (machine.bindings.update constants).1 }

/-- A machine that is ready to run programs. -/
def fresh (maxDepth : Int) : Machine :=
  register { maxDepth }

/-- Put a value on the stack. -/
def push (machine : Machine) (value : Value) : Machine :=
  { machine with stack := machine.stack.push value }

/-- Print a line. -/
def printLine (machine : Machine) (line : String) : Machine :=
  { machine with output := machine.output ++ line ++ "\n" }

/-- Record an event. -/
def record (machine : Machine) (event : Event) : Machine :=
  { machine with journal := event :: machine.journal }

/-- What a name stands for: its binding, or else the builtin of that name. -/
def lookup (machine : Machine) (name : String) : Except Cause Value :=
  match machine.bindings.get? name with
  | some value =>
      .ok value
  | none =>
      match Builtin.find? machine.vocabulary name with
      | some builtin =>
          .ok (.builtin builtin)
      | none =>
          .error (.unbound name)

/-- What a value stands for; only names are looked up. -/
def resolve (machine : Machine) : Value → Except Cause Value
  | .name name =>
      machine.lookup name
  | value =>
      .ok value

/-- What each of several values stands for; the first failure wins. -/
def resolveAll (machine : Machine) : List Value → Except Cause (List Value)
  | [] =>
      .ok []
  | value :: rest =>
      match machine.resolve value with
      | .error cause =>
          .error cause
      | .ok resolved =>
          match machine.resolveAll rest with
          | .error cause =>
              .error cause
          | .ok more =>
              .ok (resolved :: more)

end Machine

end StackScript
