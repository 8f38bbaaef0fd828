import StackScript.Machine
import StackScript.Number.Remainder

namespace StackScript

/-!
# What builtins do

Numeric builtins compute one number from two.  The output words print, and the stack words rearrange
the operands that were taken for them.  Truth is the number one, falsehood the number zero.
-/

namespace Builtin

/-- A truth value as a number. -/
def truth (holds : Bool) : Float :=
  if holds then 1 else 0

/-- The function of two numbers that a numeric builtin computes. -/
def numeric? : Builtin → Option (Float → Float → Except Cause Float)
  | .add =>
      some fun left right => .ok (left + right)
  | .subtract =>
      some fun left right => .ok (left - right)
  | .multiply =>
      some fun left right => .ok (left * right)
  | .divide =>
      some fun left right =>
        if right == 0 then .error .divisionByZero else .ok (left / right)
  | .modulo =>
      some fun left right =>
        if right == 0 then .error .moduloByZero else .ok (Number.remainder left right)
  | .equal =>
      some fun left right => .ok (truth (left == right))
  | .notEqual =>
      some fun left right => .ok (truth (left != right))
  | .less =>
      some fun left right => .ok (truth (left < right))
  | .atMost =>
      some fun left right => .ok (truth (left ≤ right))
  | .greater =>
      some fun left right => .ok (truth (right < left))
  | .atLeast =>
      some fun left right => .ok (truth (right ≤ left))
  | _ =>
      none

/-- The numbers among operands that must all be numbers. -/
def numbers (operation : String) : List Value → Except Cause (List Float)
  | [] =>
      .ok []
  | .number value :: rest =>
      match numbers operation rest with
      | .error cause =>
          .error cause
      | .ok more =>
          .ok (value :: more)
  | operand :: _ =>
      .error (.notNumber operation operand)

/-- The name whose value is printed. -/
def printedName : String :=
  "print_arg"

/-- The line that shows a stack: its size and its values, bottom first. -/
def stackLine (stack : Stack) : String :=
  Text.trimmedRight ("<" ++ toString stack.size ++ "> " ++ Value.displayAll stack.toList)

end Builtin

/-- The machine after an operation, and the value it yields, if any, or the cause of its failure. -/
structure Effect where
  machine : Machine
  result : Except Cause (Option Value)

/-- Operands whose number is not the one that a builtin takes apart. -/
structure Miscount where
  expected : Nat
  given : Nat
  deriving Repr, DecidableEq

namespace Miscount

/-- The wording of a miscount. -/
def message (miscount : Miscount) : String :=
  if miscount.expected < miscount.given then
    "too many values to unpack (expected " ++ toString miscount.expected ++ ")"
  else
    "not enough values to unpack (expected " ++ toString miscount.expected ++ ", got " ++
      toString miscount.given ++ ")"

end Miscount

namespace Builtin

/--
Carry out a builtin on operands that were already taken from the stack.

Words that do not look at their operands accept any number of them.  Numeric builtins look at the
kind of every operand before they count them.
-/
def perform
    (builtin : Builtin)
    (operands : List Value)
    (machine : Machine) :
    Except Miscount Effect :=
  match builtin.numeric? with
  | some compute =>
      match numbers builtin.name operands with
      | .error cause =>
          .ok ⟨machine, .error cause⟩
      | .ok [left, right] =>
          .ok ⟨machine, (compute left right).map fun value => some (.number value)⟩
      | .ok others =>
          .error ⟨builtin.arity, others.length⟩
  | none =>
      match builtin, operands with
      | .print, _ =>
          match machine.bindings.get printedName with
          | .error cause =>
              .ok ⟨machine, .error cause⟩
          | .ok value =>
              .ok ⟨machine.printLine value.display, .ok none⟩
      | .showStack, _ =>
          .ok ⟨machine.printLine (stackLine machine.stack), .ok none⟩
      | .drop, _ =>
          .ok ⟨machine, .ok none⟩
      | .dup, [top] =>
          .ok ⟨(machine.push top).push top, .ok none⟩
      | .swap, [below, top] =>
          .ok ⟨(machine.push top).push below, .ok none⟩
      | .over, [below, top] =>
          .ok ⟨((machine.push below).push top).push below, .ok none⟩
      | _, others =>
          .error ⟨builtin.arity, others.length⟩

end Builtin

namespace Machine

/--
Take a builtin's operands, carry it out and push what it yields.

As many operands are taken as the builtin takes apart, so they are never miscounted here.
-/
def apply (machine : Machine) (builtin : Builtin) : Machine × Option Cause :=
  match machine.stack.popN builtin.arity with
  | .error cause =>
      (machine, some cause)
  | .ok (operands, stack) =>
      let popped := { machine with stack }
      match if builtin.isRaw then .ok operands else popped.resolveAll operands with
      | .error cause =>
          (popped, some cause)
      | .ok resolved =>
          match builtin.perform resolved popped with
          | .error miscount =>
              (popped, some (.underflow miscount.expected miscount.given))
          | .ok ⟨after, .error cause⟩ =>
              (after, some cause)
          | .ok ⟨after, .ok none⟩ =>
              (after, none)
          | .ok ⟨after, .ok (some value)⟩ =>
              (after.push value, none)

end Machine

end StackScript
