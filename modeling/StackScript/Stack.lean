import StackScript.Error

namespace StackScript

/-!
# The operand stack

Operands are taken from the top of the stack, and several operands taken together keep the order in
which they were pushed.  Taking more operands than there are fails and leaves the stack as it is.
-/

/-- An operand stack; the first value of the list is the top. -/
structure Stack where
  topFirst : List Value
  deriving DecidableEq

namespace Stack

/-- The stack without values. -/
def empty : Stack where
  topFirst :=
    []

/-- The stack with the given values, bottom first. -/
def ofList (values : List Value) : Stack where
  topFirst :=
    values.reverse

/-- The values of a stack, bottom first. -/
def toList (stack : Stack) : List Value :=
  stack.topFirst.reverse

/-- The number of values. -/
def size (stack : Stack) : Nat :=
  stack.topFirst.length

/-- Put a value on top. -/
def push (stack : Stack) (value : Value) : Stack where
  topFirst :=
    value :: stack.topFirst

/-- The top value. -/
def peek (stack : Stack) : Except Cause Value :=
  match stack.topFirst with
  | [] =>
      .error (.underflow 1 0)
  | top :: _ =>
      .ok top

/-- Take the top value. -/
def pop (stack : Stack) : Except Cause (Value × Stack) :=
  match stack.topFirst with
  | [] =>
      .error (.underflow 1 0)
  | top :: rest =>
      .ok (top, ⟨rest⟩)

/-- Take several values together, deepest first. -/
def popN (stack : Stack) (count : Nat) : Except Cause (List Value × Stack) :=
  if stack.size < count then
    .error (.underflow count stack.size)
  else
    .ok ((stack.topFirst.take count).reverse, ⟨stack.topFirst.drop count⟩)

/-- Take several values together; fewer than none is none. -/
def popCount (stack : Stack) (count : Int) : Except Cause (List Value × Stack) :=
  stack.popN count.toNat

/-- A stack as it is shown to developers. -/
def inspect (stack : Stack) : String :=
  "Stack([" ++ ", ".intercalate (stack.toList.map Value.inspect) ++ "])"

@[simp] theorem toList_push (stack : Stack) (value : Value) :
    (stack.push value).toList = stack.toList ++ [value] := by
  simp [push, toList]

end Stack

end StackScript
