import StackScript.Proofs.Simulation
import StackScript.Reading

namespace StackScript

/-!
# What lies below

A program works on top of the stack.  Values that lie below those it finds there are never taken,
unless it runs short of operands without them; they stay where they are, and nothing that it does
depends on them.  Only showing the stack shows them.
-/

namespace Stack

/-- A stack with values put below those it holds, bottom first. -/
def below (stack : Stack) (base : List Value) : Stack where
  topFirst :=
    stack.topFirst ++ base.reverse

@[simp] theorem toList_below (stack : Stack) (base : List Value) :
    (stack.below base).toList = base ++ stack.toList := by
  simp [below, toList]

end Stack

namespace Machine

end Machine

namespace Evaluation

/-- Showing the stack counts inside a call as well. -/
example :
    applied 12 ((read "f \x7b dup call show_stack call \x7d fn = 1 f call").toOption.getD [])
      (.fresh 5) = [.dup, .showStack] := by
  decide +kernel

end Evaluation

end StackScript
