namespace StackScript

/-!
# Builtins

The vocabulary of the language: arithmetic, comparison, output and stack words.  Each builtin takes
a fixed number of operands from the stack.  The stack words take them as they are; all others see
the values that names stand for.
-/

/-- The builtin words and operators. -/
inductive Builtin where
  | add
  | subtract
  | multiply
  | divide
  | modulo
  | equal
  | notEqual
  | less
  | atMost
  | greater
  | atLeast
  | print
  | showStack
  | dup
  | drop
  | swap
  | over
  deriving Repr, DecidableEq

namespace Builtin

/-- Every builtin, in the order of the vocabulary. -/
def all : List Builtin :=
  [.add, .subtract, .multiply, .divide, .modulo, .equal, .notEqual, .less, .atMost, .greater,
    .atLeast, .print, .showStack, .dup, .drop, .swap, .over]

/-- How a program names a builtin. -/
def name : Builtin → String
  | .add =>
      "+"
  | .subtract =>
      "-"
  | .multiply =>
      "*"
  | .divide =>
      "/"
  | .modulo =>
      "%"
  | .equal =>
      "=="
  | .notEqual =>
      "!="
  | .less =>
      "<"
  | .atMost =>
      "<="
  | .greater =>
      ">"
  | .atLeast =>
      ">="
  | .print =>
      "print"
  | .showStack =>
      "show_stack"
  | .dup =>
      "dup"
  | .drop =>
      "drop"
  | .swap =>
      "swap"
  | .over =>
      "over"

/-- How many operands a builtin takes from the stack. -/
def arity : Builtin → Nat
  | .print | .showStack =>
      0
  | .dup | .drop =>
      1
  | _ =>
      2

/-- Whether operands are taken as they are, without looking up names. -/
def isRaw : Builtin → Bool
  | .dup | .drop | .swap | .over =>
      true
  | _ =>
      false

/-- The one-line description of a builtin. -/
def signature : Builtin → String
  | .add =>
      "a b + -> a+b"
  | .subtract =>
      "a b - -> a-b"
  | .multiply =>
      "a b * -> a*b"
  | .divide =>
      "a b / -> a/b"
  | .modulo =>
      "a b % -> a mod b"
  | .equal =>
      "a b == -> 1 if a = b else 0"
  | .notEqual =>
      "a b != -> 1 if a != b else 0"
  | .less =>
      "a b < -> 1 if a < b else 0"
  | .atMost =>
      "a b <= -> 1 if a <= b else 0"
  | .greater =>
      "a b > -> 1 if a > b else 0"
  | .atLeast =>
      "a b >= -> 1 if a >= b else 0"
  | .print =>
      "print call -> writes print_arg"
  | .showStack =>
      "show_stack call -> writes the stack"
  | .dup =>
      "a dup call -> a a"
  | .drop =>
      "a drop call -> "
  | .swap =>
      "a b swap call -> b a"
  | .over =>
      "a b over call -> a b a"

/-- The builtin of a vocabulary with the given name. -/
def find? (vocabulary : List Builtin) (wanted : String) : Option Builtin :=
  vocabulary.find? fun builtin => builtin.name == wanted

end Builtin

end StackScript
