import StackScript.Error

namespace StackScript

/-!
# Bindings

One flat table from names to values.  A name keeps the place of its first binding, and the last
value bound to it wins.  A name is never bound to another name, so looking up takes one step.
-/

/-- The bound names with their values, in the order of their first binding. -/
structure Bindings where
  entries : List (String × Value)
  deriving DecidableEq

namespace Bindings

/-- The table without bindings. -/
def empty : Bindings where
  entries :=
    []

/-- Replace the value of a name where it stands, or add the name at the end. -/
def insertEntry
    (name : String)
    (value : Value) :
    List (String × Value) → List (String × Value)
  | [] =>
      [(name, value)]
  | (known, old) :: rest =>
      if known = name then
        (known, value) :: rest
      else
        (known, old) :: insertEntry name value rest

/-- The value bound to a name. -/
def get? (bindings : Bindings) (name : String) : Option Value :=
  bindings.entries.lookup name

/-- The value bound to a name, or the failure to find one. -/
def get (bindings : Bindings) (name : String) : Except Cause Value :=
  match bindings.get? name with
  | some value =>
      .ok value
  | none =>
      .error (.unbound name)

/-- Whether a name is bound. -/
def contains (bindings : Bindings) (name : String) : Bool :=
  (bindings.get? name).isSome

/-- Bind a name to a value that is not itself a name. -/
def set (bindings : Bindings) (name : String) (value : Value) : Except Cause Bindings :=
  match value with
  | .name target =>
      .error (.unresolvedBinding name target)
  | _ =>
      .ok ⟨insertEntry name value bindings.entries⟩

/-- Bind whatever is given as a name; only texts are names. -/
def setAny (bindings : Bindings) (name value : Value) : Except Cause Bindings :=
  match name with
  | .text text =>
      bindings.set text value
  | _ =>
      .error (.namelessBinding name.inspect)

/-- Bind names one after the other; the first failure ends it and keeps the earlier bindings. -/
def setAll (bindings : Bindings) : List (String × Value) → Bindings × Option Cause
  | [] =>
      (bindings, none)
  | (name, value) :: rest =>
      match bindings.set name value with
      | .ok extended =>
          extended.setAll rest
      | .error cause =>
          (bindings, some cause)

/-- Keep the last value of every name at the place where the name is first met. -/
def lastValues (pairs : List (String × Value)) : List (String × Value) :=
  pairs.foldl (fun entries pair => insertEntry pair.1 pair.2 entries) []

/-- Bind the names of a table. -/
def update (bindings : Bindings) (pairs : List (String × Value)) : Bindings × Option Cause :=
  bindings.setAll (lastValues pairs)

/-- The bound names, in the order of their first binding. -/
def names (bindings : Bindings) : List String :=
  bindings.entries.map Prod.fst

/-- The bound names in alphabetical order. -/
def sortedNames (bindings : Bindings) : List String :=
  bindings.names.mergeSort fun left right => !(right < left)

/-- The number of bound names. -/
def size (bindings : Bindings) : Nat :=
  bindings.entries.length

/-- A table in words. -/
def plainText (bindings : Bindings) : String :=
  let shown := bindings.entries.map fun entry => entry.1 ++ ": " ++ entry.2.inspect
  "\x7b" ++ ", ".intercalate shown ++ "\x7d"

/-- A table as it is shown to developers. -/
def inspect (bindings : Bindings) : String :=
  "<Environment " ++ bindings.plainText ++ ">"

end Bindings

end StackScript
