import StackScript.Proofs.Entries
import StackScript.Proofs.Simulation
import StackScript.Reading

namespace StackScript

/-!
# Names that a program does not mention

All code shares one table of bindings, and a name is looked up only when an operation needs its
value, so code that was stored long ago can read or bind it.  A program can reach a name only
through the symbols of its own code, of the code that is stored, and through the names that lie on
the stack; and printing reads one name of its own.  A name that stands in none of these places might
as well be bound to anything, or to nothing: no run depends on its binding, and no run changes it.
-/

/-- Code in which no symbol has the given name. -/
def CodeAvoids (name : String) (body : List Token) : Prop :=
  ∀ token ∈ body, token.lexeme = .symbol → token.name ≠ some name

instance (name : String) (body : List Token) : Decidable (CodeAvoids name body) :=
  inferInstanceAs (Decidable (∀ token ∈ body, token.lexeme = .symbol → token.name ≠ some name))

/-- A value that is not the given name and whose code, if it holds any, avoids it. -/
def Value.Avoids (name : String) : Value → Prop
  | .name symbol =>
      symbol ≠ name
  | .block body | .function body =>
      CodeAvoids name body
  | _ =>
      True

namespace Machine

/-- Machines that are the same but for what a name is bound to. -/
structure SameExcept (name : String) (machine machine' : Machine) : Prop where
  stack :
    machine'.stack = machine.stack
  bindings :
    machine'.bindings.without name = machine.bindings.without name
  vocabulary :
    machine'.vocabulary = machine.vocabulary
  output :
    machine'.output = machine.output
  journal :
    machine'.journal = machine.journal
  depth :
    machine'.depth = machine.depth
  maxDepth :
    machine'.maxDepth = machine.maxDepth

/-- A machine on which a name can be reached through nothing but its own binding. -/
structure Avoids (name : String) (machine : Machine) : Prop where
  stack :
    ∀ value ∈ machine.stack.topFirst, value.Avoids name
  bindings :
    ∀ entry ∈ machine.bindings.without name, entry.2.Avoids name

/-- Two machines that avoid a name, to which the first binds `held` and the second `held'`. -/
structure Blind
    (name : String)
    (held held' : Option Value)
    (machine machine' : Machine) :
    Prop where
  same :
    machine.SameExcept name machine'
  avoids :
    machine.Avoids name
  held :
    machine.bindings.get? name = held
  held' :
    machine'.bindings.get? name = held'

end Machine

/-- The likeness of code that avoids a name with itself. -/
def Likeness.avoiding (name : String) (notPrinted : name ≠ Builtin.printedName) : Likeness where
  tokens token token' :=
    token = token' ∧ (token.lexeme = .symbol → token.name ≠ some name)
  names symbol :=
    symbol ≠ name
  lexeme alike := by
    rw [alike.1]
  text alike := by
    rw [alike.1]
  name alike := by
    rw [alike.1]
  symbol alike isSymbol named isName :=
    alike.2 isSymbol (isName ▸ named)
  printedName :=
    notPrinted.symm

namespace Likeness.avoiding

variable {name : String} {notPrinted : name ≠ Builtin.printedName}

theorem code_iff
    {body body' : List Token} :
    (avoiding name notPrinted).Code body body' ↔ body = body' ∧ CodeAvoids name body := by
  constructor
  · intro code
    refine ⟨identity.code_iff.mp (Code.coarsen And.left code), ?_⟩
    induction code with
    | nil =>
        simp [CodeAvoids]
    | cons alike _ inductionHypothesis =>
        exact List.forall_mem_cons.mpr ⟨alike.2, inductionHypothesis⟩
  · rintro ⟨rfl, avoids⟩
    exact List.forall₂_same.mpr fun token member => ⟨rfl, avoids token member⟩

theorem values_iff
    {value value' : Value} :
    (avoiding name notPrinted).Values value value' ↔ value = value' ∧ value.Avoids name := by
  constructor
  · intro values
    refine ⟨identity.values_iff.mp (values.coarsen And.left fun _ => trivial), ?_⟩
    cases values with
    | name permitted =>
        exact permitted
    | block code | function code =>
        exact (code_iff.mp code).2
    | _ =>
        trivial
  · rintro ⟨rfl, avoids⟩
    cases value with
    | number number =>
        exact .number number
    | name symbol =>
        exact .name avoids
    | block body =>
        exact .block (code_iff.mpr ⟨rfl, avoids⟩)
    | function body =>
        exact .function (code_iff.mpr ⟨rfl, avoids⟩)
    | builtin word =>
        exact .builtin word
    | text content =>
        exact .text content

end Likeness.avoiding

namespace Machine.Blind

variable {name : String} {held held' : Option Value} {machine machine' : Machine}

theorem push
    (machines : machine.Blind name held held' machine')
    {value : Value}
    (avoids : value.Avoids name) :
    (machine.push value).Blind name held held' (machine'.push value) where
  same :=
    { machines.same with stack := by simp [Machine.push, machines.same.stack] }
  avoids :=
    ⟨List.forall_mem_cons.mpr ⟨avoids, machines.avoids.stack⟩, machines.avoids.bindings⟩
  held :=
    machines.held
  held' :=
    machines.held'

theorem printLine
    (machines : machine.Blind name held held' machine')
    (line : String) :
    (machine.printLine line).Blind name held held' (machine'.printLine line) where
  same :=
    { machines.same with output := by simp [Machine.printLine, machines.same.output] }
  avoids :=
    ⟨machines.avoids.stack, machines.avoids.bindings⟩
  held :=
    machines.held
  held' :=
    machines.held'

/-- Values that are taken from the stack avoid the name, and so do those that stay. -/
theorem take
    (machines : machine.Blind name held held' machine')
    {count : Nat}
    {taken : List Value}
    {stack : Stack}
    (found : machine.stack.popN count = .ok (taken, stack)) :
    (∀ value ∈ taken, value.Avoids name) ∧
      { machine with stack }.Blind name held held' { machine' with stack } := by
  obtain ⟨shape, _⟩ := Stack.popN_ok found
  have avoids := machines.avoids.stack
  rw [shape] at avoids
  refine ⟨fun value member => avoids value (by simp [member]), ?_⟩
  exact
    { machines with
      same := { machines.same with stack := rfl }
      avoids :=
        ⟨fun value member => avoids value (by simp [member]), machines.avoids.bindings⟩ }

/-- Another name is bound to the same value on both machines, which avoids the name. -/
theorem get?_other
    (machines : machine.Blind name held held' machine')
    {known : String}
    (isOther : known ≠ name) :
    machine'.bindings.get? known = machine.bindings.get? known ∧
      ∀ value, machine.bindings.get? known = some value → value.Avoids name := by
  rw [← Bindings.lookup_without machine'.bindings isOther,
    ← Bindings.lookup_without machine.bindings isOther, machines.same.bindings]
  refine ⟨rfl, ?_⟩
  intro value bound
  obtain ⟨before, after, shape, _⟩ := List.lookup_eq_some_iff.mp bound
  exact machines.avoids.bindings (known, value) (by simp [shape])

/-- Binding another name on both machines leaves the name as it is on each of them. -/
theorem bind
    (machines : machine.Blind name held held' machine')
    {known : String}
    (isOther : known ≠ name)
    {value : Value}
    (avoids : value.Avoids name) :
    { machine with
      bindings := ⟨Bindings.insertEntry known value machine.bindings.entries⟩
      journal := .bound known value :: machine.journal }.Blind name held held'
      { machine' with
        bindings := ⟨Bindings.insertEntry known value machine'.bindings.entries⟩
        journal := .bound known value :: machine'.journal } where
  same :=
    { machines.same with
      bindings := by
        simp only [Bindings.without_insertEntry isOther, machines.same.bindings]
      journal := by
        rw [machines.same.journal] }
  avoids := by
    refine ⟨machines.avoids.stack, ?_⟩
    intro entry member
    simp only [Bindings.without_insertEntry isOther] at member
    rcases Bindings.mem_insertEntry member with old | isNew
    · exact machines.avoids.bindings entry old
    · rw [isNew]
      exact avoids
  held :=
    (Bindings.lookup_insertEntry_of_ne isOther value machine.bindings.entries).trans machines.held
  held' :=
    (Bindings.lookup_insertEntry_of_ne isOther value machine'.bindings.entries).trans machines.held'

end Machine.Blind

/-- Runs on machines that avoid a name stay in step whatever the name is bound to. -/
def Simulation.avoiding
    (name : String)
    (notPrinted : name ≠ Builtin.printedName)
    (held held' : Option Value) :
    Simulation where
  toLikeness :=
    Likeness.avoiding name notPrinted
  machines :=
    Machine.Blind name held held'
  limits :=
    Eq
  excused _ _ _ :=
    False
  allowed _ :=
    True
  vocabulary machines :=
    machines.same.vocabulary
  push machines values := by
    obtain ⟨rfl, avoids⟩ := Likeness.avoiding.values_iff.mp values
    exact machines.push avoids
  take {machine machine' count taken stack} machines found := by
    obtain ⟨avoids, popped⟩ := machines.take found
    refine ⟨taken, stack, by rw [machines.same.stack, found], ?_, popped⟩
    exact List.forall₂_same.mpr fun value member =>
      Likeness.avoiding.values_iff.mpr ⟨rfl, avoids value member⟩
  underflow machines failed :=
    .inl (by rw [machines.same.stack, failed])
  get? {machine machine' known} machines permitted := by
    obtain ⟨same, avoids⟩ := machines.get?_other permitted
    rw [same]
    cases bound : machine.bindings.get? known with
    | none =>
        exact .none
    | some value =>
        exact .some (Likeness.avoiding.values_iff.mpr ⟨rfl, avoids value bound⟩)
  bind machines permitted values := by
    obtain ⟨rfl, avoids⟩ := Likeness.avoiding.values_iff.mp values
    exact machines.bind permitted avoids
  printLine line machines :=
    machines.printLine line
  showStack machines _ :=
    machines.same.stack ▸ machines.printLine _
  tooDeep machines tooDeep := by
    left
    rw [machines.same.depth, machines.same.maxDepth]
    exact ⟨tooDeep, rfl⟩
  deepen machines _ :=
    { machines with
      same := { machines.same with depth := by simp [Evaluation.deepen, machines.same.depth] }
      avoids := ⟨machines.avoids.stack, machines.avoids.bindings⟩ }
  enter machines code notTooDeep := by
    obtain ⟨rfl, _⟩ := Likeness.avoiding.code_iff.mp code
    refine ⟨by rwa [machines.same.depth, machines.same.maxDepth], ?_⟩
    exact
      { machines with
        same :=
          { machines.same with
            depth := by
              simp [Evaluation.enter, Evaluation.deepen, Machine.record, machines.same.depth]
            journal := by
              simp [Evaluation.enter, Evaluation.deepen, Machine.record, machines.same.depth,
                machines.same.journal] }
        avoids := ⟨machines.avoids.stack, machines.avoids.bindings⟩ }
  leave machines _ _ :=
    { machines with
      same := { machines.same with depth := by simp [machines.same.depth] }
      avoids := ⟨machines.avoids.stack, machines.avoids.bindings⟩ }
  excused_later excused _ _ :=
    excused
  excused_caught excused :=
    excused

namespace Evaluation

/--
What a name is bound to makes no difference to a program that cannot reach it: not as a symbol of
its own code or of code on the stack or under other names, and not as a name on the stack.  On two
machines that differ only in what the name is bound to, if to anything, the program leaves the same
stack, output, depth and other bindings, and ends with the same error or with none; and each machine
keeps its own binding of the name.  The name may be that of a builtin, but not the one whose value
is printed.  This holds on every host, so it holds of `evaluate`.
-/
theorem run_blind
    (frames : Nat)
    {tokens : List Token}
    {name : String}
    (notPrinted : name ≠ Builtin.printedName)
    (codeAvoids : CodeAvoids name tokens)
    {machine machine' : Machine}
    (machineAvoids : machine.Avoids name)
    (same : machine.SameExcept name machine') :
    let outcome := run frames tokens machine
    let outcome' := run frames tokens machine'
    outcome.machine.SameExcept name outcome'.machine ∧
      outcome'.error = outcome.error ∧
      outcome.machine.bindings.get? name = machine.bindings.get? name ∧
      outcome'.machine.bindings.get? name = machine'.bindings.get? name := by
  intro outcome outcome'
  have machines :
      machine.Blind name (machine.bindings.get? name) (machine'.bindings.get? name) machine' :=
    ⟨same, machineAvoids, rfl, rfl⟩
  have code : (Likeness.avoiding name notPrinted).Code tokens tokens :=
    Likeness.avoiding.code_iff.mpr ⟨rfl, codeAvoids⟩
  obtain ⟨after, errors⟩ :=
    (Simulation.avoiding name notPrinted _ _).run_in_step id (fun _ => trivial) frames code machines
  exact ⟨after.same, Likeness.errors_eq And.left errors, after.held, after.held'⟩

/-- A program that binds a function, calls it and prints, and then calls a name without meaning. -/
def doubling : List Token :=
  (read "two \x7b n n + \x7d fn = n 4 = print_arg two call = print call lost call").toOption.getD []

/-- A fresh machine on which a number hides the builtin that copies the top of the stack. -/
def hidingDup : Machine :=
  { Machine.fresh 9 with bindings := ⟨("dup", .number 7) :: Machine.constants⟩ }

/-- The program prints and fails alike whether or not the builtin is hidden, which stays so. -/
theorem run_blind_doubling :
    (run 12 doubling (.fresh 9)).Raises .unbound ∧
      (run 12 doubling hidingDup).error = (run 12 doubling (.fresh 9)).error ∧
      (run 12 doubling (.fresh 9)).machine.output = "8\n" ∧
      (run 12 doubling hidingDup).machine.output = "8\n" ∧
      (run 12 doubling (.fresh 9)).machine.bindings.get? "dup" = none ∧
      (run 12 doubling hidingDup).machine.bindings.get? "dup" = some (.number 7) := by
  have codeAvoids : CodeAvoids "dup" doubling := by
    decide +kernel
  have machineAvoids : (Machine.fresh 9).Avoids "dup" := by
    refine ⟨by simp [Machine.fresh, Machine.register, Stack.empty], ?_⟩
    intro entry member
    have isConstant : entry ∈ Machine.constants :=
      List.mem_of_mem_filter member
    simp only [Machine.constants, List.mem_cons, List.not_mem_nil, or_false] at isConstant
    rcases isConstant with rfl | rfl <;> trivial
  have same : (Machine.fresh 9).SameExcept "dup" hidingDup :=
    ⟨rfl, by decide +kernel, rfl, rfl, rfl, rfl, rfl⟩
  have printed : (run 12 doubling (.fresh 9)).machine.output = "8\n" := by
    decide +kernel
  obtain ⟨after, sameError, unbound, bound⟩ :=
    run_blind 12 (by decide) codeAvoids machineAvoids same
  exact ⟨by decide +kernel, sameError, printed, after.output.trans printed, unbound, bound⟩

end Evaluation

end StackScript
