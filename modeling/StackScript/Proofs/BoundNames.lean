import StackScript.Proofs.Provenance
import StackScript.Proofs.SmallSteps

namespace StackScript

/-!
# What names are bound to

Names circulate on the stack unresolved, and functions bind names while other functions run.  Still
the table of bindings is in order at every moment of every evaluation: it binds words that are not
reserved, each of them once and none to another name.  No operator is such a word, so an operator
always means its builtin, whatever a program binds.
-/

namespace Discipline

variable {discipline : Discipline}

/-- A configuration whose machine is disciplined, and whose code that is still to run is. -/
structure Governs (discipline : Discipline) (configuration : Configuration) : Prop where
  machine :
    discipline.Keeps configuration.machine
  code :
    ∀ tokens, configuration.control = .running tokens →
      ∀ instruction ∈ Instruction.ofTokens tokens, discipline.instructions instruction
  callers :
    ∀ caller ∈ configuration.callers,
      ∀ instruction ∈ Instruction.ofTokens caller.rest, discipline.instructions instruction

/-- Doing nothing instead of running a body respects every discipline. -/
theorem obeys_idle
    (discipline : Discipline) :
    discipline.Obeys Evaluation.idle := by
  intro body machine _ kept
  exact ⟨kept, by simp [Evaluation.idle]⟩

/-- What follows an instruction is disciplined if its machine and the code behind it are. -/
theorem governs_settled
    {outcome : Outcome}
    {rest : List Token}
    {callers : List Caller}
    (kept : discipline.Keeps outcome.machine)
    (code : ∀ instruction ∈ Instruction.ofTokens rest, discipline.instructions instruction)
    (callersCode :
      ∀ caller ∈ callers,
        ∀ instruction ∈ Instruction.ofTokens caller.rest, discipline.instructions instruction) :
    discipline.Governs (.settled rest callers outcome) := by
  refine ⟨by simpa using kept, ?_, by simpa using callersCode⟩
  intro tokens running
  rcases outcome with ⟨machine, _ | error⟩
  · cases running
    exact code
  · cases running

/-- The beginning of a body is disciplined if its machine and its code are. -/
theorem governs_entering
    (host : Host)
    {body : List Token}
    {callers : List Caller}
    {machine : Machine}
    (kept : discipline.Keeps machine)
    (code : ∀ instruction ∈ Instruction.ofTokens body, discipline.instructions instruction)
    (callersCode :
      ∀ caller ∈ callers,
        ∀ instruction ∈ Instruction.ofTokens caller.rest, discipline.instructions instruction) :
    discipline.Governs (.entering host body callers machine) := by
  refine ⟨kept, ?_, callersCode⟩
  intro tokens running
  simp only [Configuration.entering] at running
  split at running
  · cases running
    exact code
  · cases running

/-- Every step respects every discipline. -/
theorem Governs.next?
    {host : Host}
    {configuration after : Configuration}
    (governed : discipline.Governs configuration)
    (stepped : configuration.next? host = some after) :
    discipline.Governs after := by
  rcases Configuration.next?_cases stepped with
      ⟨token, rest, instruction, behind, running, taken, performed⟩ |
        ⟨caller, callers, waiting, rfl⟩
  · have code := governed.code _ running
    rw [Instruction.ofTokens_eq_takeFirst, taken] at code
    obtain ⟨disciplined, codeBehind⟩ := List.forall_mem_cons.mp code
    rcases performed with ⟨_, rfl⟩ | ⟨caller, body, inside, entered, rfl⟩
    · have accepted :=
        governed.machine.step (host.spare configuration.callers.length) discipline.obeys_idle
          disciplined
      exact governs_settled accepted.machine codeBehind governed.callers
    · obtain ⟨popped, _, found, _, _, rfl⟩ := Evaluation.entered_cases entered
      obtain ⟨top, held, resolved⟩ := Evaluation.resolved_of_target found
      have function : discipline.values (.function body) :=
        governed.machine.resolve (governed.machine.stack top held) resolved
      have kept : discipline.Keeps popped :=
        governed.machine.popped (Evaluation.popped_of_target found)
      refine governs_entering host { kept with } (discipline.code function) ?_
      exact List.forall_mem_cons.mpr ⟨codeBehind, governed.callers⟩
  · have callersCode := governed.callers
    rw [waiting] at callersCode
    obtain ⟨codeBehind, outerCode⟩ := List.forall_mem_cons.mp callersCode
    exact governs_settled { governed.machine with } codeBehind outerCode

end Discipline

/-- What one instruction can do to the bindings: leave them as they are, or bind one name. -/
inductive Machine.Rebinds (before after : Machine) : Prop where
  | kept
      (same : after.bindings = before.bindings)
  | bound
      (name : String)
      (value : Value)
      (shape : after.bindings = ⟨Bindings.insertEntry name value before.bindings.entries⟩)

namespace Machine

theorem Popped.rebinds
    {before after : Machine}
    (popped : before.Popped after) :
    before.Rebinds after := by
  obtain ⟨stack, rfl, _⟩ := popped
  exact .kept rfl

theorem Reworks.rebinds
    {before : Machine}
    {answer : Machine × Option Cause}
    (reworks : before.Reworks answer) :
    before.Rebinds answer.1 := by
  obtain ⟨stack, printed, shape, _⟩ := reworks.machine
  rw [shape]
  exact .kept rfl

/-- Binding at most one name keeps the names apart. -/
theorem Rebinds.nodup_names
    {before after : Machine}
    (rebinds : before.Rebinds after)
    (unique : before.bindings.names.Nodup) :
    after.bindings.names.Nodup := by
  cases rebinds with
  | kept same =>
      rw [same]
      exact unique
  | bound name value shape =>
      rw [shape]
      exact Bindings.nodup_names_insertEntry unique name value

end Machine

namespace Evaluation

/-- A call that enters no body binds no name. -/
theorem bindings_call_idle
    (frames : Nat)
    (machine : Machine) :
    (call frames idle machine).machine.bindings = machine.bindings := by
  cases found : target frames machine with
  | mk after result =>
      have same : after.bindings = machine.bindings := by
        obtain ⟨stack, rfl, _⟩ := popped_of_target found
        rfl
      cases result with
      | error cause =>
          rw [call_of_target_error idle found]
          exact same
      | ok callee =>
          rw [call_of_target_ok idle found]
          cases callee with
          | function body =>
              change (callFunction frames idle body after).machine.bindings = machine.bindings
              unfold callFunction
              split
              · exact same
              · split <;> exact same
          | builtin builtin =>
              obtain ⟨stack, printed, shape, _⟩ := (after.apply_reworks builtin).machine
              change (after.apply builtin).1.bindings = machine.bindings
              rw [shape]
              exact same
          | _ =>
              exact same

/-- An instruction that enters no body binds at most one name. -/
theorem step_idle_rebinds
    (frames : Nat)
    (instruction : Instruction)
    (machine : Machine) :
    machine.Rebinds (step frames idle instruction machine).machine := by
  cases instruction with
  | push value =>
      exact .kept rfl
  | operate name token =>
      simp only [step, settle_machine, operate]
      split
      · exact (machine.apply_reworks _).rebinds
      · exact .kept rfl
  | form special token =>
      cases special with
      | makeFunction =>
          simp only [step, settle_machine]
          rcases makeFunction_cases machine with
              ⟨after, cause, popped, _, shape⟩ | ⟨top, rest, body, _, _, shape⟩
          · rw [shape]
            exact popped.rebinds
          · rw [shape]
            exact .kept rfl
      | call =>
          exact .kept (bindings_call_idle frames machine)
      | assign =>
          simp only [step, settle_machine]
          rcases assign_cases machine with
              ⟨after, cause, popped, _, shape⟩ | ⟨name, value, rest, resolved, _, _, _, shape⟩
          · rw [shape]
            exact popped.rebinds
          · rw [shape]
            exact .bound name resolved rfl
  | fail error =>
      exact .kept rfl

end Evaluation

/-- Every step binds at most one name. -/
theorem Configuration.rebinds_of_next?
    {host : Host}
    {configuration after : Configuration}
    (stepped : configuration.next? host = some after) :
    configuration.machine.Rebinds after.machine := by
  rcases next?_cases stepped with
      ⟨token, rest, instruction, behind, _, _, ⟨_, rfl⟩ | ⟨caller, body, inside, entered, rfl⟩⟩ |
        ⟨caller, callers, _, rfl⟩
  · rw [settled_machine]
    exact Evaluation.step_idle_rebinds _ instruction configuration.machine
  · obtain ⟨popped, _, found, _, _, rfl⟩ := Evaluation.entered_cases entered
    obtain ⟨stack, rfl, _⟩ := Evaluation.popped_of_target found
    exact .kept rfl
  · rw [settled_machine]
    exact .kept rfl

/-- Steps keep the bound names apart. -/
theorem Configuration.nodup_names_of_reaches
    {host : Host}
    {configuration final : Configuration}
    (reached : configuration.Reaches host final)
    (unique : configuration.machine.bindings.names.Nodup) :
    final.machine.bindings.names.Nodup :=
  reached.holds (fun moment => moment.machine.bindings.names.Nodup)
    (fun stepped => (rebinds_of_next? stepped).nodup_names) unique

/-- A table that binds words which are not reserved, each once and none to a name. -/
structure Bindings.InOrder (bindings : Bindings) : Prop where
  words :
    ∀ name ∈ bindings.names, Lexer.IsName name
  unique :
    bindings.names.Nodup
  resolved :
    ∀ name value, (name, value) ∈ bindings.entries → ∀ other, value ≠ .name other

/-- A machine that stores sourced code only, under names that are apart, has its table in order. -/
theorem Discipline.Keeps.bindings_inOrder
    {sources : List String}
    {machine : Machine}
    (kept : (sourcedCode sources).Keeps machine)
    (unique : machine.bindings.names.Nodup) :
    machine.bindings.InOrder where
  words name member := by
    obtain ⟨⟨known, value⟩, isEntry, rfl⟩ := List.mem_map.mp member
    exact (kept.bindings known value isEntry).1
  unique :=
    unique
  resolved name value isEntry :=
    (kept.bindings name value isEntry).2.2

/-- A table in order binds no operator. -/
theorem Bindings.InOrder.get?_sign
    {bindings : Bindings}
    (inOrder : bindings.InOrder)
    {sign : List Char}
    (isSign : sign ∈ Lexer.signs) :
    bindings.get? (String.ofList sign) = none := by
  cases bound : bindings.get? (String.ofList sign) with
  | none =>
      rfl
  | some value =>
      obtain ⟨before, after, shape, _⟩ := List.lookup_eq_some_iff.mp bound
      have member : String.ofList sign ∈ bindings.names := by
        simp [names, shape]
      exact (Lexer.not_isName_of_sign isSign (inOrder.words _ member)).elim

namespace Session

/-- A machine that a session has, or passes through while it evaluates a source text. -/
inductive Shows (session : Session) : Machine → Prop where
  | between :
      session.Shows session.machine
  | during
      {source : String}
      {tokens : List Token}
      (accepted : StackScript.read source = .ok tokens)
      (journal : List Event)
      {host : Host}
      {configuration : Configuration}
      (reached :
        (Configuration.start host tokens { session.machine with journal }).Reaches host
          configuration) :
      session.Shows configuration.machine

/-- Sessions keep the bound names apart. -/
theorem respects_nodup_names :
    Respects (fun _ => True) fun machine => machine.bindings.names.Nodup where
  fresh limit output journal := by
    change ["PI", "E"].Nodup
    decide
  run {source tokens machine} frames _ _ unique := by
    -- The machine at the end of an evaluation is that of the last of its steps.
    have reached := Configuration.reaches_run frames tokens machine
    have kept := Configuration.nodup_names_of_reaches reached unique
    rwa [Configuration.ended, Configuration.settled_machine] at kept
  record _ unique :=
    unique
  clearStack unique :=
    unique

/-- Whatever machine a reachable session shows has its table in order and knows all builtins. -/
theorem Reachable.inOrder
    {session : Session}
    (reachable : session.Reachable)
    {machine : Machine}
    (shown : session.Shows machine) :
    machine.bindings.InOrder ∧ machine.vocabulary = Builtin.all := by
  obtain ⟨sources, history⟩ := reachable.history
  have unique := reachable.holds respects_nodup_names
  cases shown with
  | between =>
      have kept := history.keeps_sourcedCode (List.Subset.refl sources)
      exact ⟨kept.bindings_inOrder unique, kept.vocabulary⟩
  | @during source tokens accepted journal host configuration reached =>
      have kept : (sourcedCode (source :: sources)).Keeps { session.machine with journal } :=
        { history.keeps_sourcedCode (List.subset_cons_self source sources) with }
      have code : SourcedCode (source :: sources) tokens :=
        .of_read List.mem_cons_self accepted
      have initially :=
        Discipline.governs_entering host kept code.instructions (List.forall_mem_nil _)
      have governed := reached.holds _ (fun stepped before => before.next? stepped) initially
      have unambiguous := Configuration.nodup_names_of_reaches reached unique
      exact ⟨governed.machine.bindings_inOrder unambiguous, governed.machine.vocabulary⟩

end Session

/-- An operator means a builtin on a machine: nothing is bound to it, and it applies the builtin. -/
structure Token.Means (token : Token) (builtin : Builtin) (machine : Machine) : Prop where
  name :
    builtin.name = token.text
  unbound :
    machine.bindings.get? token.text = none
  lookup :
    machine.lookup token.text = .ok (.builtin builtin)
  step :
    ∀ (frames : Nat) (runBody : Runner),
      Evaluation.step frames runBody (Instruction.ofToken token) machine =
        Evaluation.settle token (machine.apply builtin)

/-- Where the table is in order, an operator that lexing has found means a builtin. -/
theorem Bindings.InOrder.operator_means
    {machine : Machine}
    (inOrder : machine.bindings.InOrder)
    (complete : machine.vocabulary = Builtin.all)
    {token : Token}
    (regular : token.IsRegular)
    (isOperator : token.lexeme = .operator) :
    ∃ builtin ∈ Builtin.all, token.Means builtin machine := by
  obtain ⟨spells, named⟩ := regular
  rcases token with ⟨lexeme, text, name, position⟩
  simp only at spells named isOperator
  subst isOperator
  cases spells with
  | operator isSign =>
      subst named
      obtain ⟨builtin, known, _⟩ := Lexer.exists_numeric_of_sign isSign
      have unbound := inOrder.get?_sign isSign
      refine ⟨builtin, List.mem_of_find?_eq_some known, ?_, unbound, ?_, ?_⟩
      · simpa using List.find?_some known
      · simp only [Machine.lookup, unbound, complete, known]
      · intro frames runBody
        simp only [Instruction.ofToken, Lexeme.isNamed, Evaluation.step, Evaluation.operate,
          complete]
        simp [known]

namespace Session

/--
Whatever a session has been through, and at every moment of what it goes through next, its table
binds words which are not reserved, each of them once, and none of them to a name.  So nothing is
ever bound to an operator, and every operator that lexing finds means its builtin.
-/
theorem Reachable.bindings_stay_in_order
    {session : Session}
    (reachable : session.Reachable)
    {machine : Machine}
    (shown : session.Shows machine) :
    machine.bindings.InOrder ∧
      ∀ source,
        ∀ token ∈ (lex source).tokens,
          token.lexeme = .operator →
            ∃ builtin ∈ Builtin.all, token.Means builtin machine := by
  obtain ⟨inOrder, complete⟩ := reachable.inOrder shown
  refine ⟨inOrder, ?_⟩
  intro source token member isOperator
  exact inOrder.operator_means complete (isRegular_of_mem_lex member) isOperator

/-- A session that has bound the name of a stack word, and another name to what that stands for. -/
def shadowing : Session :=
  ((Session.begin 50 false).eval "dup 5 = \x7b x dup = \x7d fn call").1

/-- A stack word can be bound, and then the table is still in order and adds as it did. -/
theorem bindings_stay_in_order_shadowing :
    shadowing.machine.bindings.names = ["PI", "E", "dup", "x"] ∧
      shadowing.machine.bindings.InOrder ∧
      ∃ builtin ∈ Builtin.all,
        (Token.inSource .operator "+" Position.start).Means builtin shadowing.machine := by
  have begun : Session.start [] { maxDepth := some 50 } = .ok (Session.begin 50 false) :=
    rfl
  have reachable : shadowing.Reachable :=
    .eval (.start begun) _
  obtain ⟨inOrder, means⟩ := reachable.bindings_stay_in_order .between
  exact ⟨by decide +kernel, inOrder, means "+" _ (by decide +kernel) rfl⟩

end Session

end StackScript
