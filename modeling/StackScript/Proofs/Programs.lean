import StackScript.Proofs.InlineCall
import StackScript.Proofs.Past

namespace StackScript

/-!
# Programs one after the other

A session runs programs one after the other, and the bindings of one are there for the next.
Operands are not meant to be: a program that reaches its end has its leftovers discarded or
reported, and in both cases the stack is cleared.  A program that fails while it runs skips this.
Its operands stay on the stack, and the next program begins with them.

So as long as no program has failed while it ran, every program begins with an empty stack, and what
it does depends on its own text and on the bindings alone.
-/

namespace Session

/-- The session that a program begins with, in whose journal its size is recorded. -/
def announced (session : Session) (source : String) : Session :=
  session.record (.running source.length)

/-- The evaluation that a program is run by, on a host of which running has taken a frame. -/
def evalInRun (session : Session) (source : String) : Session × Except Error (List Value) :=
  session.evalOn (Evaluation.hostFrames - 1) source

/-- What the tokens of a program end with; running and evaluating have taken a frame each. -/
def outcomeOf (session : Session) (source : String) (tokens : List Token) : Outcome :=
  Evaluation.run (Evaluation.hostFrames - 1 - 1) tokens (session.announced source).machine

/-- All the ways in which running a source text as a program can end. -/
inductive RunsTo (session : Session) (source : String) : Session × Except Error Unit → Prop where
  /-- The text cannot be read, and nothing runs. -/
  | unread
      {error : Error}
      (refused : StackScript.read source = .error error) :
      RunsTo session source (session.announced source, .error error)
  /-- An instruction fails, and the stack stays as it is at that moment. -/
  | failed
      {tokens : List Token}
      {machine : Machine}
      {error : Error}
      (accepted : StackScript.read source = .ok tokens)
      (ended : session.outcomeOf source tokens = ⟨machine, some error⟩) :
      RunsTo session source ({ session with machine }, .error error)
  /-- The program ends and leaves nothing. -/
  | finished
      {tokens : List Token}
      {machine : Machine}
      (accepted : StackScript.read source = .ok tokens)
      (ended : session.outcomeOf source tokens = ⟨machine, none⟩)
      (nothing : machine.stack.toList = []) :
      RunsTo session source ({ session with machine }.clearStack, .ok ())
  /-- The program ends, and what it leaves is discarded. -/
  | discarded
      {tokens : List Token}
      {machine : Machine}
      (accepted : StackScript.read source = .ok tokens)
      (ended : session.outcomeOf source tokens = ⟨machine, none⟩)
      (lenient : session.strict = false) :
      RunsTo session source
        ({ session with machine }.clearStack.record (.discarded machine.stack.toList), .ok ())
  /-- The program ends, and what it leaves is reported. -/
  | reported
      {tokens : List Token}
      {machine : Machine}
      (accepted : StackScript.read source = .ok tokens)
      (ended : session.outcomeOf source tokens = ⟨machine, none⟩)
      (strict : session.strict = true) :
      RunsTo session source
        ({ session with machine }.clearStack, .error ⟨.leftovers machine.stack.toList, none⟩)

/-- The policy at the end of a program, applied to what its evaluation has left. -/
def conclude : Session × Except Error (List Value) → Session × Except Error Unit
  | (after, .error error) =>
      (after, .error error)
  | (after, .ok []) =>
      (after.clearStack, .ok ())
  | (after, .ok values) =>
      if after.strict then
        (after.clearStack, .error ⟨.leftovers values, none⟩)
      else
        (after.clearStack.record (.discarded values), .ok ())

theorem run_eq_conclude
    (session : Session)
    (source : String) :
    session.run source = conclude ((session.announced source).evalInRun source) :=
  rfl

/-- The policy at the end of a program does not see what was printed and recorded before it. -/
theorem conclude_withPast
    (printed : String)
    (recorded : List Event)
    (after : Session)
    (answer : Except Error (List Value)) :
    conclude ({ after with machine := after.machine.withPast printed recorded }, answer) =
      let concluded := conclude (after, answer)
      ({ concluded.1 with machine := concluded.1.machine.withPast printed recorded },
        concluded.2) := by
  rcases answer with error | _ | ⟨value, values⟩
  · rfl
  · rfl
  · simp only [conclude]
    split <;> rfl

theorem runsTo_run
    (session : Session)
    (source : String) :
    session.RunsTo source (session.run source) := by
  cases accepted : StackScript.read source with
  | error error =>
      rw [run_eq_conclude, evalInRun, evalOn_of_read_error _ accepted]
      exact .unread accepted
  | ok tokens =>
      rw [run_eq_conclude, evalInRun, evalOn_of_read_ok _ accepted]
      rw [← outcomeOf]
      rcases ended : session.outcomeOf source tokens with ⟨machine, _ | error⟩
      · cases left : machine.stack.toList with
        | nil =>
            exact .finished accepted ended left
        | cons value values =>
            simp only [conclude, ← left]
            split
            · next strict =>
              exact .reported accepted ended strict
            · next lenient =>
              exact .discarded accepted ended ((Bool.not_eq_true _).mp lenient)
      · exact .failed accepted ended

/-- Whether a source text can be read and then fails while it runs. -/
def FailsRunning (session : Session) (source : String) : Prop :=
  ∃ tokens error,
    StackScript.read source = .ok tokens ∧ (session.evalInRun source).2 = .error error

/-- What is recorded before makes no difference to the answer of an evaluation. -/
theorem answer_announced
    (session : Session)
    (source : String) :
    ((session.announced source).evalInRun source).2 = (session.evalInRun source).2 := by
  rw [evalInRun, evalInRun, ← answer_evalOn_hushed, ← answer_evalOn_hushed _ session]
  rfl

/-- A program that begins with an empty stack and does not fail while it runs leaves none. -/
theorem stack_run_eq_empty
    {session : Session}
    (empty : session.machine.stack = Stack.empty)
    {source : String}
    (completes : ¬session.FailsRunning source) :
    (session.run source).1.machine.stack = Stack.empty := by
  have ends := session.runsTo_run source
  generalize session.run source = result at ends ⊢
  cases ends with
  | unread _ =>
      exact empty
  | @failed tokens machine error accepted ended =>
      have failed : ((session.announced source).evalInRun source).2 = .error error := by
        rw [outcomeOf] at ended
        rw [evalInRun, evalOn_of_read_ok _ accepted, ended]
      rw [answer_announced] at failed
      exact (completes ⟨tokens, error, accepted, failed⟩).elim
  | _ =>
      rfl

/-- A program that fails while it runs leaves what its evaluation leaves. -/
theorem run_of_failure
    {session : Session}
    {source : String}
    {error : Error}
    (failed : (session.evalInRun source).2 = .error error) :
    (session.run source).2 = .error error ∧
      (session.run source).1.machine.stack = (session.evalInRun source).1.machine.stack := by
  have sameStack :
      ((session.announced source).evalInRun source).1.machine.stack =
        (session.evalInRun source).1.machine.stack := by
    have sameHushed :=
      (hushed_evalOn (Evaluation.hostFrames - 1) (session.announced source) source).symm.trans
        (hushed_evalOn (Evaluation.hostFrames - 1) session source)
    exact congrArg (fun after => after.machine.stack) sameHushed
  rw [← answer_announced] at failed
  have shape :
      (session.announced source).evalInRun source =
        (((session.announced source).evalInRun source).1, .error error) :=
    Prod.ext rfl failed
  rw [run_eq_conclude, shape]
  exact ⟨rfl, sameStack⟩

/-- A session without its past runs a program as the session itself does. -/
theorem run_eq_hushed
    (session : Session)
    (source : String) :
    (session.run source).2 = (session.hushed.run source).2 ∧
      (session.run source).1.hushed = (session.hushed.run source).1.hushed ∧
      (session.run source).1.machine.output =
        session.machine.output ++ (session.hushed.run source).1.machine.output := by
  have own :=
    evalOn_eq_hushed (Evaluation.hostFrames - 1) (session.announced source) source
  have alone :=
    evalOn_eq_hushed (Evaluation.hostFrames - 1) (session.hushed.announced source) source
  simp only [run_eq_conclude, evalInRun, own, alone]
  have sameStart : (session.announced source).hushed = session.hushed :=
    rfl
  have sameAlone : (session.hushed.announced source).hushed = session.hushed :=
    rfl
  rw [sameStart, sameAlone]
  simp only [conclude_withPast]
  refine ⟨trivial, rfl, ?_⟩
  simp [Machine.withPast, hushed, Machine.hushed, announced, record, Machine.record]

/-- A session with the bindings and the settings of another, and nothing else. -/
def bare (session : Session) : Session :=
  { session with machine := { session.machine.hushed with stack := Stack.empty } }

theorem hushed_eq_bare
    {session : Session}
    (empty : session.machine.stack = Stack.empty) :
    session.hushed = session.bare := by
  rw [bare, ← empty]
  rfl

/--
Whether a program does the same in two sessions: it gives the same answer, makes the same bindings
and prints the same text.
-/
structure RunsAlike (session other : Session) (source : String) : Prop where
  answer :
    (session.run source).2 = (other.run source).2
  bindings :
    (session.run source).1.machine.bindings = (other.run source).1.machine.bindings
  output :
    ∃ printed,
      (session.run source).1.machine.output = session.machine.output ++ printed ∧
        (other.run source).1.machine.output = other.machine.output ++ printed

/-- Sessions that differ in their past only run a program alike. -/
theorem runsAlike_of_hushed_eq
    {session other : Session}
    (same : session.hushed = other.hushed)
    (source : String) :
    session.RunsAlike other source := by
  obtain ⟨answer, after, output⟩ := session.run_eq_hushed source
  obtain ⟨answer', after', output'⟩ := other.run_eq_hushed source
  rw [← same] at answer' after' output'
  refine ⟨answer.trans answer'.symm, ?_, _, output, output'⟩
  exact congrArg (fun session => session.machine.bindings) (after.trans after'.symm)

/-- The session behind programs that run one after the other, whether they fail or not. -/
def runAll (session : Session) (programs : List String) : Session :=
  programs.foldl (fun current source => (current.run source).1) session

/-- Whether none of the programs that run one after the other fails while it runs. -/
def RunsThrough (session : Session) : List String → Prop
  | [] =>
      True
  | source :: rest =>
      ¬session.FailsRunning source ∧ (session.run source).1.RunsThrough rest

/-- Programs that do not fail while they run leave the stack empty. -/
theorem RunsThrough.stack_runAll
    {session : Session}
    {programs : List String}
    (through : session.RunsThrough programs)
    (empty : session.machine.stack = Stack.empty) :
    (session.runAll programs).machine.stack = Stack.empty := by
  induction programs generalizing session with
  | nil =>
      exact empty
  | cons source rest inductionHypothesis =>
      obtain ⟨completes, throughRest⟩ := through
      exact inductionHypothesis throughRest (stack_run_eq_empty empty completes)

/--
Operands pass from one program to the next only where a program fails while it runs.  As long as
none has, every program of a session that began with an empty stack begins with an empty stack as
well, and its answer, its bindings and what it prints are the same in every session with the same
bindings, whatever programs that has run.  Behind it the stack is empty again, unless it fails while
it runs; then the answer is an error at a token, and the stack holds what the evaluation of the
program has left on it.
-/
theorem operands_outlive_failures_only
    {session : Session}
    (empty : session.machine.stack = Stack.empty)
    {earlier : List String}
    (through : session.RunsThrough earlier)
    (source : String) :
    let before := session.runAll earlier
    before.machine.stack = Stack.empty ∧
      (∀ other : Session,
        other.machine.stack = Stack.empty →
          other.bare = before.bare →
          before.RunsAlike other source) ∧
      (¬before.FailsRunning source → (before.run source).1.machine.stack = Stack.empty) ∧
      (before.FailsRunning source →
        ∃ error token,
          (before.run source).2 = .error error ∧
            error.token = some token ∧
            (before.run source).1.machine.stack = (before.evalInRun source).1.machine.stack) := by
  intro before
  have emptyBefore : before.machine.stack = Stack.empty :=
    through.stack_runAll empty
  refine ⟨emptyBefore, ?_, stack_run_eq_empty emptyBefore, ?_⟩
  · intro other otherEmpty sameBindings
    apply runsAlike_of_hushed_eq
    rw [hushed_eq_bare emptyBefore, hushed_eq_bare otherEmpty, sameBindings]
  · rintro ⟨tokens, error, accepted, failed⟩
    obtain ⟨answer, stack⟩ := run_of_failure failed
    have located : error.token.isSome := by
      rcases evalOn_error_cases failed with refused | ⟨read, _, raised⟩
      · rw [accepted] at refused
        cases refused
      · exact Evaluation.run_error_located raised
    obtain ⟨token, isToken⟩ := Option.isSome_iff_exists.mp located
    exact ⟨error, token, answer, isToken, stack⟩

/-- The operands that a program leaves when it fails are there for the next program to drop. -/
theorem operands_outlive_failures_only_nope :
    let session := Session.begin 50 false
    let before := session.runAll ["x 1 =", "1 2"]
    let failing := "3 4 nope call"
    before.machine.stack = Stack.empty ∧
      (before.run failing).1.machine.stack.toList = [.number 3, .number 4] ∧
      ((before.run failing).1.run "drop call drop call").2 = .ok () := by
  intro session before failing
  have through : session.RunsThrough ["x 1 =", "1 2"] := by
    refine ⟨?_, ?_, trivial⟩
    · rintro ⟨tokens, error, _, failed⟩
      have succeeded : (session.evalInRun "x 1 =").2 = .ok [] := by
        decide +kernel
      rw [succeeded] at failed
      cases failed
    · rintro ⟨tokens, error, _, failed⟩
      have succeeded :
          ((session.run "x 1 =").1.evalInRun "1 2").2 = .ok [.number 1, .number 2] := by
        decide +kernel
      rw [succeeded] at failed
      cases failed
  obtain ⟨emptyBefore, _, _, outlives⟩ := operands_outlive_failures_only rfl through failing
  have fails : before.FailsRunning failing := by
    let call := Token.inSource .reserved "call" ⟨9, 1, 10⟩
    refine ⟨(lex failing).tokens, ⟨.unbound "nope", some call⟩, ?_, ?_⟩
    · decide +kernel
    · decide +kernel
  obtain ⟨error, token, _, _, stack⟩ := outlives fails
  refine ⟨emptyBefore, ?_, by decide +kernel⟩
  rw [stack]
  decide +kernel

end Session

end StackScript
