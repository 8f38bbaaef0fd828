import StackScript.Session

namespace StackScript

/-!
# Reachable sessions

A session is reachable when it can arise from a start, whose preamble succeeded, by evaluations,
programs and resets in any order, whether they succeed or fail.  Its history tells which source
texts its machine has been given since it was fresh.  What holds of fresh machines and is kept by
evaluating these texts holds of the machine at the end.
-/

namespace Session

/-- The sessions that can arise. -/
inductive Reachable : Session → Prop where
  | start
      {environment : Environment}
      {options : SessionOptions}
      {session : Session}
      (started : Session.start environment options = .ok session) :
      Reachable session
  | eval
      {session : Session}
      (reachable : Reachable session)
      (source : String) :
      Reachable (session.eval source).1
  | run
      {session : Session}
      (reachable : Reachable session)
      (source : String) :
      Reachable (session.run source).1
  | runFile
      {session : Session}
      (reachable : Reachable session)
      (path : String)
      (content : List UInt8) :
      Reachable (session.runFile path content).1
  | reset
      {session : Session}
      (reachable : Reachable session) :
      Reachable session.reset

/-- The source texts that the machine of a session was given since it was fresh, latest first. -/
inductive History : List String → Session → Prop where
  | begin
      (limit : Int)
      (strict : Bool) :
      History [] (Session.begin limit strict)
  | eval
      {sources : List String}
      {session : Session}
      (history : History sources session)
      (source : String) :
      History (source :: sources) (session.eval source).1
  | run
      {sources : List String}
      {session : Session}
      (history : History sources session)
      (source : String) :
      History (source :: sources) (session.run source).1
  | runFile
      {sources : List String}
      {session : Session}
      (history : History sources session)
      (path : String)
      {content : List UInt8}
      {source : String}
      (decoded : sourceOf content = .ok source) :
      History (source :: sources) (session.runFile path content).1
  | reset
      {sources : List String}
      {session : Session}
      (history : History sources session) :
      History [] session.reset

/-- Starting a session begins it and evaluates the preamble, if there is one. -/
theorem History.start
    {environment : Environment}
    {options : SessionOptions}
    {session : Session}
    (started : Session.start environment options = .ok session) :
    ∃ sources, History sources session := by
  unfold Session.start at started
  split at started
  · cases started
  · next limit _ =>
    simp only at started
    split at started
    · cases started
      exact ⟨[], .begin _ _⟩
    · split at started
      · cases started
      · next after values ended =>
        cases started
        have evaluated :=
          (History.begin limit (options.strict.getD (Settings.strictStack environment))).eval
            options.preamble
        rw [ended] at evaluated
        exact ⟨_, evaluated⟩

/-- Every reachable session has a history. -/
theorem Reachable.history
    {session : Session}
    (reachable : Reachable session) :
    ∃ sources, History sources session := by
  induction reachable with
  | start started =>
      exact History.start started
  | eval _ source inductionHypothesis =>
      obtain ⟨sources, history⟩ := inductionHypothesis
      exact ⟨_, history.eval source⟩
  | run _ source inductionHypothesis =>
      obtain ⟨sources, history⟩ := inductionHypothesis
      exact ⟨_, history.run source⟩
  | @runFile session _ path content inductionHypothesis =>
      obtain ⟨sources, history⟩ := inductionHypothesis
      cases decoded : sourceOf content with
      | error fault =>
          have unchanged : (session.runFile path content).1 = session := by
            simp [Session.runFile, decoded]
          rw [unchanged]
          exact ⟨sources, history⟩
      | ok source =>
          exact ⟨_, history.runFile path decoded⟩
  | reset _ inductionHypothesis =>
      obtain ⟨sources, history⟩ := inductionHypothesis
      exact ⟨_, history.reset⟩

section Evaluating

variable {frames : Nat} {session : Session} {source : String} {tokens : List Token} {error : Error}

/-- Evaluating text that cannot be read does nothing. -/
theorem evalOn_of_read_error
    (session : Session)
    (refused : StackScript.read source = .error error) :
    session.evalOn frames source = (session, .error error) := by
  simp [evalOn, refused]

/-- Evaluating text that can be read runs its tokens. -/
theorem evalOn_of_read_ok
    (session : Session)
    (accepted : StackScript.read source = .ok tokens) :
    session.evalOn frames source =
      ({ session with machine := (Evaluation.run (frames - 1) tokens session.machine).machine },
        match (Evaluation.run (frames - 1) tokens session.machine).error with
        | some error =>
            .error error
        | none =>
            .ok (Evaluation.run (frames - 1) tokens session.machine).machine.stack.toList) := by
  simp only [evalOn, accepted]
  cases (Evaluation.run (frames - 1) tokens session.machine).error <;> rfl

/-- An evaluation ends with the error of reading, or with the error of running what was read. -/
theorem evalOn_error_cases
    (failed : (session.evalOn frames source).2 = .error error) :
    StackScript.read source = .error error ∨
      ∃ tokens,
        StackScript.read source = .ok tokens ∧
          (Evaluation.run (frames - 1) tokens session.machine).error = some error := by
  cases accepted : StackScript.read source with
  | error refusal =>
      rw [evalOn_of_read_error session accepted] at failed
      cases failed
      exact .inl rfl
  | ok tokens =>
      rw [evalOn_of_read_ok session accepted] at failed
      cases ended : (Evaluation.run (frames - 1) tokens session.machine).error with
      | none =>
          simp [ended] at failed
      | some raised =>
          simp only [ended, Except.error.injEq] at failed
          exact .inr ⟨tokens, rfl, failed ▸ ended⟩

end Evaluating

/-- A property of machines that sessions respect while they are given permitted source texts. -/
structure Respects (permitted : String → Prop) (property : Machine → Prop) : Prop where
  fresh :
    ∀ limit output journal,
      property { Machine.fresh limit with output, journal }
  run :
    ∀ {source tokens machine} frames,
      permitted source →
        StackScript.read source = .ok tokens →
        property machine →
        property (Evaluation.run frames tokens machine).machine
  record :
    ∀ {machine} event, property machine → property (machine.record event)
  clearStack :
    ∀ {machine}, property machine → property { machine with stack := Stack.empty }

namespace Respects

variable {permitted : String → Prop} {property : Machine → Prop} {session : Session}

theorem restrict
    (respected : Respects permitted property)
    {fewer : String → Prop}
    (isPermitted : ∀ source, fewer source → permitted source) :
    Respects fewer property :=
  { respected with
    run := fun frames isFewer => respected.run frames (isPermitted _ isFewer) }

/-- Evaluating keeps a respected property. -/
theorem evalOn
    (respected : Respects permitted property)
    (holds : property session.machine)
    (frames : Nat)
    {source : String}
    (isPermitted : permitted source) :
    property (session.evalOn frames source).1.machine := by
  cases accepted : StackScript.read source with
  | error error =>
      rw [evalOn_of_read_error session accepted]
      exact holds
  | ok tokens =>
      rw [evalOn_of_read_ok session accepted]
      exact respected.run (frames - 1) isPermitted accepted holds

/-- Running a program keeps a respected property. -/
theorem runOn
    (respected : Respects permitted property)
    (holds : property session.machine)
    (frames : Nat)
    {source : String}
    (isPermitted : permitted source) :
    property (session.runOn frames source).1.machine := by
  have evaluated :
      property ((session.record (.running source.length)).evalOn (frames - 1) source).1.machine :=
    respected.evalOn (respected.record (.running source.length) holds) (frames - 1) isPermitted
  unfold Session.runOn
  split
  · next ended =>
    rw [ended] at evaluated
    exact evaluated
  · next ended =>
    rw [ended] at evaluated
    exact respected.clearStack evaluated
  · next values _ ended =>
    rw [ended] at evaluated
    split
    · exact respected.clearStack evaluated
    · exact respected.record (.discarded values) (respected.clearStack evaluated)

/-- Running a file keeps a respected property. -/
theorem runFile
    (respected : Respects permitted property)
    (holds : property session.machine)
    (path : String)
    {content : List UInt8}
    {source : String}
    (decoded : sourceOf content = .ok source)
    (isPermitted : permitted source) :
    property (session.runFile path content).1.machine := by
  have ran :
      property
        ((session.record (.loaded path)).runOn (Evaluation.hostFrames - 1) source).1.machine :=
    respected.runOn (respected.record (.loaded path) holds) _ isPermitted
  simp only [Session.runFile, decoded]
  split
  · next ended =>
    rw [ended] at ran
    exact ran
  · next ended =>
    rw [ended] at ran
    exact ran

end Respects

/-- A property that is respected while a session is given its source texts holds of its machine. -/
theorem History.holds
    {property : Machine → Prop}
    {sources : List String}
    {session : Session}
    (history : History sources session)
    (respected : Respects (· ∈ sources) property) :
    property session.machine := by
  induction history with
  | begin limit strict =>
      exact respected.fresh limit "" []
  | eval _ source inductionHypothesis =>
      have earlier := respected.restrict fun _ => List.mem_cons_of_mem source
      exact respected.evalOn (inductionHypothesis earlier) _ List.mem_cons_self
  | run _ source inductionHypothesis =>
      have earlier := respected.restrict fun _ => List.mem_cons_of_mem source
      exact respected.runOn (inductionHypothesis earlier) _ List.mem_cons_self
  | @runFile _ _ _ path content source decoded inductionHypothesis =>
      have earlier := respected.restrict fun _ => List.mem_cons_of_mem source
      exact respected.runFile (inductionHypothesis earlier) path decoded List.mem_cons_self
  | reset _ _ =>
      exact respected.fresh _ _ _

/-- A property that is respected whatever the source texts holds of every reachable machine. -/
theorem Reachable.holds
    {property : Machine → Prop}
    {session : Session}
    (reachable : Reachable session)
    (respected : Respects (fun _ => True) property) :
    property session.machine := by
  obtain ⟨sources, history⟩ := reachable.history
  exact history.holds (respected.restrict fun _ _ => trivial)

end Session

end StackScript
