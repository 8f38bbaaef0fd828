import StackScript.Proofs.Past
import StackScript.Proofs.ReaderErrors
import StackScript.Repl

namespace StackScript

/-!
# The chunks of an interactive loop

A loop evaluates the whole text that it has collected whenever a line is added, and takes an open
block for a reason to go on collecting.  What it does can be told without these attempts: the lines
form chunks, by reading alone, and each chunk is evaluated once.  The attempts leave no trace, for
only reading reports that a block is open.
-/

/-- Evaluate source texts in order, each in the session that the one before has left. -/
def Session.evalAll (session : Session) (sources : List String) : Session :=
  sources.foldl (fun reached source => (reached.eval source).1) session

theorem Session.Reachable.evalAll
    {session : Session}
    (reachable : session.Reachable)
    (sources : List String) :
    (session.evalAll sources).Reachable := by
  induction sources generalizing session with
  | nil =>
      exact reachable
  | cons source rest inductionHypothesis =>
      exact inductionHypothesis (reachable.eval source)

/-- In a reachable session, errors of the reader are found by reading. -/
theorem Session.Reachable.read_of_isReaderError
    {session : Session}
    (reachable : session.Reachable)
    {text : String}
    {error : Error}
    (failed : (session.eval text).2 = .error error)
    (isReader : error.IsReaderError) :
    read text = .error error := by
  rcases evalOn_error_cases failed with refused | ⟨tokens, accepted, ended⟩
  · exact refused
  · have notReader : ¬error.IsReaderError :=
      (balanced_of_read accepted).run_error reachable.keeps_balancedCode ended
    exact (notReader isReader).elim

theorem Error.isReaderError_of_isIncomplete
    {error : Error}
    (isIncomplete : error.isIncomplete) :
    error.IsReaderError := by
  simp only [Error.isIncomplete, Bool.and_eq_true, beq_iff_eq] at isIncomplete
  exact .inr isIncomplete.1

namespace Repl

section Chunks

/-- Whether a text cannot be read because a block in it is still open. -/
def isUnclosed (text : String) : Bool :=
  match read text with
  | .error error =>
      error.isIncomplete
  | .ok _ =>
      false

/-- What a typed line is to a loop. -/
inductive Intake where
  | quitting
  | blank
  | unfinished (text : String)
  | chunk (text : String)

/-- What a typed line is behind the text of an unfinished chunk. -/
def intake (pending line : String) : Intake :=
  if pending = "" ∧ Text.trimmed line ∈ quittingWords then
    .quitting
  else if pending = "" ∧ Text.isBlankText line then
    .blank
  else if isUnclosed (pending ++ line ++ "\n") then
    .unfinished (pending ++ line ++ "\n")
  else
    .chunk (pending ++ line ++ "\n")

/-- The chunks that typed lines form behind the text of an unfinished one. -/
def chunksFrom (pending : String) : List String → List String
  | [] =>
      []
  | line :: rest =>
      match intake pending line with
      | .quitting =>
          []
      | .blank =>
          chunksFrom pending rest
      | .unfinished text =>
          chunksFrom text rest
      | .chunk text =>
          text :: chunksFrom "" rest

/-- A passage of what is written while a loop runs. -/
inductive Passage where
  | ofLoop (text : String)
  | ofProgram (text : String)

/-- The text of a passage. -/
def Passage.text : Passage → String
  | .ofLoop text | .ofProgram text =>
      text

/-- The text of a passage that a program has printed. -/
def Passage.printed : Passage → String
  | .ofLoop _ =>
      ""
  | .ofProgram text =>
      text

/-- What a loop shows of the answer to a chunk on the output stream. -/
def answerText : Except Error (List Value) → String
  | .ok (value :: rest) =>
      Display.stack DisplayOptions.plain (value :: rest) ++ "\n"
  | _ =>
      ""

/-- What is written while a session evaluates the chunks of typed lines. -/
def transcriptFrom (session : Session) (pending : String) : List String → List Passage
  | [] =>
      [.ofLoop (prompt pending), .ofLoop "\n"]
  | line :: rest =>
      .ofLoop (prompt pending) ::
        match intake pending line with
        | .quitting =>
            []
        | .blank =>
            transcriptFrom session pending rest
        | .unfinished text =>
            transcriptFrom session text rest
        | .chunk text =>
            .ofProgram (session.printed text) ::
              .ofLoop (answerText (session.eval text).2) ::
                transcriptFrom (session.eval text).1 "" rest

end Chunks

section Loop

/-- An attempt on a text with an open block does nothing but collect the text. -/
theorem evaluate_of_isUnclosed
    (console : Console)
    {text : String}
    (unclosed : isUnclosed text) :
    evaluate console text = { console, pending := text } := by
  unfold isUnclosed at unclosed
  cases accepted : read text with
  | error error =>
      simp only [accepted] at unclosed
      simp [evaluate, Session.eval, console.session.evalOn_of_read_error accepted, unclosed]
  | ok tokens =>
      simp [accepted] at unclosed

theorem showStack_session
    (console : Console)
    (values : List Value) :
    (showStack console values).session = console.session := by
  unfold showStack
  split <;> rfl

theorem showStack_out
    (console : Console)
    (values : List Value) :
    (showStack console values).out = console.out ++ answerText (.ok values) := by
  cases values with
  | nil =>
      exact String.append_empty.symm
  | cons value rest =>
      rfl

/-- A chunk is evaluated, what it prints is shown, and then its answer. -/
theorem evaluate_of_closed
    {session : Session}
    (reachable : session.Reachable)
    {console : Console}
    (shows : console.session = session.hushed)
    {text : String}
    (closed : ¬isUnclosed text) :
    ∃ after,
      evaluate console text = { console := after } ∧
        after.session = (session.eval text).1.hushed ∧
        after.out = console.out ++ session.printed text ++ answerText (session.eval text).2 := by
  have answered := session.answer_hushed text
  have left := session.hushed_eval text
  unfold evaluate
  rw [shows]
  unfold Session.printed
  rcases ran : session.hushed.eval text with ⟨after, error | values⟩
  · simp only [ran] at answered left
    -- An open block that was met while the chunk ran would make the loop evaluate it again.
    have notIncomplete : ¬error.isIncomplete := by
      intro isIncomplete
      have refused :=
        reachable.read_of_isReaderError answered.symm
          (Error.isReaderError_of_isIncomplete isIncomplete)
      exact closed (by simp [isUnclosed, refused, isIncomplete])
    simp only [notIncomplete]
    refine ⟨_, rfl, left, ?_⟩
    rw [← answered]
    simp [Console.report, Console.writeError, Console.absorb, answerText]
  · simp only [ran] at answered left
    refine ⟨_, rfl, ?_, ?_⟩
    · rw [showStack_session]
      exact left
    · rw [showStack_out, ← answered]
      rfl

/-- What a loop makes of a line is told by what the line is to it. -/
theorem feed_eq
    (state : State)
    (line : String) :
    feed state line =
      match intake state.pending line with
      | .quitting =>
          { state with isRunning := false }
      | .blank =>
          state
      | .unfinished text =>
          { console := state.console, pending := text }
      | .chunk text =>
          evaluate state.console text := by
  unfold feed intake
  by_cases quits : state.pending = "" ∧ Text.trimmed line ∈ quittingWords
  · rw [if_pos quits, if_pos quits]
  · rw [if_neg quits, if_neg quits]
    by_cases isBlank : state.pending = "" ∧ Text.isBlankText line
    · rw [if_pos isBlank, if_pos isBlank]
    · rw [if_neg isBlank, if_neg isBlank]
      by_cases unclosed : isUnclosed (state.pending ++ line ++ "\n")
      · rw [if_pos unclosed]
        exact evaluate_of_isUnclosed state.console unclosed
      · rw [if_neg unclosed]

theorem closed_of_intake
    {pending line text : String}
    (taken : intake pending line = .chunk text) :
    ¬isUnclosed text := by
  unfold intake at taken
  split at taken
  · cases taken
  · split at taken
    · cases taken
    · split at taken
      · cases taken
      · next closed =>
        cases taken
        exact closed

/-- Lines are taken as their chunks are evaluated, and what is written is the transcript. -/
theorem feedAll_eq
    {session : Session}
    (reachable : session.Reachable)
    {console : Console}
    (shows : console.session = session.hushed)
    (pending : String)
    (lines : List String) :
    (feedAll { console, pending } lines).console.session =
        (session.evalAll (chunksFrom pending lines)).hushed ∧
      (feedAll { console, pending } lines).console.out =
        console.out ++
          String.join ((transcriptFrom session pending lines).map Passage.text) := by
  -- The session is the one that evaluations alone would have reached; the loop's own has forgotten
  -- what it printed, which changes none of its answers.
  induction lines generalizing session console pending with
  | nil =>
      refine ⟨shows, ?_⟩
      simp [feedAll, finish, showPrompt, transcriptFrom, Console.write, Passage.text,
        String.append_assoc, String.join_cons]
  | cons line rest inductionHypothesis =>
      have prompted : (console.write (prompt pending)).session = session.hushed :=
        shows
      simp only [feedAll, chunksFrom, transcriptFrom, feed_eq, showPrompt]
      cases taken : intake pending line with
      | quitting =>
          refine ⟨shows, ?_⟩
          simp [Passage.text, Console.write, String.join_cons]
      | blank =>
          obtain ⟨left, written⟩ := inductionHypothesis reachable prompted pending
          refine ⟨left, written.trans ?_⟩
          simp [Console.write, Passage.text, String.join_cons, String.append_assoc]
      | unfinished text =>
          obtain ⟨left, written⟩ := inductionHypothesis reachable prompted text
          refine ⟨left, written.trans ?_⟩
          simp [Console.write, Passage.text, String.join_cons, String.append_assoc]
      | chunk text =>
          obtain ⟨after, evaluated, afterShows, afterOut⟩ :=
            evaluate_of_closed reachable prompted (closed_of_intake taken)
          obtain ⟨left, written⟩ := inductionHypothesis (reachable.eval text) afterShows ""
          simp only [evaluated]
          refine ⟨left, written.trans ?_⟩
          simp [afterOut, Console.write, Passage.text, String.join_cons, String.append_assoc]

/-- What the programs print in a transcript is what their evaluations add to what was printed. -/
theorem output_evalAll
    (session : Session)
    (pending : String)
    (lines : List String) :
    (session.evalAll (chunksFrom pending lines)).machine.output =
      session.machine.output ++
        String.join ((transcriptFrom session pending lines).map Passage.printed) := by
  induction lines generalizing session pending with
  | nil =>
      simp [chunksFrom, transcriptFrom, Session.evalAll, Passage.printed, String.join_cons]
  | cons line rest inductionHypothesis =>
      simp only [chunksFrom, transcriptFrom]
      cases taken : intake pending line with
      | quitting =>
          simp [Session.evalAll, Passage.printed, String.join_cons]
      | blank =>
          simp [inductionHypothesis, Passage.printed, String.join_cons]
      | unfinished text =>
          simp [inductionHypothesis, Passage.printed, String.join_cons]
      | chunk text =>
          have later := inductionHypothesis (session.eval text).1 ""
          rw [session.output_eval] at later
          refine later.trans ?_
          simp [Passage.printed, String.join_cons, String.append_assoc]

end Loop

/--
A loop evaluates each chunk of the typed lines once, in order, and goes on after errors: it leaves
the session that these evaluations leave, with all that was printed shown, and the output stream
holds what the programs print, in order, between what the loop itself writes.  In whatever session
the chunks lead to, an attempt that finds an open block has failed in reading, so that nothing was
carried out.
-/
theorem feedAll_evaluates_chunks
    {session : Session}
    (reachable : session.Reachable)
    {console : Console}
    (shows : console.session = session.hushed)
    (lines : List String) :
    let chunks := chunksFrom "" lines
    let transcript := transcriptFrom session "" lines
    let final := (feedAll { console } lines).console
    final.session = (session.evalAll chunks).hushed ∧
      final.out = console.out ++ String.join (transcript.map Passage.text) ∧
      (session.evalAll chunks).machine.output =
        session.machine.output ++ String.join (transcript.map Passage.printed) ∧
      ∀ before text error,
        ((session.evalAll before).eval text).2 = .error error →
          error.isIncomplete →
          read text = .error error ∧
            ((session.evalAll before).eval text).1 = session.evalAll before := by
  intro chunks transcript final
  obtain ⟨left, written⟩ := feedAll_eq reachable shows "" lines
  refine ⟨left, written, output_evalAll session "" lines, ?_⟩
  intro before text error failed isIncomplete
  have refused : read text = .error error :=
    (reachable.evalAll before).read_of_isReaderError failed
      (Error.isReaderError_of_isIncomplete isIncomplete)
  refine ⟨refused, ?_⟩
  rw [Session.eval, Session.evalOn_of_read_error _ refused]

/-- Lines that bind a function over three lines, call it, fail, and end the loop. -/
def typed : List String :=
  ["f \x7b # a greeting", "", "print_arg 5 = print call \x7d fn =", "  ", "f call 1", "0 /", "2",
    " exit ", "9"]

/-- The lines form four chunks; the first call prints, a division fails and the loop goes on. -/
theorem feedAll_evaluates_chunks_typed :
    let console : Console := { session := Session.begin 50 false, verbosity := .quiet }
    chunksFrom "" typed =
        ["f \x7b # a greeting\n\nprint_arg 5 = print call \x7d fn =\n", "f call 1\n", "0 /\n",
          "2\n"] ∧
      (feedAll { console } typed).console.out =
        "froth>   ...>   ...> froth> froth> 5\n<1> 1\nfroth> froth> <1> 2\nfroth> " ∧
      (feedAll { console } typed).console.session.machine.stack.toList = [.number 2] := by
  intro console
  have begun : Session.start [] { maxDepth := some 50 } = .ok (Session.begin 50 false) :=
    rfl
  have shows : console.session = (Session.begin 50 false).hushed :=
    rfl
  obtain ⟨left, written, _, _⟩ := feedAll_evaluates_chunks (.start begun) shows typed
  refine ⟨by decide +kernel, ?_, ?_⟩
  · rw [written]
    decide +kernel
  · rw [left]
    decide +kernel

end Repl

end StackScript
