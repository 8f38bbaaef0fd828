import StackScript.CommandLine.Run
import StackScript.Proofs.Programs
import StackScript.Proofs.Provenance
import StackScript.Proofs.ReaderErrors
import StackScript.Proofs.StandingText

namespace StackScript

/-!
# The places that a command reports

A command runs its sources in one session until one of them fails, and reports the error under the
name of the source that was running.  The line and the column in the report are those of the token
that is blamed.  An error of the reader is blamed on the source itself, but a running program calls
functions that earlier sources have defined, and the tokens of these stand in the earlier sources.
So what is reported at a line and a column stands there in one of the sources run so far, though not
always in the one that the report names.
-/

namespace Error

/-- The text that an error is about: the unreadable run, or the text of the token. -/
def piece? (error : Error) : Option String :=
  match error.cause with
  | .unreadable fault =>
      some fault.text
  | _ =>
      error.token.map Token.text

/-- Whether an error has a place at which the text that it is about stands in a source text. -/
def StandsIn (error : Error) (text : String) : Prop :=
  ∃ piece line column,
    error.piece? = some piece ∧
      error.position? = some (line, column) ∧
      StandsAt text.toList piece.toList line column

/-- An error at a token stands where the token stands. -/
theorem standsIn_of_token
    {cause : Cause}
    (readable : ∀ fault, cause ≠ .unreadable fault)
    {text : String}
    {token : Token}
    (member : token ∈ (lex text).tokens) :
    StandsIn ⟨cause, some token⟩ text := by
  refine ⟨token.text, token.position.line, token.position.column, ?_, ?_,
    standsAt_of_mem_lex member⟩
  · unfold piece?
    split
    · next fault isFault =>
      exact (readable fault isFault).elim
    · rfl
  · unfold position?
    split
    · next fault isFault =>
      exact (readable fault isFault).elim
    · rfl

/-- An error of reading a source is one of the reader, and it stands in that source. -/
theorem standsIn_of_read_error
    {source : String}
    {error : Error}
    (refused : read source = .error error) :
    error.IsReaderError ∧ error.StandsIn source := by
  rcases read_eq_error_cases refused with
      ⟨fault, failed, rfl⟩ | ⟨_, brace, ⟨blamed, rfl⟩ | ⟨blamed, rfl⟩⟩
  · exact ⟨.inl rfl, fault.text, _, _, rfl, rfl, standsAt_of_fault failed⟩
  · have member := (brace_mem_of_imbalanceFrom blamed).resolve_left List.not_mem_nil
    exact ⟨.inr rfl, standsIn_of_token (by simp) member⟩
  · have member := (brace_mem_of_imbalanceFrom blamed).resolve_left List.not_mem_nil
    exact ⟨.inr rfl, standsIn_of_token (by simp) member⟩

/-- An error that is blamed on sourced code stands in one of the source texts. -/
theorem IsBlamed.standsIn
    {sources : List String}
    {error : Error}
    (blamed : error.IsBlamed sources) :
    ∃ source ∈ sources, error.StandsIn source := by
  obtain ⟨running, token, isToken, _, ⟨source, isSource, member⟩, _⟩ := blamed
  rcases error with ⟨cause, held⟩
  obtain rfl : held = some token :=
    isToken
  refine ⟨source, isSource, standsIn_of_token ?_ member⟩
  rintro fault rfl
  cases running

/-- An error that is blamed on sourced code is none of the reader. -/
theorem IsBlamed.not_isReaderError
    {sources : List String}
    {error : Error}
    (blamed : error.IsBlamed sources) :
    ¬error.IsReaderError := by
  obtain ⟨running, _⟩ := blamed
  rcases error with ⟨cause, token⟩
  cases running <;> simp [IsReaderError, kind, Cause.kind]

end Error

/--
A program fails with leftovers, which have no place, with an error of the reader, which stands in
its own text, or with an error in one of the texts that the session was given.
-/
theorem Session.run_error_cases
    {given : List String}
    {session : Session}
    (kept : (sourcedCode given).Keeps session.machine)
    {source : String}
    (isGiven : source ∈ given)
    {error : Error}
    (failed : (session.run source).2 = .error error) :
    (error.kind = .notEmpty ∧ error.position? = none) ∨
      (error.IsReaderError ∧ error.StandsIn source) ∨
      ¬error.IsReaderError ∧ ∃ text ∈ given, error.StandsIn text := by
  have ends := session.runsTo_run source
  generalize session.run source = result at ends failed
  cases ends with
  | unread refused =>
      cases failed
      exact .inr (.inl (Error.standsIn_of_read_error refused))
  | failed accepted ended =>
      cases failed
      have announced : (sourcedCode given).Keeps (session.announced source).machine :=
        (respects_sourcedCode given).record _ kept
      have code : SourcedCode given _ :=
        .of_read isGiven accepted
      have enough : 4 ≤ Evaluation.hostFrames - 1 - 1 := by
        decide
      have outcome := announced.accepts_run code.instructions enough
      have raised := congrArg Outcome.error ended
      have blamed := outcome.error error raised
      exact .inr (.inr ⟨blamed.not_isReaderError, blamed.standsIn⟩)
  | finished | discarded =>
      cases failed
  | reported =>
      cases failed
      exact .inl ⟨rfl, rfl⟩

namespace RunCommand

/-- Whether sources run until one of them fails with an error. -/
structure StopsAt
    (console : Console)
    (sources earlier : List Source)
    (source : Source)
    (error : Error) :
    Prop where
  order :
    ∃ later, sources = earlier ++ source :: later
  through :
    (runSources console earlier).2 = true
  failed :
    (((runSources console earlier).1.record (.started source.name)).session.run source.text).2 =
      .error error

variable {console : Console} {sources earlier : List Source} {source : Source} {error : Error}

section Running

variable {session : Session}

theorem runSources_cons_ok
    (ended :
      (console.record (.started source.name)).session.run source.text = (session, .ok ()))
    (rest : List Source) :
    runSources console (source :: rest) =
      runSources ((console.record (.started source.name)).absorb session) rest := by
  simp only [runSources, ended]

theorem runSources_cons_error
    (ended :
      (console.record (.started source.name)).session.run source.text = (session, .error error))
    (rest : List Source) :
    runSources console (source :: rest) =
      (((console.record (.started source.name)).absorb session).report error source.name,
        false) := by
  simp only [runSources, ended]

end Running

/-- Sources behind others run when all of these have succeeded. -/
theorem runSources_append
    (through : (runSources console earlier).2 = true)
    (later : List Source) :
    runSources console (earlier ++ later) = runSources (runSources console earlier).1 later := by
  induction earlier generalizing console with
  | nil =>
      rfl
  | cons source rest inductionHypothesis =>
      rcases ended : (console.record (.started source.name)).session.run source.text with
        ⟨session, error | ⟨⟩⟩
      · rw [runSources_cons_error ended] at through
        cases through
      · rw [runSources_cons_ok ended] at through
        rw [List.cons_append, runSources_cons_ok ended, runSources_cons_ok ended]
        exact inductionHypothesis through

/-- Sources that do not all succeed stop at one of them. -/
theorem exists_stopsAt
    (stopped : (runSources console sources).2 = false) :
    ∃ earlier source error, StopsAt console sources earlier source error := by
  induction sources generalizing console with
  | nil =>
      cases stopped
  | cons source rest inductionHypothesis =>
      rcases ended : (console.record (.started source.name)).session.run source.text with
        ⟨session, error | ⟨⟩⟩
      · exact ⟨[], source, error, ⟨rest, rfl⟩, rfl, congrArg Prod.snd ended⟩
      · rw [runSources_cons_ok ended] at stopped
        obtain ⟨earlier, failing, error, ⟨later, rfl⟩, through, failed⟩ :=
          inductionHypothesis stopped
        rw [← runSources_cons_ok ended] at through failed
        exact ⟨source :: earlier, failing, error, ⟨later, rfl⟩, through, failed⟩

/-- The error at which sources stop is reported, under the name of the source that was running. -/
theorem StopsAt.report
    (stops : StopsAt console sources earlier source error) :
    ∃ shown : Console,
      runSources console sources = (shown.report error source.name, false) := by
  obtain ⟨⟨later, rfl⟩, through, failed⟩ := stops
  rw [runSources_append through]
  exact ⟨_, runSources_cons_error (Prod.ext rfl failed) later⟩

/-- An event that is recorded changes nothing that a session has stored. -/
theorem keeps_record
    {given : List String}
    (kept : (sourcedCode given).Keeps console.session.machine)
    (event : Event) :
    (sourcedCode given).Keeps (console.record event).session.machine :=
  { kept with }

/-- Sources that run in one session leave it with code from their texts only. -/
theorem keeps_runSources
    {given : List String}
    (within : ∀ source ∈ sources, source.text ∈ given)
    (kept : (sourcedCode given).Keeps console.session.machine) :
    (sourcedCode given).Keeps (runSources console sources).1.session.machine := by
  induction sources generalizing console with
  | nil =>
      exact kept
  | cons source rest inductionHypothesis =>
      have ran :
          (sourcedCode given).Keeps
            ((console.record (.started source.name)).session.run source.text).1.machine :=
        (respects_sourcedCode given).runOn (keeps_record kept (.started source.name))
          Evaluation.hostFrames (within source List.mem_cons_self)
      rcases ended : (console.record (.started source.name)).session.run source.text with
        ⟨session, error | ⟨⟩⟩
      · rw [ended] at ran
        rw [runSources_cons_error ended]
        exact { ran with }
      · rw [ended] at ran
        rw [runSources_cons_ok ended]
        exact inductionHypothesis (fun later member => within later (List.mem_cons_of_mem _ member))
          { ran with }

/-- A command runs its sources in a session that has just begun. -/
theorem begun_of_start
    {environment : Environment}
    {lookup : FileLookup}
    {words : List String}
    {startsLoop : Bool}
    (started : start environment lookup words = .running console sources startsLoop) :
    ∃ limit strict, console.session = Session.begin limit strict := by
  unfold start at started
  split at started
  · cases started
  · split at started
    · cases started
    · cases started
    · split at started
      · cases started
      · unfold prepare at started
        simp only at started
        split at started
        · cases started
        · split at started
          · cases started
          · cases started
            exact ⟨_, _, rfl⟩

/--
A command that does not get through its sources stops at one of them, and the last line that it
writes reports the error under the name of that source.  If the report gives a line and a column,
then what the error is about, the text of a token or an unreadable run, stands there in that source
or in one that ran before it, and an error of the reader stands in that source itself.  The only
errors that are reported without a place are leftovers.
-/
theorem reported_places_stand_in_sources
    {environment : Environment}
    {lookup : FileLookup}
    {words : List String}
    {startsLoop : Bool}
    (started : start environment lookup words = .running console sources startsLoop)
    (input : String) :
    ((runSources console sources).2 = false →
        ∃ earlier source error, StopsAt console sources earlier source error) ∧
      ∀ earlier source error,
        StopsAt console sources earlier source error →
          (∃ out shown,
            run environment lookup words input =
              { exitCode := 1
                out
                err := shown ++ (Text.withoutControls (error.report source.name) ++ "\n") }) ∧
          ((error.kind = .notEmpty ∧ error.position? = none) ∨
            (error.IsReaderError ∧ error.StandsIn source.text) ∨
            ¬error.IsReaderError ∧ ∃ origin ∈ earlier ++ [source], error.StandsIn origin.text) := by
  refine ⟨exists_stopsAt, ?_⟩
  intro earlier source error stops
  obtain ⟨shown, reported⟩ := stops.report
  have outcome :
      run environment lookup words input = outcomeOf (shown.report error source.name) 1 := by
    simp only [run, started, reported]
  refine ⟨⟨shown.out, shown.err, outcome⟩, ?_⟩
  let given := (earlier ++ [source]).map Source.text
  have isGiven {other : Source} (member : other ∈ earlier ++ [source]) : other.text ∈ given :=
    List.mem_map_of_mem member
  have begun : (sourcedCode given).Keeps console.session.machine := by
    obtain ⟨limit, strict, isBegun⟩ := begun_of_start started
    rw [isBegun]
    exact (respects_sourcedCode given).fresh limit "" []
  have kept : (sourcedCode given).Keeps (runSources console earlier).1.session.machine :=
    keeps_runSources (fun other member => isGiven (List.mem_append_left _ member)) begun
  have isLast : source ∈ earlier ++ [source] :=
    List.mem_append_right _ (List.mem_singleton_self source)
  rcases Session.run_error_cases (keeps_record kept _) (isGiven isLast) stops.failed with
      leftovers | ofReader | ⟨notReader, text, isText, stands⟩
  · exact .inl leftovers
  · exact .inr (.inl ofReader)
  · obtain ⟨origin, isOrigin, rfl⟩ := List.mem_map.mp isText
    exact .inr (.inr ⟨notReader, origin, isOrigin, stands⟩)

/--
A function of the first command fails when the second one calls it.  The report names the second
command, whose only line ends in front of the reported column; the token that is blamed stands at
that place of the first.
-/
theorem reported_places_stand_in_sources_of_two :
    let defining := "f \x7b g call \x7d fn ="
    let calling := "f call"
    let words := ["-c", defining, "-c", calling]
    let error : Error := ⟨.unbound "g", some (.inSource .reserved "call" ⟨6, 1, 7⟩)⟩
    (run [] (fun _ => none) words "").err =
        "error[UnboundName] at <command-2>:1:7: undefined variable 'g'\n" ∧
      error.StandsIn defining ∧
      ¬error.StandsIn calling := by
  intro defining calling words error
  let first : Source := ⟨"<command-1>", defining⟩
  let second : Source := ⟨"<command-2>", calling⟩
  let console : Console :=
    { session := Session.begin Settings.defaultDepth false
      verbosity := .ofCount 0 }
  have started : start [] (fun _ => none) words = .running console [first, second] false :=
    rfl
  have stops : StopsAt console [first, second] [first] second error :=
    { order := ⟨[], rfl⟩
      through := by
        decide +kernel
      failed := by
        decide +kernel }
  obtain ⟨_, stopping⟩ := reported_places_stand_in_sources started ""
  obtain ⟨_, standing⟩ := stopping [first] second error stops
  have notInCalling : ¬error.StandsIn calling := by
    rintro ⟨piece, line, column, isPiece, isPlace, stands⟩
    cases isPiece
    cases isPlace
    revert stands
    decide
  refine ⟨by decide +kernel, ?_, notInCalling⟩
  rcases standing with ⟨kind, _⟩ | ⟨lexical | unbalanced, _⟩ | ⟨_, origin, isOrigin, stands⟩
  · cases kind
  · cases lexical
  · cases unbalanced
  · rcases List.mem_cons.mp isOrigin with rfl | isSecond
    · exact stands
    · obtain rfl := List.mem_singleton.mp isSecond
      exact (notInCalling stands).elim

end RunCommand

end StackScript
