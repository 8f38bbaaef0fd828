import StackScript.Proofs.Past
import StackScript.Server

namespace StackScript

/-!
# Requests and what they print

All requests to a server share one session and one collection of printed text.  What a request
demands can be told without the server; then the server evaluates, resets or refuses.  Between
requests nothing that was printed is left over, so that the output in a response is that of its own
evaluation.  A reset leaves nothing of the past but the journal, which no response shows.
-/

/-- What a request demands of a server. -/
inductive Demand where
  | evaluation (code : Text.Codes)
  | reset
  | refusal (message : Text.Codes)

/-- The demand of something that is no request. -/
def Demand.invalid (reason : String) : Demand :=
  .refusal (Text.codesOf ("Invalid request: " ++ reason))

/-- What a JSON value demands as a request. -/
def Json.demand (request : Json) : Demand :=
  match request with
  | .object _ =>
      let command := (request.member? "cmd").getD .null
      if command.isText "reset" then
        .reset
      else if command.isText "eval" then
        match (request.member? "code").getD (.text "") with
        | .string code =>
            .evaluation code
        | _ =>
            .invalid "code must be a string"
      else
        .refusal (Text.codesOf "Unknown cmd: " ++ command.plainText)
  | _ =>
      .invalid "expected a JSON object"

/-- What a line of bytes demands as a request, unless the reader gives up on it. -/
def demandOfLine (line : List UInt8) : Except Unanswerable Demand :=
  match Text.decodeUtf8 line with
  | .error fault =>
      .ok (.invalid fault.message)
  | .ok text =>
      match Json.parse text with
      | .ok request =>
          .ok request.demand
      | .error (.malformed problem offset) =>
          .ok (.invalid (problem.report offset text))
      | .error (.tooManyDigits count) =>
          .error (.tooManyDigits count)
      | .error (.tooNested container) =>
          .error (.tooNested container)

/-- What reaches a server: a request that is decoded already, or a line of bytes. -/
inductive Incoming where
  | decoded (request : Json)
  | line (bytes : List UInt8)

/-- What something that reaches a server demands. -/
def Incoming.demand : Incoming → Except Unanswerable Demand
  | .decoded request =>
      .ok request.demand
  | .line bytes =>
      demandOfLine bytes

/-- The response to an evaluation of source text, from its answer and the text that goes with it. -/
def Response.ofAnswer
    (code : Text.Codes)
    (answer : Except Error (List Value))
    (output : String) :
    Response :=
  match answer with
  | .ok values =>
      .evaluated (values.map Value.display) output
  | .error error =>
      .failed error (Server.wording code error) output

namespace Session

/-- Evaluating changes nothing of a session but its machine. -/
theorem eval_withMachine
    (session : Session)
    (source : String) :
    (session.eval source).1 = { session with machine := (session.eval source).1.machine } := by
  cases accepted : StackScript.read source with
  | error error =>
      rw [eval, evalOn_of_read_error session accepted]
  | ok tokens =>
      rw [eval, evalOn_of_read_ok session accepted]

/-- Taking the output takes a part of the past, and nothing else. -/
theorem hushed_takeOutput
    (session : Session) :
    session.takeOutput.2.hushed = session.hushed :=
  rfl

end Session

namespace Server

/-- Do what a request demands. -/
def meet (server : Server) : Demand → Server × Response
  | .evaluation code =>
      server.evaluate code
  | .reset =>
      server.reset
  | .refusal message =>
      (server, .refused message)

/-- A request is answered by doing what it demands. -/
theorem handleRequest_eq_meet
    (server : Server)
    (request : Json) :
    server.handleRequest request = server.meet request.demand := by
  cases request with
  | object members =>
      simp only [handleRequest, Json.demand]
      split
      · rfl
      · split
        · cases ((Json.object members).member? "code").getD (.text "") <;> rfl
        · rfl
  | _ =>
      rfl

/-- A line is answered by doing what it demands. -/
theorem handleLine_eq_meet
    (server : Server)
    (line : List UInt8) :
    server.handleLine line = (demandOfLine line).map server.meet := by
  unfold handleLine demandOfLine
  cases Text.decodeUtf8 line with
  | error fault =>
      rfl
  | ok text =>
      simp only
      cases Json.parse text with
      | ok request =>
          simp only [Except.map, handleRequest_eq_meet]
      | error fault =>
          cases fault <;> rfl

/-- Answer what reaches a server; what cannot be answered changes nothing. -/
def reply (server : Server) : Incoming → Server × Except Unanswerable Response
  | .decoded request =>
      let (after, response) := server.handleRequest request
      (after, .ok response)
  | .line bytes =>
      match server.handleLine bytes with
      | .ok (after, response) =>
          (after, .ok response)
      | .error unanswerable =>
          (server, .error unanswerable)

/-- Answer all that reaches a server, in order. -/
def replyAll (server : Server) : List Incoming → Server × List (Except Unanswerable Response)
  | [] =>
      (server, [])
  | incoming :: rest =>
      let (after, answer) := server.reply incoming
      let (final, answers) := after.replyAll rest
      (final, answer :: answers)

/-- A reply depends on what reaches the server only through its demand. -/
theorem reply_eq_meet
    (server : Server)
    (incoming : Incoming) :
    server.reply incoming =
      match incoming.demand with
      | .ok demand =>
          ((server.meet demand).1, .ok (server.meet demand).2)
      | .error unanswerable =>
          (server, .error unanswerable) := by
  cases incoming with
  | decoded request =>
      simp only [reply, handleRequest_eq_meet, Incoming.demand]
  | line bytes =>
      simp only [reply, handleLine_eq_meet, Incoming.demand]
      cases demandOfLine bytes <;> rfl

/-- A server with no printed text left over. -/
def IsQuiet (server : Server) : Prop :=
  server.session.machine.output = ""

/-- Giving a server another session and taking what it printed leaves the server quiet. -/
theorem takeOutput_isQuiet
    (server : Server)
    (session : Session) :
    (server.takeOutput session).1.IsQuiet :=
  rfl

/-- An evaluation leaves the session that the source text leaves, but for what it printed. -/
theorem evaluate_session
    (server : Server)
    (code : Text.Codes) :
    (server.evaluate code).1.session =
      (server.session.eval (Text.textOf code)).1.takeOutput.2 := by
  unfold evaluate
  rcases server.session.eval (Text.textOf code) with ⟨session, error | values⟩ <;> rfl

/-- What an evaluation by a quiet server is answered with: its own answer and its own output. -/
theorem evaluate_response
    {server : Server}
    (quiet : server.IsQuiet)
    (code : Text.Codes) :
    (server.evaluate code).2 =
      .ofAnswer code (server.session.eval (Text.textOf code)).2
        (server.session.printed (Text.textOf code)) := by
  have output := server.session.output_eval (Text.textOf code)
  rw [quiet, String.empty_append] at output
  rw [← output]
  unfold evaluate
  rcases server.session.eval (Text.textOf code) with ⟨session, error | values⟩ <;> rfl

/-- A server that has met a demand is quiet if it was so before. -/
theorem IsQuiet.meet
    {server : Server}
    (quiet : server.IsQuiet)
    (demand : Demand) :
    (server.meet demand).1.IsQuiet := by
  cases demand with
  | evaluation code =>
      change (server.evaluate code).1.session.machine.output = ""
      rw [evaluate_session]
      rfl
  | reset =>
      exact server.takeOutput_isQuiet server.session.reset
  | refusal message =>
      exact quiet

/-- A reset leaves a session that has only just begun, but for its journal. -/
theorem reset_session
    (server : Server) :
    (server.meet .reset).1.session.hushed =
      Session.begin server.session.limit server.session.strict :=
  rfl

/-- Two quiet servers whose sessions differ at most in their journals. -/
structure Resembles (server server' : Server) : Prop where
  quiet :
    server.IsQuiet
  quiet' :
    server'.IsQuiet
  session :
    server.session.hushed = server'.session.hushed

/-- Servers that resemble each other meet a demand alike and resemble each other afterwards. -/
theorem Resembles.meet
    {server server' : Server}
    (resembles : server.Resembles server')
    (demand : Demand) :
    (server.meet demand).2 = (server'.meet demand).2 ∧
      (server.meet demand).1.Resembles (server'.meet demand).1 := by
  obtain ⟨quiet, quiet', session⟩ := resembles
  cases demand with
  | evaluation code =>
      have answered :
          (server.session.eval (Text.textOf code)).2 =
            (server'.session.eval (Text.textOf code)).2 := by
        rw [← server.session.answer_hushed, session, server'.session.answer_hushed]
      have left :
          (server.session.eval (Text.textOf code)).1.hushed =
            (server'.session.eval (Text.textOf code)).1.hushed := by
        rw [← server.session.hushed_eval, session, server'.session.hushed_eval]
      refine ⟨?_, quiet.meet _, quiet'.meet _, ?_⟩
      · simp only [Server.meet, evaluate_response quiet, evaluate_response quiet', answered,
          Session.printed, session]
      · simp only [Server.meet, evaluate_session]
        rw [Session.hushed_takeOutput, Session.hushed_takeOutput]
        exact left
  | reset =>
      have limit : server.session.limit = server'.session.limit := by
        simpa only [Session.hushed] using congrArg Session.limit session
      have strict : server.session.strict = server'.session.strict := by
        simpa only [Session.hushed] using congrArg Session.strict session
      refine ⟨rfl, quiet.meet _, quiet'.meet _, ?_⟩
      rw [reset_session, reset_session, limit, strict]
  | refusal message =>
      exact ⟨rfl, quiet, quiet', session⟩

/-- Servers that resemble each other give the same replies. -/
theorem Resembles.replyAll
    {server server' : Server}
    (resembles : server.Resembles server')
    (incoming : List Incoming) :
    (server.replyAll incoming).2 = (server'.replyAll incoming).2 := by
  induction incoming generalizing server server' with
  | nil =>
      rfl
  | cons first rest inductionHypothesis =>
      simp only [Server.replyAll, reply_eq_meet]
      cases first.demand with
      | ok demand =>
          obtain ⟨same, resemblesAfter⟩ := resembles.meet demand
          simp only [same, inductionHypothesis resemblesAfter]
      | error unanswerable =>
          simp only [inductionHypothesis resembles]

/-- A quiet server with the policies of a session that begins. -/
structure Retains (limit : Int) (strict : Bool) (server : Server) : Prop where
  quiet :
    server.IsQuiet
  limit :
    server.session.limit = limit
  strict :
    server.session.strict = strict

/-- Meeting a demand keeps the policies. -/
theorem Retains.meet
    {server : Server}
    {limit : Int}
    {strict : Bool}
    (retains : server.Retains limit strict)
    (demand : Demand) :
    (server.meet demand).1.Retains limit strict := by
  have quiet := retains.quiet.meet demand
  cases demand with
  | evaluation code =>
      refine ⟨quiet, ?_, ?_⟩
      · simp only [Server.meet, evaluate_session]
        rw [Session.eval_withMachine]
        exact retains.limit
      · simp only [Server.meet, evaluate_session]
        rw [Session.eval_withMachine]
        exact retains.strict
  | _ =>
      exact ⟨quiet, retains.limit, retains.strict⟩

/-- Whatever reaches a server, it keeps its policies and is quiet afterwards. -/
theorem Retains.replyAll
    {server : Server}
    {limit : Int}
    {strict : Bool}
    (retains : server.Retains limit strict)
    (incoming : List Incoming) :
    (server.replyAll incoming).1.Retains limit strict := by
  induction incoming generalizing server with
  | nil =>
      exact retains
  | cons first rest inductionHypothesis =>
      simp only [Server.replyAll, reply_eq_meet]
      cases first.demand with
      | ok demand =>
          exact inductionHypothesis (retains.meet demand)
      | error unanswerable =>
          exact inductionHypothesis retains

/-- A server starts with a session that has only just begun. -/
theorem start_session
    {environment : Environment}
    {host : Option String}
    {port : Option Int}
    {fresh : Server}
    (started : Server.start environment host port = .ok fresh) :
    ∃ limit strict, fresh.session = Session.begin limit strict := by
  unfold Server.start at started
  split at started
  · cases started
  · split at started
    · cases started
    · cases started
      exact ⟨_, _, rfl⟩

/--
Whatever has reached a server since it was started, nothing printed is left over; an evaluation is
answered with the text that it prints itself, whether it succeeds or fails, and this is all that it
adds to the printed text; and after a reset the replies to all that follows are those of the server
that was started.
-/
theorem replies_are_isolated
    {environment : Environment}
    {host : Option String}
    {port : Option Int}
    {fresh : Server}
    (started : Server.start environment host port = .ok fresh)
    (before : List Incoming) :
    let reached := (fresh.replyAll before).1
    reached.session.machine.output = "" ∧
      (∀ incoming code,
        incoming.demand = .ok (.evaluation code) →
          ∃ output,
            (reached.reply incoming).2 =
                .ok (.ofAnswer code (reached.session.eval (Text.textOf code)).2 output) ∧
              (reached.session.eval (Text.textOf code)).1.machine.output =
                reached.session.machine.output ++ output) ∧
      ∀ incoming,
        incoming.demand = .ok .reset →
          ∀ later,
            ((reached.reply incoming).1.replyAll later).2 = (fresh.replyAll later).2 := by
  intro reached
  obtain ⟨limit, strict, begun⟩ := start_session started
  have retains : fresh.Retains limit strict := by
    refine ⟨?_, ?_, ?_⟩ <;> simp only [IsQuiet, begun] <;> rfl
  have reachedRetains : reached.Retains limit strict :=
    retains.replyAll before
  refine ⟨reachedRetains.quiet, ?_, ?_⟩
  · intro incoming code demands
    refine ⟨reached.session.printed (Text.textOf code), ?_,
      reached.session.output_eval (Text.textOf code)⟩
    simp only [reply_eq_meet, demands, Server.meet, evaluate_response reachedRetains.quiet]
  · intro incoming demands later
    have resembles : (reached.meet .reset).1.Resembles fresh := by
      refine ⟨reachedRetains.quiet.meet .reset, retains.quiet, ?_⟩
      rw [reset_session, reachedRetains.limit, reachedRetains.strict, begun]
      rfl
    simp only [reply_eq_meet, demands]
    exact resembles.replyAll later

/-- The server that is started where nothing is set. -/
def sample : Server where
  host :=
    Settings.defaultHost
  port :=
    Settings.defaultPort
  session :=
    Session.begin Settings.defaultDepth false

/-- The request to evaluate a source text. -/
def asking (code : String) : Incoming :=
  .decoded (.record [("cmd", .text "eval"), ("code", .text code)])

/-- A request that prints and then fails, and a line that is no request. -/
def troubles : List Incoming :=
  [asking "print_arg 5 = print call 1 0 /", .line [0x7B, 0xFF]]

/-- What failed after printing is not shown again, and a reset makes its binding unknown. -/
theorem replies_are_isolated_troubles :
    let reached := (sample.replyAll troubles).1
    let resetting := Incoming.decoded (.record [("cmd", .text "reset")])
    Server.start [] none none = .ok sample ∧
      reached.session.machine.output = "" ∧
      (reached.reply (asking "print call")).2 = .ok (.evaluated [] "5\n") ∧
      ((reached.reply resetting).1.replyAll [asking "print call"]).2 =
        (sample.replyAll [asking "print call"]).2 := by
  intro reached resetting
  have started : Server.start [] none none = .ok sample :=
    rfl
  obtain ⟨quiet, answers, resets⟩ := replies_are_isolated started troubles
  refine ⟨started, quiet, ?_, resets resetting rfl _⟩
  obtain ⟨output, answered, printed⟩ :=
    answers (asking "print call") (Text.codesOf "print call") rfl
  have answer : (reached.session.eval "print call").2 = .ok [] := by
    decide +kernel
  have written : (reached.session.eval "print call").1.machine.output = "5\n" := by
    decide +kernel
  rw [Text.textOf_codesOf] at answered printed
  rw [quiet, String.empty_append, written] at printed
  rw [answered, answer, ← printed]
  rfl

end Server

end StackScript
