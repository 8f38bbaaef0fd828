import StackScript.Json.Parser
import StackScript.Session

namespace StackScript

/-!
# The request server

Clients send requests as lines of JSON and get one line of JSON for each.  All connections share one
session, so definitions and operands persist from request to request.  Bytes arrive in pieces of any
size; only complete lines are answered.
-/

/-- What a client is answered. -/
inductive Response where
  | evaluated (stack : List String) (output : String)
  | failed (error : Error) (message : Text.Codes) (output : String)
  | refused (message : Text.Codes)

namespace Response

/-- A position as JSON. -/
def positionJson : Option (Int × Int) → Json
  | none =>
      .null
  | some (line, column) =>
      .array [.integer line, .integer column]

/-- A response as JSON. -/
def toJson : Response → Json
  | .evaluated stack output =>
      .record
        [("ok", .bool true),
          ("stack", .array (stack.map .text)),
          ("output", .text output)]
  | .failed error message output =>
      .record
        [("ok", .bool false),
          ("error", .string message),
          ("kind", .text error.kind.label),
          ("position", positionJson error.position?),
          ("output", .text output)]
  | .refused message =>
      .record
        [("ok", .bool false),
          ("error", .string message)]

/-- A response as a line. -/
def line (response : Response) : String :=
  response.toJson.render ++ "\n"

end Response

/-- A request that cannot be answered because the reader gives up on it. -/
inductive Unanswerable where
  | tooManyDigits (count : Nat)
  | tooNested (container : Json.Container)
  deriving Repr, DecidableEq

/-- A server with its address and the session behind it. -/
structure Server where
  host : String
  port : Int
  session : Session

namespace Server

/-- Start a server; what is left open, and an empty host, is taken from the settings. -/
def start
    (environment : Environment)
    (host : Option String)
    (port : Option Int) :
    Except SettingError Server :=
  match Settings.address environment with
  | .error refusal =>
      .error refusal
  | .ok (defaultHost, defaultPort) =>
      match Session.depthLimit environment {} with
      | .error refusal =>
          .error refusal
      | .ok limit =>
          .ok
            { host := (host.filter (· ≠ "")).getD defaultHost
              port := port.getD defaultPort
              session := Session.begin limit (Settings.strictStack environment) }

/-- Give a server another session, and take what that session printed. -/
def takeOutput (server : Server) (session : Session) : Server × String :=
  ({ server with session := session.takeOutput.2 }, session.takeOutput.1)

/--
The wording of an error in source text that a client sent.

An unreadable run is shown with the code points that were sent, which need not all be characters.
-/
def wording (code : Text.Codes) (error : Error) : Text.Codes :=
  match error.cause with
  | .unreadable fault =>
      let run := (code.drop fault.position.offset.toNat).take fault.text.length
      Text.codesOf LexFault.lead ++ run ++ Text.codesOf fault.trail
  | _ =>
      Text.codesOf error.message

/-- Evaluate source text for a client. -/
def evaluate (server : Server) (code : Text.Codes) : Server × Response :=
  match server.session.eval (Text.textOf code) with
  | (session, .ok values) =>
      let (after, output) := server.takeOutput session
      (after, .evaluated (values.map Value.display) output)
  | (session, .error error) =>
      let (after, output) := server.takeOutput session
      (after, .failed error (wording code error) output)

/-- Drop all bindings, operands and pending output. -/
def reset (server : Server) : Server × Response :=
  ((server.takeOutput server.session.reset).1, .evaluated [] "")

/-- Refuse something that is no request. -/
def refuse (server : Server) (reason : String) : Server × Response :=
  (server, .refused (Text.codesOf ("Invalid request: " ++ reason)))

/-- Answer a request. -/
def handleRequest (server : Server) (request : Json) : Server × Response :=
  match request with
  | .object _ =>
      let command := (request.member? "cmd").getD .null
      if command.isText "reset" then
        server.reset
      else if command.isText "eval" then
        match (request.member? "code").getD (.text "") with
        | .string code =>
            server.evaluate code
        | _ =>
            server.refuse "code must be a string"
      else
        (server, .refused (Text.codesOf "Unknown cmd: " ++ command.plainText))
  | _ =>
      server.refuse "expected a JSON object"

/-- Answer a line of bytes. -/
def handleLine (server : Server) (line : List UInt8) : Except Unanswerable (Server × Response) :=
  match Text.decodeUtf8 line with
  | .error fault =>
      .ok (server.refuse fault.message)
  | .ok text =>
      match Json.parse text with
      | .ok request =>
          .ok (server.handleRequest request)
      | .error (.malformed problem offset) =>
          .ok (server.refuse (problem.report offset text))
      | .error (.tooManyDigits count) =>
          .error (.tooManyDigits count)
      | .error (.tooNested container) =>
          .error (.tooNested container)

end Server

/-- Whether a byte is an ASCII blank. -/
def isBlankByte (byte : UInt8) : Bool :=
  (0x09 ≤ byte && byte ≤ 0x0D) || byte == 0x20

/-- Bytes without the ASCII blanks at their ends. -/
def trimBytes (bytes : List UInt8) : List UInt8 :=
  ((bytes.dropWhile isBlankByte).reverse.dropWhile isBlankByte).reverse

/-- The byte that ends a line. -/
def newlineByte : UInt8 :=
  0x0A

/-- The complete lines in front, without their endings, and the unfinished line behind them. -/
def splitLines : List UInt8 → List (List UInt8) × List UInt8
  | [] =>
      ([], [])
  | byte :: rest =>
      if byte = newlineByte then
        let (lines, unfinished) := splitLines rest
        ([] :: lines, unfinished)
      else
        match splitLines rest with
        | (first :: lines, unfinished) =>
            ((byte :: first) :: lines, unfinished)
        | ([], unfinished) =>
            ([], byte :: unfinished)

/-- A client connection: the unfinished line, the text sent, and whether it is still served. -/
structure Connection where
  unfinished : List UInt8 := []
  sent : String := ""
  isOpen : Bool := true

namespace Server

/-- Answer complete lines in order; a blank line gets no answer, an unanswerable one ends it all. -/
def answerLines
    (server : Server)
    (connection : Connection) :
    List (List UInt8) → Except Unanswerable (Server × Connection)
  | [] =>
      .ok (server, connection)
  | line :: rest =>
      if (trimBytes line).isEmpty then
        server.answerLines connection rest
      else
        match server.handleLine (trimBytes line) with
        | .error unanswerable =>
            .error unanswerable
        | .ok (after, response) =>
            after.answerLines { connection with sent := connection.sent ++ response.line } rest

/-- Receive bytes on a connection; receiving none means that the client has finished. -/
def receive
    (server : Server)
    (connection : Connection)
    (bytes : List UInt8) :
    Except Unanswerable (Server × Connection) :=
  if connection.isOpen then
    if bytes.isEmpty then
      .ok (server, { connection with isOpen := false })
    else
      let (lines, unfinished) := splitLines (connection.unfinished ++ bytes)
      server.answerLines { connection with unfinished } lines
  else
    .ok (server, connection)

/-- Receive pieces on a connection one after the other. -/
def receiveAll
    (server : Server)
    (connection : Connection) :
    List (List UInt8) → Except Unanswerable (Server × Connection)
  | [] =>
      .ok (server, connection)
  | bytes :: rest =>
      match server.receive connection bytes with
      | .error unanswerable =>
          .error unanswerable
      | .ok (after, received) =>
          after.receiveAll received rest

/-- Serve one client from its first bytes to the end of its stream. -/
def serveClient
    (server : Server)
    (chunks : List (List UInt8)) :
    Except Unanswerable (Server × Connection) :=
  server.receiveAll {} (chunks ++ [[]])

/-- Serve clients one after the other. -/
def serveClients
    (server : Server) :
    List (List (List UInt8)) → Except Unanswerable (Server × List Connection)
  | [] =>
      .ok (server, [])
  | chunks :: rest =>
      match server.serveClient chunks with
      | .error unanswerable =>
          .error unanswerable
      | .ok (after, connection) =>
          (after.serveClients rest).map fun (final, connections) =>
            (final, connection :: connections)

end Server

end StackScript
