import Mathlib.Logic.Function.Basic
import StackScript.Server

namespace StackScript

/-!
# Many clients at once

Every connection has a thread of its own, and the threads take turns in any order.  In one turn a
thread takes a line from its buffer and has it answered, or receives the next piece of its stream if
no line is complete.  Answering is the only thing that touches the shared session.
-/

/-- The first complete line of a buffer, and the bytes behind its newline. -/
def nextLine? : List UInt8 → Option (List UInt8 × List UInt8)
  | [] =>
      none
  | byte :: rest =>
      if byte = newlineByte then
        some ([], rest)
      else
        (nextLine? rest).map fun (line, behind) =>
          (byte :: line, behind)

/-- What one receipt delivers; receiving nothing means that the stream has ended. -/
structure Piece where
  bytes : List UInt8
  nonempty : bytes ≠ []

/-- A connection with the pieces of its stream that have not been received yet. -/
structure Peer where
  arriving : List Piece
  connection : Connection := {}

/-- A request that was answered, with its answer. -/
structure Exchange where
  request : List UInt8
  response : Response

namespace Peer

/-- A connection whose thread has ended. -/
def closed (peer : Peer) : Peer :=
  { peer with connection := { peer.connection with isOpen := false } }

/-- A connection with other bytes in its buffer. -/
def holding (peer : Peer) (buffer : List UInt8) : Peer :=
  { peer with connection := { peer.connection with unfinished := buffer } }

/-- A connection on which more text was sent. -/
def sending (peer : Peer) (text : String) : Peer :=
  { peer with connection := { peer.connection with sent := peer.connection.sent ++ text } }

/-- A connection that has received the first of the pieces that were still to come. -/
def receiving (peer : Peer) (piece : Piece) (later : List Piece) : Peer :=
  { peer.holding (peer.connection.unfinished ++ piece.bytes) with arriving := later }

/-- Receive the next piece; where none is left, the client has finished. -/
def receive (peer : Peer) : Peer :=
  match peer.arriving with
  | [] =>
      peer.closed
  | piece :: later =>
      peer.receiving piece later

end Peer

namespace Server

/-- Answer a request on a connection; what cannot be answered ends its thread. -/
def serve (server : Server) (peer : Peer) (request : List UInt8) : Server × Peer × List Exchange :=
  if request.isEmpty then
    (server, peer, [])
  else
    match server.handleLine request with
    | .error _ =>
        (server, peer.closed, [])
    | .ok (after, response) =>
        (after, peer.sending response.line, [⟨request, response⟩])

/-- One turn of the thread of a connection. -/
def attend (server : Server) (peer : Peer) : Server × Peer × List Exchange :=
  if peer.connection.isOpen then
    match nextLine? peer.connection.unfinished with
    | some (line, behind) =>
        server.serve (peer.holding behind) (trimBytes line)
    | none =>
        (server, peer.receive, [])
  else
    (server, peer, [])

end Server

/-- A server with the connections that it serves. -/
structure Traffic (Client : Type) where
  server : Server
  peer : Client → Peer

namespace Traffic

variable {Client : Type} [DecidableEq Client]

/-- The connections of clients whose streams come in the given pieces, before anything arrives. -/
def start (server : Server) (pieces : Client → List Piece) : Traffic Client where
  server :=
    server
  peer :=
    fun client => { arriving := pieces client }

/-- One turn of the thread of a client. -/
def turn (traffic : Traffic Client) (client : Client) : Traffic Client × List Exchange :=
  let (server, peer, exchanges) := traffic.server.attend (traffic.peer client)
  ({ server, peer := Function.update traffic.peer client peer }, exchanges)

/-- The turns of threads in a given order, with all exchanges in the order of the answers. -/
def run (traffic : Traffic Client) : List Client → Traffic Client × List (Client × Exchange)
  | [] =>
      (traffic, [])
  | client :: rest =>
      let (next, exchanges) := traffic.turn client
      let (final, later) := next.run rest
      (final, exchanges.map (client, ·) ++ later)

end Traffic

end StackScript
