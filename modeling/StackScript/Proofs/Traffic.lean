import StackScript.Proofs.Framing
import StackScript.Proofs.RenderedText

namespace StackScript

/-!
# Answers to many clients at once

What a thread does to its own connection can be told apart from what the others do: each turn moves
at most one request from those that are still to be answered to those that were.
-/

/-- A buffer without a complete line has no newline. -/
theorem not_mem_of_nextLine?
    {buffer : List UInt8}
    (noLine : nextLine? buffer = none) :
    newlineByte ∉ buffer := by
  induction buffer with
  | nil =>
      exact List.not_mem_nil
  | cons byte rest inductionHypothesis =>
      by_cases ends : byte = newlineByte
      · simp [nextLine?, ends] at noLine
      · simp only [nextLine?, ends, if_false, Option.map_eq_none_iff] at noLine
        simp [Ne.symm ends, inductionHypothesis noLine]

/-- The first complete line stands in front of the first newline. -/
theorem eq_of_nextLine?
    {buffer line behind : List UInt8}
    (found : nextLine? buffer = some (line, behind)) :
    buffer = line ++ newlineByte :: behind ∧ newlineByte ∉ line := by
  induction buffer generalizing line with
  | nil =>
      cases found
  | cons byte rest inductionHypothesis =>
      by_cases ends : byte = newlineByte
      · simp only [nextLine?, ends, if_true, Option.some.injEq, Prod.mk.injEq] at found
        obtain ⟨rfl, rfl⟩ := found
        exact ⟨by rw [ends]; rfl, List.not_mem_nil⟩
      · simp only [nextLine?, ends, if_false, Option.map_eq_some_iff] at found
        obtain ⟨⟨rest', behind'⟩, foundRest, same⟩ := found
        cases same
        obtain ⟨joined, whole⟩ := inductionHypothesis foundRest
        exact ⟨by rw [joined]; rfl, by simp [Ne.symm ends, whole]⟩

namespace Peer

/-- The bytes that have not been looked at, received or not. -/
def remaining (peer : Peer) : List UInt8 :=
  peer.connection.unfinished ++ streamOf peer.arriving

/-- The requests that are still to be answered: those in front of the first unanswerable one. -/
def pending (peer : Peer) : List (List UInt8) :=
  if peer.connection.isOpen then
    (requestsIn peer.remaining).takeWhile isAnswerable
  else
    []

/-- How many turns a thread still needs: one for each line, for each piece, and for the end. -/
def workload (peer : Peer) : Nat :=
  if peer.connection.isOpen then
    (splitLines peer.remaining).1.length + peer.arriving.length + 1
  else
    0

/-- An open connection with a complete line in its buffer, and what stands behind the line. -/
structure Buffers (peer : Peer) (line behind : List UInt8) : Prop where
  isOpen :
    peer.connection.isOpen = true
  buffer :
    peer.connection.unfinished = line ++ newlineByte :: behind
  whole :
    newlineByte ∉ line

end Peer

namespace Server

/-- What one turn can do to the server and to the connection. -/
inductive Attends (server : Server) (peer : Peer) : Server → Peer → List Exchange → Prop where
  | ended
      (isClosed : peer.connection.isOpen = false) :
      Attends server peer server peer []
  | blank
      {line behind : List UInt8}
      (buffers : peer.Buffers line behind)
      (nothing : trimBytes line = []) :
      Attends server peer server (peer.holding behind) []
  | unanswerable
      {line behind : List UInt8}
      {unanswerable : Unanswerable}
      (buffers : peer.Buffers line behind)
      (something : trimBytes line ≠ [])
      (refused : server.handleLine (trimBytes line) = .error unanswerable) :
      Attends server peer server (peer.holding behind).closed []
  | answered
      {line behind : List UInt8}
      {after : Server}
      {response : Response}
      (buffers : peer.Buffers line behind)
      (something : trimBytes line ≠ [])
      (answer : server.handleLine (trimBytes line) = .ok (after, response)) :
      Attends server peer after ((peer.holding behind).sending response.line)
        [⟨trimBytes line, response⟩]
  | received
      {piece : Piece}
      {later : List Piece}
      (isOpen : peer.connection.isOpen = true)
      (next : peer.arriving = piece :: later) :
      Attends server peer server (peer.receiving piece later) []
  | finished
      (isOpen : peer.connection.isOpen = true)
      (whole : newlineByte ∉ peer.connection.unfinished)
      (nothing : peer.arriving = []) :
      Attends server peer server peer.closed []

/-- A turn does one of these things. -/
theorem attends_attend
    (server : Server)
    (peer : Peer) :
    server.Attends peer (server.attend peer).1 (server.attend peer).2.1
      (server.attend peer).2.2 := by
  unfold attend
  cases isOpen : peer.connection.isOpen with
  | false =>
      exact .ended isOpen
  | true =>
      simp only [if_true]
      cases found : nextLine? peer.connection.unfinished with
      | none =>
          have whole := not_mem_of_nextLine? found
          cases next : peer.arriving with
          | nil =>
              simp only [Peer.receive, next]
              exact .finished isOpen whole next
          | cons piece later =>
              simp only [Peer.receive, next]
              exact .received isOpen next
      | some split =>
          obtain ⟨line, behind⟩ := split
          obtain ⟨buffer, whole⟩ := eq_of_nextLine? found
          have buffers : peer.Buffers line behind :=
            ⟨isOpen, buffer, whole⟩
          simp only [serve, List.isEmpty_iff]
          split
          case isTrue nothing =>
            exact .blank buffers nothing
          case isFalse something =>
            cases answer : server.handleLine (trimBytes line) with
            | error unanswerable =>
                exact .unanswerable buffers something answer
            | ok answered =>
                exact .answered buffers something answer

end Server

namespace Peer

variable {peer : Peer} {line behind : List UInt8}

theorem Buffers.remaining
    (buffers : peer.Buffers line behind) :
    peer.remaining = line ++ newlineByte :: (peer.holding behind).remaining := by
  rw [Peer.remaining, buffers.buffer, List.append_assoc, List.cons_append]
  rfl

/-- A complete line in the buffer is the first thing that is still to be answered. -/
theorem Buffers.pending
    (buffers : peer.Buffers line behind) :
    peer.pending =
      if trimBytes line = [] then
        (peer.holding behind).pending
      else if isAnswerable (trimBytes line) then
        trimBytes line :: (peer.holding behind).pending
      else
        [] := by
  have stillOpen : (peer.holding behind).connection.isOpen = true :=
    buffers.isOpen
  simp only [Peer.pending, buffers.isOpen, stillOpen, if_true, buffers.remaining,
    requestsIn_line buffers.whole]
  split
  · rfl
  · rw [List.takeWhile_cons]

/-- Taking a line from the buffer is one turn of the work. -/
theorem Buffers.workload
    (buffers : peer.Buffers line behind) :
    peer.workload = (peer.holding behind).workload + 1 := by
  have stillOpen : (peer.holding behind).connection.isOpen = true :=
    buffers.isOpen
  have arriving : (peer.holding behind).arriving = peer.arriving :=
    rfl
  simp only [Peer.workload, buffers.isOpen, stillOpen, if_true, buffers.remaining,
    splitLines_line buffers.whole, List.length_cons, arriving]
  omega

/-- Receiving a piece leaves the bytes that have not been looked at as they are. -/
theorem remaining_receiving
    {piece : Piece}
    {later : List Piece}
    (next : peer.arriving = piece :: later) :
    (peer.receiving piece later).remaining = peer.remaining := by
  simp only [receiving, holding, remaining, next, streamOf, List.flatMap_cons, List.append_assoc]

end Peer

/-- What some turns of a thread amount to for its connection. -/
structure Peer.Progress
    (peer : Peer)
    (turns : Nat)
    (exchanges : List Exchange)
    (after : Peer) : Prop where
  sent :
    after.connection.sent = peer.connection.sent ++ sentText (exchanges.map Exchange.response)
  pending :
    peer.pending = exchanges.map Exchange.request ++ after.pending
  workload :
    after.workload ≤ peer.workload - turns

namespace Peer.Progress

theorem none
    (peer : Peer) :
    peer.Progress 0 [] peer where
  sent := by
    simp [sentText]
  pending :=
    rfl
  workload :=
    Nat.le_refl _

theorem trans
    {first second third : Peer}
    {turns turns' : Nat}
    {exchanges exchanges' : List Exchange}
    (before : first.Progress turns exchanges second)
    (behind : second.Progress turns' exchanges' third) :
    first.Progress (turns + turns') (exchanges ++ exchanges') third where
  sent := by
    rw [behind.sent, before.sent, List.map_append, sentText_append, String.append_assoc]
  pending := by
    rw [before.pending, behind.pending, List.map_append, List.append_assoc]
  workload := by
    have earlier := before.workload
    have later := behind.workload
    omega

end Peer.Progress

namespace Server

variable {server after : Server} {peer peer' : Peer} {exchanges : List Exchange}

/-- What a turn exchanges is what the server answers. -/
theorem Attends.answerAll
    (attends : server.Attends peer after peer' exchanges) :
    server.answerAll (exchanges.map Exchange.request) =
      .ok (after, exchanges.map Exchange.response) := by
  cases attends with
  | answered buffers something answer =>
      simp only [List.map_cons, List.map_nil, Server.answerAll, answer]
      rfl
  | _ =>
      rfl

/-- One turn brings a connection one turn closer to its end. -/
theorem Attends.progress
    (attends : server.Attends peer after peer' exchanges) :
    peer.Progress 1 exchanges peer' := by
  cases attends with
  | ended isClosed =>
      have nothing : peer.workload = 0 := by
        simp [Peer.workload, isClosed]
      exact ⟨String.append_empty.symm, rfl, by omega⟩
  | blank buffers nothing =>
      refine ⟨String.append_empty.symm, ?_, by rw [buffers.workload]; exact Nat.le_refl _⟩
      rw [buffers.pending, if_pos nothing]
      rfl
  | @unanswerable line behind unanswerable buffers something refused =>
      have lost : isAnswerable (trimBytes line) = false := by
        rw [← server.isOk_handleLine, refused]
        rfl
      refine ⟨String.append_empty.symm, ?_, Nat.zero_le _⟩
      rw [buffers.pending, if_neg something, lost]
      rfl
  | @answered line behind _ response buffers something answer =>
      have answerable : isAnswerable (trimBytes line) = true := by
        rw [← server.isOk_handleLine, answer]
        rfl
      refine ⟨?_, ?_, by rw [buffers.workload]; exact Nat.le_refl _⟩
      · simp [Peer.sending, Peer.holding, sentText]
      · rw [buffers.pending, if_neg something, answerable]
        rfl
  | @received piece later isOpen next =>
      have remaining := Peer.remaining_receiving next
      have stillOpen : (peer.receiving piece later).connection.isOpen = true :=
        isOpen
      refine ⟨String.append_empty.symm, ?_, ?_⟩
      · simp only [Peer.pending, isOpen, stillOpen, remaining]
        rfl
      · have fewer : (peer.receiving piece later).arriving.length + 1 = peer.arriving.length := by
          rw [next]
          rfl
        simp only [Peer.workload, isOpen, stillOpen, remaining, if_true]
        omega
  | finished isOpen whole nothing =>
      have remaining : peer.remaining = peer.connection.unfinished := by
        simp [Peer.remaining, nothing, streamOf]
      refine ⟨String.append_empty.symm, ?_, Nat.zero_le _⟩
      simp only [Peer.pending, isOpen, if_true, remaining, requestsIn_unfinished whole]
      rfl

end Server

/-- Of all exchanges, those with one client. -/
def exchangesWith
    {Client : Type}
    [DecidableEq Client]
    (client : Client)
    (exchanges : List (Client × Exchange)) :
    List Exchange :=
  exchanges.filterMap fun (owner, exchange) =>
    if owner = client then some exchange else none

namespace Traffic

variable {Client : Type} [DecidableEq Client]

/-- The exchanges of all threads are what one server answers, one request after the other. -/
theorem run_answerAll
    (traffic : Traffic Client)
    (schedule : List Client) :
    traffic.server.answerAll ((traffic.run schedule).2.map (·.2.request)) =
      .ok ((traffic.run schedule).1.server, (traffic.run schedule).2.map (·.2.response)) := by
  induction schedule generalizing traffic with
  | nil =>
      rfl
  | cons client rest inductionHypothesis =>
      have now :
          traffic.server.answerAll ((traffic.turn client).2.map Exchange.request) =
            .ok ((traffic.turn client).1.server, (traffic.turn client).2.map Exchange.response) :=
        (traffic.server.attends_attend (traffic.peer client)).answerAll
      have later := inductionHypothesis (traffic.turn client).1
      simp only [run, List.map_append, List.map_map, Function.comp_def, Server.answerAll_append,
        now, later, Except.bind, Except.map]

theorem exchangesWith_append
    (client : Client)
    (first second : List (Client × Exchange)) :
    exchangesWith client (first ++ second) =
      exchangesWith client first ++ exchangesWith client second :=
  List.filterMap_append

/-- What one thread exchanges is exchanged with its own client and with no other. -/
theorem exchangesWith_map
    (client owner : Client)
    (exchanges : List Exchange) :
    exchangesWith client (exchanges.map (owner, ·)) = if owner = client then exchanges else [] := by
  simp only [exchangesWith, List.filterMap_map, Function.comp_def]
  split
  · exact List.filterMap_some
  · exact List.filterMap_none _

/-- A turn is progress for its own client, and changes nothing for the others. -/
theorem turn_progress
    (traffic : Traffic Client)
    (owner client : Client) :
    (traffic.peer client).Progress (if owner = client then 1 else 0)
      (exchangesWith client ((traffic.turn owner).2.map (owner, ·)))
      ((traffic.turn owner).1.peer client) := by
  rw [exchangesWith_map]
  by_cases own : owner = client
  · subst own
    have updated :
        (traffic.turn owner).1.peer owner =
          (traffic.server.attend (traffic.peer owner)).2.1 :=
      Function.update_self _ _ _
    rw [if_pos rfl, if_pos rfl, updated]
    exact (traffic.server.attends_attend (traffic.peer owner)).progress
  · have unchanged : (traffic.turn owner).1.peer client = traffic.peer client :=
      Function.update_of_ne (Ne.symm own) _ _
    rw [if_neg own, if_neg own, unchanged]
    exact .none _

/-- Every connection makes progress with the turns of its own thread, whatever the others do. -/
theorem run_progress
    (traffic : Traffic Client)
    (schedule : List Client)
    (client : Client) :
    (traffic.peer client).Progress (schedule.count client)
      (exchangesWith client (traffic.run schedule).2)
      ((traffic.run schedule).1.peer client) := by
  induction schedule generalizing traffic with
  | nil =>
      exact .none _
  | cons owner rest inductionHypothesis =>
      have now := traffic.turn_progress owner client
      have later := inductionHypothesis (traffic.turn owner).1
      have turns :
          (owner :: rest).count client = (if owner = client then 1 else 0) + rest.count client := by
        rw [List.count_cons, Nat.add_comm]
        simp only [beq_iff_eq]
      simp only [run, exchangesWith_append]
      rw [turns]
      exact now.trans later

/-- Only clients that have turns exchange anything. -/
theorem mem_schedule_of_mem_run
    {traffic : Traffic Client}
    {schedule : List Client}
    {entry : Client × Exchange}
    (among : entry ∈ (traffic.run schedule).2) :
    entry.1 ∈ schedule := by
  induction schedule generalizing traffic with
  | nil =>
      cases among
  | cons owner rest inductionHypothesis =>
      rcases List.mem_append.mp among with now | later
      · obtain ⟨exchange, _, rfl⟩ := List.mem_map.mp now
        exact List.mem_cons_self
      · exact List.mem_cons_of_mem _ (inductionHypothesis later)

/-- Where only one client has turns, all exchanges are with it. -/
theorem exchangesWith_run_alone
    (traffic : Traffic Client)
    {schedule : List Client}
    {client : Client}
    (alone : ∀ owner ∈ schedule, owner = client) :
    exchangesWith client (traffic.run schedule).2 = (traffic.run schedule).2.map (·.2) := by
  have own : ∀ entry ∈ (traffic.run schedule).2, entry.1 = client :=
    fun entry among => alone _ (mem_schedule_of_mem_run among)
  rw [exchangesWith, ← List.filterMap_eq_map]
  refine List.filterMap_congr fun entry among => ?_
  simp [own entry among]

/-- The requests of a client that are answered: those in front of the first unanswerable one. -/
def answerable (pieces : List Piece) : List (List UInt8) :=
  (requestsIn (streamOf pieces)).takeWhile isAnswerable

/-- As many turns as serving a client can take: one a line, one a piece, and one for the end. -/
def turnsFor (pieces : List Piece) : Nat :=
  (splitLines (streamOf pieces)).1.length + pieces.length + 1

/-- A thread that had enough turns has ended and has nothing more to answer. -/
theorem ended_of_turns
    (server : Server)
    (pieces : Client → List Piece)
    {schedule : List Client}
    {client : Client}
    (enough : turnsFor (pieces client) ≤ schedule.count client) :
    let run := (start server pieces).run schedule
    (run.1.peer client).connection.isOpen = false ∧
      (exchangesWith client run.2).map Exchange.request = answerable (pieces client) := by
  intro run
  obtain ⟨-, pending, workload⟩ := (start server pieces).run_progress schedule client
  have ended : (run.1.peer client).workload = 0 := by
    have begun : ((start server pieces).peer client).workload = turnsFor (pieces client) :=
      rfl
    rw [begun, Nat.sub_eq_zero_of_le enough] at workload
    exact Nat.le_zero.mp workload
  have isClosed : (run.1.peer client).connection.isOpen = false := by
    simpa [Peer.workload] using ended
  have nothing : (run.1.peer client).pending = [] := by
    simp [Peer.pending, isClosed]
  rw [nothing, List.append_nil] at pending
  exact ⟨isClosed, pending.symm⟩

/-- A client that begins with a number of too many digits is sent nothing, whatever follows. -/
theorem sent_behind_long_number
    (server : Server)
    (pieces : Client → List Piece)
    (schedule : List Client)
    {client : Client}
    {line behind : List UInt8}
    (stream : streamOf (pieces client) = line ++ newlineByte :: behind)
    (number : IsWholeNumber line)
    (long : Number.maxIntegerDigits < line.length) :
    (((start server pieces).run schedule).1.peer client).connection.sent = "" := by
  obtain ⟨sent, pending, -⟩ := (start server pieces).run_progress schedule client
  have whole : newlineByte ∉ line := by
    intro among
    exact absurd (number.digits _ among).1 (by decide)
  have something : trimBytes line ≠ [] := by
    rw [number.trimBytes_eq]
    exact List.ne_nil_of_length_pos (Nat.zero_lt_of_lt long)
  have nothing : ((start server pieces).peer client).pending = [] := by
    change (requestsIn (streamOf (pieces client))).takeWhile isAnswerable = []
    rw [stream, requestsIn_line whole, if_neg something, number.trimBytes_eq,
      List.takeWhile_cons_of_neg (by simp [number.not_isAnswerable long])]
  have noExchange : exchangesWith client ((start server pieces).run schedule).2 = [] :=
    List.map_eq_nil_iff.mp (List.append_eq_nil_iff.mp (pending.symm.trans nothing)).1
  rw [sent, noExchange]
  rfl

/-- A client has been sent the answers to its own exchanges, and nothing else. -/
theorem sent_eq
    (server : Server)
    (pieces : Client → List Piece)
    (schedule : List Client)
    (client : Client) :
    let run := (start server pieces).run schedule
    (run.1.peer client).connection.sent =
      sentText ((exchangesWith client run.2).map Exchange.response) := by
  intro run
  rw [((start server pieces).run_progress schedule client).sent]
  exact String.empty_append

/-- A client that is served alone is sent what the server answers to its stream. -/
theorem answerAll_of_alone
    (server : Server)
    (pieces : Client → List Piece)
    {schedule : List Client}
    {client : Client}
    (enough : turnsFor (pieces client) ≤ schedule.count client)
    (alone : ∀ owner ∈ schedule, owner = client) :
    let run := (start server pieces).run schedule
    ∃ responses,
      server.answerAll (answerable (pieces client)) = .ok (run.1.server, responses) ∧
        (run.1.peer client).connection.sent = sentText responses := by
  intro run
  have answers :
      server.answerAll (run.2.map (·.2.request)) = .ok (run.1.server, run.2.map (·.2.response)) :=
    (start server pieces).run_answerAll schedule
  have own : exchangesWith client run.2 = run.2.map (·.2) :=
    exchangesWith_run_alone _ alone
  have asked : (exchangesWith client run.2).map Exchange.request = answerable (pieces client) :=
    (ended_of_turns server pieces enough).2
  refine ⟨_, ?_, sent_eq server pieces schedule client⟩
  change _ = Except.ok (_, (exchangesWith client run.2).map Exchange.response)
  rw [← asked, own, List.map_map, List.map_map]
  exact answers

/-- Turns of one thread alone serve its client as if it was served in one go. -/
theorem serveClient_of_alone
    (server : Server)
    (pieces : Client → List Piece)
    {schedule : List Client}
    {client : Client}
    (enough : turnsFor (pieces client) ≤ schedule.count client)
    (alone : ∀ owner ∈ schedule, owner = client)
    {after : Server}
    {served : Connection}
    (serves : server.serveClient ((pieces client).map Piece.bytes) = .ok (after, served)) :
    let run := (start server pieces).run schedule
    run.1.server = after ∧ (run.1.peer client).connection.sent = served.sent := by
  intro run
  obtain ⟨responses, answers, sent⟩ := answerAll_of_alone server pieces enough alone
  rw [server.serveClient_eq] at serves
  cases answered : server.answerAll (requestsIn (streamOf (pieces client))) with
  | error unanswerable =>
      rw [answered] at serves
      cases serves
  | ok whole =>
      have all : answerable (pieces client) = requestsIn (streamOf (pieces client)) :=
        List.takeWhile_eq_self_iff.mpr (Server.isAnswerable_of_answerAll answered)
      rw [all, answered] at answers
      rw [answered] at serves
      cases answers
      cases serves
      exact ⟨rfl, sent⟩

/--
However the streams of clients come in pieces, and in whatever order their threads take turns: the
requests of all clients are answered as by one server that answers one after the other; each client
is sent the answers to its own requests, in order and as single lines; and once its thread had its
turns, these are the answers to all complete lines that are not blank, up to the first that the
reader gives up on.  A client that is served alone is sent the same, and leaves the same session,
however its stream is cut, whether its thread takes turns or it is served in one go.
-/
theorem complete_lines_are_answered
    (server : Server)
    (pieces : Client → List Piece)
    (schedule : List Client) :
    let run := (start server pieces).run schedule
    server.answerAll (run.2.map (·.2.request)) =
        .ok (run.1.server, run.2.map (·.2.response)) ∧
      (∀ client,
        let exchanges := exchangesWith client run.2
        let connection := (run.1.peer client).connection
        connection.sent = sentText (exchanges.map Exchange.response) ∧
          exchanges.map Exchange.request <+: answerable (pieces client) ∧
          (turnsFor (pieces client) ≤ schedule.count client →
            connection.isOpen = false ∧
              exchanges.map Exchange.request = answerable (pieces client) ∧
              ((∀ owner ∈ schedule, owner = client) →
                (∃ responses,
                  server.answerAll (answerable (pieces client)) = .ok (run.1.server, responses) ∧
                    connection.sent = sentText responses) ∧
                  ∀ after served,
                    server.serveClient ((pieces client).map Piece.bytes) = .ok (after, served) →
                      run.1.server = after ∧ connection.sent = served.sent))) ∧
      (∀ response : Response,
        response.line = response.toJson.render ++ "\n" ∧
          Text.arePlain response.toJson.render.toList) ∧
      ∀ client,
        server.serveClient ((pieces client).map Piece.bytes) =
          (server.answerAll (requestsIn (streamOf (pieces client)))).map fun (after, responses) =>
            (after,
              { unfinished := (splitLines (streamOf (pieces client))).2
                sent := sentText responses
                isOpen := false }) := by
  intro run
  refine ⟨(start server pieces).run_answerAll schedule, ?_, ?_, fun _ => server.serveClient_eq _⟩
  · intro client exchanges connection
    have progress := (start server pieces).run_progress schedule client
    refine ⟨sent_eq server pieces schedule client, ⟨_, progress.pending.symm⟩, fun enough => ?_⟩
    obtain ⟨isClosed, requests⟩ := ended_of_turns server pieces enough
    refine ⟨isClosed, requests, fun alone => ⟨answerAll_of_alone server pieces enough alone, ?_⟩⟩
    exact fun _ _ serves => serveClient_of_alone server pieces enough alone serves
  · exact fun response => ⟨rfl, response.toJson.arePlain_render⟩

/-- Two clients: one asks for the operands, cut inside its line; the other pushes a number. -/
def samplePieces : Bool → List Piece
  | true =>
      [⟨Text.utf8Bytes "\x7b\"cmd\": \"ev", by decide +kernel⟩,
        ⟨Text.utf8Bytes "al\"\x7d\n \n\x7b\"cmd\"", by decide +kernel⟩]
  | false =>
      [⟨Text.utf8Bytes "\x7b\"cmd\": \"eval\", \"code\": \"7\"\x7d\n", by decide +kernel⟩]

/-- An order in which the second client has its turns between those of the first. -/
def sampleSchedule : List Bool :=
  [true, false, false, false, true, true, true, true]

/-- The first client is sent the number of the second, and nothing for its other lines. -/
theorem complete_lines_are_answered_sample :
    let run := (start Server.sample samplePieces).run sampleSchedule
    (run.1.peer true).connection.isOpen = false ∧
      (exchangesWith true run.2).map Exchange.request =
        [Text.utf8Bytes "\x7b\"cmd\": \"eval\"\x7d"] ∧
      (run.1.peer true).connection.sent =
        "\x7b\"ok\": true, \"stack\": [\"7\"], \"output\": \"\"\x7d\n" := by
  intro run
  obtain ⟨-, clients, -, -⟩ :=
    complete_lines_are_answered Server.sample samplePieces sampleSchedule
  obtain ⟨-, -, ended⟩ := clients true
  obtain ⟨isClosed, requests, -⟩ := ended (by decide +kernel)
  refine ⟨isClosed, ?_, by decide +kernel⟩
  rw [requests]
  decide +kernel

end Traffic

end StackScript
