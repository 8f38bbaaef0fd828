import Mathlib.Data.List.TakeWhile
import StackScript.Proofs.Requests
import StackScript.Server.Traffic

namespace StackScript

/-!
# Requests out of bytes

A connection delivers bytes in pieces that have nothing to do with its lines.  A line is complete
when a newline follows it, wherever the pieces are cut, so the complete lines of two pieces are
those of the first and those of its unfinished line with the second.  Serving one client is
therefore the same as answering the requests of its whole stream, whatever the pieces are.

Not every request is answered: the reader of JSON gives up on whole numbers with too many digits.
-/

/-- A line is split off in front of its newline. -/
theorem splitLines_line
    {line : List UInt8}
    (whole : newlineByte ∉ line)
    (behind : List UInt8) :
    splitLines (line ++ newlineByte :: behind) =
      (line :: (splitLines behind).1, (splitLines behind).2) := by
  induction line with
  | nil =>
      simp [splitLines]
  | cons byte rest inductionHypothesis =>
      obtain ⟨other, restWhole⟩ := not_or.mp (List.mem_cons.not.mp whole)
      simp [splitLines, Ne.symm other, inductionHypothesis restWhole]

/-- Bytes without a newline are an unfinished line. -/
theorem splitLines_unfinished
    {bytes : List UInt8}
    (whole : newlineByte ∉ bytes) :
    splitLines bytes = ([], bytes) := by
  induction bytes with
  | nil =>
      rfl
  | cons byte rest inductionHypothesis =>
      obtain ⟨other, restWhole⟩ := not_or.mp (List.mem_cons.not.mp whole)
      simp [splitLines, Ne.symm other, inductionHypothesis restWhole]

/-- What splitting establishes: every newline ends a line, and no byte is lost. -/
structure SplitInto
    (bytes : List UInt8)
    (lines : List (List UInt8))
    (unfinished : List UInt8) : Prop where
  joined :
    bytes = lines.flatMap (· ++ [newlineByte]) ++ unfinished
  wholeLines :
    ∀ line ∈ lines, newlineByte ∉ line
  wholeRest :
    newlineByte ∉ unfinished

/-- Bytes are split into lines in only one way. -/
theorem SplitInto.splitLines_eq
    {bytes unfinished : List UInt8}
    {lines : List (List UInt8)}
    (split : SplitInto bytes lines unfinished) :
    splitLines bytes = (lines, unfinished) := by
  obtain ⟨rfl, wholeLines, wholeRest⟩ := split
  induction lines with
  | nil =>
      exact splitLines_unfinished wholeRest
  | cons line rest inductionHypothesis =>
      obtain ⟨wholeLine, wholeOthers⟩ := List.forall_mem_cons.mp wholeLines
      rw [List.flatMap_cons, List.append_assoc, List.append_assoc, List.singleton_append,
        splitLines_line wholeLine, inductionHypothesis wholeOthers]

/-- Splitting finds the lines that the newlines end. -/
theorem splitInto_splitLines
    (bytes : List UInt8) :
    SplitInto bytes (splitLines bytes).1 (splitLines bytes).2 := by
  induction bytes with
  | nil =>
      exact ⟨rfl, List.forall_mem_nil _, List.not_mem_nil⟩
  | cons byte rest inductionHypothesis =>
      cases found : splitLines rest with
      | mk lines unfinished =>
          rw [found] at inductionHypothesis
          obtain ⟨joined, wholeLines, wholeRest⟩ := inductionHypothesis
          by_cases ends : byte = newlineByte
          · have split : splitLines (byte :: rest) = ([] :: lines, unfinished) := by
              simp [splitLines, found, ends]
            rw [split]
            refine ⟨by simp [ends, joined], ?_, wholeRest⟩
            exact List.forall_mem_cons.mpr ⟨List.not_mem_nil, wholeLines⟩
          · have kept {line : List UInt8} (whole : newlineByte ∉ line) :
                newlineByte ∉ byte :: line := by
              simp [whole, Ne.symm ends]
            cases lines with
            | nil =>
                have split : splitLines (byte :: rest) = ([], byte :: unfinished) := by
                  simp [splitLines, found, ends]
                rw [split]
                exact ⟨by simp [joined], List.forall_mem_nil _, kept wholeRest⟩
            | cons line others =>
                have split :
                    splitLines (byte :: rest) = ((byte :: line) :: others, unfinished) := by
                  simp [splitLines, found, ends]
                obtain ⟨wholeLine, wholeOthers⟩ := List.forall_mem_cons.mp wholeLines
                rw [split]
                refine ⟨by simp [joined], ?_, wholeRest⟩
                exact List.forall_mem_cons.mpr ⟨kept wholeLine, wholeOthers⟩

/-- The lines of two pieces are those of the first, then those of its unfinished line completed. -/
theorem splitLines_append
    (first second : List UInt8) :
    splitLines (first ++ second) =
      ((splitLines first).1 ++ (splitLines ((splitLines first).2 ++ second)).1,
        (splitLines ((splitLines first).2 ++ second)).2) := by
  have before := splitInto_splitLines first
  have after := splitInto_splitLines ((splitLines first).2 ++ second)
  apply SplitInto.splitLines_eq
  refine ⟨?_, List.forall_mem_append.mpr ⟨before.wholeLines, after.wholeLines⟩, after.wholeRest⟩
  calc first ++ second
      = (splitLines first).1.flatMap (· ++ [newlineByte]) ++ ((splitLines first).2 ++ second) := by
        rw [← List.append_assoc, ← before.joined]
    _ = _ := by
        conv_lhs => rw [after.joined]
        rw [List.flatMap_append, List.append_assoc]

/-- Complete lines as requests: without the blanks around them, and only where something is left. -/
def requestsOf (lines : List (List UInt8)) : List (List UInt8) :=
  (lines.map trimBytes).filter (!·.isEmpty)

/-- The requests in a stream of bytes. -/
def requestsIn (stream : List UInt8) : List (List UInt8) :=
  requestsOf (splitLines stream).1

theorem requestsOf_append
    (first second : List (List UInt8)) :
    requestsOf (first ++ second) = requestsOf first ++ requestsOf second := by
  simp only [requestsOf, List.map_append, List.filter_append]

/-- The first line of a stream is its first request, unless it is blank. -/
theorem requestsIn_line
    {line : List UInt8}
    (whole : newlineByte ∉ line)
    (behind : List UInt8) :
    requestsIn (line ++ newlineByte :: behind) =
      if trimBytes line = [] then
        requestsIn behind
      else
        trimBytes line :: requestsIn behind := by
  simp only [requestsIn, requestsOf, splitLines_line whole, List.map_cons, List.filter_cons]
  split <;> simp_all

/-- A stream without newlines holds no request. -/
theorem requestsIn_unfinished
    {stream : List UInt8}
    (whole : newlineByte ∉ stream) :
    requestsIn stream = [] := by
  simp only [requestsIn, splitLines_unfinished whole]
  rfl

/-- Whether a request gets an answer, which does not depend on the server. -/
def isAnswerable (request : List UInt8) : Bool :=
  (demandOfLine request).isOk

/-- The stream that comes in pieces. -/
def streamOf (pieces : List Piece) : List UInt8 :=
  pieces.flatMap Piece.bytes

/-- The text that answers are sent as. -/
def sentText (responses : List Response) : String :=
  String.join (responses.map Response.line)

theorem sentText_cons
    (response : Response)
    (rest : List Response) :
    sentText (response :: rest) = response.line ++ sentText rest := by
  simp only [sentText, List.map_cons, String.join_cons]

theorem sentText_append
    (first second : List Response) :
    sentText (first ++ second) = sentText first ++ sentText second := by
  simp only [sentText, List.map_append, String.join_append]

namespace Server

/-- A request is answered just when it is answerable. -/
theorem isOk_handleLine
    (server : Server)
    (request : List UInt8) :
    (server.handleLine request).isOk = isAnswerable request := by
  rw [handleLine_eq_meet, isAnswerable]
  cases demandOfLine request <;> rfl

/-- Answer requests in order, up to one that is unanswerable. -/
def answerAll
    (server : Server) :
    List (List UInt8) → Except Unanswerable (Server × List Response)
  | [] =>
      .ok (server, [])
  | request :: rest =>
      match server.handleLine request with
      | .error unanswerable =>
          .error unanswerable
      | .ok (after, response) =>
          (after.answerAll rest).map fun (final, responses) =>
            (final, response :: responses)

/-- Requests that are all answered are answerable. -/
theorem isAnswerable_of_answerAll
    {server : Server}
    {requests : List (List UInt8)}
    {answers : Server × List Response}
    (answered : server.answerAll requests = .ok answers) :
    ∀ request ∈ requests, isAnswerable request := by
  induction requests generalizing server answers with
  | nil =>
      exact List.forall_mem_nil _
  | cons request rest inductionHypothesis =>
      have first := server.isOk_handleLine request
      simp only [answerAll] at answered
      cases answer : server.handleLine request with
      | error unanswerable =>
          rw [answer] at answered
          cases answered
      | ok reached =>
          rw [answer] at answered first
          simp only at answered
          cases later : reached.1.answerAll rest with
          | error unanswerable =>
              rw [later] at answered
              cases answered
          | ok final =>
              exact List.forall_mem_cons.mpr ⟨first.symm, inductionHypothesis later⟩

/-- Answering more requests goes on where the first ones ended. -/
theorem answerAll_append
    (server : Server)
    (first second : List (List UInt8)) :
    server.answerAll (first ++ second) =
      (server.answerAll first).bind fun (reached, early) =>
        (reached.answerAll second).map fun (final, late) =>
          (final, early ++ late) := by
  induction first generalizing server with
  | nil =>
      simp only [List.nil_append, answerAll, Except.bind]
      cases server.answerAll second <;> rfl
  | cons request rest inductionHypothesis =>
      simp only [List.cons_append, answerAll]
      cases server.handleLine request with
      | error unanswerable =>
          rfl
      | ok answered =>
          simp only [inductionHypothesis]
          cases answered.1.answerAll rest with
          | error unanswerable =>
              rfl
          | ok reached =>
              simp only [Except.bind, Except.map]
              cases reached.1.answerAll second <;> rfl

/-- Complete lines are answered as the requests among them, and the answers are sent in order. -/
theorem answerLines_eq
    (server : Server)
    (connection : Connection)
    (lines : List (List UInt8)) :
    server.answerLines connection lines =
      (server.answerAll (requestsOf lines)).map fun (after, responses) =>
        (after, { connection with sent := connection.sent ++ sentText responses }) := by
  induction lines generalizing server connection with
  | nil =>
      simp [answerLines, requestsOf, answerAll, Except.map, sentText]
  | cons line rest inductionHypothesis =>
      simp only [answerLines]
      by_cases blank : (trimBytes line).isEmpty
      · have skipped : requestsOf (line :: rest) = requestsOf rest := by
          simp [requestsOf, blank]
        rw [if_pos blank, inductionHypothesis, skipped]
      · have taken : requestsOf (line :: rest) = trimBytes line :: requestsOf rest := by
          simp [requestsOf, blank]
        rw [if_neg blank, taken, answerAll]
        cases server.handleLine (trimBytes line) with
        | error unanswerable =>
            rfl
        | ok answered =>
            simp only [inductionHypothesis]
            cases answered.1.answerAll (requestsOf rest) with
            | error unanswerable =>
                rfl
            | ok final =>
                simp only [Except.map, sentText_cons, String.append_assoc]

/--
Receiving all pieces of a stream behind an unfinished line, and then its end, is answering the
requests of the whole.
-/
theorem receiveAll_eq
    (server : Server)
    (connection : Connection)
    (isOpen : connection.isOpen)
    (unfinished : newlineByte ∉ connection.unfinished)
    (pieces : List Piece) :
    server.receiveAll connection (pieces.map Piece.bytes ++ [[]]) =
      (server.answerAll (requestsIn (connection.unfinished ++ streamOf pieces))).map
        fun (after, responses) =>
          (after,
            { unfinished := (splitLines (connection.unfinished ++ streamOf pieces)).2
              sent := connection.sent ++ sentText responses
              isOpen := false }) := by
  induction pieces generalizing server connection with
  | nil =>
      have noLine : splitLines connection.unfinished = ([], connection.unfinished) :=
        splitLines_unfinished unfinished
      simp [receiveAll, receive, isOpen, streamOf, requestsIn, requestsOf, noLine, answerAll,
        Except.map, sentText]
  | cons piece rest inductionHypothesis =>
      have split := splitLines_append (connection.unfinished ++ piece.bytes) (streamOf rest)
      have wholeRest := (splitInto_splitLines (connection.unfinished ++ piece.bytes)).wholeRest
      have stream : streamOf (piece :: rest) = piece.bytes ++ streamOf rest :=
        List.flatMap_cons
      simp only [List.map_cons, List.cons_append, receiveAll, receive, isOpen, List.isEmpty_iff,
        piece.nonempty, if_true, if_false, answerLines_eq, stream, ← List.append_assoc, requestsIn,
        split, requestsOf_append, answerAll_append]
      cases server.answerAll (requestsOf (splitLines (connection.unfinished ++ piece.bytes)).1) with
      | error unanswerable =>
          rfl
      | ok reached =>
          have continued :=
            inductionHypothesis reached.1
              { unfinished := (splitLines (connection.unfinished ++ piece.bytes)).2
                sent := connection.sent ++ sentText reached.2 }
              rfl wholeRest
          simp only [Except.map, Except.bind, continued, requestsIn]
          generalize reached.1.answerAll _ = answered
          cases answered with
          | error unanswerable =>
              rfl
          | ok final =>
              simp only [sentText_append, String.append_assoc]

/-- Serving one client is answering the requests in its stream, however that comes in pieces. -/
theorem serveClient_eq
    (server : Server)
    (pieces : List Piece) :
    server.serveClient (pieces.map Piece.bytes) =
      (server.answerAll (requestsIn (streamOf pieces))).map fun (after, responses) =>
        (after,
          { unfinished := (splitLines (streamOf pieces)).2
            sent := sentText responses
            isOpen := false }) := by
  rw [serveClient, server.receiveAll_eq {} rfl List.not_mem_nil pieces]
  simp only [List.nil_append, String.empty_append]

end Server

namespace Text

/-- ASCII bytes are read as the characters that they number. -/
theorem decodeUtf8_ascii
    {bytes : List UInt8}
    (ascii : ∀ byte ∈ bytes, byte ≤ 0x7F) :
    decodeUtf8 bytes = .ok (String.ofList (bytes.map fun byte => Char.ofNat byte.toNat)) := by
  have decoded (position : Nat) :
      decodeFrom 0 position bytes = .ok (bytes.map fun byte => Char.ofNat byte.toNat) := by
    induction bytes generalizing position with
    | nil =>
        rfl
    | cons first rest inductionHypothesis =>
        obtain ⟨plain, plainRest⟩ := List.forall_mem_cons.mp ascii
        simp only [decodeFrom, continuations?, plain, if_true, continued, List.take_zero,
          inductionHypothesis plainRest, Except.map, assembled, List.foldl_nil, List.length_nil,
          leadBits, List.map_cons]
  simp only [decodeUtf8, decoded, Except.map]

end Text

namespace Json

/-- A whole number of too many digits, wherever it stands. -/
theorem numberAt_tooManyDigits
    (offset : Nat)
    {first : Char}
    {rest : List Char}
    (areDigits : ∀ c ∈ first :: rest, c.isDigit)
    (nonzero : first ≠ '0')
    (long : Number.maxIntegerDigits < (first :: rest).length) :
    numberAt ⟨offset, first :: rest⟩ = .error (.tooManyDigits (first :: rest).length) := by
  have unsigned : ((first :: rest).take 1).filter (· == '-') = [] := by
    have other : first ≠ '-' := by
      rintro rfl
      exact absurd (areDigits '-' List.mem_cons_self) (by decide)
    simp [other]
  have whole : wholeDigits (first :: rest) = first :: rest := by
    unfold wholeDigits
    split
    · simp_all
    · exact List.takeWhile_eq_self_iff.mpr areDigits
  simp only [numberAt, unsigned, List.length_nil, List.drop_zero, whole, List.isEmpty_cons,
    List.drop_length, fractionChars, Nat.add_zero, exponentChars, List.isEmpty_nil, Bool.and_self,
    long, if_true]
  rfl

/-- The reader gives up on a whole number that has too many digits. -/
theorem parse_tooManyDigits
    {first : Char}
    {rest : List Char}
    (areDigits : ∀ c ∈ first :: rest, c.isDigit)
    (nonzero : first ≠ '0')
    (long : Number.maxIntegerDigits < (first :: rest).length) :
    parse (String.ofList (first :: rest)) = .error (.tooManyDigits (first :: rest).length) := by
  have digit : first.isDigit :=
    areDigits first List.mem_cons_self
  have other {c : Char} (noDigit : c.isDigit = false) : first ≠ c := by
    rintro rfl
    exact absurd digit (by simp [noDigit])
  have skipped : Cursor.skipSpace ⟨0, first :: rest⟩ = ⟨0, first :: rest⟩ := by
    have noSpace : Cursor.isSpace first = false := by
      simp [Cursor.isSpace, other]
    simp [Cursor.skipSpace, noSpace, Cursor.skip]
  have unnamed : (named.find? fun entry => entry.1.isPrefixOf (first :: rest)) = none := by
    simp [named, (other _).symm]
  simp [parse, String.toList_ofList, skipped, valueAt, other, scalarAt, unnamed,
    numberAt_tooManyDigits 0 areDigits nonzero long]

end Json

/-- A line of digits, as a request: a whole number without a leading zero. -/
structure IsWholeNumber (line : List UInt8) : Prop where
  digits :
    ∀ byte ∈ line, 0x30 ≤ byte.toNat ∧ byte.toNat ≤ 0x39
  nonzero :
    line.head? ≠ some 0x30

/-- A whole number is no blank line, and there is nothing around it. -/
theorem IsWholeNumber.trimBytes_eq
    {line : List UInt8}
    (number : IsWholeNumber line) :
    trimBytes line = line := by
  have kept (bytes : List UInt8) (among : ∀ byte ∈ bytes, byte ∈ line) :
      bytes.dropWhile isBlankByte = bytes := by
    cases bytes with
    | nil =>
        rfl
    | cons first rest =>
        have digit := number.digits first (among first List.mem_cons_self)
        have noBlank : isBlankByte first = false := by
          simp only [isBlankByte, Bool.or_eq_false_iff, Bool.and_eq_false_iff,
            decide_eq_false_iff_not, beq_eq_false_iff_ne, UInt8.le_iff_toNat_le, ne_eq,
            ← UInt8.toNat_inj, UInt8.reduceToNat]
          omega
        rw [List.dropWhile_cons, noBlank]
        rfl
  rw [trimBytes, kept line fun _ => id, kept line.reverse fun _ => List.mem_reverse.mp,
    List.reverse_reverse]

/-- A whole number with too many digits is not answered. -/
theorem IsWholeNumber.not_isAnswerable
    {line : List UInt8}
    (number : IsWholeNumber line)
    (long : Number.maxIntegerDigits < line.length) :
    isAnswerable line = false := by
  have ascii : ∀ byte ∈ line, byte ≤ 0x7F :=
    fun byte among => UInt8.le_iff_toNat_le.mpr ((number.digits byte among).2.trans (by decide))
  have digit :
      ∀ value < 0x3A, 0x30 ≤ value →
        (Char.ofNat value).isDigit ∧ (Char.ofNat value = '0' → value = 0x30) := by
    decide
  have areDigits : ∀ c ∈ line.map fun byte => Char.ofNat byte.toNat, c.isDigit := by
    intro c among
    obtain ⟨byte, member, rfl⟩ := List.mem_map.mp among
    obtain ⟨least, most⟩ := number.digits byte member
    exact (digit _ (Nat.lt_succ_of_le most) least).1
  rw [isAnswerable, demandOfLine, Text.decodeUtf8_ascii ascii]
  cases line with
  | nil =>
      cases long
  | cons first rest =>
      have nonzero : Char.ofNat first.toNat ≠ '0' := by
        intro zero
        obtain ⟨least, most⟩ := number.digits first List.mem_cons_self
        have code := (digit _ (Nat.lt_succ_of_le most) least).2 zero
        exact number.nonzero (congrArg some (UInt8.toNat_inj.mp code))
      rw [List.map_cons] at areDigits ⊢
      simp only [Json.parse_tooManyDigits areDigits nonzero (by simpa using long)]
      rfl

end StackScript
