import StackScript.Proofs.Framing

namespace StackScript

/-!
# Lines that are answered

A server answers every line of bytes, be it a request or not, unless the reader of JSON gives up on
it.  The reader gives up for two reasons only, and both can be seen in the text: a whole number with
too many digits, or too many brackets and braces that open arrays and objects inside of each other.
A line that is answered takes effect if it resets the server or evaluates a source text; any other
one is refused, and nothing changes.
-/

namespace Json

/-- Whether a character opens an array or an object. -/
def isOpening (c : Char) : Bool :=
  c == '[' || c == '\x7b'

/--
What there is in the characters when the reader fails on them with a fault, inside of `nesting` open
arrays and objects.
-/
inductive Shows (nesting : Nat) (chars : List Char) : Fault → Prop where
  | malformed
      (problem : Problem)
      (offset : Nat) :
      Shows nesting chars (.malformed problem offset)
  | tooManyDigits
      {digits : List Char}
      (within : digits <:+: chars)
      (areDigits : ∀ c ∈ digits, c.isDigit = true)
      (long : Number.maxIntegerDigits < digits.length) :
      Shows nesting chars (.tooManyDigits digits.length)
  | tooNested
      (container : Container)
      (deep : maxNesting < nesting + chars.countP isOpening) :
      Shows nesting chars (.tooNested container)

/-- A reading goes on behind some of the characters, or they show why it fails. -/
def Accounted {α : Type} (nesting : Nat) (chars : List Char) : Except Fault (α × Cursor) → Prop
  | .ok (_, behind) =>
      behind.rest <:+ chars
  | .error fault =>
      Shows nesting chars fault

section Accounts

variable {α β : Type} {nesting : Nat} {chars : List Char} {fault : Fault}
  {reading : Except Fault (α × Cursor)}

theorem Shows.of_suffix
    {tail : List Char}
    (shows : Shows nesting tail fault)
    (suffix : tail <:+ chars) :
    Shows nesting chars fault := by
  cases shows with
  | malformed problem offset =>
      exact .malformed problem offset
  | tooManyDigits within areDigits long =>
      exact .tooManyDigits (within.trans suffix.isInfix) areDigits long
  | tooNested container deep =>
      have fewer : tail.countP isOpening ≤ chars.countP isOpening :=
        suffix.sublist.countP_le
      exact .tooNested container (by omega)

/-- What opens in front of the characters counts as one of the openings. -/
theorem Shows.inside
    {c : Char}
    (shows : Shows (nesting + 1) chars fault)
    (opening : isOpening c = true) :
    Shows nesting (c :: chars) fault := by
  cases shows with
  | malformed problem offset =>
      exact .malformed problem offset
  | tooManyDigits within areDigits long =>
      exact .tooManyDigits (within.trans (List.suffix_cons c chars).isInfix) areDigits long
  | tooNested container deep =>
      refine .tooNested container ?_
      rw [List.countP_cons_of_pos opening]
      omega

theorem Accounted.of_suffix
    {tail : List Char}
    (accounted : Accounted nesting tail reading)
    (suffix : tail <:+ chars) :
    Accounted nesting chars reading := by
  cases reading with
  | ok reached =>
      exact List.IsSuffix.trans accounted suffix
  | error fault =>
      exact Shows.of_suffix accounted suffix

theorem Accounted.inside
    {c : Char}
    (accounted : Accounted (nesting + 1) chars reading)
    (opening : isOpening c = true) :
    Accounted nesting (c :: chars) reading := by
  cases reading with
  | ok reached =>
      exact List.IsSuffix.trans accounted (List.suffix_cons c chars)
  | error fault =>
      exact Shows.inside accounted opening

/-- What is made of the value does not matter. -/
theorem Accounted.map
    (accounted : Accounted nesting chars reading)
    (make : α → β) :
    Accounted nesting chars (reading.map fun (value, behind) => (make value, behind)) := by
  cases reading <;> exact accounted

theorem Accounted.fail
    (cursor : Cursor)
    (problem : Problem) :
    Accounted nesting chars (cursor.fail problem : Except Fault (α × Cursor)) :=
  .malformed problem cursor.offset

end Accounts

namespace Cursor

theorem skip_suffix
    (cursor : Cursor)
    (count : Nat) :
    (cursor.skip count).rest <:+ cursor.rest :=
  List.drop_suffix count cursor.rest

theorem skipSpace_suffix
    (cursor : Cursor) :
    cursor.skipSpace.rest <:+ cursor.rest :=
  cursor.skip_suffix _

theorem skip_skipSpace_suffix
    (cursor : Cursor)
    (count : Nat) :
    (cursor.skip count).skipSpace.rest <:+ cursor.rest :=
  (cursor.skip count).skipSpace_suffix.trans (cursor.skip_suffix count)

end Cursor

section Scalars

variable (nesting : Nat)

/-- An escape fails only where the text is no JSON. -/
theorem escape_malformed
    {opening offset : Nat}
    {chars : List Char}
    {fault : Fault}
    (failed : escape opening offset chars = .error fault) :
    ∃ problem place, fault = .malformed problem place := by
  unfold escape at failed
  split at failed
  · cases failed
    exact ⟨_, _, rfl⟩
  · unfold unicodeEscape at failed
    repeat' split at failed
    all_goals cases failed
    all_goals exact ⟨_, _, rfl⟩
  · split at failed
    · cases failed
    · cases failed
      exact ⟨_, _, rfl⟩

theorem stringFrom_accounted
    (opening skip offset : Nat)
    (chars : List Char) :
    Accounted nesting chars (stringFrom opening skip offset chars) := by
  induction chars generalizing skip offset with
  | nil =>
      exact .malformed _ _
  | cons c rest inductionHypothesis =>
      have further (skip offset : Nat) :
          Accounted nesting (c :: rest) (stringFrom opening skip offset rest) :=
        (inductionHypothesis skip offset).of_suffix (List.suffix_cons c rest)
      cases skip with
      | succ remaining =>
          exact further remaining _
      | zero =>
          simp only [stringFrom]
          split
          · exact List.suffix_cons c rest
          · split
            · split
              · next failed =>
                obtain ⟨problem, place, rfl⟩ := escape_malformed failed
                exact Shows.malformed problem place
              · exact (further _ _).map _
            · split
              · exact Shows.malformed _ _
              · exact (further _ _).map _

theorem stringAt_accounted
    (cursor : Cursor) :
    Accounted nesting cursor.rest (stringAt cursor) :=
  (stringFrom_accounted nesting _ _ _ _).of_suffix (List.drop_suffix 1 cursor.rest)

/-- The digits of the whole part of a number are digits that stand in the text. -/
theorem wholeDigits_spec
    (chars : List Char) :
    wholeDigits chars <+: chars ∧ ∀ c ∈ wholeDigits chars, c.isDigit = true := by
  unfold wholeDigits
  split
  · exact ⟨List.prefix_append ['0'] _, by simp⟩
  · exact ⟨List.takeWhile_prefix _, fun c member => List.mem_takeWhile_imp member⟩

theorem numberAt_accounted
    (cursor : Cursor) :
    Accounted nesting cursor.rest (numberAt cursor) := by
  unfold numberAt
  extract_lets sign body whole fraction exponent written behind magnitude
  obtain ⟨inBody, areDigits⟩ := wholeDigits_spec body
  split
  · exact .fail _ _
  · split
    · split
      · next long =>
        exact .tooManyDigits (inBody.isInfix.trans (List.drop_suffix _ _).isInfix) areDigits long
      · exact cursor.skip_suffix _
    · split
      · exact cursor.skip_suffix _
      · exact .fail _ _

theorem scalarAt_accounted
    (cursor : Cursor) :
    Accounted nesting cursor.rest (scalarAt cursor) := by
  unfold scalarAt
  split
  · exact cursor.skip_suffix _
  · exact numberAt_accounted nesting cursor

end Scalars

/-- A container is read inside of what opens it; at the deepest place it is not entered. -/
theorem container_accounted
    {α : Type}
    {nesting : Nat}
    {cursor : Cursor}
    {c : Char}
    {rest : List Char}
    (shape : cursor.rest = c :: rest)
    (opening : isOpening c = true)
    (container : Container)
    {inside : Except Fault (α × Cursor)}
    (accounted : Accounted (nesting + 1) (cursor.skip 1).skipSpace.rest inside) :
    Accounted nesting cursor.rest
      (if maxNesting ≤ nesting then .error (.tooNested container) else inside) := by
  have toInside : (cursor.skip 1).skipSpace.rest <:+ rest := by
    have behind : (cursor.skip 1).rest = rest := by
      rw [Cursor.skip, shape, List.drop_one, List.tail_cons]
    exact behind ▸ (cursor.skip 1).skipSpace_suffix
  rw [shape]
  split
  · next deep =>
    refine Shows.tooNested container ?_
    rw [List.countP_cons_of_pos opening]
    omega
  · exact (accounted.of_suffix toInside).inside opening

/-- The readers account for what they read and for what they fail on. -/
structure ReadersAccounted (fuel : Nat) : Prop where
  value :
    ∀ nesting cursor, Accounted nesting cursor.rest (valueAt fuel nesting cursor)
  elements :
    ∀ nesting cursor, Accounted nesting cursor.rest (elementsAt fuel nesting cursor)
  members :
    ∀ nesting cursor, Accounted nesting cursor.rest (membersAt fuel nesting cursor)

namespace ReadersAccounted

variable {fuel : Nat} (readers : ReadersAccounted fuel) (nesting : Nat) (cursor : Cursor)

include readers

theorem valueAt_succ :
    Accounted nesting cursor.rest (valueAt (fuel + 1) nesting cursor) := by
  rw [valueAt]
  split
  · exact (stringAt_accounted nesting cursor).map _
  · next rest shape =>
    apply container_accounted shape rfl
    extract_lets inside
    split
    · exact Cursor.skip_suffix _ _
    · exact (readers.elements _ _).map _
  · next rest shape =>
    apply container_accounted shape rfl
    extract_lets inside
    split
    · exact Cursor.skip_suffix _ _
    · exact (readers.members _ _).map _
  · exact scalarAt_accounted nesting cursor

theorem elementsAt_succ :
    Accounted nesting cursor.rest (elementsAt (fuel + 1) nesting cursor) := by
  have first := readers.value nesting cursor
  rw [elementsAt]
  split
  · next failed =>
    rw [failed] at first
    exact first
  · next value after found =>
    rw [found] at first
    have toNext : after.skipSpace.rest <:+ cursor.rest :=
      after.skipSpace_suffix.trans first
    simp only
    split
    · exact (Cursor.skip_suffix _ _).trans toNext
    · have further := readers.elements nesting (after.skipSpace.skip 1).skipSpace
      exact (further.of_suffix ((Cursor.skip_skipSpace_suffix _ 1).trans toNext)).map _
    · exact .fail _ _

theorem membersAt_succ :
    Accounted nesting cursor.rest (membersAt (fuel + 1) nesting cursor) := by
  have named := stringAt_accounted nesting cursor
  rw [membersAt]
  split
  · split
    · next failed =>
      rw [failed] at named
      exact named
    · next name afterName found =>
      rw [found] at named
      have toColon : afterName.skipSpace.rest <:+ cursor.rest :=
        afterName.skipSpace_suffix.trans named
      simp only
      split
      · have valued :=
          (readers.value nesting (afterName.skipSpace.skip 1).skipSpace).of_suffix
            ((Cursor.skip_skipSpace_suffix _ 1).trans toColon)
        split
        · next failed =>
          rw [failed] at valued
          exact valued
        · next value after found =>
          rw [found] at valued
          have toNext : after.skipSpace.rest <:+ cursor.rest :=
            after.skipSpace_suffix.trans valued
          split
          · exact (Cursor.skip_suffix _ _).trans toNext
          · have further := readers.members nesting (after.skipSpace.skip 1).skipSpace
            exact (further.of_suffix ((Cursor.skip_skipSpace_suffix _ 1).trans toNext)).map _
          · exact .fail _ _
      · exact .fail _ _
  · exact .fail _ _

end ReadersAccounted

theorem readersAccounted
    (fuel : Nat) :
    ReadersAccounted fuel := by
  induction fuel with
  | zero =>
      constructor
      · intro nesting cursor
        rw [valueAt]
        exact .fail cursor _
      · intro nesting cursor
        rw [elementsAt]
        exact .fail cursor _
      · intro nesting cursor
        rw [membersAt]
        exact .fail cursor _
  | succ fuel readers =>
      exact ⟨readers.valueAt_succ, readers.elementsAt_succ, readers.membersAt_succ⟩

/-- Where reading a text fails, the text shows why. -/
theorem shows_of_parse_error
    {text : String}
    {fault : Fault}
    (failed : parse text = .error fault) :
    Shows 0 text.toList fault := by
  unfold parse at failed
  extract_lets chars at failed
  -- Nothing is open yet where the value of the whole text begins.
  have accounted :=
    ((readersAccounted (2 * chars.length + 2)).value 0 (Cursor.skipSpace ⟨0, chars⟩)).of_suffix
      (Cursor.skipSpace_suffix ⟨0, chars⟩)
  split at failed
  · cases failed
    exact .malformed _ _
  · split at failed
    · next isFault =>
      rw [isFault] at accounted
      cases failed
      exact accounted
    · next value after found =>
      extract_lets last at failed
      split at failed
      · cases failed
      · cases failed
        exact .malformed _ _

/--
Whether a request takes effect: it is an object that commands a reset, or that commands an
evaluation and gives no code or a text as its code.
-/
inductive TakesEffect : Json → Prop where
  | reset
      {members : Members}
      (command : (object members).member? "cmd" = some (.text "reset")) :
      TakesEffect (.object members)
  | evaluation
      {members : Members}
      (command : (object members).member? "cmd" = some (.text "eval"))
      (isText : ∀ code ∈ (object members).member? "code", ∃ codes, code = .string codes) :
      TakesEffect (.object members)

theorem eq_text_of_isText
    {value : Json}
    {wanted : String}
    (isText : value.isText wanted = true) :
    value = .text wanted := by
  cases value with
  | string codes =>
      exact congrArg Json.string (beq_iff_eq.mp isText)
  | _ =>
      cases isText

/-- A command is a member that is given. -/
theorem command_eq_some
    {request : Json}
    {wanted : String}
    (isText : ((request.member? "cmd").getD .null).isText wanted = true) :
    request.member? "cmd" = some (.text wanted) := by
  cases given : request.member? "cmd" with
  | none =>
      rw [given] at isText
      cases isText
  | some command =>
      rw [given] at isText
      exact congrArg some (eq_text_of_isText isText)

/-- A request that takes no effect is refused. -/
theorem exists_refusal
    {request : Json}
    (noEffect : ¬request.TakesEffect) :
    ∃ message, request.demand = .refusal message := by
  cases request with
  | object members =>
      simp only [demand]
      split
      · next resets =>
        exact absurd (.reset (command_eq_some resets)) noEffect
      · split
        · next evaluates =>
          split
          · next code isCode =>
            refine absurd (.evaluation (command_eq_some evaluates) ?_) noEffect
            intro given isGiven
            rw [Option.mem_def.mp isGiven] at isCode
            exact ⟨code, isCode⟩
          · exact ⟨_, rfl⟩
        · exact ⟨_, rfl⟩
  | _ =>
      exact ⟨_, rfl⟩

end Json

/-- Whether a line of bytes is a request that takes effect. -/
def TakesEffect (line : List UInt8) : Prop :=
  ∃ text request,
    Text.decodeUtf8 line = .ok text ∧ Json.parse text = .ok request ∧ request.TakesEffect

/--
Whether a line of bytes is a text with more digits in a row, or with more openings of arrays and
objects, than the reader of JSON takes.
-/
def IsExcessive (line : List UInt8) : Prop :=
  ∃ text,
    Text.decodeUtf8 line = .ok text ∧
      ((∃ digits,
        digits <:+: text.toList ∧
          (∀ c ∈ digits, c.isDigit = true) ∧ Number.maxIntegerDigits < digits.length) ∨
        Json.maxNesting < text.toList.countP Json.isOpening)

/-- A line that the reader gives up on is excessive. -/
theorem isExcessive_of_unanswerable
    {line : List UInt8}
    {unanswerable : Unanswerable}
    (failed : demandOfLine line = .error unanswerable) :
    IsExcessive line := by
  unfold demandOfLine at failed
  split at failed
  · cases failed
  · next text decodes =>
    split at failed
    · cases failed
    · cases failed
    · next parses =>
      obtain _ | ⟨within, areDigits, long⟩ := Json.shows_of_parse_error parses
      exact ⟨text, decodes, .inl ⟨_, within, areDigits, long⟩⟩
    · next parses =>
      obtain _ | _ | ⟨_, deep⟩ := Json.shows_of_parse_error parses
      rw [Nat.zero_add] at deep
      exact ⟨text, decodes, .inr deep⟩

/-- A line without effect demands a refusal, unless the reader gives up on it. -/
theorem exists_refusal_of_line
    {line : List UInt8}
    {demand : Demand}
    (demands : demandOfLine line = .ok demand)
    (noEffect : ¬TakesEffect line) :
    ∃ message, demand = .refusal message := by
  unfold demandOfLine at demands
  split at demands
  · cases demands
    exact ⟨_, rfl⟩
  · next text decodes =>
    split at demands
    · next request parses =>
      cases demands
      exact Json.exists_refusal fun takes => noEffect ⟨text, request, decodes, parses, takes⟩
    · cases demands
      exact ⟨_, rfl⟩
    · cases demands
    · cases demands

namespace Server

/--
Any line of bytes is answered with a response, unless it is excessive and the reader of JSON gives
up on it.  A line that is answered without being a request that takes effect is answered with a
failure, and the server stays as it was.
-/
theorem handleLine_answers
    (server : Server)
    (line : List UInt8) :
    (∃ after response,
      server.handleLine line = .ok (after, response) ∧
        (¬TakesEffect line →
          response.toJson.member? "ok" = some (.bool false) ∧ after = server)) ∨
      (∃ unanswerable, server.handleLine line = .error unanswerable) ∧ IsExcessive line := by
  rw [handleLine_eq_meet]
  cases demands : demandOfLine line with
  | error unanswerable =>
      exact .inr ⟨⟨unanswerable, rfl⟩, isExcessive_of_unanswerable demands⟩
  | ok demand =>
      refine .inl ⟨(server.meet demand).1, (server.meet demand).2, rfl, fun noEffect => ?_⟩
      obtain ⟨message, rfl⟩ := exists_refusal_of_line demands noEffect
      exact ⟨rfl, rfl⟩

/-- A text that is no JSON: an array without its end. -/
def unfinishedArray : List UInt8 :=
  [0x5B, 0x31]

/-- An unfinished array is refused; a whole number with too many digits gets no answer at all. -/
theorem handleLine_answers_unfinished_array :
    (∃ response,
      sample.handleLine unfinishedArray = .ok (sample, response) ∧
        response.toJson.member? "ok" = some (.bool false)) ∧
      ∃ unanswerable,
        sample.handleLine (List.replicate 4301 0x31) = .error unanswerable := by
  constructor
  · have decoded {text : String} (decodes : Text.decodeUtf8 unfinishedArray = .ok text) :
        text = "[1" := by
      have isText : Text.decodeUtf8 unfinishedArray = .ok "[1" := by
        decide +kernel
      rw [isText] at decodes
      exact (Except.ok.inj decodes).symm
    have noEffect : ¬TakesEffect unfinishedArray := by
      rintro ⟨text, request, decodes, parses, _⟩
      obtain rfl := decoded decodes
      have unfinished : (Json.parse "[1").isOk = false := by
        decide +kernel
      rw [parses] at unfinished
      cases unfinished
    have small : ¬IsExcessive unfinishedArray := by
      rintro ⟨text, decodes, ⟨digits, within, _, long⟩ | deep⟩
      · obtain rfl := decoded decodes
        exact absurd long (Nat.not_lt.mpr (within.length_le.trans (by decide)))
      · obtain rfl := decoded decodes
        exact absurd deep (by decide)
    obtain ⟨after, response, answered, unchanged⟩ :=
      (handleLine_answers sample unfinishedArray).resolve_right fun given => small given.2
    obtain ⟨failed, rfl⟩ := unchanged noEffect
    exact ⟨response, answered, failed⟩
  · have number : IsWholeNumber (List.replicate 4301 0x31) := by
      constructor
      · intro byte member
        rw [List.eq_of_mem_replicate member]
        decide
      · rw [List.head?_replicate]
        decide
    have noAnswer : (sample.handleLine (List.replicate 4301 0x31)).isOk = false := by
      rw [isOk_handleLine]
      refine number.not_isAnswerable ?_
      rw [List.length_replicate]
      decide
    rcases handleLine_answers sample (List.replicate 4301 0x31) with
        ⟨after, response, answered, _⟩ | ⟨given, _⟩
    · rw [answered] at noAnswer
      cases noAnswer
    · exact given

end Server

end StackScript
