import StackScript.Json
import StackScript.Number.Decimal

namespace StackScript.Json

/-!
# Reading JSON

A text is read as one JSON value with nothing but space behind it.  The first place that does not
fit is reported by what was expected there and by its line, column and offset.  Besides the numbers
of the format, the names of the non-number and the infinities are accepted.
-/

/-- What is wrong with a text that should be JSON. -/
inductive Problem where
  | expectedValue
  | expectedName
  | expectedColon
  | expectedComma
  | extraData
  | unterminatedString
  | controlCharacter
  | invalidEscape
  | invalidUnicodeEscape
  | byteOrderMark
  deriving Repr, DecidableEq

namespace Problem

/-- The wording of a problem. -/
def message : Problem → String
  | .expectedValue =>
      "Expecting value"
  | .expectedName =>
      "Expecting property name enclosed in double quotes"
  | .expectedColon =>
      "Expecting ':' delimiter"
  | .expectedComma =>
      "Expecting ',' delimiter"
  | .extraData =>
      "Extra data"
  | .unterminatedString =>
      "Unterminated string starting at"
  | .controlCharacter =>
      "Invalid control character at"
  | .invalidEscape =>
      "Invalid \\escape"
  | .invalidUnicodeEscape =>
      "Invalid \\uXXXX escape"
  | .byteOrderMark =>
      "Unexpected UTF-8 BOM (decode using utf-8-sig)"

end Problem

/-- The values that hold others. -/
inductive Container where
  | array
  | object
  deriving Repr, DecidableEq

/-- Why a text cannot be read. -/
inductive Fault where
  /-- The text is no JSON; the offset counts characters. -/
  | malformed (problem : Problem) (offset : Nat)
  /-- An integer has more digits than the reader takes. -/
  | tooManyDigits (count : Nat)
  /-- Values are nested deeper than the reader can follow. -/
  | tooNested (container : Container)
  deriving Repr, DecidableEq

/-- An offset into a text and the characters from there on. -/
structure Cursor where
  offset : Nat
  rest : List Char

namespace Cursor

/-- The place after `count` more characters. -/
def skip (cursor : Cursor) (count : Nat) : Cursor where
  offset :=
    cursor.offset + count
  rest :=
    cursor.rest.drop count

/-- Whether a character is space between JSON tokens. -/
def isSpace (c : Char) : Bool :=
  c == ' ' || c == '\t' || c == '\n' || c == '\r'

/-- The place of the next character that is not space. -/
def skipSpace (cursor : Cursor) : Cursor :=
  cursor.skip (cursor.rest.takeWhile isSpace).length

/-- The failure to read on from a place. -/
def fail (cursor : Cursor) (problem : Problem) : Except Fault α :=
  .error (.malformed problem cursor.offset)

end Cursor

/-- The value of a hexadecimal digit. -/
def hexValue? (c : Char) : Option Nat :=
  if '0' ≤ c ∧ c ≤ '9' then
    some (c.toNat - '0'.toNat)
  else if 'a' ≤ c ∧ c ≤ 'f' then
    some (c.toNat - 'a'.toNat + 10)
  else if 'A' ≤ c ∧ c ≤ 'F' then
    some (c.toNat - 'A'.toNat + 10)
  else
    none

/-- The code unit that four hexadecimal digits at the front write. -/
def hexUnit? (chars : List Char) : Option Nat :=
  match (chars.take 4).mapM hexValue? with
  | some [a, b, c, d] =>
      some (((a * 16 + b) * 16 + c) * 16 + d)
  | _ =>
      none

/-- The code point of a pair of code units. -/
def pairCode (high low : Nat) : Nat :=
  0x10000 + (high - 0xD800) * 0x400 + (low - 0xDC00)

/--
The code point of a unicode escape and the number of characters it takes, where `offset` is the
place of its backslash and `digits` are the characters behind its letter.  A string must go on
behind the escape.
-/
def unicodeEscape (offset : Nat) (digits : List Char) : Except Fault (Nat × Nat) :=
  if (digits.drop 4).isEmpty then
    .error (.malformed .invalidUnicodeEscape (offset + 1))
  else
    match hexUnit? digits with
    | none =>
        .error (.malformed .invalidUnicodeEscape (offset + 1))
    | some unit =>
        match digits.drop 4 with
        | '\\' :: 'u' :: more =>
            if Text.isHighHalf unit && !(more.drop 4).isEmpty then
              match hexUnit? more with
              | none =>
                  .error (.malformed .invalidUnicodeEscape (offset + 7))
              | some second =>
                  if Text.isLowHalf second then
                    .ok (pairCode unit second, 12)
                  else
                    .ok (unit, 6)
            else
              .ok (unit, 6)
        | _ =>
            .ok (unit, 6)

/-- The character of a one-letter escape. -/
def letterEscape? (c : Char) : Option Char :=
  if c = '"' ∨ c = '\\' ∨ c = '/' then
    some c
  else if c = 'b' then
    some (Char.ofNat 0x08)
  else if c = 'f' then
    some (Char.ofNat 0x0C)
  else if c = 'n' then
    some '\n'
  else if c = 'r' then
    some '\r'
  else if c = 't' then
    some '\t'
  else
    none

/-- The code point of an escape and the number of characters it takes. -/
def escape (opening offset : Nat) (afterBackslash : List Char) : Except Fault (Nat × Nat) :=
  match afterBackslash with
  | [] =>
      .error (.malformed .unterminatedString opening)
  | 'u' :: digits =>
      unicodeEscape offset digits
  | c :: _ =>
      match letterEscape? c with
      | some meant =>
          .ok (meant.toNat, 2)
      | none =>
          .error (.malformed .invalidEscape offset)

/--
The code points of a string up to its closing quote, and the place behind it.  `opening` is the
place of the opening quote, and `skip` characters belong to the escape read last.
-/
def stringFrom
    (opening skip offset : Nat) :
    List Char → Except Fault (Text.Codes × Cursor)
  | [] =>
      .error (.malformed .unterminatedString opening)
  | c :: rest =>
      match skip with
      | remaining + 1 =>
          stringFrom opening remaining (offset + 1) rest
      | 0 =>
          if c = '"' then
            .ok ([], ⟨offset + 1, rest⟩)
          else if c = '\\' then
            match escape opening offset rest with
            | .error fault =>
                .error fault
            | .ok (meant, size) =>
                (stringFrom opening (size - 1) (offset + 1) rest).map fun (codes, behind) =>
                  (meant :: codes, behind)
          else if c.toNat ≤ 0x1F then
            .error (.malformed .controlCharacter offset)
          else
            (stringFrom opening 0 (offset + 1) rest).map fun (codes, behind) =>
              (c.toNat :: codes, behind)

/-- The string whose opening quote stands at a place. -/
def stringAt (cursor : Cursor) : Except Fault (Text.Codes × Cursor) :=
  stringFrom cursor.offset 0 (cursor.offset + 1) (cursor.rest.drop 1)

/-- The digits of the whole part of a number: a zero alone, or digits without a leading zero. -/
def wholeDigits (chars : List Char) : List Char :=
  match chars with
  | '0' :: _ =>
      ['0']
  | other =>
      other.takeWhile Char.isDigit

/-- The point and digits of a fraction, if digits follow the point. -/
def fractionChars (chars : List Char) : List Char :=
  match chars with
  | '.' :: rest =>
      let digits := rest.takeWhile Char.isDigit
      if digits.isEmpty then [] else '.' :: digits
  | _ =>
      []

/-- The mark, sign and digits of an exponent, if it has digits. -/
def exponentChars (chars : List Char) : List Char :=
  match chars with
  | mark :: rest =>
      let sign := (rest.take 1).filter fun c => c == '+' || c == '-'
      let digits := (rest.drop sign.length).takeWhile Char.isDigit
      if (mark == 'e' || mark == 'E') && !digits.isEmpty then
        mark :: (sign ++ digits)
      else
        []
  | [] =>
      []

/-- The number at a place: an integer, unless it has a fraction or an exponent. -/
def numberAt (cursor : Cursor) : Except Fault (Json × Cursor) :=
  let sign := (cursor.rest.take 1).filter (· == '-')
  let body := cursor.rest.drop sign.length
  let whole := wholeDigits body
  if whole.isEmpty then
    cursor.fail .expectedValue
  else
    let fraction := fractionChars (body.drop whole.length)
    let exponent := exponentChars (body.drop (whole.length + fraction.length))
    let written := sign ++ whole ++ fraction ++ exponent
    let behind := cursor.skip written.length
    if fraction.isEmpty && exponent.isEmpty then
      if Number.maxIntegerDigits < whole.length then
        .error (.tooManyDigits whole.length)
      else
        let magnitude : Int := Text.digitsValue whole
        .ok (.integer (if sign.isEmpty then magnitude else -magnitude), behind)
    else
      match Number.numeral? written with
      | some decimal =>
          .ok (.float decimal.toFloat, behind)
      | none =>
          cursor.fail .expectedValue

/-- The values that are written by name. -/
def named : List (List Char × Json) :=
  [("null".toList, .null),
    ("true".toList, .bool true),
    ("false".toList, .bool false),
    ("NaN".toList, .float (Number.ofMagnitude false Number.undefinedBits)),
    ("Infinity".toList, .float (Number.ofMagnitude false Number.infinityBits)),
    ("-Infinity".toList, .float (Number.ofMagnitude true Number.infinityBits))]

/-- A named value or a number at a place. -/
def scalarAt (cursor : Cursor) : Except Fault (Json × Cursor) :=
  match named.find? fun entry => entry.1.isPrefixOf cursor.rest with
  | some (word, value) =>
      .ok (value, cursor.skip word.length)
  | none =>
      numberAt cursor

/--
How deep values may be nested.  The reader goes one level deeper in the host for each container that
is open.  The host allows a thousand levels, ten of which the program around the reader has taken
when a request is read.
-/
def maxNesting : Nat :=
  990

mutual

/-- The value at a place.  `fuel` bounds the steps, `nesting` counts the open containers. -/
def valueAt (fuel nesting : Nat) (cursor : Cursor) : Except Fault (Json × Cursor) :=
  match fuel with
  | 0 =>
      cursor.fail .expectedValue
  | fuel + 1 =>
      match cursor.rest with
      | '"' :: _ =>
          (stringAt cursor).map fun (codes, behind) => (.string codes, behind)
      | '[' :: _ =>
          if maxNesting ≤ nesting then
            .error (.tooNested .array)
          else
            let inside := (cursor.skip 1).skipSpace
            if inside.rest.head? = some ']' then
              .ok (.array [], inside.skip 1)
            else
              (elementsAt fuel (nesting + 1) inside).map fun (elements, behind) =>
                (.array elements, behind)
      | '{' :: _ =>
          if maxNesting ≤ nesting then
            .error (.tooNested .object)
          else
            let inside := (cursor.skip 1).skipSpace
            if inside.rest.head? = some '}' then
              .ok (.object [], inside.skip 1)
            else
              (membersAt fuel (nesting + 1) inside).map fun (members, behind) =>
                (ofMembers members, behind)
      | _ =>
          scalarAt cursor

/-- The elements of an array from a place on, and the place behind its closing bracket. -/
def elementsAt (fuel nesting : Nat) (cursor : Cursor) : Except Fault (List Json × Cursor) :=
  match fuel with
  | 0 =>
      cursor.fail .expectedValue
  | fuel + 1 =>
      match valueAt fuel nesting cursor with
      | .error fault =>
          .error fault
      | .ok (value, after) =>
          let next := after.skipSpace
          match next.rest with
          | ']' :: _ =>
              .ok ([value], next.skip 1)
          | ',' :: _ =>
              (elementsAt fuel nesting (next.skip 1).skipSpace).map fun (more, behind) =>
                (value :: more, behind)
          | _ =>
              next.fail .expectedComma

/-- The members of an object from a place on, and the place behind its closing brace. -/
def membersAt
    (fuel nesting : Nat)
    (cursor : Cursor) :
    Except Fault (Members × Cursor) :=
  match fuel with
  | 0 =>
      cursor.fail .expectedName
  | fuel + 1 =>
      if cursor.rest.head? = some '"' then
        match stringAt cursor with
        | .error fault =>
            .error fault
        | .ok (name, afterName) =>
            let colon := afterName.skipSpace
            if colon.rest.head? = some ':' then
              match valueAt fuel nesting (colon.skip 1).skipSpace with
              | .error fault =>
                  .error fault
              | .ok (value, after) =>
                  let next := after.skipSpace
                  match next.rest with
                  | '}' :: _ =>
                      .ok ([(name, value)], next.skip 1)
                  | ',' :: _ =>
                      (membersAt fuel nesting (next.skip 1).skipSpace).map fun (more, behind) =>
                        ((name, value) :: more, behind)
                  | _ =>
                      next.fail .expectedComma
            else
              colon.fail .expectedColon
      else
        cursor.fail .expectedName

end

/-- Read a whole text as one JSON value. -/
def parse (text : String) : Except Fault Json :=
  let chars := text.toList
  if chars.head? = some (Char.ofNat 0xFEFF) then
    .error (.malformed .byteOrderMark 0)
  else
    match valueAt (2 * chars.length + 2) 0 (Cursor.skipSpace ⟨0, chars⟩) with
    | .error fault =>
        .error fault
    | .ok (value, after) =>
        let last := after.skipSpace
        if last.rest.isEmpty then
          .ok value
        else
          last.fail .extraData

/-- The line of an offset, counted from one. -/
def lineOf (chars : List Char) (offset : Nat) : Nat :=
  (chars.take offset).count '\n' + 1

/-- The column of an offset, counted from one. -/
def columnOf (chars : List Char) (offset : Nat) : Nat :=
  ((chars.take offset).reverse.takeWhile (· ≠ '\n')).length + 1

/-- The report of a text that is no JSON. -/
def Problem.report (problem : Problem) (offset : Nat) (text : String) : String :=
  let chars := text.toList
  problem.message ++ ": line " ++ toString (lineOf chars offset) ++ " column " ++
    toString (columnOf chars offset) ++ " (char " ++ toString offset ++ ")"

end StackScript.Json
