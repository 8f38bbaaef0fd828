import StackScript.Text.Quoted

namespace StackScript.Text

/-!
# Reading UTF-8

Bytes are read as UTF-8 in its strict form: no overlong form, no surrogate, nothing beyond the last
code point.  The first byte that cannot be continued ends the reading with a fault, which tells the
bytes that were understood so far and why they could not be completed.
-/

/-- Why a byte sequence is not UTF-8. -/
inductive Utf8Reason where
  | invalidStart
  | invalidContinuation
  | unexpectedEnd
  deriving Repr, DecidableEq

namespace Utf8Reason

/-- The wording of a reason. -/
def message : Utf8Reason → String
  | .invalidStart =>
      "invalid start byte"
  | .invalidContinuation =>
      "invalid continuation byte"
  | .unexpectedEnd =>
      "unexpected end of data"

end Utf8Reason

/-- The first bytes that are not UTF-8: their place, the first of them, their number, the reason. -/
structure Utf8Fault where
  position : Nat
  byte : UInt8
  size : Nat
  reason : Utf8Reason
  deriving Repr, DecidableEq

namespace Utf8Fault

/-- The report of a fault. -/
def message (fault : Utf8Fault) : String :=
  let place :=
    if fault.size = 1 then
      "byte 0x" ++ String.ofList (hexDigits 2 fault.byte.toNat) ++ " in position " ++
        toString fault.position
    else
      "bytes in position " ++ toString fault.position ++ "-" ++
        toString (fault.position + fault.size - 1)
  "'utf-8' codec can't decode " ++ place ++ ": " ++ fault.reason.message

end Utf8Fault

/-- Whether a byte continues a character. -/
def isContinuation (byte : UInt8) : Bool :=
  0x80 ≤ byte && byte ≤ 0xBF

/-- How many continuation bytes a first byte asks for; other bytes start no character. -/
def continuations? (first : UInt8) : Option Nat :=
  if first ≤ 0x7F then
    some 0
  else if 0xC2 ≤ first && first ≤ 0xDF then
    some 1
  else if 0xE0 ≤ first && first ≤ 0xEF then
    some 2
  else if 0xF0 ≤ first && first ≤ 0xF4 then
    some 3
  else
    none

/-- Whether a byte may come second: overlong forms, surrogates and too large codes are excluded. -/
def mayFollow (first second : UInt8) : Bool :=
  isContinuation second &&
    !(first == 0xE0 && second < 0xA0) &&
    !(first == 0xED && 0xA0 ≤ second) &&
    !(first == 0xF0 && second < 0x90) &&
    !(first == 0xF4 && 0x90 ≤ second)

/--
The number of leading bytes of `rest` that continue the character begun by `first`, at most
`wanted`, and whether the bytes ended there.
-/
def continued (first : UInt8) (wanted : Nat) (rest : List UInt8) : Nat × Bool :=
  match rest.take wanted with
  | [] =>
      (0, true)
  | second :: more =>
      if mayFollow first second then
        let good := 1 + (more.takeWhile isContinuation).length
        (good, good == (rest.take wanted).length)
      else
        (0, false)

/-- The payload bits of a first byte that asks for `wanted` continuations. -/
def leadBits (first : UInt8) (wanted : Nat) : Nat :=
  match wanted with
  | 0 =>
      first.toNat
  | 1 =>
      first.toNat % 0x20
  | 2 =>
      first.toNat % 0x10
  | _ =>
      first.toNat % 0x08

/-- The character written by a first byte and its continuations. -/
def assembled (first : UInt8) (tail : List UInt8) : Char :=
  Char.ofNat
    (tail.foldl (fun code byte => code * 0x40 + byte.toNat % 0x40)
      (leadBits first tail.length))

/-- Read bytes as UTF-8; `skip` bytes belong to the character read last. -/
def decodeFrom (skip position : Nat) : List UInt8 → Except Utf8Fault (List Char)
  | [] =>
      .ok []
  | first :: rest =>
      match skip with
      | remaining + 1 =>
          decodeFrom remaining (position + 1) rest
      | 0 =>
          match continuations? first with
          | none =>
              .error ⟨position, first, 1, .invalidStart⟩
          | some wanted =>
              let (good, ended) := continued first wanted rest
              if good = wanted then
                (decodeFrom wanted (position + 1) rest).map
                  (assembled first (rest.take wanted) :: ·)
              else if ended then
                .error ⟨position, first, good + 1, .unexpectedEnd⟩
              else
                .error ⟨position, first, good + 1, .invalidContinuation⟩

/-- The text that bytes write in UTF-8. -/
def decodeUtf8 (bytes : List UInt8) : Except Utf8Fault String :=
  (decodeFrom 0 0 bytes).map String.ofList

/-- The UTF-8 bytes of a text. -/
def utf8Bytes (text : String) : List UInt8 :=
  text.toUTF8.toList

end StackScript.Text
