import StackScript.Text.Codes
import StackScript.Text.Printable

namespace StackScript.Text

/-!
# Quoted text

Texts inside inspected values and messages are written between quotes.  Single quotes are used
unless the text holds a single quote and no double quote.  The quote in use, the backslash and every
unprintable character are escaped, so the quoted form shows on one line.
-/

/-- One hexadecimal digit in lower case. -/
def hexDigit (value : Nat) : Char :=
  (Nat.digitChar (value % 16))

/-- A number as exactly `width` hexadecimal digits. -/
def hexDigits : (width : Nat) → Nat → List Char
  | 0, _ =>
      []
  | width + 1, value =>
      hexDigits width (value / 16) ++ [hexDigit value]

/-- The code of an unprintable character as a hexadecimal escape of the least sufficient width. -/
def hexEscape (code : Nat) : List Char :=
  if code < 0x100 then
    '\\' :: 'x' :: hexDigits 2 code
  else if code < 0x10000 then
    '\\' :: 'u' :: hexDigits 4 code
  else
    '\\' :: 'U' :: hexDigits 8 code

/-- One character of quoted text. -/
def quotedChar (quote c : Char) : List Char :=
  if c = quote ∨ c = '\\' then
    ['\\', c]
  else if c = '\n' then
    ['\\', 'n']
  else if c = '\r' then
    ['\\', 'r']
  else if c = '\t' then
    ['\\', 't']
  else if isPrintable c then
    [c]
  else
    hexEscape c.toNat

/-- One code of quoted text. -/
def quotedCode (quote : Char) (code : Nat) : List Char :=
  if isHalf code then
    hexEscape code
  else
    quotedChar quote (Char.ofNat code)

/-- The quote that encloses a text. -/
def quoteFor (codes : Codes) : Char :=
  if codes.contains 0x27 && !codes.contains 0x22 then
    '"'
  else
    '\''

/-- Code points between quotes. -/
def quotedCodes (codes : Codes) : String :=
  let quote := quoteFor codes
  String.ofList (quote :: (codes.flatMap (quotedCode quote) ++ [quote]))

/-- A text between quotes. -/
def quoted (text : String) : String :=
  quotedCodes (codesOf text)

end StackScript.Text
