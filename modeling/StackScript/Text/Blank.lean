namespace StackScript.Text

/-!
# Blank characters

The blank characters are the ones with the Unicode property of separating words: the ASCII controls
that move the cursor, the four information separators, and the spaces of every width.  Blanks are
what the reader skips between tokens and what trimming removes from the ends of a text.
-/

/-- Whether a character separates words. -/
def isBlank (c : Char) : Bool :=
  let code := c.toNat
  (0x09 ≤ code && code ≤ 0x0D) ||
    (0x1C ≤ code && code ≤ 0x20) ||
    code == 0x85 ||
    code == 0xA0 ||
    code == 0x1680 ||
    (0x2000 ≤ code && code ≤ 0x200A) ||
    code == 0x2028 ||
    code == 0x2029 ||
    code == 0x202F ||
    code == 0x205F ||
    code == 0x3000

/-- Whether a character may pad a number: the blanks but for the information separators. -/
def isPadding (c : Char) : Bool :=
  isBlank c && !(0x1C ≤ c.toNat && c.toNat ≤ 0x1F)

/-- Drop the padding at both ends. -/
def dropPadding (chars : List Char) : List Char :=
  ((chars.dropWhile isPadding).reverse.dropWhile isPadding).reverse

/-- Drop the blanks at the front. -/
def trimLeft (chars : List Char) : List Char :=
  chars.dropWhile isBlank

/-- Drop the blanks at the back. -/
def trimRight (chars : List Char) : List Char :=
  (trimLeft chars.reverse).reverse

/-- Drop the blanks at both ends. -/
def trim (chars : List Char) : List Char :=
  trimRight (trimLeft chars)

/-- A text without the blanks at its ends. -/
def trimmed (text : String) : String :=
  String.ofList (trim text.toList)

/-- A text without the blanks at its end. -/
def trimmedRight (text : String) : String :=
  String.ofList (trimRight text.toList)

/-- Whether a text holds nothing but blanks. -/
def isBlankText (text : String) : Bool :=
  text.toList.all isBlank

end StackScript.Text
