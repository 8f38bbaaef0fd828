namespace StackScript.Text

/-!
# Lines

Texts reach the program with several line endings.  Files and typed input are normalised so that
every line ends with a newline; the editor cuts a document at the wider set of line boundaries that
text editors know.
-/

/-- Read a carriage return, with or without a newline after it, as one newline. -/
def normalizeNewlines : List Char → List Char
  | [] =>
      []
  | '\r' :: '\n' :: rest =>
      '\n' :: normalizeNewlines rest
  | '\r' :: rest =>
      '\n' :: normalizeNewlines rest
  | c :: rest =>
      c :: normalizeNewlines rest

/-- Read a carriage return with a newline after it as one newline, and leave all others. -/
def joinNewlines : List Char → List Char
  | [] =>
      []
  | '\r' :: '\n' :: rest =>
      '\n' :: joinNewlines rest
  | c :: rest =>
      c :: joinNewlines rest

/-- A text whose lines all end with a newline. -/
def withNewlines (text : String) : String :=
  String.ofList (normalizeNewlines text.toList)

/-- The characters that end a line of a document. -/
def endsLine (c : Char) : Bool :=
  let code := c.toNat
  (0x0A ≤ code && code ≤ 0x0D) ||
    (0x1C ≤ code && code ≤ 0x1E) ||
    code == 0x85 ||
    code == 0x2028 ||
    code == 0x2029

/-- Put a character in front of the first line. -/
def consFirst (c : Char) : List (List Char) → List (List Char)
  | [] =>
      [[c]]
  | line :: rest =>
      (c :: line) :: rest

/-- The lines of a document without their endings; a final ending opens no further line. -/
def documentLines : List Char → List (List Char)
  | [] =>
      []
  | '\r' :: '\n' :: rest =>
      [] :: documentLines rest
  | c :: rest =>
      if endsLine c then
        [] :: documentLines rest
      else
        consFirst c (documentLines rest)

/-- The lines of typed input: each ends with a newline, the last one may lack it. -/
def inputLines : List Char → List (List Char)
  | [] =>
      []
  | c :: rest =>
      if c = '\n' then
        [] :: inputLines rest
      else
        consFirst c (inputLines rest)

end StackScript.Text
