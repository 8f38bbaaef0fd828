namespace StackScript.Text

/-!
# Code points

A text that comes as JSON is a sequence of code points.  It can name half of a surrogate pair, which
is a code point and no character, so such a text is kept as numbers until its characters are needed.
A text of characters is never changed by being written as code points and read again.
-/

/-- The code points of a text. -/
abbrev Codes :=
  List Nat

/-- Whether a code point is the first half of a pair. -/
def isHighHalf (code : Nat) : Bool :=
  0xD800 ≤ code && code ≤ 0xDBFF

/-- Whether a code point is the second half of a pair. -/
def isLowHalf (code : Nat) : Bool :=
  0xDC00 ≤ code && code ≤ 0xDFFF

/-- Whether a code point is either half of a pair. -/
def isHalf (code : Nat) : Bool :=
  isHighHalf code || isLowHalf code

/-- The code points of characters. -/
def codesOf (text : String) : Codes :=
  text.toList.map Char.toNat

/-- The character of a code point; the replacement character stands for a half. -/
def charOf (code : Nat) : Char :=
  if isHalf code then
    '\ufffd'
  else
    Char.ofNat code

/-- A text with one character for each code point. -/
def textOf (codes : Codes) : String :=
  String.ofList (codes.map charOf)

/-- No character is half of a pair. -/
theorem isHalf_toNat (c : Char) : isHalf c.toNat = false := by
  have valid : c.toNat < 0xD800 ∨ 0xDFFF < c.toNat ∧ c.toNat < 0x110000 := c.valid
  simp only [isHalf, isHighHalf, isLowHalf, Bool.or_eq_false_iff, Bool.and_eq_false_iff,
    decide_eq_false_iff_not]
  omega

/-- A character is found again from its code point. -/
theorem charOf_toNat (c : Char) : charOf c.toNat = c := by
  simp [charOf, isHalf_toNat, Char.ofNat_toNat]

/-- A text of characters is found again from its code points. -/
theorem textOf_codesOf (text : String) : textOf (codesOf text) = text := by
  have same : charOf ∘ Char.toNat = id := funext charOf_toNat
  simp [textOf, codesOf, same]

end StackScript.Text
