import StackScript.Server

namespace StackScript

/-!
# Responses are single lines

JSON text is written in printable ASCII characters only: whatever a string holds, its control
characters and everything outside ASCII are escaped.  A response is therefore one line, with no
newline but the one that ends it.
-/

namespace Text

/-- Whether a character is a printable ASCII character. -/
def isPlain (c : Char) : Bool :=
  ' ' ≤ c && c ≤ '~'

/-- Whether all characters are printable ASCII characters. -/
def arePlain (chars : List Char) : Bool :=
  chars.all isPlain

@[simp]
theorem arePlain_nil :
    arePlain [] = true :=
  rfl

@[simp]
theorem arePlain_cons
    (c : Char)
    (rest : List Char) :
    arePlain (c :: rest) = (isPlain c && arePlain rest) :=
  rfl

@[simp]
theorem arePlain_append
    (first second : List Char) :
    arePlain (first ++ second) = (arePlain first && arePlain second) :=
  List.all_append

theorem arePlain_of_subset
    {chars among : List Char}
    (subset : chars ⊆ among)
    (plain : arePlain among) :
    arePlain chars := by
  rw [arePlain, List.all_eq_true] at plain ⊢
  exact fun c member => plain c (subset member)

theorem isPlain_hexDigit
    (value : Nat) :
    isPlain (hexDigit value) := by
  have digit : ∀ value < 16, isPlain (Nat.digitChar value) := by
    decide
  exact digit _ (Nat.mod_lt value (by decide))

theorem arePlain_hexDigits
    (width value : Nat) :
    arePlain (hexDigits width value) := by
  induction width generalizing value with
  | zero =>
      rfl
  | succ width inductionHypothesis =>
      simp [hexDigits, inductionHypothesis, isPlain_hexDigit]

end Text

namespace Number

open Text

theorem arePlain_digitChars
    (value : Nat) :
    arePlain (digitChars value) := by
  rw [arePlain, List.all_eq_true]
  intro c among
  have digit : c.isDigit :=
    Nat.isDigit_of_mem_toDigits (by decide) (by decide) among
  simp only [Char.isDigit, Bool.and_eq_true, decide_eq_true_eq] at digit
  simp only [isPlain, Bool.and_eq_true, decide_eq_true_eq]
  exact ⟨Char.le_trans (by decide) digit.1, Char.le_trans digit.2 (by decide)⟩

theorem arePlain_zeros
    (count : Nat) :
    arePlain (List.replicate count '0') := by
  rw [arePlain, List.all_eq_true]
  intro c among
  rw [List.eq_of_mem_replicate among]
  rfl

theorem arePlain_plainPoint
    {digits : List Char}
    (plain : arePlain digits)
    (point : Int) :
    arePlain (plainPoint digits point) := by
  have point : isPlain '.' := rfl
  have zero : isPlain '0' := rfl
  unfold plainPoint
  split
  · simp [point, zero, plain]
  · simp [point, zero, plain, arePlain_zeros]
  · have front (place : Nat) : arePlain (digits.take place) :=
      arePlain_of_subset (List.take_subset _ _) plain
    have back (place : Nat) : arePlain (digits.drop place) :=
      arePlain_of_subset (List.drop_subset _ _) plain
    split
    · simp [point, front, back]
    · simp [point, zero, plain, arePlain_zeros]

theorem arePlain_withExponent
    (style : Style)
    {digits : List Char}
    (plain : arePlain digits)
    (exponent : Int) :
    arePlain (withExponent style digits exponent) := by
  have point : isPlain '.' := rfl
  have mark : isPlain 'e' := rfl
  have sign : isPlain (if exponent < 0 then '-' else '+') := by
    split <;> rfl
  simp only [withExponent, arePlain_append, arePlain_cons, mark, sign, arePlain_zeros,
    arePlain_digitChars, Bool.and_true]
  split
  · simpa [point] using plain
  · exact plain

/-- A number is spelled in plain characters. -/
theorem arePlain_spelling
    (x : Float) :
    arePlain (spelling x).toList := by
  have sign : arePlain (signChars x) := by
    unfold signChars
    split <;> rfl
  have decimal (scaled : Scaled) : arePlain (spellDecimal fullStyle scaled) := by
    simp only [spellDecimal]
    split
    · exact arePlain_plainPoint (arePlain_digitChars _) _
    · exact arePlain_withExponent _ (arePlain_digitChars _) _
  have magnitude : arePlain (spellMagnitude fullStyle (magnitudeBits x)) := by
    unfold spellMagnitude
    split
    · rfl
    · exact decimal _
  unfold spelling
  split
  · rfl
  · split
    · simp only [String.toList_append, String.toList_ofList, arePlain_append, sign, Bool.true_and]
      rfl
    · simp [sign, magnitude]

end Number

namespace Json

open Text

theorem arePlain_unitEscape
    (unit : Nat) :
    arePlain (unitEscape unit) := by
  have lead : isPlain '\\' := rfl
  have mark : isPlain 'u' := rfl
  simp [unitEscape, lead, mark, arePlain_hexDigits]

/-- A code point stands in a string as itself if it is plain, and is escaped otherwise. -/
theorem arePlain_escapedCode
    (code : Nat) :
    arePlain (escapedCode code) := by
  have itself : ∀ code < 0x7F, 0x20 ≤ code → isPlain (Char.ofNat code) := by
    decide
  have lead : isPlain '\\' :=
    rfl
  unfold escapedCode
  split
  case isTrue quoted =>
    have plain : isPlain (Char.ofNat code) := by
      rcases quoted with rfl | rfl <;> rfl
    simp [plain, lead]
  repeat
    split
    · rfl
  split
  case isTrue printable =>
    simp [itself code (by omega) printable.1]
  split <;> simp [arePlain_unitEscape]

theorem arePlain_renderString
    (codes : Text.Codes) :
    arePlain (renderString codes).toList := by
  have quote : isPlain '"' :=
    rfl
  have inside : arePlain (codes.flatMap escapedCode) := by
    induction codes with
    | nil =>
        rfl
    | cons code rest inductionHypothesis =>
        simp [arePlain_escapedCode, inductionHypothesis]
  simp [renderString, quote, inside]

theorem arePlain_integer
    (value : Int) :
    arePlain (toString value).toList := by
  have digits (magnitude : Nat) : arePlain magnitude.repr.toList := by
    rw [Nat.repr_eq_ofList_toDigits, String.toList_ofList]
    exact Number.arePlain_digitChars magnitude
  cases value with
  | ofNat magnitude =>
      exact digits magnitude
  | negSucc predecessor =>
      change arePlain ("-" ++ (predecessor + 1).repr).toList
      rw [String.toList_append, arePlain_append, digits]
      rfl

theorem arePlain_renderFloat
    (value : Float) :
    arePlain (renderFloat value).toList := by
  unfold renderFloat
  split
  · rfl
  · split
    · split <;> rfl
    · exact Number.arePlain_spelling value

theorem arePlain_commaSeparated
    {texts : List String}
    (plain : ∀ text ∈ texts, arePlain text.toList) :
    arePlain (commaSeparated texts).toList := by
  unfold commaSeparated
  induction texts with
  | nil =>
      rfl
  | cons text rest inductionHypothesis =>
      obtain ⟨plainText, plainRest⟩ := List.forall_mem_cons.mp plain
      cases rest with
      | nil =>
          rwa [String.intercalate_singleton]
      | cons next others =>
          have behind := inductionHypothesis plainRest
          have separator : arePlain ", ".toList :=
            rfl
          simp only [String.intercalate_cons_cons, String.toList_append, arePlain_append,
            plainText, separator, behind, Bool.and_self]

theorem arePlain_joined
    {first second third : String}
    (plainFirst : arePlain first.toList)
    (plainSecond : arePlain second.toList)
    (plainThird : arePlain third.toList) :
    arePlain (first ++ second ++ third).toList := by
  simp only [String.toList_append, arePlain_append, plainFirst, plainSecond, plainThird,
    Bool.and_self]

mutual

/-- JSON text is plain. -/
theorem arePlain_render :
    (value : Json) → arePlain value.render.toList
  | .null =>
      rfl
  | .bool true =>
      rfl
  | .bool false =>
      rfl
  | .integer value =>
      arePlain_integer value
  | .float value =>
      arePlain_renderFloat value
  | .string value =>
      arePlain_renderString value
  | .array elements =>
      arePlain_joined rfl (arePlain_commaSeparated (arePlain_renderAll elements)) rfl
  | .object members =>
      arePlain_joined rfl (arePlain_commaSeparated (arePlain_renderMembers members)) rfl

theorem arePlain_renderAll :
    (values : List Json) → ∀ text ∈ renderAll values, arePlain text.toList
  | [] =>
      List.forall_mem_nil _
  | value :: rest =>
      List.forall_mem_cons.mpr ⟨arePlain_render value, arePlain_renderAll rest⟩

theorem arePlain_renderMembers :
    (members : Members) → ∀ text ∈ renderMembers members, arePlain text.toList
  | [] =>
      List.forall_mem_nil _
  | (name, value) :: rest =>
      List.forall_mem_cons.mpr
        ⟨arePlain_joined (arePlain_renderString name) rfl (arePlain_render value),
          arePlain_renderMembers rest⟩

end

end Json

end StackScript
