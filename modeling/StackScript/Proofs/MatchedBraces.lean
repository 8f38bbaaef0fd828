import Mathlib.Combinatorics.Enumerative.DyckWord
import StackScript.Proofs.IndexedNames
import StackScript.Proofs.SmallSteps

namespace StackScript

/-!
# Matched braces

Two braces match where what stands between them nests.  Nesting is what Dyck words are about: every
beginning has at least as many opening braces as closing ones, and the whole has as many of both.
The check keeps a stack of openers, the capture of a block counts the blocks that are open inside
it, and the index counts the tokens of a block.  All three find the same partners: the check blames
the first closing brace without a partner or else the last such opening brace, and from an opening
brace with a partner both others go on directly behind that partner.
-/

/-- The step of a Dyck word that a brace is. -/
def Token.dyckStep? (token : Token) : Option DyckStep :=
  match token.lexeme with
  | .openBrace =>
      some .U
  | .closeBrace =>
      some .D
  | _ =>
      none

/-- The braces of a token list as steps. -/
def braceSteps (tokens : List Token) : List DyckStep :=
  tokens.filterMap Token.dyckStep?

/-- Whether the braces of a token list form a Dyck word. -/
def IsNested (tokens : List Token) : Prop :=
  ∃ word : DyckWord, word.toList = braceSteps tokens

section Steps

variable {token : Token} {tokens : List Token}

theorem braceSteps_open
    (opens : token.lexeme = .openBrace) :
    braceSteps (token :: tokens) = .U :: braceSteps tokens := by
  simp [braceSteps, Token.dyckStep?, opens]

theorem braceSteps_close
    (closes : token.lexeme = .closeBrace) :
    braceSteps (token :: tokens) = .D :: braceSteps tokens := by
  simp [braceSteps, Token.dyckStep?, closes]

theorem braceSteps_plain
    (notOpen : token.lexeme ≠ .openBrace)
    (notClose : token.lexeme ≠ .closeBrace) :
    braceSteps (token :: tokens) = braceSteps tokens := by
  cases shape : token.lexeme <;> simp_all [braceSteps, Token.dyckStep?]

end Steps

/-- Steps that go down from a height to the ground and never below it. -/
structure Lands (height : Nat) (steps : List DyckStep) : Prop where
  above :
    ∀ count, (steps.take count).count .D ≤ height + (steps.take count).count .U
  total :
    height + steps.count .U = steps.count .D

theorem lands_nil_iff
    {height : Nat} :
    Lands height [] ↔ height = 0 := by
  constructor
  · intro lands
    simpa using lands.total
  · rintro rfl
    exact ⟨by simp, by simp⟩

theorem lands_up_iff
    {height : Nat}
    {steps : List DyckStep} :
    Lands height (.U :: steps) ↔ Lands (height + 1) steps := by
  constructor
  · rintro ⟨above, total⟩
    refine ⟨fun count => ?_, ?_⟩
    · have later := above (count + 1)
      simp at later
      omega
    · simp at total
      omega
  · rintro ⟨above, total⟩
    refine ⟨fun count => ?_, ?_⟩
    · cases count with
      | zero =>
          simp
      | succ count =>
          have earlier := above count
          simp
          omega
    · simp
      omega

theorem lands_down_iff
    {height : Nat}
    {steps : List DyckStep} :
    Lands height (.D :: steps) ↔ ∃ lower, height = lower + 1 ∧ Lands lower steps := by
  constructor
  · rintro ⟨above, total⟩
    have first := above 1
    simp at first
    obtain ⟨lower, rfl⟩ := Nat.exists_eq_add_one.mpr first
    refine ⟨lower, rfl, fun count => ?_, ?_⟩
    · have later := above (count + 1)
      simp at later
      omega
    · simp at total
      omega
  · rintro ⟨lower, rfl, above, total⟩
    refine ⟨fun count => ?_, ?_⟩
    · cases count with
      | zero =>
          simp
      | succ count =>
          have earlier := above count
          simp
          omega
    · simp
      omega

/-- The check is content where the steps land from the number of openers that wait. -/
theorem imbalanceFrom_eq_none_iff
    (waiting tokens : List Token) :
    imbalanceFrom waiting tokens = none ↔ Lands waiting.length (braceSteps tokens) := by
  induction tokens generalizing waiting with
  | nil =>
      cases waiting <;> simp [imbalanceFrom, braceSteps, lands_nil_iff]
  | cons token rest inductionHypothesis =>
      by_cases opens : token.lexeme = .openBrace
      · rw [imbalanceFrom_open opens, braceSteps_open opens, lands_up_iff, inductionHypothesis,
          List.length_cons]
      · by_cases closes : token.lexeme = .closeBrace
        · rw [braceSteps_close closes, lands_down_iff]
          cases waiting with
          | nil =>
              simp [imbalanceFrom, closes]
          | cons opener outer =>
              rw [imbalanceFrom_close closes, inductionHypothesis]
              simp
        · rw [imbalanceFrom_plain opens closes, braceSteps_plain opens closes,
            inductionHypothesis]

/-- The grammar of balanced token lists and Dyck words agree. -/
theorem balanced_iff_isNested
    {tokens : List Token} :
    Balanced tokens ↔ IsNested tokens := by
  rw [← imbalance?_eq_none_iff, imbalance?, imbalanceFrom_eq_none_iff]
  constructor
  · rintro ⟨above, total⟩
    exact ⟨⟨braceSteps tokens, by simpa using total, by simpa using above⟩, rfl⟩
  · rintro ⟨word, isWord⟩
    rw [← isWord]
    exact ⟨by simpa using word.count_D_le_count_U, by simpa using word.count_U_eq_count_D⟩

/-! ### Where the check stops -/

section Check

variable {waiting tokens : List Token}

/-- The check blames a closing brace if everything that waits is closed in front of it. -/
theorem front_of_stray
    {closer : Token}
    (blamed : imbalanceFrom waiting tokens = some (.stray closer)) :
    ∃ before after,
      tokens = before ++ closer :: after ∧
        closer.lexeme = .closeBrace ∧
        imbalanceFrom waiting before = none := by
  induction tokens generalizing waiting with
  | nil =>
      simp [imbalanceFrom] at blamed
  | cons token rest inductionHypothesis =>
      by_cases opens : token.lexeme = .openBrace
      · rw [imbalanceFrom_open opens] at blamed
        obtain ⟨before, after, rfl, closes, accepted⟩ := inductionHypothesis blamed
        exact ⟨token :: before, after, rfl, closes, by rwa [imbalanceFrom_open opens]⟩
      · by_cases closes : token.lexeme = .closeBrace
        · cases waiting with
          | nil =>
              simp only [imbalanceFrom, closes, Option.some.injEq, Imbalance.stray.injEq] at blamed
              subst blamed
              exact ⟨[], rest, rfl, closes, rfl⟩
          | cons opener outer =>
              rw [imbalanceFrom_close closes] at blamed
              obtain ⟨before, after, rfl, isCloser, accepted⟩ := inductionHypothesis blamed
              exact ⟨token :: before, after, rfl, isCloser, by rwa [imbalanceFrom_close closes]⟩
        · rw [imbalanceFrom_plain opens closes] at blamed
          obtain ⟨before, after, rfl, isCloser, accepted⟩ := inductionHypothesis blamed
          exact ⟨token :: before, after, rfl, isCloser,
            by rwa [imbalanceFrom_plain opens closes]⟩

/-- The check blames a waiting opener when those inside it are closed, or one with all closed behind. -/
theorem behind_of_unclosed
    {opener : Token}
    (blamed : imbalanceFrom waiting tokens = some (.unclosed opener)) :
    (∃ inner outer, waiting = inner ++ opener :: outer ∧ imbalanceFrom inner tokens = none) ∨
      ∃ before after,
        tokens = before ++ opener :: after ∧ opener.lexeme = .openBrace ∧ Balanced after := by
  induction tokens generalizing waiting with
  | nil =>
      cases waiting with
      | nil =>
          simp [imbalanceFrom] at blamed
      | cons first outer =>
          simp only [imbalanceFrom, List.head?_cons, Option.map_some, Option.some.injEq,
            Imbalance.unclosed.injEq] at blamed
          subst blamed
          exact .inl ⟨[], outer, rfl, rfl⟩
  | cons token rest inductionHypothesis =>
      by_cases opens : token.lexeme = .openBrace
      · rw [imbalanceFrom_open opens] at blamed
        rcases inductionHypothesis blamed with
            ⟨inner, outer, shape, accepted⟩ | ⟨before, after, rfl, isOpener, balanced⟩
        · rcases List.cons_eq_append_iff.mp shape with ⟨rfl, same⟩ | ⟨further, rfl, rfl⟩
          · cases same
            exact .inr ⟨[], rest, rfl, opens, imbalance?_eq_none_iff.mp accepted⟩
          · exact .inl ⟨further, outer, rfl, by rwa [imbalanceFrom_open opens]⟩
        · exact .inr ⟨token :: before, after, rfl, isOpener, balanced⟩
      · by_cases closes : token.lexeme = .closeBrace
        · cases waiting with
          | nil =>
              simp [imbalanceFrom, closes] at blamed
          | cons first others =>
              rw [imbalanceFrom_close closes] at blamed
              rcases inductionHypothesis blamed with
                  ⟨inner, outer, rfl, accepted⟩ | ⟨before, after, rfl, isOpener, balanced⟩
              · exact .inl ⟨first :: inner, outer, rfl, by rwa [imbalanceFrom_close closes]⟩
              · exact .inr ⟨token :: before, after, rfl, isOpener, balanced⟩
        · rw [imbalanceFrom_plain opens closes] at blamed
          rcases inductionHypothesis blamed with
              ⟨inner, outer, rfl, accepted⟩ | ⟨before, after, rfl, isOpener, balanced⟩
          · exact .inl ⟨inner, outer, rfl, by rwa [imbalanceFrom_plain opens closes]⟩
          · exact .inr ⟨token :: before, after, rfl, isOpener, balanced⟩

/-- What the check has read is blamed whatever follows, or leaves some openers waiting. -/
theorem imbalanceFrom_append
    (waiting front : List Token) :
    (∃ closer, ∀ tokens, imbalanceFrom waiting (front ++ tokens) = some (.stray closer)) ∨
      ∃ left, ∀ tokens, imbalanceFrom waiting (front ++ tokens) = imbalanceFrom left tokens := by
  induction front generalizing waiting with
  | nil =>
      exact .inr ⟨waiting, fun _ => rfl⟩
  | cons token rest inductionHypothesis =>
      simp only [List.cons_append]
      by_cases opens : token.lexeme = .openBrace
      · simp only [imbalanceFrom_open opens]
        exact inductionHypothesis (token :: waiting)
      · by_cases closes : token.lexeme = .closeBrace
        · cases waiting with
          | nil =>
              exact .inl ⟨token, fun _ => by simp [imbalanceFrom, closes]⟩
          | cons opener outer =>
              simp only [imbalanceFrom_close closes]
              exact inductionHypothesis outer
        · simp only [imbalanceFrom_plain opens closes]
          exact inductionHypothesis waiting

/-- Balanced tokens end in front of a stray closing brace. -/
theorem imbalance?_eq_stray_iff
    {closer : Token} :
    imbalance? tokens = some (.stray closer) ↔
      ∃ before after,
        tokens = before ++ closer :: after ∧ closer.lexeme = .closeBrace ∧ Balanced before := by
  constructor
  · intro blamed
    obtain ⟨before, after, rfl, closes, accepted⟩ := front_of_stray blamed
    exact ⟨before, after, rfl, closes, imbalance?_eq_none_iff.mp accepted⟩
  · rintro ⟨before, after, rfl, closes, balanced⟩
    rw [imbalance?, imbalanceFrom_balanced_append balanced]
    simp [imbalanceFrom, closes]

/-- Without a stray closing brace, balanced tokens begin behind the opening brace that is blamed. -/
theorem imbalance?_eq_unclosed_iff
    {opener : Token} :
    imbalance? tokens = some (.unclosed opener) ↔
      (∀ closer, imbalance? tokens ≠ some (.stray closer)) ∧
        ∃ before after,
          tokens = before ++ opener :: after ∧ opener.lexeme = .openBrace ∧ Balanced after := by
  constructor
  · intro blamed
    refine ⟨fun closer isStray => by simp [blamed] at isStray, ?_⟩
    rcases behind_of_unclosed blamed with ⟨inner, outer, shape, _⟩ | found
    · simp at shape
    · exact found
  · rintro ⟨noStray, before, after, rfl, opens, balanced⟩
    rcases imbalanceFrom_append [] before with ⟨closer, isStray⟩ | ⟨left, goesOn⟩
    · exact (noStray closer (isStray _)).elim
    · have closed := imbalanceFrom_balanced_append balanced (opener :: left) []
      rw [List.append_nil] at closed
      rw [imbalance?, goesOn, imbalanceFrom_open opens, closed]
      rfl

end Check

/-! ### Partners -/

/-- The tokens strictly between two places. -/
def between (tokens : List Token) (opening closing : Nat) : List Token :=
  (tokens.take closing).drop (opening + 1)

/-- An opening brace and a closing brace behind it are partners if the braces between them nest. -/
structure Matching (tokens : List Token) (opening closing : Nat) : Prop where
  opens :
    tokens[opening]?.map Token.lexeme = some .openBrace
  closes :
    tokens[closing]?.map Token.lexeme = some .closeBrace
  ordered :
    opening < closing
  nested :
    IsNested (between tokens opening closing)

/-- Behind these tokens an opening brace waits for its partner. -/
def WaitsOpen (tokens : List Token) : Prop :=
  ∃ before opener inside,
    tokens = before ++ opener :: inside ∧ opener.lexeme = .openBrace ∧ Balanced inside

theorem WaitsOpen.append
    {tokens : List Token}
    (waits : WaitsOpen tokens)
    (front : List Token) :
    WaitsOpen (front ++ tokens) := by
  obtain ⟨before, opener, inside, rfl, opens, balanced⟩ := waits
  exact ⟨front ++ before, opener, inside, by simp, opens, balanced⟩

theorem WaitsOpen.not_balanced
    {tokens : List Token}
    (waits : WaitsOpen tokens) :
    ¬Balanced tokens := by
  obtain ⟨before, opener, inside, rfl, opens, balanced⟩ := waits
  rw [← imbalance?_eq_none_iff]
  intro accepted
  by_cases noStray : ∀ closer, imbalance? (before ++ opener :: inside) ≠ some (.stray closer)
  · have blamed :=
      imbalance?_eq_unclosed_iff.mpr ⟨noStray, before, inside, rfl, opens, balanced⟩
    simp [accepted] at blamed
  · simp [accepted] at noStray

/-- Tokens nest, leave an opening brace waiting, or hold a stray closing brace. -/
theorem balanced_or_waitsOpen
    {tokens : List Token}
    (noStray : ∀ closer, imbalance? tokens ≠ some (.stray closer)) :
    Balanced tokens ∨ WaitsOpen tokens := by
  cases checked : imbalance? tokens with
  | none =>
      exact .inl (imbalance?_eq_none_iff.mp checked)
  | some imbalance =>
      cases imbalance with
      | stray closer =>
          exact (noStray closer checked).elim
      | unclosed opener =>
          obtain ⟨_, before, after, shape, opens, balanced⟩ :=
            imbalance?_eq_unclosed_iff.mp checked
          exact .inr ⟨before, opener, after, shape, opens, balanced⟩

/-- If no closing brace behind an opening one is a stray, that one or a later one waits. -/
theorem waitsOpen_cons
    {opener : Token}
    {rest : List Token}
    (opens : opener.lexeme = .openBrace)
    (noStray : ∀ closer, imbalance? rest ≠ some (.stray closer)) :
    WaitsOpen (opener :: rest) := by
  rcases balanced_or_waitsOpen noStray with balanced | waits
  · exact ⟨[], opener, rest, rfl, opens, balanced⟩
  · exact waits.append [opener]

section Partners

variable {tokens : List Token} {place : Nat} {brace : Token}

/-- What stands in front of a place stands there in the whole list. -/
theorem of_take_eq_append
    {before after : List Token}
    (shape : tokens.take place = before ++ brace :: after) :
    before.length < place ∧
      tokens[before.length]? = some brace ∧
      tokens.take before.length = before := by
  have size := congrArg List.length shape
  rw [List.length_take, List.length_append, List.length_cons] at size
  have ordered : before.length < place := by omega
  refine ⟨ordered, ?_, ?_⟩
  · rw [← List.getElem?_take_of_lt ordered, shape]
    simp
  · rw [← Nat.min_eq_left ordered.le, ← List.take_take, shape, List.take_left]

/-- What stands behind a place stands there in the whole list. -/
theorem of_drop_eq_append
    {before after : List Token}
    (shape : tokens.drop place = before ++ brace :: after) :
    tokens[place + before.length]? = some brace ∧
      tokens.drop (place + before.length + 1) = after := by
  constructor
  · rw [← List.getElem?_drop, shape]
    simp
  · rw [Nat.add_assoc, ← List.drop_drop, shape]
    simp

/-- A closing brace has a partner where an opening brace waits in front of it. -/
theorem exists_opening_iff
    (isBrace : tokens[place]? = some brace)
    (closes : brace.lexeme = .closeBrace) :
    (∃ opening, Matching tokens opening place) ↔ WaitsOpen (tokens.take place) := by
  constructor
  · rintro ⟨opening, opens, _, ordered, nested⟩
    obtain ⟨opener, isOpener, opens⟩ := Option.map_eq_some_iff.mp opens
    have inFront : (tokens.take place)[opening]? = some opener := by
      rw [List.getElem?_take_of_lt ordered, isOpener]
    exact ⟨_, opener, between tokens opening place, eq_take_append_of_getElem? inFront, opens,
      balanced_iff_isNested.mpr nested⟩
  · rintro ⟨before, opener, inside, shape, opens, balanced⟩
    obtain ⟨ordered, isOpener, _⟩ := of_take_eq_append shape
    refine ⟨before.length, by simp [isOpener, opens], by simp [isBrace, closes], ordered, ?_⟩
    rw [between, shape]
    simpa using balanced_iff_isNested.mp balanced

/-- Behind an opening brace stand the tokens up to its partner, the partner, and the rest. -/
theorem Matching.behind
    {opening closing : Nat}
    (matching : Matching tokens opening closing) :
    ∃ closer,
      closer.lexeme = .closeBrace ∧
        tokens.drop (opening + 1) =
          between tokens opening closing ++ closer :: tokens.drop (closing + 1) := by
  obtain ⟨closer, isCloser, closes⟩ := Option.map_eq_some_iff.mp matching.closes
  refine ⟨closer, closes, ?_⟩
  have inFront : opening + 1 ≤ (tokens.take closing).length := by
    obtain ⟨within, _⟩ := List.getElem?_eq_some_iff.mp isCloser
    rw [List.length_take_of_le within.le]
    exact matching.ordered
  nth_rewrite 1 [eq_take_append_of_getElem? isCloser]
  rw [List.drop_append_of_le_length inFront, between]

/-- An opening brace has a partner where a stray closing brace stands behind it. -/
theorem exists_closing_iff
    (isBrace : tokens[place]? = some brace)
    (opens : brace.lexeme = .openBrace) :
    (∃ closing, Matching tokens place closing) ↔
      ∃ closer, imbalance? (tokens.drop (place + 1)) = some (.stray closer) := by
  constructor
  · rintro ⟨closing, matching⟩
    obtain ⟨closer, closes, shape⟩ := matching.behind
    exact ⟨closer, imbalance?_eq_stray_iff.mpr
      ⟨_, _, shape, closes, balanced_iff_isNested.mpr matching.nested⟩⟩
  · rintro ⟨closer, isStray⟩
    obtain ⟨inside, behind, shape, closes, balanced⟩ := imbalance?_eq_stray_iff.mp isStray
    obtain ⟨isCloser, _⟩ := of_drop_eq_append shape
    have isInside : between tokens place (place + 1 + inside.length) = inside := by
      rw [between, List.drop_take, shape, Nat.add_sub_cancel_left, List.take_left]
    refine ⟨place + 1 + inside.length, by simp [isBrace, opens], by simp [isCloser, closes],
      by omega, ?_⟩
    rw [isInside]
    exact balanced_iff_isNested.mp balanced

/-- Where no closing brace is stray, an opening brace waits in front of each. -/
theorem waitsOpen_of_noStray
    (noStray : ∀ closer, imbalance? tokens ≠ some (.stray closer))
    (isBrace : tokens[place]? = some brace)
    (closes : brace.lexeme = .closeBrace) :
    WaitsOpen (tokens.take place) := by
  have shape := eq_take_append_of_getElem? isBrace
  have noneInFront : ∀ closer, imbalance? (tokens.take place) ≠ some (.stray closer) := by
    intro closer isStray
    obtain ⟨before, after, frontShape, isCloser, balanced⟩ := imbalance?_eq_stray_iff.mp isStray
    have wholeShape :
        tokens = before ++ closer :: (after ++ brace :: tokens.drop (place + 1)) := by
      rw [← List.cons_append, ← List.append_assoc, ← frontShape]
      exact shape
    exact noStray closer (imbalance?_eq_stray_iff.mpr ⟨_, _, wholeShape, isCloser, balanced⟩)
  rcases balanced_or_waitsOpen noneInFront with balanced | waits
  · exact (noStray brace (imbalance?_eq_stray_iff.mpr ⟨_, _, shape, closes, balanced⟩)).elim
  · exact waits

end Partners

/-- The first closing brace without a partner. -/
structure IsFirstStray (tokens : List Token) (place : Nat) : Prop where
  closes :
    tokens[place]?.map Token.lexeme = some .closeBrace
  alone :
    ∀ opening, ¬Matching tokens opening place
  first :
    ∀ earlier < place,
      tokens[earlier]?.map Token.lexeme = some .closeBrace →
        ∃ opening, Matching tokens opening earlier

/-- The last opening brace without a partner, where every closing brace has one. -/
structure IsLastUnclosed (tokens : List Token) (place : Nat) : Prop where
  opens :
    tokens[place]?.map Token.lexeme = some .openBrace
  alone :
    ∀ closing, ¬Matching tokens place closing
  last :
    ∀ later > place,
      tokens[later]?.map Token.lexeme = some .openBrace →
        ∃ closing, Matching tokens later closing
  noStray :
    ∀ closing,
      tokens[closing]?.map Token.lexeme = some .closeBrace →
        ∃ opening, Matching tokens opening closing

section Blame

variable {tokens : List Token} {place : Nat}

/-- In front of the first closing brace without a partner all braces nest. -/
theorem isFirstStray_iff
    {closer : Token}
    (isCloser : tokens[place]? = some closer) :
    IsFirstStray tokens place ↔
      closer.lexeme = .closeBrace ∧ Balanced (tokens.take place) := by
  constructor
  · rintro ⟨closes, alone, first⟩
    have closes : closer.lexeme = .closeBrace := by
      simpa [isCloser] using closes
    refine ⟨closes, ?_⟩
    have noneInFront : ∀ earlier, imbalance? (tokens.take place) ≠ some (.stray earlier) := by
      intro earlier isStray
      obtain ⟨before, after, shape, isEarlier, balanced⟩ := imbalance?_eq_stray_iff.mp isStray
      obtain ⟨ordered, isBrace, isFront⟩ := of_take_eq_append shape
      have waits := (exists_opening_iff isBrace isEarlier).mp
        (first before.length ordered (by simp [isBrace, isEarlier]))
      rw [isFront] at waits
      exact waits.not_balanced balanced
    rcases balanced_or_waitsOpen noneInFront with balanced | waits
    · exact balanced
    · obtain ⟨opening, matching⟩ := (exists_opening_iff isCloser closes).mpr waits
      exact (alone opening matching).elim
  · rintro ⟨closes, balanced⟩
    refine ⟨by simp [isCloser, closes], ?_, ?_⟩
    · intro opening matching
      exact ((exists_opening_iff isCloser closes).mp ⟨opening, matching⟩).not_balanced balanced
    · intro earlier ordered isEarlier
      obtain ⟨brace, isBrace, isEarlier⟩ := Option.map_eq_some_iff.mp isEarlier
      have noStray : ∀ stray, imbalance? (tokens.take place) ≠ some (.stray stray) := by
        simp [imbalance?_eq_none_iff.mpr balanced]
      have inFront : (tokens.take place)[earlier]? = some brace := by
        rw [List.getElem?_take_of_lt ordered, isBrace]
      have waits := waitsOpen_of_noStray noStray inFront isEarlier
      rw [List.take_take, Nat.min_eq_left ordered.le] at waits
      exact (exists_opening_iff isBrace isEarlier).mpr waits

/-- Behind the last opening brace without a partner all braces nest. -/
theorem isLastUnclosed_iff
    {opener : Token}
    (isOpener : tokens[place]? = some opener) :
    IsLastUnclosed tokens place ↔
      (∀ closer, imbalance? tokens ≠ some (.stray closer)) ∧
        opener.lexeme = .openBrace ∧
        Balanced (tokens.drop (place + 1)) := by
  constructor
  · rintro ⟨opens, alone, last, partners⟩
    have opens : opener.lexeme = .openBrace := by
      simpa [isOpener] using opens
    refine ⟨?_, opens, ?_⟩
    · intro closer isStray
      obtain ⟨before, after, rfl, closes, balanced⟩ := imbalance?_eq_stray_iff.mp isStray
      have waits := (exists_opening_iff (by simp) closes).mp
        (partners before.length (by simp [closes]))
      rw [List.take_left] at waits
      exact waits.not_balanced balanced
    · have noneBehind : ∀ closer, imbalance? (tokens.drop (place + 1)) ≠ some (.stray closer) := by
        intro closer isStray
        obtain ⟨closing, matching⟩ := (exists_closing_iff isOpener opens).mpr ⟨closer, isStray⟩
        exact alone closing matching
      rcases balanced_or_waitsOpen noneBehind with balanced | waits
      · exact balanced
      · obtain ⟨before, later, inside, shape, opensLater, balanced⟩ := waits
        obtain ⟨isLater, isInside⟩ := of_drop_eq_append shape
        obtain ⟨closer, isStray⟩ := (exists_closing_iff isLater opensLater).mp
          (last _ (by omega) (by simp [isLater, opensLater]))
        rw [isInside, imbalance?_eq_none_iff.mpr balanced] at isStray
        cases isStray
  · rintro ⟨noStray, opens, balanced⟩
    refine ⟨by simp [isOpener, opens], ?_, ?_, ?_⟩
    · intro closing matching
      obtain ⟨closer, isStray⟩ := (exists_closing_iff isOpener opens).mp ⟨closing, matching⟩
      rw [imbalance?_eq_none_iff.mpr balanced] at isStray
      cases isStray
    · intro later ordered opensLater
      obtain ⟨brace, isBrace, opensLater⟩ := Option.map_eq_some_iff.mp opensLater
      refine (exists_closing_iff isBrace opensLater).mpr (by_contra fun noneBehind => ?_)
      have waits : WaitsOpen (brace :: tokens.drop (later + 1)) :=
        waitsOpen_cons opensLater (not_exists.mp noneBehind)
      obtain ⟨gap, rfl⟩ := Nat.exists_eq_add_of_le (Nat.succ_le_of_lt ordered)
      have isBehind : (tokens.drop (place + 1))[gap]? = some brace := by
        rw [List.getElem?_drop, isBrace]
      have shape := eq_take_append_of_getElem? isBehind
      rw [List.drop_drop] at shape
      have waitsThere := waits.append ((tokens.drop (place + 1)).take gap)
      rw [show place.succ + gap + 1 = place + 1 + (gap + 1) by omega, ← shape] at waitsThere
      exact waitsThere.not_balanced balanced
    · intro closing closes
      obtain ⟨brace, isBrace, closes⟩ := Option.map_eq_some_iff.mp closes
      exact (exists_opening_iff isBrace closes).mpr (waitsOpen_of_noStray noStray isBrace closes)

/-- The check accepts exactly the token lists whose braces form a Dyck word. -/
theorem checkBalance_eq_ok_iff :
    checkBalance tokens = .ok () ↔ IsNested tokens := by
  rw [← balanced_iff_isNested, ← imbalance?_eq_none_iff, checkBalance]
  rcases imbalance? tokens with _ | (_ | _) <;> simp

/-- What the check says about a brace without a partner. -/
inductive Blames (tokens : List Token) (place : Nat) (brace : Token) : Prop where
  | stray
      (isFirst : IsFirstStray tokens place)
      (reported : checkBalance tokens = .error (Error.atToken brace .strayBrace))
  | unclosed
      (isLast : IsLastUnclosed tokens place)
      (reported : checkBalance tokens = .error (Error.atToken brace .unclosedBlock))

/-- The check blames a brace where the braces do not nest. -/
theorem exists_blamed
    (refused : ¬IsNested tokens) :
    ∃ place brace, tokens[place]? = some brace ∧ Blames tokens place brace := by
  rw [← balanced_iff_isNested, ← imbalance?_eq_none_iff] at refused
  obtain ⟨imbalance, blamed⟩ := Option.ne_none_iff_exists'.mp refused
  cases imbalance with
  | stray closer =>
      obtain ⟨before, after, rfl, closes, balanced⟩ := imbalance?_eq_stray_iff.mp blamed
      have isCloser : (before ++ closer :: after)[before.length]? = some closer := by
        simp
      refine ⟨before.length, closer, isCloser, .stray ?_ (by simp [checkBalance, blamed])⟩
      exact (isFirstStray_iff isCloser).mpr ⟨closes, by rwa [List.take_left]⟩
  | unclosed opener =>
      obtain ⟨noStray, before, after, rfl, opens, balanced⟩ :=
        imbalance?_eq_unclosed_iff.mp blamed
      have isOpener : (before ++ opener :: after)[before.length]? = some opener := by
        simp
      refine ⟨before.length, opener, isOpener, .unclosed ?_ (by simp [checkBalance, blamed])⟩
      exact (isLastUnclosed_iff isOpener).mpr ⟨noStray, opens, by simpa using balanced⟩

end Blame

/-! ### Blocks -/

section Blocks

variable {tokens : List Token}

/-- A capture closes the inner blocks that are open and then ends in front of a closing brace. -/
theorem behind_of_captureFrom
    {waiting body : List Token}
    (captured : captureFrom waiting.length tokens = some body) :
    ∃ closer behind,
      tokens = body ++ closer :: behind ∧
        closer.lexeme = .closeBrace ∧
        imbalanceFrom waiting body = none := by
  induction tokens generalizing waiting body with
  | nil =>
      simp [captureFrom] at captured
  | cons token rest inductionHypothesis =>
      by_cases opens : token.lexeme = .openBrace
      · have entered :
            captureFrom waiting.length (token :: rest) =
              (captureFrom (token :: waiting).length rest).map (token :: ·) := by
          simp [captureFrom, opens]
        rw [entered] at captured
        obtain ⟨inner, innerCaptured, rfl⟩ := Option.map_eq_some_iff.mp captured
        obtain ⟨closer, behind, rfl, closes, accepted⟩ := inductionHypothesis innerCaptured
        exact ⟨closer, behind, rfl, closes, by rwa [imbalanceFrom_open opens]⟩
      · by_cases closes : token.lexeme = .closeBrace
        · cases waiting with
          | nil =>
              simp only [captureFrom, closes, List.length_nil, Option.some.injEq] at captured
              subst captured
              exact ⟨token, rest, rfl, closes, rfl⟩
          | cons opener outer =>
              simp only [captureFrom, closes, List.length_cons] at captured
              obtain ⟨inner, innerCaptured, rfl⟩ := Option.map_eq_some_iff.mp captured
              obtain ⟨closer, behind, rfl, isCloser, accepted⟩ := inductionHypothesis innerCaptured
              exact ⟨closer, behind, rfl, isCloser, by rwa [imbalanceFrom_close closes]⟩
        · have passed :
              captureFrom waiting.length (token :: rest) =
                (captureFrom waiting.length rest).map (token :: ·) := by
            cases shape : token.lexeme <;> simp_all [captureFrom]
          rw [passed] at captured
          obtain ⟨inner, innerCaptured, rfl⟩ := Option.map_eq_some_iff.mp captured
          obtain ⟨closer, behind, rfl, isCloser, accepted⟩ := inductionHypothesis innerCaptured
          exact ⟨closer, behind, rfl, isCloser, by rwa [imbalanceFrom_plain opens closes]⟩

/-- A block is captured unless no closing brace behind its opening brace is left over for it. -/
theorem capture?_eq_none_iff :
    capture? tokens = none ↔ ¬∃ closer, imbalance? tokens = some (.stray closer) := by
  constructor
  · rintro failed ⟨closer, isStray⟩
    obtain ⟨body, behind, rfl, closes, balanced⟩ := imbalance?_eq_stray_iff.mp isStray
    rw [capture?_balanced balanced closes] at failed
    cases failed
  · intro noStray
    refine Option.eq_none_iff_forall_ne_some.mpr fun body captured => noStray ?_
    obtain ⟨closer, behind, shape, closes, accepted⟩ := @behind_of_captureFrom _ [] _ captured
    exact ⟨closer, imbalance?_eq_stray_iff.mpr
      ⟨body, behind, shape, closes, imbalance?_eq_none_iff.mp accepted⟩⟩

/-- Evaluation pushes a block as a whole and goes on behind its closing brace. -/
theorem Evaluation.run_block
    {opener closer : Token}
    {body : List Token}
    (opens : opener.lexeme = .openBrace)
    (balanced : Balanced body)
    (closes : closer.lexeme = .closeBrace)
    (frames : Nat)
    (behind : List Token)
    (machine : Machine) :
    run (frames + 4) (opener :: (body ++ closer :: behind)) machine =
      run (frames + 4) behind (machine.push (.block body)) := by
  rw [run, Instruction.ofTokens_block opens balanced closes]
  rfl

/-- Evaluation fails at an opening brace whose block is not captured. -/
theorem Evaluation.run_unclosed
    {opener : Token}
    {rest : List Token}
    (opens : opener.lexeme = .openBrace)
    (failed : capture? rest = none)
    (frames : Nat)
    (machine : Machine) :
    run (frames + 4) (opener :: rest) machine =
      ⟨machine, some (Error.atToken opener .unclosedBlock)⟩ := by
  rw [run, Instruction.ofTokens_eq_takeFirst]
  simp [Instruction.takeFirst, opens, failed, execute, step]

/-- A block between partners is taken as a whole by the capture, by evaluation and by the index. -/
structure IsBlock (tokens : List Token) (opening closing : Nat) : Prop where
  captured :
    capture? (tokens.drop (opening + 1)) = some (between tokens opening closing)
  skipped :
    (tokens.drop (opening + 1)).drop (Index.blockSize 0 (tokens.drop (opening + 1))) =
      tokens.drop (closing + 1)
  pushed :
    ∀ frames machine,
      Evaluation.run (frames + 4) (tokens.drop opening) machine =
        Evaluation.run (frames + 4) (tokens.drop (closing + 1))
          (machine.push (.block (between tokens opening closing)))
  walked :
    ∀ operands,
      Index.assignments 0 operands (tokens.drop opening) =
        Index.assignments 0 (.block :: operands) (tokens.drop (closing + 1))

section Partnered

variable {opening : Nat} {opener : Token}

theorem drop_eq_cons_of_getElem?
    (isOpener : tokens[opening]? = some opener) :
    tokens.drop opening = opener :: tokens.drop (opening + 1) := by
  obtain ⟨within, rfl⟩ := List.getElem?_eq_some_iff.mp isOpener
  exact List.drop_eq_getElem_cons within

theorem Matching.isBlock
    {closing : Nat}
    (matching : Matching tokens opening closing) :
    IsBlock tokens opening closing := by
  obtain ⟨opener, isOpener, opens⟩ := Option.map_eq_some_iff.mp matching.opens
  obtain ⟨closer, closes, shape⟩ := matching.behind
  have fromOpener := drop_eq_cons_of_getElem? isOpener
  have balanced := balanced_iff_isNested.mpr matching.nested
  have skips := Index.drop_blockSize balanced closes (tokens.drop (closing + 1))
  rw [shape] at fromOpener
  refine ⟨?_, by rw [shape, skips], fun frames machine => ?_, fun operands => ?_⟩
  · rw [shape]
    exact capture?_balanced balanced closes _
  · rw [fromOpener]
    exact Evaluation.run_block opens balanced closes frames _ machine
  · rw [fromOpener, Index.assignments_open opens, skips]

/-- A block is not captured exactly where its opening brace has no partner. -/
theorem alone_iff
    (isOpener : tokens[opening]? = some opener)
    (opens : opener.lexeme = .openBrace) :
    (∀ closing, ¬Matching tokens opening closing) ↔
      capture? (tokens.drop (opening + 1)) = none := by
  rw [capture?_eq_none_iff, ← exists_closing_iff isOpener opens, not_exists]

end Partnered

end Blocks

/--
The check accepts exactly the token lists whose braces form a Dyck word.  It blames the first
closing brace without a partner, or, if each has one, the last opening brace without a partner.
From an opening brace with a partner the capture takes what stands between the two, and evaluation
and index both go on directly behind the partner; without a partner evaluation fails at the opening
brace.
-/
theorem brace_matchers_agree
    (tokens : List Token) :
    (checkBalance tokens = .ok () ↔ IsNested tokens) ∧
      (¬IsNested tokens →
        ∃ place brace, tokens[place]? = some brace ∧ Blames tokens place brace) ∧
      ∀ opening opener,
        tokens[opening]? = some opener →
          opener.lexeme = .openBrace →
            (∀ closing, Matching tokens opening closing → IsBlock tokens opening closing) ∧
              ((∀ closing, ¬Matching tokens opening closing) ↔
                capture? (tokens.drop (opening + 1)) = none) ∧
              ((∀ closing, ¬Matching tokens opening closing) →
                ∀ frames machine,
                  Evaluation.run (frames + 4) (tokens.drop opening) machine =
                    ⟨machine, some (Error.atToken opener .unclosedBlock)⟩) := by
  refine ⟨checkBalance_eq_ok_iff, exists_blamed, ?_⟩
  intro opening opener isOpener opens
  refine ⟨fun closing => Matching.isBlock, alone_iff isOpener opens, ?_⟩
  intro alone frames machine
  rw [drop_eq_cons_of_getElem? isOpener]
  exact Evaluation.run_unclosed opens ((alone_iff isOpener opens).mp alone) frames machine

/-- Two blocks, one inside the other, then a stray closing brace and a block that is not closed. -/
def braceSample : List Token :=
  (lex "\x7b a \x7b b \x7d \x7d \x7d \x7b c").tokens

/-- A brace is blamed as stray, the outer block is taken, and the last opening brace is alone. -/
theorem brace_matchers_agree_sample :
    (∃ place, IsFirstStray braceSample place) ∧
      IsBlock braceSample 0 5 ∧
      ∀ closing, ¬Matching braceSample 7 closing := by
  obtain ⟨accepts, refuses, blocks⟩ := brace_matchers_agree braceSample
  have isMatching : Matching braceSample 0 5 :=
    ⟨by decide +kernel, by decide +kernel, by decide,
      balanced_iff_isNested.mp (imbalance?_eq_none_iff.mp (by decide +kernel))⟩
  have isStray :
      imbalance? braceSample = some (.stray (braceSample.get ⟨6, by decide +kernel⟩)) := by
    decide +kernel
  have refused : ¬IsNested braceSample := by
    rw [← accepts]
    simp [checkBalance, isStray]
  refine ⟨?_, (blocks 0 _ rfl (by decide +kernel)).1 5 isMatching,
    (blocks 7 _ rfl (by decide +kernel)).2.1.mpr (by decide +kernel)⟩
  obtain ⟨place, brace, _, ⟨isFirst, _⟩ | ⟨_, reported⟩⟩ := refuses refused
  · exact ⟨place, isFirst⟩
  · simp [checkBalance, isStray, Error.atToken] at reported

end StackScript
