import Mathlib.Data.Nat.Log
import Mathlib.Tactic.Ring
import StackScript.Number.Shortest

namespace StackScript.Number

/-!
# Nearest patterns

The pattern nearest to a quotient depends on the value of the quotient only, and the units of a
pattern are nearest to that pattern itself.  A decimal number that is far out of range is decided
without its power of ten, with the same result.  So the nearest pattern of a decimal number depends
on its value only: zeros at the end of its digits may be moved into the exponent and back.

The shortest decimal of a pattern is searched for on coarse grids first, and every candidate is
tried before it is taken.  If none succeeds the exact expansion is taken.  Either reads back as the
pattern, and the zeros that are dropped at the end change nothing.
-/

section Quotients

variable {numerator denominator : Nat}

theorem binadeSize_eq : binadeSize = 2 ^ 52 := by
  decide

theorem infinityBits_eq : infinityBits = 2047 * binadeSize := by
  decide

theorem unitsPerOne_eq : unitsPerOne = 2 ^ unitPlaces := by
  unfold unitsPerOne
  generalize unitPlaces = places
  rfl

theorem roundDiv_scale
    {factor : Nat}
    (positive : 0 < factor)
    (numerator denominator : Nat) :
    roundDiv (factor * numerator) (factor * denominator) = roundDiv numerator denominator := by
  have twice_scale (rest : Nat) : 2 * (factor * rest) = factor * (2 * rest) := by
    ring
  simp only [roundDiv, Nat.mul_div_mul_left _ _ positive, Nat.mul_mod_mul_left, twice_scale,
    Nat.mul_lt_mul_left positive]

/-- The nearest pattern is that of the value of a quotient. -/
theorem bitsOfUnits_scale
    {factor : Nat}
    (positive : 0 < factor)
    (numerator denominator : Nat) :
    bitsOfUnits (factor * numerator) (factor * denominator) =
      bitsOfUnits numerator denominator := by
  simp only [bitsOfUnits, Nat.mul_div_mul_left _ _ positive, Nat.mul_assoc,
    roundDiv_scale positive]

theorem roundDiv_mul_right
    (positive : 0 < denominator)
    (quotient : Nat) :
    roundDiv (quotient * denominator) denominator = quotient := by
  simp [roundDiv, Nat.mul_div_cancel _ positive, positive]

/-- A value below half a unit is nearest to zero. -/
theorem bitsOfUnits_eq_zero
    (tiny : 2 * numerator < denominator) :
    bitsOfUnits numerator denominator = 0 := by
  have below : numerator < denominator := by
    omega
  have rounded : roundDiv numerator denominator = 0 := by
    simp only [roundDiv, Nat.div_eq_of_lt below, Nat.mod_eq_of_lt below]
    rw [if_pos tiny]
  have noDoubling : (numerator / denominator).log2 - 52 = 0 := by
    rw [Nat.div_eq_of_lt below]
    rfl
  simp only [bitsOfUnits, noDoubling]
  simp [rounded]

/-- A value far beyond the greatest finite number is nearest to infinity. -/
theorem bitsOfUnits_eq_infinityBits
    {power : Nat}
    (large : 2099 ≤ power)
    (huge : 2 ^ power ≤ numerator / denominator) :
    bitsOfUnits numerator denominator = infinityBits := by
  have many : 2047 ≤ (numerator / denominator).log2 - 52 := by
    have positive : numerator / denominator ≠ 0 :=
      (Nat.lt_of_lt_of_le (Nat.two_pow_pos power) huge).ne'
    have := (Nat.le_log2 positive).mpr huge
    omega
  have above : infinityBits ≤ ((numerator / denominator).log2 - 52) * binadeSize := by
    rw [infinityBits_eq]
    exact Nat.mul_le_mul_right _ many
  exact Nat.min_eq_left (Nat.le_trans above (Nat.le_add_right _ _))

end Quotients

/-- The significand of a pattern: the units that are doubled once for each binade. -/
def significand (bits : Nat) : Nat :=
  bits - binade bits * binadeSize

theorem unitsOfBits_eq
    (bits : Nat) :
    unitsOfBits bits = significand bits * 2 ^ binade bits :=
  rfl

theorem binade_mul_add_significand
    (bits : Nat) :
    binade bits * binadeSize + significand bits = bits := by
  have below : binade bits * binadeSize ≤ bits :=
    Nat.le_trans (Nat.mul_le_mul_right _ (Nat.sub_le _ _)) (Nat.div_mul_le_self _ _)
  exact Nat.add_sub_cancel' below

theorem significand_lt
    (bits : Nat) :
    significand bits < 2 * binadeSize := by
  have shape := binade_mul_add_significand bits
  have divided := Nat.div_add_mod bits binadeSize
  have inBinade := Nat.mod_lt bits (show 0 < binadeSize by decide)
  simp only [binade, binadeSize] at *
  omega

theorem le_significand
    {bits : Nat}
    (doubled : binade bits ≠ 0) :
    binadeSize ≤ significand bits := by
  have shape := binade_mul_add_significand bits
  have divided := Nat.div_add_mod bits binadeSize
  simp only [binade, binadeSize] at *
  omega

/-- The units of a pattern fill as many doublings as its binade counts. -/
theorem log2_unitsOfBits
    (bits : Nat) :
    (unitsOfBits bits).log2 - 52 = binade bits := by
  rw [unitsOfBits_eq]
  have most := significand_lt bits
  rw [binadeSize_eq] at most
  by_cases doubled : binade bits = 0
  · rw [doubled, pow_zero, Nat.mul_one, Nat.sub_eq_zero_iff_le]
    by_cases isZero : significand bits = 0
    · simp [isZero]
    · exact Nat.le_of_lt_succ ((Nat.log2_lt isZero).mpr (by omega))
  · have least := le_significand doubled
    rw [binadeSize_eq] at least
    have positive : significand bits * 2 ^ binade bits ≠ 0 :=
      Nat.mul_ne_zero (by omega) (Nat.two_pow_pos _).ne'
    have isLog : (significand bits * 2 ^ binade bits).log2 = 52 + binade bits := by
      rw [Nat.log2_eq_iff positive, Nat.add_right_comm, pow_add, pow_add]
      exact ⟨Nat.mul_le_mul_right _ least,
        Nat.mul_lt_mul_of_pos_right (by omega) (Nat.two_pow_pos _)⟩
    rw [isLog, Nat.add_sub_cancel_left]

/-- The units of a pattern are nearest to the pattern. -/
theorem bitsOfUnits_unitsOfBits
    {bits : Nat}
    (inRange : bits ≤ infinityBits) :
    bitsOfUnits (unitsOfBits bits) 1 = bits := by
  have rounded : roundDiv (unitsOfBits bits) (1 * 2 ^ binade bits) = significand bits := by
    rw [unitsOfBits_eq, Nat.one_mul]
    exact roundDiv_mul_right (Nat.two_pow_pos _) _
  simp only [bitsOfUnits, Nat.div_one, log2_unitsOfBits, Nat.pow_eq, rounded,
    binade_mul_add_significand]
  exact Nat.min_eq_right inRange

/-- Powers of ten outgrow powers of eight. -/
theorem two_pow_le_ten_pow
    (power : Nat) :
    2 ^ (3 * power) ≤ 10 ^ power := by
  rw [pow_mul]
  exact Nat.pow_le_pow_left (by decide) power

namespace Decimal

/-- A decimal number as a quotient of whole numbers. -/
def ratio (digits : Nat) (exponent : Int) : Nat × Nat :=
  match exponent with
  | .ofNat power =>
      (digits * Nat.pow 10 power, 1)
  | .negSucc power =>
      (digits, Nat.pow 10 (power + 1))

/-- Beyond the range that is computed, the quotient is nearest to infinity as well. -/
theorem bitsOfRatio_of_large
    {digits : Nat}
    (positive : digits ≠ 0)
    {exponent : Int}
    (large : 400 < exponent) :
    bitsOfRatio (ratio digits exponent).1 (ratio digits exponent).2 = infinityBits := by
  obtain ⟨power, rfl⟩ := Int.eq_ofNat_of_zero_le (show 0 ≤ exponent by omega)
  have places : unitPlaces = 1074 := rfl
  have isRatio : ratio digits power = (digits * 10 ^ power, 1) := rfl
  refine bitsOfUnits_eq_infinityBits (show 2099 ≤ 3 * power + unitPlaces by omega) ?_
  rw [isRatio, Nat.div_one, unitsPerOne_eq]
  calc 2 ^ (3 * power + unitPlaces)
      = 2 ^ (3 * power) * 2 ^ unitPlaces := pow_add _ _ _
    _ ≤ 10 ^ power * 2 ^ unitPlaces := Nat.mul_le_mul_right _ (two_pow_le_ten_pow power)
    _ ≤ digits * 10 ^ power * 2 ^ unitPlaces :=
        Nat.mul_le_mul_right _ (Nat.le_mul_of_pos_left _ (Nat.pos_of_ne_zero positive))

/-- Below the range that is computed, the quotient is nearest to zero as well. -/
theorem bitsOfRatio_of_small
    {digits : Nat}
    {exponent : Int}
    (small : exponent + digits.log2 + 401 < 0) :
    bitsOfRatio (ratio digits exponent).1 (ratio digits exponent).2 = 0 := by
  obtain ⟨power, rfl⟩ := Int.eq_negSucc_of_lt_zero (show exponent < 0 by omega)
  have places : unitPlaces = 1074 := rfl
  have isRatio : ratio digits (.negSucc power) = (digits, 10 ^ (power + 1)) := rfl
  have most := Nat.mul_lt_mul_of_pos_right (Nat.lt_log2_self (n := digits))
    (Nat.two_pow_pos unitPlaces)
  refine bitsOfUnits_eq_zero ?_
  rw [isRatio, unitsPerOne_eq]
  calc 2 * (digits * 2 ^ unitPlaces)
      < 2 * (2 ^ (digits.log2 + 1) * 2 ^ unitPlaces) := by omega
    _ = 2 ^ (digits.log2 + 1 + unitPlaces + 1) := by
        rw [← pow_add, ← pow_succ']
    _ ≤ 2 ^ (3 * (power + 1)) := Nat.pow_le_pow_right (by decide) (by omega)
    _ ≤ 10 ^ (power + 1) := two_pow_le_ten_pow _

/-- The nearest pattern of a decimal number is that of its value. -/
theorem bitsOf_eq_bitsOfRatio
    (digits : Nat)
    (exponent : Int) :
    bitsOf digits exponent = bitsOfRatio (ratio digits exponent).1 (ratio digits exponent).2 := by
  unfold bitsOf
  split
  · next isZero =>
    subst isZero
    refine (bitsOfUnits_eq_zero ?_).symm
    cases exponent <;> simp [ratio]
  · next positive =>
    split
    · next large =>
      exact (bitsOfRatio_of_large positive large).symm
    · split
      · next small =>
        exact (bitsOfRatio_of_small small).symm
      · cases exponent <;> rfl

/-- A zero at the end of the digits may be moved into the exponent. -/
theorem bitsOf_mul_ten
    (digits : Nat)
    (exponent : Int) :
    bitsOf (digits * 10) exponent = bitsOf digits (exponent + 1) := by
  have lowered (numerator denominator : Nat) :
      bitsOfRatio (numerator * 10) (denominator * 10) = bitsOfRatio numerator denominator := by
    rw [bitsOfRatio, bitsOfRatio, Nat.mul_comm numerator, Nat.mul_comm denominator, Nat.mul_assoc]
    exact bitsOfUnits_scale (by decide) _ _
  rw [bitsOf_eq_bitsOfRatio, bitsOf_eq_bitsOfRatio]
  match exponent with
  | .ofNat power =>
      change bitsOfRatio (digits * 10 * 10 ^ power) 1 = bitsOfRatio (digits * 10 ^ (power + 1)) 1
      rw [pow_succ', Nat.mul_assoc]
  | .negSucc 0 =>
      change bitsOfRatio (digits * 10) (1 * 10) = bitsOfRatio (digits * 1) 1
      rw [lowered, Nat.mul_one]
  | .negSucc (power + 1) =>
      exact lowered digits (10 ^ (power + 1))

/-- Zeros at the end of the digits may be moved into the exponent. -/
theorem bitsOf_mul_ten_pow
    (digits count : Nat)
    (exponent : Int) :
    bitsOf (digits * 10 ^ count) exponent = bitsOf digits (exponent + count) := by
  induction count generalizing exponent with
  | zero =>
      simp
  | succ count inductionHypothesis =>
      rw [pow_succ, ← Nat.mul_assoc, bitsOf_mul_ten, inductionHypothesis]
      congr 1
      omega

end Decimal

/-- A candidate is taken only if it reads back. -/
theorem bitsOf_of_neighbour?
    {bits : Nat}
    {step : Int}
    {scaled : Scaled}
    (found : neighbour? bits step = some scaled) :
    Decimal.bitsOf scaled.1 scaled.2 = bits := by
  simp only [neighbour?] at found
  split at found
  · next belowReads _ =>
    cases found
    exact beq_iff_eq.mp belowReads
  · next _ aboveReads =>
    cases found
    exact beq_iff_eq.mp aboveReads
  · next belowReads aboveReads =>
    split at found
    · cases found
      exact beq_iff_eq.mp belowReads
    · cases found
      exact beq_iff_eq.mp aboveReads
  · cases found

/-- The exact expansion of a pattern reads back. -/
theorem bitsOf_exactDecimal
    {bits : Nat}
    (inRange : bits ≤ infinityBits) :
    Decimal.bitsOf (exactDecimal bits).1 (exactDecimal bits).2 = bits := by
  obtain ⟨places, isSucc⟩ : ∃ places, unitPlaces = places + 1 := ⟨1073, rfl⟩
  have tens (units : Nat) :
      units * 5 ^ (places + 1) * 2 ^ (places + 1) = 10 ^ (places + 1) * units := by
    rw [Nat.mul_assoc, ← mul_pow, Nat.mul_comm, show 5 * 2 = 10 from rfl]
  rw [Decimal.bitsOf_eq_bitsOfRatio, exactDecimal, isSucc]
  change bitsOfUnits (unitsOfBits bits * 5 ^ (places + 1) * unitsPerOne) (10 ^ (places + 1)) = bits
  rw [unitsPerOne_eq, isSucc, tens, ← Nat.mul_one (10 ^ (places + 1)), Nat.mul_assoc, Nat.one_mul,
    bitsOfUnits_scale (Nat.pow_pos (by decide)), bitsOfUnits_unitsOfBits inRange]

theorem bitsOf_dropZeros
    (fuel : Nat)
    (scaled : Scaled) :
    Decimal.bitsOf (dropZeros fuel scaled).1 (dropZeros fuel scaled).2 =
      Decimal.bitsOf scaled.1 scaled.2 := by
  induction fuel generalizing scaled with
  | zero =>
      rfl
  | succ fuel inductionHypothesis =>
      rw [dropZeros]
      split
      · next endsInZero =>
        have isTen : scaled.1 / 10 * 10 = scaled.1 :=
          Nat.div_mul_cancel (Nat.dvd_of_mod_eq_zero endsInZero)
        rw [inductionHypothesis, ← Decimal.bitsOf_mul_ten, isTen]
      · rfl

/-- The shortest decimal of a pattern reads back. -/
theorem bitsOf_shortest
    {bits : Nat}
    (inRange : bits ≤ infinityBits) :
    Decimal.bitsOf (shortest bits).1 (shortest bits).2 = bits := by
  rw [shortest, bitsOf_dropZeros]
  generalize isFound : List.findSome? _ _ = found
  cases found with
  | none =>
      exact bitsOf_exactDecimal inRange
  | some scaled =>
      obtain ⟨more, _, taken⟩ := List.exists_of_findSome?_eq_some isFound
      exact bitsOf_of_neighbour? taken

end StackScript.Number
