import Mathlib.Algebra.Order.Ring.Abs
import ScriptFront.Proofs.Number.Rounding

/-!
# Nearest floats

The rank that is computed for a quotient is that of a nearest magnitude. The quotient
lies between the magnitude of some rank and that of the next one, and is compared with
the point half way between the two. Half way it goes to the even rank. So it is beyond
the finite magnitudes from the half way point above the greatest of them on, because the
rank of that one is odd.
-/

namespace ScriptFront

namespace Binary64

/-- A turn of ranks begins and ends with its spacing times a power of two, and the size of
every rank in it is a multiple of that spacing. -/
theorem units_multiple {multiple : Nat} (least : Nat.pow 2 52 ≤ multiple)
    (most : multiple ≤ 2 * Nat.pow 2 52) (turn : Nat) :
    units (turn * Nat.pow 2 52 + multiple) = multiple * Nat.pow 2 turn := by
  have turned := units_turn
  have positive : 0 < Nat.pow 2 52 := Nat.pow_pos Nat.zero_lt_two
  generalize Nat.pow 2 52 = count at least most turned positive ⊢
  obtain ⟨place, rfl⟩ := Nat.exists_eq_add_of_le least
  rcases Nat.lt_or_ge place count with inside | ended
  · have same : turn * count + (count + place) = count * (turn + 1) + place := by ring
    rw [same, turned turn place inside]
  · -- The end of a turn is the beginning of the next one.
    obtain rfl : place = count := by omega
    have same : turn * place + (place + place) = place * (turn + 1 + 1) + 0 := by ring
    rw [same, turned (turn + 1) 0 positive, Nat.pow_eq, Nat.pow_eq, pow_succ]
    ring

/-- The first two turns of ranks have the sizes of their ranks. -/
theorem units_of_le {rank : Nat} (small : rank ≤ 2 * Nat.pow 2 52) : units rank = rank := by
  rcases Nat.lt_or_ge rank (Nat.pow 2 52) with first | second
  · exact if_pos first
  · simpa using units_multiple second small 0

/-- The first 53 bits of a number that has more of them. -/
theorem leading_bits {count : Nat} (large : 2 * Nat.pow 2 52 ≤ count) :
    Nat.pow 2 52 ≤ count / 2 ^ (count.log2 - 52) ∧
      count / 2 ^ (count.log2 - 52) + 1 ≤ 2 * Nat.pow 2 52 := by
  have positive : 0 < Nat.pow 2 52 := Nat.pow_pos Nat.zero_lt_two
  have filled : count ≠ 0 := by omega
  have long : 52 ≤ count.log2 := (Nat.le_log2 filled).mpr (Nat.le_trans (by decide) large)
  obtain ⟨later, bits⟩ := Nat.exists_eq_add_of_le long
  have lower := Nat.log2_self_le filled
  have upper : count < 2 ^ (count.log2 + 1) := Nat.lt_log2_self
  rw [bits, Nat.add_sub_cancel_left]
  rw [bits, Nat.pow_add] at lower
  rw [bits, Nat.add_right_comm, Nat.pow_add, Nat.pow_succ'] at upper
  constructor
  · exact (Nat.le_div_iff_mul_le (Nat.two_pow_pos later)).mpr lower
  · exact (Nat.div_lt_iff_lt_mul (Nat.two_pow_pos later)).mpr upper

/-- The rank within a number of units is the greatest one of at most that size. -/
theorem rankWithin_between (count : Nat) :
    units (rankWithin count) ≤ count ∧ count < units (rankWithin count + 1) := by
  unfold rankWithin
  have doubled : Nat.pow 2 53 = 2 * Nat.pow 2 52 := by decide
  rw [doubled, Nat.shiftRight_eq_div_pow]
  split
  · next small =>
    rw [units_of_le (Nat.le_of_lt small), units_of_le small]
    omega
  · next large =>
    obtain ⟨least, most⟩ := leading_bits (Nat.le_of_not_lt large)
    rw [Nat.add_assoc, units_multiple least (by omega), units_multiple (by omega) most]
    exact ⟨Nat.div_mul_le_self _ _, Nat.lt_mul_of_div_lt (Nat.lt_succ_self _) (Nat.two_pow_pos _)⟩

/-- The rank nearest to a quotient has the quotient between the half way points to its
neighbours, and on one of these only if it is even. -/
theorem nearestRank_between {numerator denominator rank : Nat} (positive : 0 < denominator)
    (nearest : nearestRank numerator denominator = rank) :
    if rank % 2 = 0 then
      (units (rank - 1) + units rank) * denominator ≤ 2 * (numerator * Nat.pow 2 1074) ∧
        2 * (numerator * Nat.pow 2 1074) ≤ (units rank + units (rank + 1)) * denominator
    else
      (units (rank - 1) + units rank) * denominator < 2 * (numerator * Nat.pow 2 1074) ∧
        2 * (numerator * Nat.pow 2 1074) < (units rank + units (rank + 1)) * denominator := by
  unfold nearestRank at nearest
  generalize numerator * Nat.pow 2 1074 = amount at nearest ⊢
  obtain ⟨least, most⟩ := rankWithin_between (amount / denominator)
  generalize rankWithin (amount / denominator) = below at nearest least most
  rw [Nat.le_div_iff_mul_le positive] at least
  rw [Nat.div_lt_iff_lt_mul positive] at most
  have before : units (below - 1) * denominator ≤ units below * denominator :=
    Nat.mul_le_mul_right _ (units_strictMono.monotone (Nat.sub_le below 1))
  have beforeOdd : below % 2 = 1 → units (below - 1) * denominator < units below * denominator :=
    fun odd => Nat.mul_lt_mul_of_pos_right (units_strictMono (by omega)) positive
  have after : units (below + 1) * denominator < units (below + 1 + 1) * denominator :=
    Nat.mul_lt_mul_of_pos_right (units_strictMono (Nat.lt_succ_self _)) positive
  simp only [Nat.mul_comm denominator, Nat.add_mul] at nearest ⊢
  -- The quotient is compared with the half way point above the rank below it.
  split at nearest
  · subst nearest
    split <;> omega
  · split at nearest
    · subst nearest
      rw [Nat.add_sub_cancel]
      split <;> omega
    · split at nearest
      · subst nearest
        split <;> omega
      · subst nearest
        rw [Nat.add_sub_cancel]
        split <;> omega

end Binary64

namespace Decimal

open Binary64

theorem halfUnits_eq (decimal : Decimal) : decimal.halfUnits = 2 * decimal.value * 2 ^ 1074 := by
  have cast : ∀ count, ((Nat.pow 2 count : ℕ) : ℚ) = 2 ^ count := by simp
  simp only [halfUnits, cast]

/-- A decimal rounds to the rank that is nearest to it. -/
theorem roundsTo_nearestRank (decimal : Decimal) :
    decimal.roundsTo (nearestRank (decimal.significand * Nat.pow 10 decimal.exponent.toNat)
      (Nat.pow 10 (-decimal.exponent).toNat)) = true := by
  have positive : 0 < Nat.pow 10 (-decimal.exponent).toNat := Nat.pow_pos (by decide)
  generalize nearest : nearestRank _ _ = rank
  have between := nearestRank_between positive nearest
  simp only [roundsTo]
  by_cases even : rank % 2 = 0
  · rw [if_pos even] at between ⊢
    simpa only [Bool.and_eq_true, decide_eq_true_eq] using between
  · rw [if_neg even] at between ⊢
    simpa only [Bool.and_eq_true, decide_eq_true_eq] using between

/-- A decimal that rounds to a rank is below the half way point under an even rank exactly if
its own rank is. -/
theorem rank_lt_iff {decimal : Decimal} {rank bound : Nat} (rounds : decimal.roundsTo rank = true)
    (positive : 0 < bound) (even : bound % 2 = 0) :
    rank < bound ↔ decimal.halfUnits < (units (bound - 1) + units bound : ℕ) := by
  constructor
  · intro less
    rcases Nat.lt_or_ge (rank + 1) bound with distant | next
    · have first : units rank < units (bound - 1) := units_strictMono (by omega)
      have second : units (rank + 1) < units bound := units_strictMono distant
      refine lt_of_le_of_lt (between_of_roundsTo rounds).2 (Nat.cast_lt.mpr ?_)
      omega
    · -- The rank just below an even one is odd, so the half way point does not round to it.
      obtain rfl : bound = rank + 1 := by omega
      rw [roundsTo_iff, if_neg (by omega)] at rounds
      exact rounds.2
  · contrapose!
    intro least
    have first : units (bound - 1) ≤ units (rank - 1) := units_strictMono.monotone (by omega)
    have second : units bound ≤ units rank := units_strictMono.monotone least
    exact le_trans (Nat.cast_le.mpr (by omega)) (between_of_roundsTo rounds).1

/-- The half way point under the first rank beyond the finite magnitudes. -/
theorem units_magnitudeCount :
    ((units (magnitudeCount - 1) + units magnitudeCount : ℕ) : ℚ) =
      2 * (2 ^ 1024 - 2 ^ 970) * 2 ^ 1074 := by
  have last : magnitudeCount - 1 = 2045 * Nat.pow 2 52 + (2 * Nat.pow 2 52 - 1) := rfl
  have beyond : magnitudeCount = 2045 * Nat.pow 2 52 + 2 * Nat.pow 2 52 := rfl
  have cast : ∀ count, ((Nat.pow 2 count : ℕ) : ℚ) = 2 ^ count := by simp
  have greatest : (2 : ℚ) ^ 1024 = 2 ^ 54 * 2 ^ 970 := pow_add 2 54 970
  have spacing : (2 : ℚ) ^ 2045 = 2 * 2 ^ 970 * 2 ^ 1074 := by rw [← pow_succ', ← pow_add]
  rw [last, units_multiple (by decide) (by decide), beyond,
    units_multiple (by decide) (by decide)]
  simp only [Nat.cast_add, Nat.cast_mul, cast, greatest, spacing]
  generalize (2 : ℚ) ^ 970 = low
  generalize (2 : ℚ) ^ 1074 = unit
  norm_num
  ring

/-- A decimal rounds to a finite magnitude exactly below the half way point above the greatest
one. -/
theorem rank_lt_magnitudeCount_iff {decimal : Decimal} {rank : Nat}
    (rounds : decimal.roundsTo rank = true) :
    rank < magnitudeCount ↔ decimal.value < 2 ^ 1024 - 2 ^ 970 := by
  have scale : (0 : ℚ) < 2 ^ 1074 := by positivity
  rw [rank_lt_iff rounds (by decide) (by decide), units_magnitudeCount, halfUnits_eq,
    mul_lt_mul_iff_left₀ scale]
  exact mul_lt_mul_iff_right₀ two_pos

end Decimal

section Distance

variable {lower upper number : ℚ} (less : lower < upper)

include less

/-- From half way on a number is at least as near to the greater one of two. -/
theorem abs_sub_upper_le_iff :
    |number - upper| ≤ |number - lower| ↔ lower + upper ≤ 2 * number := by
  rw [← sq_le_sq]
  constructor <;> intro _ <;> nlinarith

/-- Up to half way a number is at least as near to the lesser one of two. -/
theorem abs_sub_lower_le_iff :
    |number - lower| ≤ |number - upper| ↔ 2 * number ≤ lower + upper := by
  rw [← sq_le_sq]
  constructor <;> intro _ <;> nlinarith

end Distance

namespace Binary64.Magnitude

open Decimal

/-- The number a magnitude stands for. -/
def value (magnitude : Magnitude) : ℚ :=
  units magnitude.rank / 2 ^ 1074

/-- A magnitude nearest to a number: no other one is nearer, and only if this one is even
another one may be as near. -/
structure IsNearest (magnitude : Magnitude) (number : ℚ) : Prop where
  nearest : ∀ other : Magnitude, |number - magnitude.value| ≤ |number - other.value|
  even : ∀ other : Magnitude, other ≠ magnitude →
    |number - other.value| = |number - magnitude.value| → magnitude.rank % 2 = 0

variable {magnitude other : Magnitude} {decimal : Decimal}

/-- A greater rank stands for a greater number. -/
theorem value_lt (less : other.rank < magnitude.rank) : other.value < magnitude.value :=
  div_lt_div_of_pos_right (Nat.cast_lt.mpr (units_strictMono less)) (by positivity)

/-- The sum of two magnitudes and twice a decimal, in half units. -/
theorem scaled_sum (other magnitude : Magnitude) (decimal : Decimal) :
    ∃ scale : ℚ, 0 < scale ∧
      (units other.rank + units magnitude.rank : ℕ) = (other.value + magnitude.value) * scale ∧
      decimal.halfUnits = 2 * decimal.value * scale := by
  have unit : (0 : ℚ) < 2 ^ 1074 := by positivity
  refine ⟨2 ^ 1074, unit, ?_, halfUnits_eq decimal⟩
  rw [value, value, Nat.cast_add, ← add_div, div_mul_cancel₀ _ unit.ne']

/-- The point half way between two magnitudes is compared with a decimal in half units. -/
theorem add_le_iff : other.value + magnitude.value ≤ 2 * decimal.value ↔
    ((units other.rank + units magnitude.rank : ℕ) : ℚ) ≤ decimal.halfUnits := by
  obtain ⟨scale, positive, sum, twice⟩ := scaled_sum other magnitude decimal
  rw [sum, twice, mul_le_mul_iff_left₀ positive]

/-- A decimal is compared with the point half way between two magnitudes in half units. -/
theorem le_add_iff : 2 * decimal.value ≤ other.value + magnitude.value ↔
    decimal.halfUnits ≤ (units other.rank + units magnitude.rank : ℕ) := by
  obtain ⟨scale, positive, sum, twice⟩ := scaled_sum other magnitude decimal
  rw [sum, twice, mul_le_mul_iff_left₀ positive]

/-- A decimal that rounds to the rank of a magnitude is at least as near to it as to a lesser
one, and nearer if the rank is odd. -/
theorem nearer_than_lesser (rounds : decimal.roundsTo magnitude.rank = true)
    (less : other.rank < magnitude.rank) :
    |decimal.value - magnitude.value| ≤ |decimal.value - other.value| ∧
      (|decimal.value - other.value| ≤ |decimal.value - magnitude.value| →
        magnitude.rank % 2 = 0) := by
  have first : units other.rank ≤ units (magnitude.rank - 1) :=
    units_strictMono.monotone (by omega)
  have sums : ((units other.rank + units magnitude.rank : ℕ) : ℚ) ≤
      (units (magnitude.rank - 1) + units magnitude.rank : ℕ) := Nat.cast_le.mpr (by omega)
  rw [abs_sub_upper_le_iff (value_lt less), abs_sub_lower_le_iff (value_lt less), add_le_iff,
    le_add_iff]
  refine ⟨sums.trans (between_of_roundsTo rounds).1, fun nearer => ?_⟩
  by_contra odd
  rw [roundsTo_iff, if_neg odd] at rounds
  exact absurd (rounds.1.trans_le (nearer.trans sums)) (lt_irrefl _)

/-- A decimal that rounds to the rank of a magnitude is at least as near to it as to a greater
one, and nearer if the rank is odd. -/
theorem nearer_than_greater (rounds : decimal.roundsTo magnitude.rank = true)
    (less : magnitude.rank < other.rank) :
    |decimal.value - magnitude.value| ≤ |decimal.value - other.value| ∧
      (|decimal.value - other.value| ≤ |decimal.value - magnitude.value| →
        magnitude.rank % 2 = 0) := by
  have second : units (magnitude.rank + 1) ≤ units other.rank := units_strictMono.monotone less
  have sums : ((units magnitude.rank + units (magnitude.rank + 1) : ℕ) : ℚ) ≤
      (units magnitude.rank + units other.rank : ℕ) := Nat.cast_le.mpr (by omega)
  rw [abs_sub_upper_le_iff (value_lt less), abs_sub_lower_le_iff (value_lt less), add_le_iff,
    le_add_iff]
  refine ⟨(between_of_roundsTo rounds).2.trans sums, fun nearer => ?_⟩
  by_contra odd
  rw [roundsTo_iff, if_neg odd] at rounds
  exact absurd (rounds.2.trans_le (sums.trans nearer)) (lt_irrefl _)

/-- A decimal that rounds to the rank of a magnitude has no nearer one. -/
theorem isNearest_of_roundsTo (rounds : decimal.roundsTo magnitude.rank = true) :
    magnitude.IsNearest decimal.value where
  nearest other := by
    rcases Nat.lt_trichotomy other.rank magnitude.rank with less | same | greater
    · exact (nearer_than_lesser rounds less).1
    · rw [value, value, same]
    · exact (nearer_than_greater rounds greater).1
  even other different distance := by
    rcases Nat.lt_trichotomy other.rank magnitude.rank with less | same | greater
    · exact (nearer_than_lesser rounds less).2 distance.le
    · cases magnitude
      cases other
      exact absurd (by simpa using same) different
    · exact (nearer_than_greater rounds greater).2 distance.le

end Binary64.Magnitude

/-- Reading a decimal as a float gives a nearest one, or an infinite one from the half way
point above the greatest magnitude on. -/
theorem Binary64.ofDecimal_nearest (negative : Bool) (decimal : Decimal) :
    (decimal.value < 2 ^ 1024 - 2 ^ 970 → ∃ magnitude : Magnitude,
      magnitude.IsNearest decimal.value ∧
        ofDecimal negative decimal.significand decimal.exponent = .finite negative magnitude) ∧
    (2 ^ 1024 - 2 ^ 970 ≤ decimal.value →
      ofDecimal negative decimal.significand decimal.exponent = .infinite negative) := by
  have rounds := decimal.roundsTo_nearestRank
  simp only [ofDecimal, nearest]
  constructor
  · intro inRange
    have bound := (Decimal.rank_lt_magnitudeCount_iff rounds).mpr inRange
    exact ⟨⟨_, bound⟩, Magnitude.isNearest_of_roundsTo rounds, dif_pos bound⟩
  · intro beyond
    refine dif_neg fun bound => ?_
    exact absurd ((Decimal.rank_lt_magnitudeCount_iff rounds).mp bound) (not_lt.mpr beyond)

end ScriptFront
