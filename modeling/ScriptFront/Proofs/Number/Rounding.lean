import Mathlib.Algebra.Order.Field.Power
import Mathlib.Algebra.Order.Field.Rat
import Mathlib.Tactic.FieldSimp
import Mathlib.Tactic.Linarith
import Mathlib.Tactic.Ring
import ScriptFront.Number.Shortest

/-!
# Rounding of shortest decimals

Every magnitude is told from the others by the shortest decimal that is written for it.
A decimal rounds to a rank if it lies between the half way points to the neighbouring
ranks. These ranges share no point but half way points, and of two neighbours only one
is even, so that a decimal rounds to one rank at most. The decimal written for a rank
rounds to it: on every grid this is asked, and on the finest one the magnitude itself is
a point.
-/

namespace ScriptFront

namespace Binary64

/-- The units of a rank, from the number of full turns below it and its place in the
turn. The spacing doubles after every turn but the first. -/
theorem units_turn (turn place : Nat) (inside : place < Nat.pow 2 52) :
    units (Nat.pow 2 52 * (turn + 1) + place) = (Nat.pow 2 52 + place) * Nat.pow 2 turn := by
  have positive : 0 < Nat.pow 2 52 := Nat.pow_pos Nat.zero_lt_two
  unfold units
  generalize Nat.pow 2 52 = count at inside positive ⊢
  have beyond : ¬ count * (turn + 1) + place < count := by
    rw [Nat.mul_succ]
    omega
  rw [if_neg beyond, Nat.mul_add_mod, Nat.mod_eq_of_lt inside, Nat.mul_add_div positive,
    Nat.div_eq_of_lt inside, Nat.add_zero, Nat.add_sub_cancel]

/-- Sizes that are their ranks at first, and then spaced twice as far after every turn but
the first, grow from rank to rank. -/
theorem lt_succ_of_turns {count : Nat} {size : Nat → Nat} (positive : 0 < count)
    (small : ∀ rank < count, size rank = rank)
    (turned : ∀ turn place, place < count →
      size (count * (turn + 1) + place) = (count + place) * Nat.pow 2 turn) (rank : Nat) :
    size rank < size (rank + 1) := by
  by_cases first : rank < count
  · rw [small rank first]
    by_cases next : rank + 1 < count
    · rw [small _ next]
      exact Nat.lt_succ_self rank
    · have same : rank + 1 = count * (0 + 1) + 0 := by omega
      rw [same, turned 0 0 positive]
      simpa using first
  · obtain ⟨turn, place, inside, rfl⟩ : ∃ turn place, place < count ∧
        rank = count * (turn + 1) + place := by
      refine ⟨rank / count - 1, rank % count, Nat.mod_lt _ positive, ?_⟩
      have full : 0 < rank / count := Nat.div_pos (Nat.le_of_not_lt first) positive
      rw [Nat.sub_add_cancel full, Nat.div_add_mod]
    have spaced : 0 < Nat.pow 2 turn := Nat.pow_pos Nat.zero_lt_two
    rw [turned turn place inside]
    by_cases next : place + 1 < count
    · rw [Nat.add_assoc, turned turn (place + 1) next]
      exact Nat.mul_lt_mul_of_pos_right (by omega) spaced
    · -- The turn ends here, and the spacing doubles.
      have ended : place + 1 = count := by omega
      have same : count * (turn + 1) + place + 1 = count * (turn + 1 + 1) + 0 := by
        rw [Nat.add_assoc, ended]
        exact (Nat.mul_succ ..).symm
      have doubled : Nat.pow 2 (turn + 1) = 2 * Nat.pow 2 turn := by
        rw [Nat.pow_eq, Nat.pow_eq, pow_succ, mul_comm]
      rw [same, turned (turn + 1) 0 positive, doubled, ← Nat.mul_assoc]
      exact Nat.mul_lt_mul_of_pos_right (by omega) spaced

/-- A greater rank has more units. -/
theorem units_strictMono : StrictMono units :=
  strictMono_nat_of_lt_succ (lt_succ_of_turns (Nat.pow_pos Nat.zero_lt_two)
    (fun _ first => if_pos first) units_turn)

end Binary64

namespace Decimal

open Binary64

/-- The number a decimal stands for. -/
def value (decimal : Decimal) : ℚ :=
  decimal.significand * 10 ^ decimal.exponent

/-- The number of a decimal, cleared of a negative power of ten. -/
theorem value_mul_scale (decimal : Decimal) :
    decimal.value * (Nat.pow 10 (-decimal.exponent).toNat : ℕ) =
      (decimal.significand * Nat.pow 10 decimal.exponent.toNat : ℕ) := by
  obtain ⟨significand, exponent⟩ := decimal
  simp only [value, Nat.pow_eq]
  obtain ⟨count, rfl | rfl⟩ := exponent.eq_nat_or_neg
  · simp
  · simp

/-- A decimal, in half units of `2 ^ -1074`. -/
def halfUnits (decimal : Decimal) : ℚ :=
  2 * decimal.value * (Nat.pow 2 1074 : ℕ)

section Comparison

variable (decimal : Decimal) (bound : ℕ)

/-- Both sides of a comparison with a decimal, cleared of its negative power of ten. -/
theorem scaled :
    ∃ scale : ℚ, 0 < scale ∧
      (bound * Nat.pow 10 (-decimal.exponent).toNat : ℕ) = bound * scale ∧
      (2 * (decimal.significand * Nat.pow 10 decimal.exponent.toNat * Nat.pow 2 1074) : ℕ) =
        decimal.halfUnits * scale := by
  refine ⟨(Nat.pow 10 (-decimal.exponent).toNat : ℕ), ?_, ?_, ?_⟩
  · exact Nat.cast_pos.mpr (Nat.pow_pos (by decide))
  · exact Nat.cast_mul ..
  · have cleared := decimal.value_mul_scale
    rw [halfUnits]
    generalize Nat.pow 2 1074 = unit
    generalize decimal.significand * Nat.pow 10 decimal.exponent.toNat = numerator at cleared ⊢
    push_cast
    rw [← cleared]
    ring

/-- A bound is compared with a decimal as a number. -/
theorem le_scaled_iff :
    bound * Nat.pow 10 (-decimal.exponent).toNat ≤
        2 * (decimal.significand * Nat.pow 10 decimal.exponent.toNat * Nat.pow 2 1074) ↔
      (bound : ℚ) ≤ decimal.halfUnits := by
  obtain ⟨scale, positive, left, right⟩ := decimal.scaled bound
  rw [← Nat.cast_le (α := ℚ), left, right, mul_le_mul_iff_left₀ positive]

/-- A decimal is compared with a bound as a number. -/
theorem scaled_le_iff :
    2 * (decimal.significand * Nat.pow 10 decimal.exponent.toNat * Nat.pow 2 1074) ≤
        bound * Nat.pow 10 (-decimal.exponent).toNat ↔
      decimal.halfUnits ≤ bound := by
  obtain ⟨scale, positive, left, right⟩ := decimal.scaled bound
  rw [← Nat.cast_le (α := ℚ), left, right, mul_le_mul_iff_left₀ positive]

end Comparison

/-- A decimal rounds to a rank if it is between the half way points to its neighbours, and
on one of these only if the rank is even. -/
theorem roundsTo_iff (rank : Nat) (decimal : Decimal) :
    decimal.roundsTo rank = true ↔
      if rank % 2 = 0 then
        ((units (rank - 1) + units rank : ℕ) : ℚ) ≤ decimal.halfUnits ∧
          decimal.halfUnits ≤ (units rank + units (rank + 1) : ℕ)
      else
        ((units (rank - 1) + units rank : ℕ) : ℚ) < decimal.halfUnits ∧
          decimal.halfUnits < (units rank + units (rank + 1) : ℕ) := by
  simp only [roundsTo]
  split
  · simp only [Bool.and_eq_true, decide_eq_true_eq, le_scaled_iff, scaled_le_iff]
  · simp only [Bool.and_eq_true, decide_eq_true_eq, ← not_le, le_scaled_iff, scaled_le_iff]

/-- A decimal that rounds to a rank is between the half way points. -/
theorem between_of_roundsTo {rank : Nat} {decimal : Decimal}
    (rounds : decimal.roundsTo rank = true) :
    ((units (rank - 1) + units rank : ℕ) : ℚ) ≤ decimal.halfUnits ∧
      decimal.halfUnits ≤ (units rank + units (rank + 1) : ℕ) := by
  rw [roundsTo_iff] at rounds
  split at rounds
  · exact rounds
  · exact ⟨rounds.1.le, rounds.2.le⟩

/-- Of two ranks that the same number rounds to, neither is the greater one. -/
theorem not_lt_of_roundsTo {rank other : Nat} {decimal others : Decimal}
    (same : decimal.value = others.value) (rounds : decimal.roundsTo rank = true)
    (otherRounds : others.roundsTo other = true) : ¬ rank < other := by
  intro less
  have sameUnits : decimal.halfUnits = others.halfUnits := by rw [halfUnits, halfUnits, same]
  have upper := (between_of_roundsTo rounds).2
  have lower := (between_of_roundsTo otherRounds).1
  rw [← sameUnits] at lower
  -- Both half way points are one, so the ranks are neighbours.
  have meet : units (other - 1) + units other ≤ units rank + units (rank + 1) :=
    Nat.cast_le.mp (lower.trans upper)
  have first : units rank ≤ units (other - 1) :=
    units_strictMono.monotone (Nat.le_sub_one_of_lt less)
  have second : units (rank + 1) ≤ units other := units_strictMono.monotone less
  have neighbours : rank + 1 = other := units_strictMono.injective (by omega)
  subst neighbours
  rw [Nat.add_sub_cancel] at lower
  have halfWay : decimal.halfUnits = (units rank + units (rank + 1) : ℕ) := le_antisymm upper lower
  rw [roundsTo_iff] at rounds otherRounds
  rw [← sameUnits, Nat.add_sub_cancel] at otherRounds
  rw [halfWay] at rounds otherRounds
  by_cases even : rank % 2 = 0
  · have odd : ¬ (rank + 1) % 2 = 0 := by omega
    rw [if_neg odd] at otherRounds
    exact lt_irrefl _ otherRounds.1
  · rw [if_neg even] at rounds
    exact lt_irrefl _ rounds.2

/-- A number rounds to one rank at most. -/
theorem rank_unique {rank other : Nat} {decimal others : Decimal}
    (same : decimal.value = others.value) (rounds : decimal.roundsTo rank = true)
    (otherRounds : others.roundsTo other = true) : rank = other :=
  Nat.le_antisymm (Nat.le_of_not_lt (not_lt_of_roundsTo same.symm otherRounds rounds))
    (Nat.le_of_not_lt (not_lt_of_roundsTo same rounds otherRounds))

/-- A decimal written on a grid rounds to the rank it is written for. -/
theorem roundsTo_of_onGrid? {tie : Tie} {rank : Nat} {exponent : Int} {decimal : Decimal}
    (found : onGrid? tie rank exponent = some decimal) : decimal.roundsTo rank = true := by
  unfold onGrid? at found
  generalize below rank exponent = low at found
  generalize above rank exponent = high at found
  generalize goesUp tie rank exponent = up at found
  split at found
  · next lowRounds highRounds =>
    cases found
    split
    · exact highRounds
    · exact lowRounds
  · next lowRounds _ =>
    cases found
    exact lowRounds
  · next _ highRounds =>
    cases found
    exact highRounds
  · cases found

/-- A magnitude in steps of a negative power of ten. -/
theorem steps_neg (rank count : Nat) :
    steps rank (-count) = (units rank * Nat.pow 10 count, Nat.pow 2 1074) := by
  have finer : (-(-(count : ℤ))).toNat = count := by omega
  have coarser : (-(count : ℤ)).toNat = 0 := by omega
  have single : Nat.pow 10 0 = 1 := rfl
  simp only [steps, finer, coarser, single, mul_one]

/-- On a grid as fine as the units, the magnitude itself is a point. -/
theorem halfUnits_below {count : Nat} (finest : count = 1074) (rank : Nat) :
    (below rank (-count)).halfUnits = 2 * units rank := by
  have unit : Nat.pow 2 1074 = 2 ^ count := by
    rw [← finest]
    exact Nat.pow_eq
  have significand : (below rank (-count)).significand = units rank * 5 ^ count := by
    have ten : 10 = 5 * 2 := rfl
    have factored : units rank * Nat.pow 10 count = units rank * 5 ^ count * 2 ^ count := by
      rw [Nat.pow_eq, ten, mul_pow, mul_assoc]
    rw [below, steps_neg, unit, factored]
    exact Nat.mul_div_cancel _ (pow_pos Nat.zero_lt_two count)
  have nonzero : (10 : ℚ) ^ count ≠ 0 := pow_ne_zero _ (by norm_num)
  have power : (10 : ℚ) ^ count = 5 ^ count * 2 ^ count := by
    rw [← mul_pow]
    norm_num
  rw [halfUnits, unit, value, significand]
  change 2 * (_ * 10 ^ (-(count : ℤ))) * _ = _
  rw [zpow_neg, zpow_natCast]
  push_cast
  field_simp
  rw [power]
  ring

/-- The magnitude itself rounds to its rank. -/
theorem roundsTo_of_halfUnits {rank : Nat} {decimal : Decimal} (positive : 0 < rank)
    (same : decimal.halfUnits = 2 * units rank) : decimal.roundsTo rank = true := by
  have lower : units (rank - 1) < units rank := units_strictMono (by omega)
  have upper : units rank < units (rank + 1) := units_strictMono (Nat.lt_succ_self rank)
  have lower : (units (rank - 1) : ℚ) < units rank := Nat.cast_lt.mpr lower
  have upper : (units rank : ℚ) < units (rank + 1) := Nat.cast_lt.mpr upper
  rw [roundsTo_iff, same]
  push_cast
  split <;> constructor <;> linarith

/-- The decimal that is found on some grid rounds to its rank. -/
theorem roundsTo_shortestFrom (tie : Tie) {rank : Nat} (positive : 0 < rank) (finer : Nat) :
    (shortestFrom tie rank finer).roundsTo rank = true := by
  induction finer with
  | zero => exact roundsTo_of_halfUnits positive (halfUnits_below rfl rank)
  | succ finer inductionHypothesis =>
      rw [shortestFrom]
      split
      · next found => exact roundsTo_of_onGrid? found
      · exact inductionHypothesis

/-- The shortest decimal rounds to its rank. -/
theorem roundsTo_shortest (tie : Tie) {rank : Nat} (positive : 0 < rank) :
    (shortest tie rank).roundsTo rank = true := by
  rw [shortest, if_neg (Nat.ne_of_gt positive)]
  exact roundsTo_shortestFrom tie positive _

/-- Nothing that rounds to a positive rank is zero. -/
theorem value_ne_zero_of_roundsTo {rank : Nat} {decimal : Decimal} (positive : 0 < rank)
    (rounds : decimal.roundsTo rank = true) : decimal.value ≠ 0 := by
  intro zero
  have least := (between_of_roundsTo rounds).1
  have more : units (rank - 1) < units rank := units_strictMono (by omega)
  rw [halfUnits, zero, mul_zero, zero_mul] at least
  have none : units (rank - 1) + units rank ≤ 0 := by exact_mod_cast least
  omega

/-- The shortest decimals of two ranks are two numbers. -/
theorem shortest_value_injective (tie : Tie) :
    Function.Injective fun rank => (shortest tie rank).value := by
  intro rank other same
  have zero : (shortest tie 0).value = 0 := by simp [shortest, value]
  rcases Nat.eq_zero_or_pos rank with rfl | positive <;>
    rcases Nat.eq_zero_or_pos other with rfl | otherPositive
  · rfl
  · exact absurd (same.symm.trans zero)
      (value_ne_zero_of_roundsTo otherPositive (roundsTo_shortest tie otherPositive))
  · exact absurd (same.trans zero)
      (value_ne_zero_of_roundsTo positive (roundsTo_shortest tie positive))
  · exact rank_unique same (roundsTo_shortest tie positive) (roundsTo_shortest tie otherPositive)

end Decimal

end ScriptFront
