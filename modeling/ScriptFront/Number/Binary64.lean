/-!
# Binary64 numbers

The 64-bit binary floating-point numbers, described by exact natural arithmetic.
Finite magnitudes are counted upwards from zero, and the count (the rank) stands
for the magnitude: consecutive ranks are neighbouring magnitudes, and every
magnitude is a whole number of units of `2 ^ -1074`. This module rounds an exact
quotient to the nearest such number. It holds no arithmetic between them.
-/

namespace ScriptFront

namespace Binary64

/-- The number of finite magnitudes: 2047 exponents with `2 ^ 52` fractions each. -/
def magnitudeCount : Nat := 2047 * Nat.pow 2 52

/-- A finite magnitude, by its place in ascending order; rank zero is zero. -/
structure Magnitude where
  rank : Nat
  rank_lt : rank < magnitudeCount
deriving DecidableEq

/-- The size of the magnitude of a rank, in units of `2 ^ -1074`. The first
`2 ^ 52` magnitudes are one unit apart, and so are the next; from there on the
spacing doubles every `2 ^ 52` ranks. The rule is stated for all ranks, so the
first one beyond the finite magnitudes has the size `2 ^ 1024`. -/
def units (rank : Nat) : Nat :=
  if rank < Nat.pow 2 52 then rank
  else (Nat.pow 2 52 + rank % Nat.pow 2 52) * Nat.pow 2 (rank / Nat.pow 2 52 - 1)

/-- The greatest rank whose magnitude has at most the given number of units. -/
def rankWithin (count : Nat) : Nat :=
  if count < Nat.pow 2 53 then count
  else (count.log2 - 52) * Nat.pow 2 52 + count >>> (count.log2 - 52)

/-- The rank nearest to a quotient; half way between two ranks the even one. -/
def nearestRank (numerator denominator : Nat) : Nat :=
  let below := rankWithin (numerator * Nat.pow 2 1074 / denominator)
  let twice := 2 * (numerator * Nat.pow 2 1074)
  let middle := denominator * (units below + units (below + 1))
  if twice < middle then below
  else if middle < twice then below + 1
  else if below % 2 = 0 then below
  else below + 1

end Binary64

/-- A binary64 number. A zero keeps its sign; nothing tells one value which is not a
number from another. -/
inductive Binary64 where
  | notANumber
  | infinite (negative : Bool)
  | finite (negative : Bool) (magnitude : Binary64.Magnitude)
deriving DecidableEq

namespace Binary64

/-- The number nearest to `numerator / denominator` under a sign. A quotient that
rounds beyond the greatest finite magnitude is infinite. -/
def nearest (negative : Bool) (numerator denominator : Nat) : Binary64 :=
  if bound : nearestRank numerator denominator < magnitudeCount then
    .finite negative ⟨nearestRank numerator denominator, bound⟩
  else
    .infinite negative

/-- The number nearest to `significand * 10 ^ exponent` under a sign. -/
def ofDecimal (negative : Bool) (significand : Nat) (exponent : Int) : Binary64 :=
  nearest negative (significand * Nat.pow 10 exponent.toNat) (Nat.pow 10 (-exponent).toNat)

/-- The greatest finite magnitude is odd in rank, so the half way point above it
already rounds out of range. -/
example : nearest false (2 ^ 1024 - 2 ^ 970) 1 = .infinite false := by decide +kernel

example : nearest false (2 ^ 1024 - 2 ^ 970 - 1) 1 =
    .finite false ⟨magnitudeCount - 1, by decide⟩ := by decide +kernel

end Binary64

end ScriptFront
