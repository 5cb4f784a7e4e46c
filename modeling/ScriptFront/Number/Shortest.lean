import ScriptFront.Number.Binary64

/-!
# Shortest decimals

The decimal with the fewest digits that rounds to a given binary64 magnitude.
Decimals are looked for on grids of spacing `10 ^ exponent`, from a grid coarser
than the magnitude down to the grid of `10 ^ -1074`, on which every magnitude
lies. On each grid only the two neighbours of the magnitude are candidates: when
any point of the grid rounds to the magnitude, so does one of them.
-/

namespace ScriptFront

/-- A decimal number: `significand * 10 ^ exponent`. -/
structure Decimal where
  significand : Nat
  exponent : Int
deriving DecidableEq

/-- What happens to a magnitude half way between two equally short decimals. -/
inductive Tie where
  /-- The greater decimal is taken. -/
  | upward
  /-- The decimal with the even significand is taken. -/
  | toEven
deriving DecidableEq

namespace Decimal

/-- Whether a decimal rounds to the magnitude of a positive rank: it lies between
the half way points to the neighbouring ranks, which themselves round to the even
rank. -/
def roundsTo (rank : Nat) (decimal : Decimal) : Bool :=
  let twice := 2 * (decimal.significand * Nat.pow 10 decimal.exponent.toNat * Nat.pow 2 1074)
  let scale := Nat.pow 10 (-decimal.exponent).toNat
  let least := (Binary64.units (rank - 1) + Binary64.units rank) * scale
  let greatest := (Binary64.units rank + Binary64.units (rank + 1)) * scale
  if rank % 2 = 0 then least ≤ twice && twice ≤ greatest
  else least < twice && twice < greatest

/-- The magnitude of a rank in steps of `10 ^ exponent`, as a fraction. -/
def steps (rank : Nat) (exponent : Int) : Nat × Nat :=
  (Binary64.units rank * Nat.pow 10 (-exponent).toNat, Nat.pow 2 1074 * Nat.pow 10 exponent.toNat)

/-- The greatest point of a grid that is not above the magnitude. -/
def below (rank : Nat) (exponent : Int) : Decimal where
  significand := (steps rank exponent).1 / (steps rank exponent).2
  exponent := exponent

/-- The least point of a grid that is above the magnitude. -/
def above (rank : Nat) (exponent : Int) : Decimal where
  significand := (steps rank exponent).1 / (steps rank exponent).2 + 1
  exponent := exponent

/-- Whether the magnitude goes to the grid point above it rather than to the one
below it, by distance first and by the tie rule when it lies half way. -/
def goesUp (tie : Tie) (rank : Nat) (exponent : Int) : Bool :=
  let twice := 2 * ((steps rank exponent).1 % (steps rank exponent).2)
  let whole := (steps rank exponent).2
  if twice = whole then
    match tie with
    | .upward => true
    | .toEven => (below rank exponent).significand % 2 = 1
  else
    whole < twice

/-- The grid point to write for the magnitude, if one rounds to it. -/
def onGrid? (tie : Tie) (rank : Nat) (exponent : Int) : Option Decimal :=
  match roundsTo rank (below rank exponent), roundsTo rank (above rank exponent) with
  | true, true => some (if goesUp tie rank exponent then above rank exponent
      else below rank exponent)
  | true, false => some (below rank exponent)
  | false, true => some (above rank exponent)
  | false, false => none

/-- The first grid with a point to write, from the grid of `10 ^ (finer - 1074)`
on to finer ones. On the last grid the magnitude itself is a point. -/
def shortestFrom (tie : Tie) (rank : Nat) : (finer : Nat) → Decimal
  | 0 => below rank (-1074)
  | finer + 1 =>
    match onGrid? tie rank ((finer + 1 : Nat) - 1074) with
    | some decimal => decimal
    | none => shortestFrom tie rank finer

/-- The decimal of fewest digits that rounds to the magnitude of a rank, and of
several such the nearest. The search begins at a power of ten greater than the
magnitude. -/
def shortest (tie : Tie) (rank : Nat) : Decimal :=
  if rank = 0 then ⟨0, 0⟩
  else
    let wholePart := Binary64.units rank / Nat.pow 2 1074
    shortestFrom tie rank ((Nat.toDigits 10 wholePart).length + 1074)

end Decimal

end ScriptFront
