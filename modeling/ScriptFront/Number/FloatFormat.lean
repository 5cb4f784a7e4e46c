import ScriptFront.Number.Shortest

/-!
# Formats of floating-point text

A float is written with the fewest digits that read back, either positionally with
at least one digit after the point, or as one digit before the point and a power
of ten. A format fixes what is left open: where positional writing begins, how a
power of ten is signed, and what happens to ties.
-/

namespace ScriptFront

/-- The decisions a notation for floats makes. -/
structure FloatFormat where
  /-- The least decimal exponent of the leading digit that is written positionally. -/
  leastPositional : Int
  /-- Whether a power of ten that is not negative carries a plus sign. -/
  plusSign : Bool
  /-- Which of two equally short and equally near decimals is written. -/
  tie : Tie

namespace FloatFormat

/-- The decimal exponent of the leading digit from which on numbers are no longer
written positionally. -/
def positionalLimit : Int := 16

/-- Digits times a power of ten, with a decimal point and a digit on either side
of it. -/
def positional (digits : List Char) (exponent : Int) : List Char :=
  let point := exponent + digits.length
  if 0 ≤ exponent then digits ++ List.replicate exponent.toNat '0' ++ ['.', '0']
  else if 0 < point then digits.take point.toNat ++ '.' :: digits.drop point.toNat
  else '0' :: '.' :: (List.replicate (-point).toNat '0' ++ digits)

/-- A power of ten after its mark. -/
def power (format : FloatFormat) (exponent : Int) : List Char :=
  let sign := if exponent < 0 then ['-'] else if format.plusSign then ['+'] else []
  'e' :: (sign ++ Nat.toDigits 10 exponent.natAbs)

/-- Digits with a point after the first one, unless it is the only one, and the
power of ten of that first digit. -/
def scientific (format : FloatFormat) (digits : List Char) (leading : Int) : List Char :=
  let fraction := digits.drop 1
  digits.take 1 ++ (if fraction.isEmpty then [] else '.' :: fraction) ++ format.power leading

/-- The text of a decimal number. -/
def decimalText (format : FloatFormat) (decimal : Decimal) : List Char :=
  let digits := Nat.toDigits 10 decimal.significand
  let leading := decimal.exponent + digits.length - 1
  if format.leastPositional ≤ leading ∧ leading < positionalLimit then
    positional digits decimal.exponent
  else
    format.scientific digits leading

/-- The text of a finite float; a negative zero keeps its sign. -/
def finiteText (format : FloatFormat) (negative : Bool) (magnitude : Binary64.Magnitude) :
    String :=
  let sign := if negative then ['-'] else []
  String.ofList (sign ++ format.decimalText (Decimal.shortest format.tie magnitude.rank))

end FloatFormat

end ScriptFront
