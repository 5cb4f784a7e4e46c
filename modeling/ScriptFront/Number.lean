import ScriptFront.Number.FloatFormat

/-!
# Numbers of the language

A number is a 64-bit integer or a binary64 float. Whole numerals that fit are
integers; every other numeral is the nearest float, unless that is infinite.
-/

namespace ScriptFront

/-- A number that a program can hold. -/
inductive Number where
  | integer (value : Int64)
  | float (value : Binary64)
deriving DecidableEq

namespace Number

/-- The greatest integer. -/
def greatestInteger : Nat := Nat.pow 2 63 - 1

/-- A float as a number of the language, if it is finite. -/
def ofFinite? : Binary64 → Option Number
  | .finite negative magnitude => some (.float (.finite negative magnitude))
  | _ => none

/-- The float of a numeral with the given digits before and after the point, if it
is finite. -/
def floatOfDigits? (whole fraction : List Char) : Option Number :=
  let significand := Nat.ofDigitChars 10 (whole ++ fraction) 0
  ofFinite? (Binary64.ofDecimal false significand (-fraction.length))

/-- The number a numeral stands for: digits, then possibly a point and more digits.
There is none when the numeral is beyond the finite floats. -/
def ofNumeral? (numeral : List Char) : Option Number :=
  let whole := numeral.takeWhile (· != '.')
  let fraction := (numeral.dropWhile (· != '.')).drop 1
  let value := Nat.ofDigitChars 10 whole 0
  if '.' ∉ numeral ∧ value ≤ greatestInteger then some (.integer (.ofNat value))
  else floatOfDigits? whole fraction

/-- An integer in decimal digits, after a minus sign when it is negative. -/
def integerText (value : Int64) : String :=
  let sign := if value.toInt < 0 then ['-'] else []
  String.ofList (sign ++ Nat.toDigits 10 value.toInt.natAbs)

/-- Floats in text meant for people: positional from a ten-thousandth on, powers of
ten without a plus sign, ties upward. -/
def plainFormat : FloatFormat where
  leastPositional := -4
  plusSign := false
  tie := .upward

/-- A number as people read it. -/
def display : Number → String
  | .integer value => integerText value
  | .float .notANumber => "NaN"
  | .float (.infinite negative) => if negative then "-inf" else "inf"
  | .float (.finite negative magnitude) => plainFormat.finiteText negative magnitude

/-- Half way between two shortest decimals the greater one is written. -/
example : (ofNumeral? "1125899906842624.25".toList).map display =
    some "1125899906842624.3" := by decide +kernel

/-- The greatest integer is still one, and its successor is a float. -/
example : (ofNumeral? "9223372036854775807".toList).map display = some "9223372036854775807" ∧
    (ofNumeral? "9223372036854775808".toList).map display = some "9.223372036854776e18" := by
  decide +kernel

end Number

end ScriptFront
