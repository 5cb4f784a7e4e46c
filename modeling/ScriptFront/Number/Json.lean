import ScriptFront.Json
import ScriptFront.Number

/-!
# Numbers in JSON

Integers and finite floats are numerals. JSON has no numeral for the other floats,
which become null.
-/

namespace ScriptFront.Number

/-- Floats in JSON: positional from a hundred-thousandth on, every power of ten
signed, ties to the even digit. -/
def jsonFormat : FloatFormat where
  leastPositional := -5
  plusSign := true
  tie := .toEven

/-- A number as a JSON document. -/
def json : Number → Json
  | .integer value => .numeral (integerText value)
  | .float (.finite negative magnitude) => .numeral (jsonFormat.finiteText negative magnitude)
  | .float _ => .null

/-- Half way between two shortest decimals the even one is written. -/
example : (ofNumeral? "1125899906842624.25".toList).map (fun number => number.json.compact) =
    some "1125899906842624.2" := by decide +kernel

/-- A hundred-thousandth is positional, and ten to the sixteenth carries its sign. -/
example : (ofNumeral? "0.00001".toList).map (fun number => number.json.compact) =
      some "0.00001" ∧
    (ofNumeral? "10000000000000000.0".toList).map (fun number => number.json.compact) =
      some "1e+16" := by
  decide +kernel

end ScriptFront.Number
