import ScriptFront.Proofs.Number.NearestFloat
import ScriptFront.Proofs.Number.Text
import ScriptFront.Proofs.Token.Splicing

/-!
# Numerals by their exact value

What a numeral in front of a source is read as depends on its exact value and on whether
it has a point. Without a point it is an integer up to the greatest one. Every other
numeral is the nearest float, however many digits it has, and from the half way point
above the greatest finite float on it is refused with its own text.
-/

namespace ScriptFront

/-- A numeral as it is written: digits, and possibly a point with digits after it. -/
structure Numeral where
  whole : List Char
  /-- The digits after the point, if there is one. -/
  fraction? : Option (List Char)
  whole_ne_nil : whole ≠ []
  whole_digits : AreDigits whole
  fraction_ne_nil : ∀ fraction ∈ fraction?, fraction ≠ []
  fraction_digits : ∀ fraction ∈ fraction?, AreDigits fraction

namespace Numeral

open Lexeme

/-- The digits after the point, none without a point. -/
def fraction (numeral : Numeral) : List Char :=
  numeral.fraction?.getD []

/-- The characters of a numeral. -/
def text (numeral : Numeral) : List Char :=
  match numeral.fraction? with
  | none => numeral.whole
  | some fraction => numeral.whole ++ '.' :: fraction

/-- The number a numeral stands for. -/
def value (numeral : Numeral) : ℚ :=
  Nat.ofDigitChars 10 numeral.whole 0 +
    Nat.ofDigitChars 10 numeral.fraction 0 / 10 ^ numeral.fraction.length

variable (numeral : Numeral)

/-- The number of a numeral is that of all its digits, with a power of ten for those after the
point. -/
theorem value_eq :
    numeral.value = (⟨Nat.ofDigitChars 10 (numeral.whole ++ numeral.fraction) 0,
      -numeral.fraction.length⟩ : Decimal).value := by
  have digits : Nat.ofDigitChars 10 (numeral.whole ++ numeral.fraction) 0 =
      10 ^ numeral.fraction.length * Nat.ofDigitChars 10 numeral.whole 0 +
        Nat.ofDigitChars 10 numeral.fraction 0 := by
    rw [Nat.ofDigitChars_append, Nat.ofDigitChars_eq_ofDigitChars_zero]
  rw [value, Decimal.value, digits, zpow_neg, zpow_natCast]
  push_cast
  field_simp

/-- Without a point the number of a numeral is a natural one. -/
theorem value_of_none (plain : numeral.fraction? = none) :
    numeral.value = (Nat.ofDigitChars 10 numeral.whole 0 : ℕ) := by
  simp [value, fraction, plain]

theorem matches_text : Matches .numeral numeral.text := by
  obtain ⟨whole, _ | fraction, filled, digits, fractionFilled, fractionDigits⟩ := numeral
  · exact .whole filled digits
  · exact .fractional filled digits (fractionFilled fraction rfl) (fractionDigits fraction rfl)

/-- A numeral is read as an integer if it has no point and is not too great, and else as the
float of its digits. -/
theorem ofNumeral?_text :
    Number.ofNumeral? numeral.text =
      if numeral.fraction? = none ∧
          Nat.ofDigitChars 10 numeral.whole 0 ≤ Number.greatestInteger then
        some (.integer (.ofNat (Nat.ofDigitChars 10 numeral.whole 0)))
      else
        Number.floatOfDigits? numeral.whole numeral.fraction := by
  obtain ⟨whole, _ | fraction, filled, digits, fractionFilled, fractionDigits⟩ := numeral
  · have noPoint := digits.ne '.' rfl
    have unmarked : '.' ∉ whole := fun member => noPoint '.' member rfl
    obtain ⟨taken, dropped⟩ := split_none noPoint
    simp only [Number.ofNumeral?, text, Numeral.fraction, taken, dropped, unmarked,
      not_false_eq_true, Option.getD_none]
  · obtain ⟨taken, dropped⟩ := split_at fraction (digits.ne '.' rfl)
    simp [Number.ofNumeral?, text, Numeral.fraction, taken, dropped]

/-- The greatest integer is the last one below the sixty-third power of two. -/
theorem le_greatestInteger_iff (plain : numeral.fraction? = none) :
    Nat.ofDigitChars 10 numeral.whole 0 ≤ Number.greatestInteger ↔
      numeral.value ≤ 2 ^ 63 - 1 := by
  have greatest : ((Number.greatestInteger : ℕ) : ℚ) = 2 ^ 63 - 1 := by
    norm_num [Number.greatestInteger]
  rw [value_of_none numeral plain, ← greatest, Nat.cast_le]

/-- A numeral without a point up to the greatest integer is read as that integer. -/
theorem ofNumeral?_integer (plain : numeral.fraction? = none)
    (small : numeral.value ≤ 2 ^ 63 - 1) : ∃ integer : Int64,
      (integer.toInt : ℚ) = numeral.value ∧
        Number.ofNumeral? numeral.text = some (.integer integer) := by
  have bounded := (le_greatestInteger_iff numeral plain).mpr small
  have fits : Nat.ofDigitChars 10 numeral.whole 0 < 2 ^ 63 :=
    Nat.lt_of_le_of_lt bounded (by decide)
  refine ⟨.ofNat (Nat.ofDigitChars 10 numeral.whole 0), ?_, ?_⟩
  · rw [Int64.toInt_ofNat_of_lt fits, value_of_none numeral plain, Int.cast_natCast]
  · rw [ofNumeral?_text, if_pos ⟨plain, bounded⟩]

/-- Any other numeral is read as the nearest float, or as no number from the half way point
above the greatest float on. -/
theorem ofNumeral?_float (wide : numeral.fraction? = none → 2 ^ 63 - 1 < numeral.value) :
    (numeral.value < 2 ^ 1024 - 2 ^ 970 → ∃ magnitude : Binary64.Magnitude,
      magnitude.IsNearest numeral.value ∧
        Number.ofNumeral? numeral.text = some (.float (.finite false magnitude))) ∧
    (2 ^ 1024 - 2 ^ 970 ≤ numeral.value → Number.ofNumeral? numeral.text = none) := by
  have noInteger : ¬ (numeral.fraction? = none ∧
      Nat.ofDigitChars 10 numeral.whole 0 ≤ Number.greatestInteger) := by
    rintro ⟨plain, bounded⟩
    exact absurd ((le_greatestInteger_iff numeral plain).mp bounded) (not_le.mpr (wide plain))
  rw [ofNumeral?_text, if_neg noInteger, value_eq, Number.floatOfDigits?]
  obtain ⟨finite, infinite⟩ := Binary64.ofDecimal_nearest false
    ⟨Nat.ofDigitChars 10 (numeral.whole ++ numeral.fraction) 0, -numeral.fraction.length⟩
  constructor
  · intro inRange
    obtain ⟨magnitude, isNearest, read⟩ := finite inRange
    exact ⟨magnitude, isNearest, congrArg Number.ofFinite? read⟩
  · intro beyond
    exact congrArg Number.ofFinite? (infinite beyond)

/-- A numeral in front of a source is one token before those of the rest, or the reason why
there are none. -/
theorem outcome_tokenize_text {rest : List Char}
    (longest : Longest numeral.text (numeral.text ++ rest)) :
    (tokenize (String.ofList (numeral.text ++ rest))).outcome =
      match Number.ofNumeral? numeral.text with
      | some number =>
        (tokenize (String.ofList rest)).outcome.map (⟨.number, .number number⟩ :: ·)
      | none => .error (.illegalNumeral (String.ofList numeral.text)) := by
  have found := first?_of_longest_ascii numeral.matches_text longest
  rw [outcome_tokenize, outcome_tokenize, String.toList_ofList, String.toList_ofList,
    reading_of_first? found]
  simp only [Token.ofPiece]
  cases Number.ofNumeral? numeral.text <;> rfl

end Numeral

/-- Numerals are told apart by their exact value. A numeral in front of a source that does not
go on in the rest is an integer if it has no point and its value is at most the greatest one.
Any other numeral is a float nearest to its value, with ties to the even one, below the half
way point above the greatest float, and from there on it is refused as it is written. -/
theorem tokenize_numeral (numeral : Numeral) (rest : List Char)
    (longest : Lexeme.Longest numeral.text (numeral.text ++ rest)) :
    (numeral.fraction? = none ∧ numeral.value ≤ 2 ^ 63 - 1 → ∃ integer : Int64,
      (integer.toInt : ℚ) = numeral.value ∧
        (tokenize (String.ofList (numeral.text ++ rest))).outcome =
          (tokenize (String.ofList rest)).outcome.map
            (⟨.number, .number (.integer integer)⟩ :: ·)) ∧
    (¬ (numeral.fraction? = none ∧ numeral.value ≤ 2 ^ 63 - 1) →
      (numeral.value < 2 ^ 1024 - 2 ^ 970 → ∃ magnitude : Binary64.Magnitude,
        magnitude.IsNearest numeral.value ∧
          (tokenize (String.ofList (numeral.text ++ rest))).outcome =
            (tokenize (String.ofList rest)).outcome.map
              (⟨.number, .number (.float (.finite false magnitude))⟩ :: ·)) ∧
      (2 ^ 1024 - 2 ^ 970 ≤ numeral.value →
        (tokenize (String.ofList (numeral.text ++ rest))).outcome =
          .error (.illegalNumeral (String.ofList numeral.text)))) := by
  rw [numeral.outcome_tokenize_text longest]
  refine ⟨?_, fun noInteger => ?_⟩
  · rintro ⟨plain, small⟩
    obtain ⟨integer, same, read⟩ := numeral.ofNumeral?_integer plain small
    exact ⟨integer, same, by rw [read]⟩
  · obtain ⟨finite, refused⟩ := numeral.ofNumeral?_float
      fun plain => lt_of_not_ge fun small => noInteger ⟨plain, small⟩
    constructor
    · intro inRange
      obtain ⟨magnitude, isNearest, read⟩ := finite inRange
      exact ⟨magnitude, isNearest, by rw [read]⟩
    · intro beyond
      rw [refused beyond]

/-- The digits of a natural number as a numeral. -/
def Numeral.ofNat (value : Nat) : Numeral where
  whole := Nat.toDigits 10 value
  fraction? := none
  whole_ne_nil := Nat.toDigits_ne_nil
  whole_digits := areDigits_toDigits value
  fraction_ne_nil := nofun
  fraction_digits := nofun

theorem Numeral.value_ofNat (value : Nat) : (Numeral.ofNat value).value = value := by
  rw [value_of_none _ rfl, ofNat, Nat.ofDigitChars_ten_toDigits]

/-- The greatest integer with zeros before it is an integer, the next number is a float, and
the half way point above the greatest float is refused. -/
theorem tokenize_numeral_limits :
    (∃ integer : Int64, (integer.toInt : ℚ) = 9223372036854775807 ∧
      (tokenize "009223372036854775807").outcome = .ok [⟨.number, .number (.integer integer)⟩]) ∧
    (∃ magnitude : Binary64.Magnitude, magnitude.IsNearest 9223372036854775808 ∧
      (tokenize "9223372036854775808").outcome =
        .ok [⟨.number, .number (.float (.finite false magnitude))⟩]) ∧
    (tokenize (String.ofList (Nat.toDigits 10 (2 ^ 1024 - 2 ^ 970)))).outcome =
      .error (.illegalNumeral (String.ofList (Nat.toDigits 10 (2 ^ 1024 - 2 ^ 970)))) := by
  have alone : ∀ text, Lexeme.Longest text (text ++ []) := by
    intro text sort other matched isPrefix
    simpa using isPrefix.length_le
  have large : (9223372036854775808 : ℚ) < 2 ^ 1024 - 2 ^ 970 := by
    have greatest : (2 : ℚ) ^ 1024 = 2 ^ 54 * 2 ^ 970 := pow_add 2 54 970
    have spaced : (2 : ℚ) ^ 63 ≤ 2 ^ 970 := pow_le_pow_right₀ (by norm_num) (by decide)
    rw [greatest]
    generalize (2 : ℚ) ^ 970 = spacing at spaced ⊢
    norm_num at spaced ⊢
    linarith
  have cast : ∀ more less : ℕ, less ≤ more →
      ((2 ^ more - 2 ^ less : ℕ) : ℚ) = 2 ^ more - 2 ^ less := by
    intro more less ordered
    rw [Nat.cast_sub (Nat.pow_le_pow_right Nat.zero_lt_two ordered)]
    push_cast
    rfl
  have refused : ∀ limit : ℕ, (limit : ℚ) = 2 ^ 1024 - 2 ^ 970 →
      (tokenize (String.ofList (Nat.toDigits 10 limit))).outcome =
        .error (.illegalNumeral (String.ofList (Nat.toDigits 10 limit))) := by
    intro limit same
    have value := (Numeral.value_ofNat limit).trans same
    have wide : ¬ ((2 ^ 1024 - 2 ^ 970 : ℚ) ≤ 2 ^ 63 - 1) := by
      generalize (2 ^ 1024 - 2 ^ 970 : ℚ) = bound at large ⊢
      norm_num
      linarith
    have read := ((tokenize_numeral (.ofNat limit) [] (alone _)).2
      fun integer => absurd integer.2 (by rw [value]; exact wide)).2 value.ge
    rw [List.append_nil] at read
    exact read
  refine ⟨?_, ?_, refused _ (cast 1024 970 (by decide))⟩
  · let numeral : Numeral := ⟨"009223372036854775807".toList, none, by decide,
      List.all_eq_true.mp rfl, nofun, nofun⟩
    have value : numeral.value = 9223372036854775807 := by
      rw [Numeral.value_of_none _ rfl]
      rfl
    have read := (tokenize_numeral numeral [] (alone _)).1 ⟨rfl, by rw [value]; norm_num⟩
    rw [value] at read
    exact read
  · have value := Numeral.value_ofNat 9223372036854775808
    have read := ((tokenize_numeral (.ofNat 9223372036854775808) [] (alone _)).2
      fun integer => absurd integer.2 (by rw [value]; norm_num)).1 (by rw [value]; exact large)
    rw [value] at read
    exact read

end ScriptFront
