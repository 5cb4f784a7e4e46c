import ScriptFront.Proofs.Number.Rounding
import ScriptFront.Proofs.Token.Spelling

/-!
# Numbers as text

The text of a number tells which number it is. A float is written in one of three forms:
digits around a point, digits with a power of ten, or both. Reading the text back as a
decimal gives the number the digits were taken from, and the shortest decimals of two
floats are two numbers. An integer is written with digits alone, a float never is.
-/

namespace ScriptFront

/-- Digits and nothing else. -/
def AreDigits (text : List Char) : Prop :=
  ∀ character ∈ text, character.isDigit = true

theorem areDigits_toDigits (value : Nat) : AreDigits (Nat.toDigits 10 value) :=
  fun _ member => Nat.isDigit_of_mem_toDigits (by decide) (by decide) member

/-- The digits of a number begin with one. -/
theorem toDigits_starts (value : Nat) :
    ∃ first rest, Nat.toDigits 10 value = first :: rest ∧ first.isDigit = true := by
  have filled : Nat.toDigits 10 value ≠ [] := Nat.toDigits_ne_nil
  obtain ⟨first, rest, shape⟩ := List.exists_cons_of_ne_nil filled
  have digits := areDigits_toDigits value
  rw [shape] at digits
  exact ⟨first, rest, shape, digits first List.mem_cons_self⟩

theorem AreDigits.append {text rest : List Char} (digits : AreDigits text)
    (restDigits : AreDigits rest) : AreDigits (text ++ rest) :=
  List.forall_mem_append.mpr ⟨digits, restDigits⟩

theorem areDigits_zeros (count : Nat) : AreDigits (List.replicate count '0') := by
  intro character member
  rw [List.eq_of_mem_replicate member]
  rfl

/-- A mark that is no digit does not stand among digits. -/
theorem AreDigits.ne {text : List Char} (digits : AreDigits text) (mark : Char)
    (noDigit : mark.isDigit = false) : ∀ character ∈ text, character ≠ mark := by
  rintro character member rfl
  rw [digits character member] at noDigit
  cases noDigit

/-- A sign before digits is told from them. -/
theorem sign_append_inj {negative other : Prop} [Decidable negative] [Decidable other]
    {left right : List Char} (starts : ∀ character ∈ left.head?, character.isDigit = true)
    (otherStarts : ∀ character ∈ right.head?, character.isDigit = true)
    (same : (if negative then ['-'] else []) ++ left = (if other then ['-'] else []) ++ right) :
    (negative ↔ other) ∧ left = right := by
  by_cases sign : negative <;> by_cases otherSign : other
  · simp only [sign, otherSign, if_true] at same
    exact ⟨iff_of_true sign otherSign, (List.cons.inj same).2⟩
  · simp only [sign, otherSign, if_true, if_false, List.nil_append] at same
    cases otherStarts '-' (same ▸ rfl)
  · simp only [sign, otherSign, if_true, if_false, List.nil_append] at same
    cases starts '-' (same ▸ rfl)
  · simp only [sign, otherSign, if_false] at same
    exact ⟨iff_of_false sign otherSign, same⟩

namespace FloatFormat

open Lexeme

/-- The power of ten that stands after its mark. -/
def readPower : List Char → Int
  | '-' :: digits => -(Nat.ofDigitChars 10 digits 0 : Int)
  | '+' :: digits => Nat.ofDigitChars 10 digits 0
  | digits => Nat.ofDigitChars 10 digits 0

/-- The decimal a text stands for: digits, digits after a point and a power of ten. -/
def reading (text : List Char) : Decimal :=
  let mantissa := text.takeWhile (· != 'e')
  let whole := mantissa.takeWhile (· != '.')
  let fraction := (mantissa.dropWhile (· != '.')).drop 1
  ⟨Nat.ofDigitChars 10 (whole ++ fraction) 0,
    readPower ((text.dropWhile (· != 'e')).drop 1) - fraction.length⟩

/-- A power of ten as text: digits, and a sign before them. -/
def IsPower (text : List Char) : Prop :=
  ∀ character ∈ text, character.isDigit = true ∨ character = '-' ∨ character = '+'

/-- The forms in which a float is written, each with the decimal it is read as. -/
inductive Written : List Char → Decimal → Prop where
  | positional {whole fraction : List Char} (filled : whole ≠ []) (wholeDigits : AreDigits whole)
      (fractionDigits : AreDigits fraction) :
      Written (whole ++ '.' :: fraction)
        ⟨Nat.ofDigitChars 10 (whole ++ fraction) 0, -fraction.length⟩
  | powered {whole power : List Char} (filled : whole ≠ []) (wholeDigits : AreDigits whole)
      (isPower : IsPower power) :
      Written (whole ++ 'e' :: power) ⟨Nat.ofDigitChars 10 whole 0, readPower power⟩
  | scientific {whole fraction power : List Char} (filled : whole ≠ [])
      (wholeDigits : AreDigits whole) (fractionDigits : AreDigits fraction)
      (isPower : IsPower power) :
      Written (whole ++ '.' :: (fraction ++ 'e' :: power))
        ⟨Nat.ofDigitChars 10 (whole ++ fraction) 0, readPower power - fraction.length⟩

/-- A text is read as the decimal it is written for. -/
theorem Written.reading_eq {text : List Char} {decimal : Decimal}
    (written : Written text decimal) : reading text = decimal := by
  cases written with
  | @positional whole fraction filled wholeDigits fractionDigits =>
      have noMark : ∀ character ∈ whole ++ '.' :: fraction, character ≠ 'e' :=
        List.forall_mem_append.mpr ⟨wholeDigits.ne 'e' rfl,
          List.forall_mem_cons.mpr ⟨by decide, fractionDigits.ne 'e' rfl⟩⟩
      have point := split_at fraction (wholeDigits.ne '.' rfl)
      simp only [reading, split_none noMark, point, readPower, Nat.ofDigitChars_nil]
      rw [Nat.cast_zero, zero_sub]
  | @powered whole power filled wholeDigits isPower =>
      have mark := split_at power (wholeDigits.ne 'e' rfl)
      have noPoint := split_none (wholeDigits.ne '.' rfl)
      simp only [reading, mark, noPoint, List.append_nil, List.length_nil]
      rw [Nat.cast_zero, sub_zero]
  | @scientific whole fraction power filled wholeDigits fractionDigits isPower =>
      have noMark : ∀ character ∈ whole ++ '.' :: fraction, character ≠ 'e' :=
        List.forall_mem_append.mpr ⟨wholeDigits.ne 'e' rfl,
          List.forall_mem_cons.mpr ⟨by decide, fractionDigits.ne 'e' rfl⟩⟩
      have mark := split_at power noMark
      have point := split_at fraction (wholeDigits.ne '.' rfl)
      rw [List.append_assoc, List.cons_append] at mark
      simp only [reading, mark, point]

/-- A power of ten without a sign is read as its digits. -/
theorem readPower_digits {digits : List Char} (areDigits : AreDigits digits) :
    readPower digits = Nat.ofDigitChars 10 digits 0 := by
  unfold readPower
  split
  · exact absurd rfl (areDigits.ne '-' rfl _ List.mem_cons_self)
  · exact absurd rfl (areDigits.ne '+' rfl _ List.mem_cons_self)
  · rfl

/-- A power of ten is read as it is written. -/
theorem readPower_power (format : FloatFormat) (exponent : Int) :
    ∃ power, format.power exponent = 'e' :: power ∧ IsPower power ∧
      readPower power = exponent := by
  have digits := areDigits_toDigits exponent.natAbs
  have isPower : IsPower (Nat.toDigits 10 exponent.natAbs) :=
    fun character member => .inl (digits character member)
  refine ⟨_, rfl, ?_⟩
  split
  · next negative =>
    refine ⟨List.forall_mem_cons.mpr ⟨.inr (.inl rfl), isPower⟩, ?_⟩
    simp only [List.singleton_append, readPower, Nat.ofDigitChars_ten_toDigits]
    omega
  · next nonnegative =>
    split
    · refine ⟨List.forall_mem_cons.mpr ⟨.inr (.inr rfl), isPower⟩, ?_⟩
      simp only [List.singleton_append, readPower, Nat.ofDigitChars_ten_toDigits]
      omega
    · refine ⟨isPower, ?_⟩
      rw [List.nil_append, readPower_digits digits, Nat.ofDigitChars_ten_toDigits]
      omega

/-- Moving zeros between the digits and the power of ten does not change a number. -/
theorem value_shift (significand count : Nat) (exponent : Int) :
    (⟨significand * 10 ^ count, exponent⟩ : Decimal).value =
      (⟨significand, exponent + count⟩ : Decimal).value := by
  simp only [Decimal.value]
  rw [zpow_add₀ (by norm_num), zpow_natCast]
  push_cast
  ring

/-- A float written with digits around a point stands for the number of its digits. -/
theorem written_positional {digits : List Char} (filled : digits ≠ [])
    (areDigits : AreDigits digits) (exponent : Int) :
    ∃ decimal, Written (positional digits exponent) decimal ∧
      decimal.value = (⟨Nat.ofDigitChars 10 digits 0, exponent⟩ : Decimal).value := by
  simp only [positional]
  split
  · -- The power of ten adds zeros before the point.
    next whole =>
    have zero : AreDigits ['0'] := areDigits_zeros 1
    refine ⟨_, .positional (List.append_ne_nil_of_left_ne_nil filled _)
      (areDigits.append (areDigits_zeros _)) zero, ?_⟩
    have shifted : Nat.ofDigitChars 10 (digits ++ List.replicate exponent.toNat '0' ++ ['0']) 0 =
        Nat.ofDigitChars 10 digits 0 * 10 ^ (exponent.toNat + 1) := by
      rw [Nat.ofDigitChars_append, Nat.ofDigitChars_append, Nat.ofDigitChars_replicate_zero,
        Nat.ofDigitChars_cons, Nat.ofDigitChars_nil, Nat.sub_self, Nat.add_zero]
      ring
    rw [shifted, value_shift]
    congr 2
    simp only [List.length_singleton]
    omega
  · next negative =>
    split
    · -- The point stands among the digits.
      next inside =>
      have wholeFilled : digits.take (exponent + digits.length).toNat ≠ [] := by
        intro empty
        rcases List.take_eq_nil_iff.mp empty with none | empty
        · omega
        · exact filled empty
      refine ⟨_, .positional wholeFilled ?_ ?_, ?_⟩
      · exact fun _ member => areDigits _ (List.mem_of_mem_take member)
      · exact fun _ member => areDigits _ (List.mem_of_mem_drop member)
      · rw [List.take_append_drop, List.length_drop]
        congr 2
        omega
    · -- The point stands before all digits, with zeros after it.
      next outside =>
      have zero : AreDigits ['0'] := areDigits_zeros 1
      refine ⟨_, .positional (List.cons_ne_nil '0' []) zero
        ((areDigits_zeros _).append areDigits), ?_⟩
      have same : Nat.ofDigitChars 10
          (['0'] ++ (List.replicate (-(exponent + digits.length)).toNat '0' ++ digits)) 0 =
            Nat.ofDigitChars 10 digits 0 := by
        rw [Nat.ofDigitChars_append, Nat.ofDigitChars_append, Nat.ofDigitChars_cons,
          Nat.ofDigitChars_nil, Nat.ofDigitChars_replicate_zero]
        rfl
      rw [same, List.length_append, List.length_replicate]
      congr 2
      omega

/-- A float written as one digit and a power of ten stands for the number of its digits. -/
theorem written_scientific (format : FloatFormat) {digits : List Char} (filled : digits ≠ [])
    (areDigits : AreDigits digits) (exponent : Int) :
    ∃ decimal, Written (format.scientific digits (exponent + digits.length - 1)) decimal ∧
      decimal.value = (⟨Nat.ofDigitChars 10 digits 0, exponent⟩ : Decimal).value := by
  obtain ⟨first, rest, rfl⟩ := List.exists_cons_of_ne_nil filled
  obtain ⟨power, written, isPower, read⟩ :=
    readPower_power format (exponent + (first :: rest).length - 1)
  have firstDigit : AreDigits [first] :=
    List.forall_mem_singleton.mpr (areDigits first List.mem_cons_self)
  have restDigits : AreDigits rest := fun _ member => areDigits _ (List.mem_cons_of_mem _ member)
  have text : ∀ leading, format.scientific (first :: rest) leading =
      [first] ++ ((if rest.isEmpty then [] else '.' :: rest) ++ format.power leading) :=
    fun _ => List.append_assoc ..
  rw [text, written]
  cases rest with
  | nil =>
      refine ⟨_, .powered (List.cons_ne_nil _ _) firstDigit isPower, ?_⟩
      rw [read]
      congr 2
      simp
  | cons second rest =>
      refine ⟨_, .scientific (List.cons_ne_nil _ _) firstDigit restDigits isPower, ?_⟩
      rw [read]
      congr 2
      simp only [List.length_cons]
      push_cast
      omega

/-- The text of a decimal stands for the number of the decimal. -/
theorem written_decimalText (format : FloatFormat) (decimal : Decimal) :
    ∃ read, Written (format.decimalText decimal) read ∧ read.value = decimal.value := by
  have filled : Nat.toDigits 10 decimal.significand ≠ [] := Nat.toDigits_ne_nil
  have areDigits := areDigits_toDigits decimal.significand
  have same : decimal =
      ⟨Nat.ofDigitChars 10 (Nat.toDigits 10 decimal.significand) 0, decimal.exponent⟩ := by
    rw [Nat.ofDigitChars_ten_toDigits]
  simp only [decimalText]
  split
  · obtain ⟨read, written, value⟩ := written_positional filled areDigits decimal.exponent
    exact ⟨read, written, value.trans (congrArg Decimal.value same.symm)⟩
  · obtain ⟨read, written, value⟩ := written_scientific format filled areDigits decimal.exponent
    exact ⟨read, written, value.trans (congrArg Decimal.value same.symm)⟩

/-- What is written begins with a digit. -/
theorem Written.starts {text : List Char} {decimal : Decimal} (written : Written text decimal) :
    ∃ first rest, text = first :: rest ∧ first.isDigit = true := by
  have front : ∀ {whole rest : List Char}, whole ≠ [] → AreDigits whole →
      ∃ first others, whole ++ rest = first :: others ∧ first.isDigit = true := by
    intro whole rest filled digits
    obtain ⟨first, others, rfl⟩ := List.exists_cons_of_ne_nil filled
    exact ⟨first, others ++ rest, rfl, digits first List.mem_cons_self⟩
  cases written with
  | positional filled wholeDigits => exact front filled wholeDigits
  | powered filled wholeDigits => exact front filled wholeDigits
  | scientific filled wholeDigits => exact front filled wholeDigits

/-- What is written is not made of digits alone. -/
theorem Written.not_areDigits {text : List Char} {decimal : Decimal}
    (written : Written text decimal) : ¬ AreDigits text := by
  intro digits
  cases written with
  | positional => exact digits.ne '.' rfl '.' (by simp) rfl
  | powered => exact digits.ne 'e' rfl 'e' (by simp) rfl
  | scientific => exact digits.ne '.' rfl '.' (by simp) rfl

/-- A character that is neither a digit nor a mark of a number is not written. -/
theorem Written.ne {text : List Char} {decimal : Decimal} (written : Written text decimal)
    {other : Char} (noDigit : other.isDigit = false) (noMark : other ∉ ['.', 'e', '-', '+']) :
    ∀ character ∈ text, character ≠ other := by
  have noPower : ∀ {power : List Char}, IsPower power → ∀ character ∈ power, character ≠ other := by
    rintro power isPower character member rfl
    rcases isPower character member with digit | rfl | rfl
    · rw [noDigit] at digit
      cases digit
    · exact noMark (by simp)
    · exact noMark (by simp)
  have noPoint : '.' ≠ other := by
    rintro rfl
    exact noMark (by simp)
  have noLetter : 'e' ≠ other := by
    rintro rfl
    exact noMark (by simp)
  cases written with
  | positional filled wholeDigits fractionDigits =>
      simp only [List.forall_mem_append, List.forall_mem_cons]
      exact ⟨wholeDigits.ne other noDigit, noPoint, fractionDigits.ne other noDigit⟩
  | powered filled wholeDigits isPower =>
      simp only [List.forall_mem_append, List.forall_mem_cons]
      exact ⟨wholeDigits.ne other noDigit, noLetter, noPower isPower⟩
  | scientific filled wholeDigits fractionDigits isPower =>
      simp only [List.forall_mem_append, List.forall_mem_cons]
      exact ⟨wholeDigits.ne other noDigit, noPoint, fractionDigits.ne other noDigit, noLetter,
        noPower isPower⟩

/-- The text of a decimal begins with no sign. -/
theorem decimalText_head (format : FloatFormat) (decimal : Decimal) :
    ∀ character ∈ (format.decimalText decimal).head?, character.isDigit = true := by
  obtain ⟨read, written, -⟩ := written_decimalText format decimal
  obtain ⟨first, rest, shape, digit⟩ := written.starts
  rw [shape]
  rintro character ⟨⟩
  exact digit

/-- The text of a decimal tells its number. -/
theorem value_eq_of_decimalText {format : FloatFormat} {left right : Decimal}
    (same : format.decimalText left = format.decimalText right) : left.value = right.value := by
  obtain ⟨read, written, value⟩ := written_decimalText format left
  obtain ⟨otherRead, otherWritten, otherValue⟩ := written_decimalText format right
  rw [same] at written
  rw [← value, ← otherValue, ← written.reading_eq, ← otherWritten.reading_eq]

/-- The text of a finite float tells its sign and its magnitude. -/
theorem finiteText_inj {format : FloatFormat} {negative other : Bool}
    {left right : Binary64.Magnitude}
    (same : format.finiteText negative left = format.finiteText other right) :
    negative = other ∧ left = right := by
  obtain ⟨rank, bound⟩ := left
  obtain ⟨otherRank, otherBound⟩ := right
  obtain ⟨signs, texts⟩ := sign_append_inj (decimalText_head format _)
    (decimalText_head format _) (String.ofList_injective same)
  obtain rfl : rank = otherRank :=
    Decimal.shortest_value_injective format.tie (value_eq_of_decimalText texts)
  exact ⟨Bool.eq_iff_iff.mpr signs, rfl⟩

end FloatFormat

namespace Number

/-- The numbers that numerals stand for: integers that are not negative and finite floats
without a sign. -/
inductive Unsigned : Number → Prop where
  | integer {value : Int64} (nonnegative : 0 ≤ value.toInt) : Unsigned (.integer value)
  | float {magnitude : Binary64.Magnitude} : Unsigned (.float (.finite false magnitude))

/-- A finite float that is nearest to a quotient has the sign of the quotient. -/
theorem finite_of_ofFinite? {negative : Bool} {numerator denominator : Nat} {value : Binary64}
    (found : ofFinite? (Binary64.nearest negative numerator denominator) = some (.float value)) :
    ∃ magnitude, value = .finite negative magnitude := by
  unfold Binary64.nearest at found
  split at found
  · cases found
    exact ⟨_, rfl⟩
  · cases found

/-- A numeral stands for a number without a sign. -/
theorem unsigned_of_ofNumeral? {text : List Char} {number : Number}
    (read : ofNumeral? text = some number) : number.Unsigned := by
  cases number with
  | integer value => exact .integer (Lexeme.nonnegative_of_ofNumeral? read)
  | float value =>
      simp only [ofNumeral?] at read
      split at read
      · cases read
      · obtain ⟨magnitude, rfl⟩ := finite_of_ofFinite? read
        exact .float

/-- The numbers among the tokens of a source have no sign. -/
theorem unsigned_of_munched {source : List Char} {tokens : List Token}
    (munched : Lexeme.Munched source tokens) {kind : Kind} {number : Number}
    (member : ⟨kind, .number number⟩ ∈ tokens) : number.Unsigned := by
  induction munched with
  | done => cases member
  | piece nonempty matched longest gives following inductionHypothesis =>
      rcases List.mem_append.mp member with first | later
      · cases gives with
        | layout => cases first
        | verbatim => cases List.mem_singleton.mp first
        | quoted => cases List.mem_singleton.mp first
        | numeral inRange =>
            cases List.mem_singleton.mp first
            exact unsigned_of_ofNumeral? inRange
      · exact inductionHypothesis later

/-- The text of an integer that is not negative is its digits. -/
theorem integerText_eq {value : Int64} (nonnegative : 0 ≤ value.toInt) :
    integerText value = String.ofList (Nat.toDigits 10 value.toInt.natAbs) := by
  rw [integerText, if_neg (not_lt.mpr nonnegative), List.nil_append]

theorem toDigits_head (value : Nat) :
    ∀ character ∈ (Nat.toDigits 10 value).head?, character.isDigit = true :=
  fun character member => areDigits_toDigits value character (List.mem_of_mem_head? member)

/-- The text of an integer tells the integer. -/
theorem integerText_injective : Function.Injective integerText := by
  intro left right same
  obtain ⟨signs, digits⟩ := sign_append_inj (toDigits_head _) (toDigits_head _)
    (String.ofList_injective same)
  have values := congrArg (Nat.ofDigitChars 10 · 0) digits
  simp only [Nat.ofDigitChars_ten_toDigits] at values
  apply Int64.toInt_inj.mp
  omega

/-- An integer and a float are not written alike. -/
theorem integerText_ne_finiteText (format : FloatFormat) (value : Int64) (negative : Bool)
    (magnitude : Binary64.Magnitude) :
    integerText value ≠ format.finiteText negative magnitude := by
  intro same
  obtain ⟨-, texts⟩ := sign_append_inj (toDigits_head _) (format.decimalText_head _)
    (String.ofList_injective same)
  obtain ⟨_, written, -⟩ := format.written_decimalText
    (Decimal.shortest format.tie magnitude.rank)
  apply written.not_areDigits
  rw [← texts]
  exact areDigits_toDigits _

/-- How finite numbers are written, in a format for the floats among them. -/
inductive Writes (format : FloatFormat) : Number → String → Prop where
  | integer (value : Int64) : Writes format (.integer value) (integerText value)
  | float (negative : Bool) (magnitude : Binary64.Magnitude) :
      Writes format (.float (.finite negative magnitude)) (format.finiteText negative magnitude)

/-- What is written for a number tells the number. -/
theorem Writes.eq_of_text {format : FloatFormat} {left right : Number} {text : String}
    (writes : Writes format left text) (otherWrites : Writes format right text) :
    left = right := by
  cases writes with
  | integer value =>
      generalize same : integerText value = text at otherWrites
      cases otherWrites with
      | integer other => rw [integerText_injective same]
      | float => exact absurd same (integerText_ne_finiteText format value _ _)
  | float negative magnitude =>
      generalize same : format.finiteText negative magnitude = text at otherWrites
      cases otherWrites with
      | integer other => exact absurd same.symm (integerText_ne_finiteText format other _ _)
      | float =>
          obtain ⟨rfl, rfl⟩ := FloatFormat.finiteText_inj same
          rfl

theorem Unsigned.writes {number : Number} (unsigned : number.Unsigned) :
    Writes plainFormat number number.display := by
  cases unsigned with
  | integer => exact .integer _
  | float => exact .float false _

/-- The text of a number without a sign tells the number. -/
theorem eq_of_display {left right : Number} (unsigned : left.Unsigned)
    (otherUnsigned : right.Unsigned) (same : left.display = right.display) : left = right :=
  unsigned.writes.eq_of_text (same ▸ otherUnsigned.writes)

/-- The text of a number without a sign begins with a digit and has no line feed. -/
theorem display_shape {number : Number} (unsigned : number.Unsigned) :
    (∃ first rest, number.display.toList = first :: rest ∧ first.isDigit = true) ∧
      ∀ character ∈ number.display.toList, character ≠ '\n' := by
  cases unsigned with
  | @integer value nonnegative =>
      rw [display, integerText_eq nonnegative, String.toList_ofList]
      exact ⟨toDigits_starts _, (areDigits_toDigits _).ne '\n' rfl⟩
  | @float magnitude =>
      obtain ⟨_, written, -⟩ := FloatFormat.written_decimalText plainFormat
        (Decimal.shortest plainFormat.tie magnitude.rank)
      rw [display, FloatFormat.finiteText, String.toList_ofList]
      exact ⟨written.starts, written.ne rfl (by decide)⟩

end Number

end ScriptFront
