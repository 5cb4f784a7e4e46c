import ScriptFront.Proofs.Token.Consumption

/-!
# Word characters beyond ASCII

Which characters beyond ASCII belong to words decides whether a keyword in front of one
is still a keyword. No piece begins with such a character, so that reading halts right
after the word: two notions of word characters that agree on ASCII can report different
tokens on the way, but reading never ends differently, neither in its tokens nor in its
error. The places that are reached in a source are the same as well.
-/

namespace ScriptFront

namespace Lexeme

open Text Piece

variable {left right : Char → Bool}

theorem isAsciiWordCharacter_agreesOnAscii : AgreesOnAscii isAsciiWordCharacter :=
  fun _ _ => rfl

/-- Notions of word characters that differ on a character differ beyond ASCII. -/
theorem beyond_ascii_of_ne (leftAgrees : AgreesOnAscii left) (rightAgrees : AgreesOnAscii right)
    {character : Char} (different : left character ≠ right character) :
    128 ≤ character.toNat := by
  apply Nat.le_of_not_lt
  intro ascii
  apply different
  rw [leftAgrees character ascii, rightAgrees character ascii]

/-- Two notions of word characters read a word alike, unless it stands before a character
beyond ASCII: then it has the same text, but may be of another kind. -/
theorem word_agree (leftAgrees : AgreesOnAscii left) (rightAgrees : AgreesOnAscii right)
    (source : List Char) :
    word left source = word right source ∨
      ∃ (leftKind rightKind : Kind) (text : List Char) (head : Char) (tail : List Char),
        128 ≤ head.toNat ∧
        word left source = (⟨.verbatim leftKind, text⟩, head :: tail) ∧
        word right source = (⟨.verbatim rightKind, text⟩, head :: tail) := by
  cases remaining : source.dropWhile isAsciiWordCharacter with
  | nil =>
      left
      simp only [word, remaining, List.head?_nil, Option.any_none]
  | cons head tail =>
      by_cases same : left head = right head
      · left
        simp only [word, remaining, List.head?_cons, Option.any_some, same]
      · right
        have beyond := beyond_ascii_of_ne leftAgrees rightAgrees same
        exact ⟨_, _, _, head, tail, beyond, Prod.ext rfl remaining, Prod.ext rfl remaining⟩

/-- Two notions of word characters find the same piece, unless it is a word before a
character beyond ASCII, where only the kind may differ. -/
theorem first?_agree (leftAgrees : AgreesOnAscii left) (rightAgrees : AgreesOnAscii right)
    (source : List Char) :
    first? left source = first? right source ∨
      ∃ (leftKind rightKind : Kind) (text : List Char) (head : Char) (tail : List Char),
        128 ≤ head.toNat ∧
        first? left source = some (⟨.verbatim leftKind, text⟩, head :: tail) ∧
        first? right source = some (⟨.verbatim rightKind, text⟩, head :: tail) := by
  cases source with
  | nil => exact .inl rfl
  | cons first others =>
      by_cases letter : first.isAlpha = true
      · rw [first?_letter left others letter, first?_letter right others letter]
        simpa only [Option.some.injEq] using
          word_agree leftAgrees rightAgrees (first :: others)
      · left
        simp only [first?, if_neg letter]

/-- Two notions of word characters that agree on ASCII reach the same places. -/
theorem Consumed.agree (leftAgrees : AgreesOnAscii left) (rightAgrees : AgreesOnAscii right)
    {source rest : List Char} {tokens : List Token} {events : List Event}
    (consumed : Consumed left source tokens events rest) :
    ∃ otherTokens otherEvents, Consumed right source otherTokens otherEvents rest := by
  induction consumed using Consumed.piecewise with
  | nothing => exact ⟨[], [], .nothing⟩
  | @piece source after piece given tokens events others found gives following whole
      inductionHypothesis =>
      obtain ⟨otherTokens, otherEvents, reached⟩ := inductionHypothesis
      rcases first?_agree leftAgrees rightAgrees source with
        same | ⟨_, _, _, _, _, _, leftFound, rightFound⟩
      · exact ⟨_, Consumed.step (same.symm.trans found) gives reached⟩
      · rw [found] at leftFound
        cases leftFound
        exact ⟨_, Consumed.step rightFound .verbatim reached⟩

/-- Reading halts before a character beyond ASCII. -/
theorem reading_beyond_ascii {wordLike : Char → Bool} {head : Char}
    (beyond : 128 ≤ head.toNat) (tail : List Char) :
    reading wordLike (head :: tail) = .error (.unmatchedInput (String.ofList (head :: tail))) :=
  reading_of_none (List.cons_ne_nil _ _) (first?_beyond_ascii beyond tail)

/-- Reading ends the same way for two notions of word characters that agree on ASCII. -/
theorem reading_agree (leftAgrees : AgreesOnAscii left) (rightAgrees : AgreesOnAscii right)
    (source : List Char) : reading left source = reading right source := by
  -- The induction is on what is left of the source; a piece takes away some of it.
  induction bound : source.length using Nat.strongRecOn generalizing source with
  | ind size inductionHypothesis =>
      subst bound
      rcases first?_agree leftAgrees rightAgrees source with
        same | ⟨_, _, text, head, tail, beyond, leftFound, rightFound⟩
      · cases found : first? right source with
        | none =>
            cases source with
            | nil => rfl
            | cons head tail =>
                rw [reading_of_none (List.cons_ne_nil _ _) (same.trans found),
                  reading_of_none (List.cons_ne_nil _ _) found]
        | some front =>
            obtain ⟨piece, rest⟩ := front
            rw [reading_of_first? (same.trans found), reading_of_first? found,
              inductionHypothesis _ (length_lt_of_first? found) rest rfl]
      · -- The tokens differ here, but neither of them outlives the error that follows.
        rw [reading_of_gives leftFound .verbatim, reading_of_gives rightFound .verbatim,
          reading_beyond_ascii beyond, reading_beyond_ascii beyond]
        rfl

/-- The word characters of ASCII are enough to tell how reading ends. -/
theorem outcome_tokenize (source : String) :
    (tokenize source).outcome = reading isAsciiWordCharacter source.toList :=
  reading_agree isWordCharacter_agreesOnAscii isAsciiWordCharacter_agreesOnAscii source.toList

end Lexeme

/-- How reading the tokens of a source ends does not depend on which characters beyond
ASCII are word characters. -/
theorem tokenizeWith_outcome_agree (left right : Char → Bool)
    (leftAgrees : Lexeme.AgreesOnAscii left) (rightAgrees : Lexeme.AgreesOnAscii right)
    (source : String) :
    (tokenizeWith left source).outcome = (tokenizeWith right source).outcome :=
  Lexeme.reading_agree leftAgrees rightAgrees source.toList

/-- A keyword that touches a letter beyond ASCII is reported as an identifier or as the
keyword, by what counts as a word character; the error after it is the same. -/
theorem tokenizeWith_outcome_agree_touching :
    (tokenizeWith Text.isWordCharacter "whileé").events ≠
      (tokenizeWith Text.isAsciiWordCharacter "whileé").events ∧
    (tokenizeWith Text.isWordCharacter "whileé").outcome =
      (tokenizeWith Text.isAsciiWordCharacter "whileé").outcome ∧
    (tokenizeWith Text.isWordCharacter "whileé").outcome = .error (.unmatchedInput "é") :=
  ⟨by decide, tokenizeWith_outcome_agree _ _ Lexeme.isWordCharacter_agreesOnAscii
    Lexeme.isAsciiWordCharacter_agreesOnAscii _, rfl⟩

end ScriptFront
