import ScriptFront.Proofs.Run.Outcome
import ScriptFront.Proofs.Token.Lexeme

/-!
# Cutting a source into longest pieces

The scanner takes the first sort of piece that its front character admits. This module
shows that nothing longer of any sort would have fitted there, so that the tokens of a
source are those of its longest pieces, in order and without loss.

A keyword that touches a word character beyond ASCII is cut as an identifier. No piece
begins with such a character, so this never shows in the tokens of a source.
-/

namespace ScriptFront

namespace Lexeme

open Text Piece

/-- A notion of word characters that is the usual one on ASCII. -/
def AgreesOnAscii (wordLike : Char → Bool) : Prop :=
  ∀ character, character.toNat < 128 → wordLike character = isAsciiWordCharacter character

theorem isWordCharacter_agreesOnAscii : AgreesOnAscii isWordCharacter := by
  intro character ascii
  simp only [isWordCharacter, if_pos ascii]

/-- No text of any sort is empty. -/
theorem Matches.ne_nil {sort : PieceSort} {text : List Char} (matched : Matches sort text) :
    text ≠ [] := by
  cases matched with
  | whole nonempty digits => exact nonempty
  | mark known =>
      rintro rfl
      revert known
      simp [marks]
  | blank known =>
      rintro rfl
      revert known
      simp [blanks]
  | fractional wholeNonempty => simp
  | _ => exact List.cons_ne_nil _ _

/-- A text is of one sort only. -/
theorem Matches.sort_unique {sort other : PieceSort} {text : List Char}
    (matched : Matches sort text) (otherMatched : Matches other text) : sort = other := by
  have alone : Breaks (fun _ => false) [] := trivial
  have found := first?_of_breaks _ matched alone fun _ => rfl
  have otherFound := first?_of_breaks _ otherMatched alone fun _ => rfl
  rw [found] at otherFound
  injection otherFound with same
  injection same with samePiece
  injection samePiece

variable {wordLike : Char → Bool}

/-- No piece begins with a character beyond ASCII. -/
theorem first?_beyond_ascii {head : Char} (beyond : 128 ≤ head.toNat) (tail : List Char) :
    first? wordLike (head :: tail) = none := by
  have noLetter : head.isAlpha = false := by
    rw [Bool.eq_false_iff, Ne, isAlpha_iff_toNat]
    omega
  have noDigit : head.isDigit = false := by
    rw [Bool.eq_false_iff, Ne, Char.isDigit_iff_toNat]
    have nine : '9'.toNat = 57 := rfl
    omega
  simp only [first?, noLetter, noDigit, Bool.false_eq_true, if_false]
  split <;> first | rfl | exact absurd beyond (by decide)

/-- Nothing is cut where no piece begins. -/
theorem cutWithin_of_none {source : List Char} (none : first? wordLike source = none)
    (most : Nat) : cutWithin wordLike most source = ([], source) := by
  cases most with
  | zero => rfl
  | succ most => simp only [cutWithin, none]

/-- The tokens that a text gives are read from it. -/
theorem outcome_ofPiece_of_gives {sort : PieceSort} {text : List Char} {tokens : List Token}
    (gives : Gives sort text tokens) : (Token.ofPiece ⟨sort, text⟩).outcome = .ok tokens := by
  cases gives with
  | layout => rfl
  | verbatim => rfl
  | @quoted content =>
      have unquoted : (('"' :: (content ++ ['"'])).drop 1).dropLast = content := by simp
      simp only [Token.ofPiece, unquoted]
      rfl
  | numeral inRange =>
      simp only [Token.ofPiece, inRange]
      rfl

/-- The tokens read from a matched text are those it gives. -/
theorem outcome_ofPiece_iff {sort : PieceSort} {text : List Char} {tokens : List Token}
    (matched : Matches sort text) :
    (Token.ofPiece ⟨sort, text⟩).outcome = .ok tokens ↔ Gives sort text tokens := by
  constructor
  · intro read
    cases sort with
    | layout layout =>
        cases read
        exact .layout
    | verbatim kind =>
        cases read
        exact .verbatim
    | quoted =>
        cases matched with
        | @quoted content inside =>
            have unquoted : (('"' :: (content ++ ['"'])).drop 1).dropLast = content := by simp
            simp only [Token.ofPiece, unquoted] at read
            cases read
            exact .quoted
    | numeral =>
        simp only [Token.ofPiece] at read
        split at read
        · next inRange =>
          cases read
          exact .numeral inRange
        · cases read
  · exact outcome_ofPiece_of_gives

/-- Pieces one after another give their tokens one after another. -/
theorem outcome_ofPieces_cons (piece : Piece) (pieces : List Piece) :
    (Token.ofPieces (piece :: pieces)).outcome =
      (Token.ofPiece piece).outcome >>= fun tokens =>
        (Token.ofPieces pieces).outcome >>= fun others => .ok (tokens ++ others) := by
  simp only [Token.ofPieces, Traced.outcome_bind]
  rfl

/-- A source is read exactly if all of it is cut and every piece gives its tokens. -/
theorem outcome_tokenizeWith_eq_ok_iff {source : String} {tokens : List Token} :
    (tokenizeWith wordLike source).outcome = .ok tokens ↔
      ∃ pieces, cutWithin wordLike source.toList.length source.toList = (pieces, []) ∧
        (Token.ofPieces pieces).outcome = .ok tokens := by
  unfold tokenizeWith cut
  generalize cutWithin wordLike source.toList.length source.toList = parts
  obtain ⟨pieces, remainder⟩ := parts
  simp only [Token.ofCut, Traced.outcome_bind]
  constructor
  · intro read
    obtain ⟨found, readPieces, concluded⟩ := bind_eq_ok_iff.mp read
    cases remainder with
    | nil =>
        cases concluded
        exact ⟨pieces, rfl, readPieces⟩
    | cons character tail => cases concluded
  · rintro ⟨found, same, read⟩
    cases same
    rw [read]
    rfl

/-- Nothing longer than the piece in front begins there. -/
theorem longest_of_first? {source rest : List Char} {piece : Piece}
    (found : first? wordLike source = some (piece, rest)) : Longest piece.text source := by
  rintro sort other matched ⟨after, rfl⟩
  obtain ⟨front, foundOther, longer⟩ := first?_of_matches wordLike matched after
  rw [found] at foundOther
  cases foundOther
  exact longer

/-- A longest text of some sort is the piece in front; only a keyword that touches a word
character can be of another sort. -/
theorem first?_of_longest (wordLike : Char → Bool) {sort : PieceSort} {text rest : List Char}
    (matched : Matches sort text) (longest : Longest text (text ++ rest)) :
    ∃ front, first? wordLike (text ++ rest) = some (⟨front, text⟩, rest) ∧
      (front = sort ∨ ∃ character tail, rest = character :: tail ∧
        wordLike character = true ∧ isAsciiWordCharacter character = false) := by
  obtain ⟨⟨piece, after⟩, found, longer⟩ := first?_of_matches wordLike matched rest
  obtain ⟨shape, otherSort, otherMatched, same⟩ := first?_sound wordLike found
  -- Both texts stand in front and neither is longer, so they are one text.
  have shorter := longest otherSort piece.text otherMatched ⟨after, shape.symm⟩
  obtain ⟨sameText, sameRest⟩ := List.append_inj shape (Nat.le_antisymm longer shorter)
  subst sameText sameRest
  rw [otherMatched.sort_unique matched] at same
  exact ⟨piece.sort, found, same⟩

/-- A character that belongs to words but not to those of ASCII lies beyond ASCII. -/
theorem beyond_ascii_of_wordLike (agrees : AgreesOnAscii wordLike) {character : Char}
    (belongs : wordLike character = true)
    (outside : isAsciiWordCharacter character = false) : 128 ≤ character.toNat := by
  apply Nat.le_of_not_lt
  intro ascii
  rw [agrees character ascii, outside] at belongs
  cases belongs

/-- A source cut to its end is cut into longest texts. -/
theorem munched_of_cutWithin (agrees : AgreesOnAscii wordLike) {most : Nat}
    {source : List Char} {pieces : List Piece} {tokens : List Token}
    (cutAll : cutWithin wordLike most source = (pieces, []))
    (read : (Token.ofPieces pieces).outcome = .ok tokens) : Munched source tokens := by
  induction most generalizing source pieces tokens with
  | zero =>
      cases cutAll
      cases read
      exact .done
  | succ most inductionHypothesis =>
      cases found : first? wordLike source with
      | none =>
          rw [cutWithin_of_none found] at cutAll
          cases cutAll
          cases read
          exact .done
      | some front =>
          obtain ⟨piece, rest⟩ := front
          simp only [cutWithin, found] at cutAll
          obtain ⟨following, remainder⟩ := Prod.mk.inj cutAll
          subst following
          rw [outcome_ofPieces_cons] at read
          obtain ⟨first, readFirst, readOthers⟩ := bind_eq_ok_iff.mp read
          obtain ⟨others, readRest, finished⟩ := bind_eq_ok_iff.mp readOthers
          cases finished
          have cutRest : cutWithin wordLike most rest =
              ((cutWithin wordLike most rest).1, []) := Prod.ext rfl remainder
          obtain ⟨rfl, sort, matched, same | ⟨character, tail, rfl, belongs, outside⟩⟩ :=
            first?_sound wordLike found
          · subst same
            exact .piece matched.ne_nil matched (longest_of_first? found)
              ((outcome_ofPiece_iff matched).mp readFirst)
              (inductionHypothesis cutRest readRest)
          · -- The touching character begins no piece, so the cut would end before it.
            have beyond := beyond_ascii_of_wordLike agrees belongs outside
            rw [cutWithin_of_none (first?_beyond_ascii beyond tail)] at remainder
            cases remainder

/-- No source that begins beyond ASCII is cut. -/
theorem not_munched_beyond_ascii {head : Char} (beyond : 128 ≤ head.toNat)
    {tail : List Char} {tokens : List Token} : ¬ Munched (head :: tail) tokens := by
  intro munched
  generalize shape : head :: tail = source at munched
  cases munched with
  | done => cases shape
  | piece nonempty matched longest gives following =>
      obtain ⟨front, found, -⟩ := first?_of_matches (fun _ => false) matched _
      rw [← shape, first?_beyond_ascii beyond] at found
      cases found

/-- A source of longest texts is cut into these and to its end. -/
theorem cutWithin_of_munched (agrees : AgreesOnAscii wordLike) {source : List Char}
    {tokens : List Token} (munched : Munched source tokens) {most : Nat}
    (enough : source.length ≤ most) :
    ∃ pieces, cutWithin wordLike most source = (pieces, []) ∧
      (Token.ofPieces pieces).outcome = .ok tokens := by
  induction munched generalizing most with
  | done =>
      refine ⟨[], ?_, rfl⟩
      cases most <;> rfl
  | @piece sort text rest tokens others nonempty matched longest gives following
      inductionHypothesis =>
      obtain ⟨front, found, same⟩ := first?_of_longest wordLike matched longest
      have sameSort : front = sort := by
        rcases same with same | ⟨character, tail, rfl, belongs, outside⟩
        · exact same
        · have beyond := beyond_ascii_of_wordLike agrees belongs outside
          exact absurd following (not_munched_beyond_ascii beyond)
      subst sameSort
      have positive := List.length_pos_iff.mpr nonempty
      rw [List.length_append] at enough
      obtain ⟨most, rfl⟩ := Nat.exists_eq_add_one_of_ne_zero
        (show most ≠ 0 by omega)
      obtain ⟨pieces, cutRest, readRest⟩ :=
        inductionHypothesis (show rest.length ≤ most by omega)
      refine ⟨⟨front, text⟩ :: pieces, by simp only [cutWithin, found, cutRest], ?_⟩
      rw [outcome_ofPieces_cons, outcome_ofPiece_of_gives gives, ok_bind, readRest]
      rfl

/-- The tokens of a source are those of its longest pieces, for every notion of word
characters that agrees on ASCII. -/
theorem outcome_tokenizeWith_iff_munched (agrees : AgreesOnAscii wordLike) {source : String}
    {tokens : List Token} :
    (tokenizeWith wordLike source).outcome = .ok tokens ↔ Munched source.toList tokens := by
  rw [outcome_tokenizeWith_eq_ok_iff]
  constructor
  · rintro ⟨pieces, cutAll, read⟩
    exact munched_of_cutWithin agrees cutAll read
  · intro munched
    exact cutWithin_of_munched agrees munched (Nat.le_refl _)

end Lexeme

/-- A source is read as tokens exactly if it splits into longest pieces, each a text of
one of the sorts, no numeral among them out of range, and the tokens are those of the
pieces in order. -/
theorem tokenize_maximal_munch (source : String) (tokens : List Token) :
    (tokenize source).outcome = .ok tokens ↔ Lexeme.Munched source.toList tokens :=
  Lexeme.outcome_tokenizeWith_iff_munched Lexeme.isWordCharacter_agreesOnAscii

end ScriptFront
