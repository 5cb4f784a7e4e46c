import ScriptFront.Proofs.Token.Munch

/-!
# Consuming a source piece by piece

Reading tokens as steps from the front of a source: each step takes the piece that
begins there and reports it once, as layout or as the token it gives. The steps end at
the end of the source, at a place where no piece begins, or before a numeral that has no
value. How reading ends can be told piece by piece as well: `reading` is the outcome for a
list of characters, with an equation for a place where a piece begins and one for a place
where none does.
-/

namespace ScriptFront

namespace Lexeme

open Piece

variable {wordLike : Char → Bool}

/-- A piece takes at least one character. -/
theorem length_lt_of_first? {source rest : List Char} {piece : Piece}
    (found : first? wordLike source = some (piece, rest)) : rest.length < source.length := by
  obtain ⟨rfl, _, matched, -⟩ := first?_sound wordLike found
  have positive := List.length_pos_iff.mpr matched.ne_nil
  rw [List.length_append]
  omega

/-- Pieces consumed from the front of a source: the tokens they give, the events that
report them, and the rest of the source. -/
inductive Consumed (wordLike : Char → Bool) :
    List Char → List Token → List Event → List Char → Prop where
  | nothing {source : List Char} : Consumed wordLike source [] [] source
  | layout {source text after rest : List Char} {layout : Layout} {tokens : List Token}
      {events : List Event}
      (found : first? wordLike source = some (⟨.layout layout, text⟩, after))
      (following : Consumed wordLike after tokens events rest) :
      Consumed wordLike source tokens (.skipped layout :: events) rest
  | token {source after rest : List Char} {piece : Piece} {token : Token}
      {tokens : List Token} {events : List Event}
      (found : first? wordLike source = some (piece, after))
      (gives : Gives piece.sort piece.text [token])
      (following : Consumed wordLike after tokens events rest) :
      Consumed wordLike source (token :: tokens) (.digested token :: events) rest

/-- Why nothing more is consumed from what is left of a source. -/
inductive Halts (wordLike : Char → Bool) : List Char → LexicalError → Prop where
  /-- No piece begins there. -/
  | unmatched {rest : List Char} (filled : rest ≠ []) (unfound : first? wordLike rest = none) :
      Halts wordLike rest (.unmatchedInput (String.ofList rest))
  /-- A numeral begins there that has no value. -/
  | outOfRange {rest text after : List Char}
      (found : first? wordLike rest = some (⟨.numeral, text⟩, after))
      (valueless : Number.ofNumeral? text = none) :
      Halts wordLike rest (.illegalNumeral (String.ofList text))

namespace Halts

variable {rest : List Char} {error other : LexicalError}

/-- Reading halts before the end of a source. -/
theorem ne_nil (halts : Halts wordLike rest error) : rest ≠ [] := by
  cases halts with
  | unmatched filled unfound => exact filled
  | outOfRange found valueless =>
      rintro rfl
      cases found

/-- There is one reason for which reading halts. -/
theorem unique (halts : Halts wordLike rest error) (halting : Halts wordLike rest other) :
    error = other := by
  cases halts with
  | unmatched filled unfound =>
      cases halting with
      | unmatched => rfl
      | outOfRange found => rw [unfound] at found; cases found
  | outOfRange found valueless =>
      cases halting with
      | unmatched filled unfound => rw [found] at unfound; cases unfound
      | outOfRange foundOther => rw [found] at foundOther; cases foundOther; rfl

/-- Reading does not halt at a piece that can be read. -/
theorem not_of_read {after : List Char} {piece : Piece} {events : List Event}
    {tokens : List Token} (found : first? wordLike rest = some (piece, after))
    (read : Token.ofPiece piece = ⟨events, .ok tokens⟩) : ¬ Halts wordLike rest error := by
  intro halts
  cases halts with
  | unmatched filled unfound => rw [found] at unfound; cases unfound
  | outOfRange foundNumeral valueless =>
      rw [found] at foundNumeral
      cases foundNumeral
      simp only [Token.ofPiece, valueless] at read
      cases read

end Halts

/-- How reading a piece ends and what it reports: it gives no token or one, or it is a
numeral without a value. -/
inductive Digested (piece : Piece) : Traced LexicalError (List Token) → Prop where
  | layout {layout : Layout} (sort : piece.sort = .layout layout) :
      Digested piece ⟨[.skipped layout], .ok []⟩
  | token {token : Token} (gives : Gives piece.sort piece.text [token]) :
      Digested piece ⟨[.digested token], .ok [token]⟩
  | refused (sort : piece.sort = .numeral) (valueless : Number.ofNumeral? piece.text = none) :
      Digested piece ⟨[.unreadable (.illegalNumeral (String.ofList piece.text))],
        .error (.illegalNumeral (String.ofList piece.text))⟩

/-- A string that is found stands between quotes. -/
theorem quoted_of_first? {source text rest : List Char}
    (found : first? wordLike source = some (⟨.quoted, text⟩, rest)) :
    ∃ content, text = '"' :: (content ++ ['"']) := by
  cases source with
  | nil => cases found
  | cons head tail =>
      simp only [first?] at found
      split at found
      · injection found with same
        cases congrArg (fun piece => piece.1.sort) same
      · split at found
        · next digit =>
          have shape := numeral_sound tail digit
          rw [Option.some.inj found] at shape
          cases shape.2.1
        · split at found
          · obtain ⟨⟨inner, after⟩, closed, finished⟩ := Option.map_eq_some_iff.mp found
            cases finished
            obtain ⟨content, rfl, -⟩ := closing?_sound closed
            exact ⟨content, rfl⟩
          · split at found <;> cases found
          all_goals cases found

/-- A piece that gives a token reports it. -/
theorem ofPiece_of_gives {piece : Piece} {token : Token}
    (gives : Gives piece.sort piece.text [token]) :
    Token.ofPiece piece = ⟨[.digested token], .ok [token]⟩ := by
  obtain ⟨sort, text⟩ := piece
  cases gives with
  | verbatim => rfl
  | @quoted content =>
      have unquoted : (('"' :: (content ++ ['"'])).drop 1).dropLast = content := by simp
      simp only [Token.ofPiece, unquoted]
      rfl
  | numeral inRange =>
      simp only [Token.ofPiece, inRange]
      rfl

/-- A piece that is found is digested in one of the three ways. -/
theorem digested_ofPiece {source rest : List Char} {piece : Piece}
    (found : first? wordLike source = some (piece, rest)) :
    Digested piece (Token.ofPiece piece) := by
  obtain ⟨sort, text⟩ := piece
  cases sort with
  | layout layout => exact .layout rfl
  | verbatim kind => exact .token .verbatim
  | quoted =>
      obtain ⟨content, rfl⟩ := quoted_of_first? found
      rw [ofPiece_of_gives .quoted]
      exact .token .quoted
  | numeral =>
      cases value : Number.ofNumeral? text with
      | none =>
          simp only [Token.ofPiece, value]
          exact .refused rfl value
      | some number =>
          rw [ofPiece_of_gives (.numeral value)]
          exact .token (.numeral value)

/-- What reading the pieces of a source reports. They are consumed up to one that halts
reading, or all of them, and then no piece begins in the rest. -/
theorem consumed_ofPieces (wordLike : Char → Bool) {most : Nat} {source : List Char}
    (enough : source.length ≤ most) :
    ∃ tokens events rest, Consumed wordLike source tokens events rest ∧
      ((∃ error, Halts wordLike rest error ∧
          Token.ofPieces (cutWithin wordLike most source).1 =
            ⟨events ++ [.unreadable error], .error error⟩) ∨
        (cutWithin wordLike most source).2 = rest ∧ first? wordLike rest = none ∧
          Token.ofPieces (cutWithin wordLike most source).1 = ⟨events, .ok tokens⟩) := by
  induction most generalizing source with
  | zero =>
      obtain rfl := List.length_eq_zero_iff.mp (Nat.le_zero.mp enough)
      exact ⟨[], [], [], .nothing, .inr ⟨rfl, rfl, rfl⟩⟩
  | succ most inductionHypothesis =>
      cases found : first? wordLike source with
      | none =>
          rw [cutWithin_of_none found]
          exact ⟨[], [], source, .nothing, .inr ⟨rfl, found, rfl⟩⟩
      | some front =>
          obtain ⟨piece, after⟩ := front
          have shorter := length_lt_of_first? found
          have digested := digested_ofPiece found
          simp only [cutWithin, found, Token.ofPieces]
          obtain ⟨tokens, events, rest, consumed, ending⟩ :=
            inductionHypothesis (show after.length ≤ most by omega)
          -- Either the piece halts reading, or it is reported before what follows it.
          generalize Token.ofPiece piece = first at digested ⊢
          generalize Token.ofPieces (cutWithin wordLike most after).1 = following at ending ⊢
          cases digested with
          | layout sort =>
              obtain ⟨_, text⟩ := piece
              cases sort
              refine ⟨tokens, _, rest, .layout found consumed, ?_⟩
              rcases ending with ⟨error, halts, rfl⟩ | ⟨reached, unfound, rfl⟩
              · exact .inl ⟨error, halts, rfl⟩
              · exact .inr ⟨reached, unfound, rfl⟩
          | token gives =>
              refine ⟨_ :: tokens, _, rest, .token found gives consumed, ?_⟩
              rcases ending with ⟨error, halts, rfl⟩ | ⟨reached, unfound, rfl⟩
              · exact .inl ⟨error, halts, rfl⟩
              · exact .inr ⟨reached, unfound, rfl⟩
          | refused sort valueless =>
              obtain ⟨_, text⟩ := piece
              cases sort
              exact ⟨[], [], source, .nothing, .inl ⟨_, .outOfRange found valueless, rfl⟩⟩

/-- What reading the tokens of a source reports: every piece that is consumed, and then
why it halts or how many tokens there are. -/
theorem consumed_tokenizeWith (wordLike : Char → Bool) (source : String) :
    ∃ tokens events rest, Consumed wordLike source.toList tokens events rest ∧
      ((∃ error, Halts wordLike rest error ∧
          tokenizeWith wordLike source = ⟨events ++ [.unreadable error], .error error⟩) ∨
        rest = [] ∧
          tokenizeWith wordLike source = ⟨events ++ [.tokenized tokens.length], .ok tokens⟩) := by
  obtain ⟨tokens, events, rest, consumed, ending⟩ :=
    consumed_ofPieces wordLike (Nat.le_refl source.toList.length)
  refine ⟨tokens, events, rest, consumed, ?_⟩
  unfold tokenizeWith cut
  generalize cutWithin wordLike source.toList.length source.toList = parts at ending ⊢
  obtain ⟨pieces, remainder⟩ := parts
  simp only [Token.ofCut]
  rcases ending with ⟨error, halts, read⟩ | ⟨reached, unfound, read⟩
  · refine .inl ⟨error, halts, ?_⟩
    rw [read]
    rfl
  · subst reached
    cases remainder with
    | nil =>
        refine .inr ⟨rfl, ?_⟩
        rw [read]
        rfl
    | cons head tail =>
        refine .inl ⟨_, .unmatched (List.cons_ne_nil _ _) unfound, ?_⟩
        rw [read]
        rfl

/-- Any budget that reaches the end of a source cuts it the same way. -/
theorem cutWithin_budget {most more : Nat} {source : List Char}
    (enough : source.length ≤ most) (enoughMore : source.length ≤ more) :
    cutWithin wordLike most source = cutWithin wordLike more source := by
  induction most generalizing more source with
  | zero =>
      obtain rfl := List.length_eq_zero_iff.mp (Nat.le_zero.mp enough)
      cases more <;> rfl
  | succ most inductionHypothesis =>
      cases found : first? wordLike source with
      | none => rw [cutWithin_of_none found, cutWithin_of_none found]
      | some front =>
          obtain ⟨piece, rest⟩ := front
          have shorter := length_lt_of_first? found
          obtain ⟨more, rfl⟩ := Nat.exists_eq_add_one_of_ne_zero (show more ≠ 0 by omega)
          have enoughRest : rest.length ≤ most := by omega
          have enoughMoreRest : rest.length ≤ more := by omega
          have cutRest := inductionHypothesis enoughRest enoughMoreRest
          simp only [cutWithin, found, cutRest]

/-- A piece in front is the first one of the cut, before those of the rest. -/
theorem cut_of_first? {source rest : List Char} {piece : Piece}
    (found : first? wordLike source = some (piece, rest)) :
    cut wordLike source = (piece :: (cut wordLike rest).1, (cut wordLike rest).2) := by
  have shorter := length_lt_of_first? found
  obtain ⟨most, same⟩ := Nat.exists_eq_add_one_of_ne_zero (show source.length ≠ 0 by omega)
  have cutRest : cutWithin wordLike most rest = cut wordLike rest :=
    cutWithin_budget (by omega) (Nat.le_refl _)
  simp only [cut, same, cutWithin, found]
  rw [cutRest, cut]

/-- How reading the tokens of a source ends, apart from what it reports. -/
def reading (wordLike : Char → Bool) (source : List Char) : Except LexicalError (List Token) :=
  (Token.ofCut (cut wordLike source).1 (cut wordLike source).2).outcome

theorem outcome_tokenizeWith (wordLike : Char → Bool) (source : String) :
    (tokenizeWith wordLike source).outcome = reading wordLike source.toList :=
  rfl

theorem reading_nil : reading wordLike [] = .ok [] :=
  rfl

/-- Where no piece begins, all that is left is the remainder. -/
theorem reading_of_none {source : List Char} (filled : source ≠ [])
    (unfound : first? wordLike source = none) :
    reading wordLike source = .error (.unmatchedInput (String.ofList source)) := by
  obtain ⟨head, tail, rfl⟩ := List.exists_cons_of_ne_nil filled
  rw [reading, cut, cutWithin_of_none unfound]
  rfl

/-- Where a piece begins, reading goes on with the rest after it. -/
theorem reading_of_first? {source rest : List Char} {piece : Piece}
    (found : first? wordLike source = some (piece, rest)) :
    reading wordLike source = (Token.ofPiece piece).outcome >>= fun tokens =>
      (reading wordLike rest).map (tokens ++ ·) := by
  rw [reading, cut_of_first? found]
  simp only [Token.ofCut, Traced.outcome_bind, outcome_ofPieces_cons, reading]
  cases (Token.ofPiece piece).outcome with
  | error error => rfl
  | ok tokens =>
      cases (Token.ofPieces (cut wordLike rest).1).outcome with
      | error error => rfl
      | ok others => cases (cut wordLike rest).2 <;> rfl

/-- A piece that gives tokens puts them before those of the rest. -/
theorem reading_of_gives {source rest : List Char} {piece : Piece} {tokens : List Token}
    (found : first? wordLike source = some (piece, rest))
    (gives : Gives piece.sort piece.text tokens) :
    reading wordLike source = (reading wordLike rest).map (tokens ++ ·) := by
  rw [reading_of_first? found, outcome_ofPiece_of_gives gives, ok_bind]

namespace Consumed

/-- One more piece in front, with the tokens it gives. -/
theorem step {source after rest : List Char} {piece : Piece} {given tokens : List Token}
    {events : List Event} (found : first? wordLike source = some (piece, after))
    (gives : Gives piece.sort piece.text given)
    (following : Consumed wordLike after tokens events rest) :
    ∃ others, Consumed wordLike source (given ++ tokens) others rest := by
  obtain ⟨sort, text⟩ := piece
  cases gives with
  | layout => exact ⟨_, .layout found following⟩
  | verbatim => exact ⟨_, .token found .verbatim following⟩
  | quoted => exact ⟨_, .token found .quoted following⟩
  | numeral inRange => exact ⟨_, .token found (.numeral inRange) following⟩

/-- Induction along what is consumed, for what does not depend on the events: layout is a
piece like any other, which gives no token. -/
@[elab_as_elim]
theorem piecewise {rest : List Char}
    {motive : ∀ source tokens events, Consumed wordLike source tokens events rest → Prop}
    (nothing : motive rest [] [] .nothing)
    (piece : ∀ {source after piece given tokens events others}
      (_found : first? wordLike source = some (piece, after))
      (_gives : Gives piece.sort piece.text given)
      (following : Consumed wordLike after tokens events rest)
      (whole : Consumed wordLike source (given ++ tokens) others rest),
      motive after tokens events following → motive source (given ++ tokens) others whole)
    {source : List Char} {tokens : List Token} {events : List Event}
    (consumed : Consumed wordLike source tokens events rest) :
    motive source tokens events consumed := by
  induction consumed with
  | nothing => exact nothing
  | layout found following inductionHypothesis =>
      exact piece found .layout following _ (inductionHypothesis nothing piece)
  | token found gives following inductionHypothesis =>
      exact piece found gives following _ (inductionHypothesis nothing piece)

/-- Induction along what is consumed, with what each piece gives and reports. -/
@[elab_as_elim]
theorem stepwise {rest : List Char}
    {motive : ∀ source tokens events, Consumed wordLike source tokens events rest → Prop}
    (nothing : motive rest [] [] .nothing)
    (piece : ∀ {source after piece tokens events} (given reported)
      (_found : first? wordLike source = some (piece, after))
      (_read : Token.ofPiece piece = ⟨reported, .ok given⟩)
      (following : Consumed wordLike after tokens events rest)
      (whole : Consumed wordLike source (given ++ tokens) (reported ++ events) rest),
      motive after tokens events following →
        motive source (given ++ tokens) (reported ++ events) whole)
    {source : List Char} {tokens : List Token} {events : List Event}
    (consumed : Consumed wordLike source tokens events rest) :
    motive source tokens events consumed := by
  induction consumed with
  | nothing => exact nothing
  | layout found following inductionHypothesis =>
      exact piece [] [_] found rfl following (.layout found following)
        (inductionHypothesis nothing piece)
  | token found gives following inductionHypothesis =>
      exact piece [_] [_] found (ofPiece_of_gives gives) following
        (.token found gives following) (inductionHypothesis nothing piece)

variable {source rest : List Char} {tokens : List Token} {events : List Event}

/-- What is left is the end of the source. -/
theorem split (consumed : Consumed wordLike source tokens events rest) :
    ∃ front, source = front ++ rest := by
  induction consumed using piecewise with
  | nothing => exact ⟨[], rfl⟩
  | piece found gives following whole inductionHypothesis =>
      obtain ⟨front, rfl⟩ := inductionHypothesis
      obtain ⟨rfl, -⟩ := first?_sound wordLike found
      exact ⟨_, (List.append_assoc ..).symm⟩

theorem length_le (consumed : Consumed wordLike source tokens events rest) :
    rest.length ≤ source.length := by
  obtain ⟨front, rfl⟩ := consumed.split
  simp

end Consumed

/-- After pieces that are consumed, reading ends as it does for what is left, with their
tokens in front. -/
theorem reading_of_consumed {source rest : List Char} {tokens : List Token}
    {events : List Event} (consumed : Consumed wordLike source tokens events rest) :
    reading wordLike source = (reading wordLike rest).map (tokens ++ ·) := by
  induction consumed using Consumed.piecewise with
  | nothing => cases reading wordLike rest <;> rfl
  | piece found gives following whole inductionHypothesis =>
      rw [reading_of_gives found gives, inductionHypothesis]
      cases reading wordLike rest with
      | error error => rfl
      | ok others => exact congrArg Except.ok (List.append_assoc ..).symm

/-- Every source is consumed up to a place where reading halts, or to its end. -/
theorem consumed_reading (wordLike : Char → Bool) (source : List Char) :
    ∃ tokens events rest, Consumed wordLike source tokens events rest ∧
      ((∃ error, Halts wordLike rest error ∧ reading wordLike source = .error error) ∨
        rest = [] ∧ reading wordLike source = .ok tokens) := by
  obtain ⟨tokens, events, rest, consumed, ending⟩ :=
    consumed_tokenizeWith wordLike (String.ofList source)
  have outcome := outcome_tokenizeWith wordLike (String.ofList source)
  rw [String.toList_ofList] at consumed outcome
  refine ⟨tokens, events, rest, consumed, ?_⟩
  rw [← outcome]
  rcases ending with ⟨error, halts, run⟩ | ⟨finished, run⟩
  · exact .inl ⟨error, halts, congrArg Traced.outcome run⟩
  · exact .inr ⟨finished, congrArg Traced.outcome run⟩

end Lexeme

end ScriptFront
