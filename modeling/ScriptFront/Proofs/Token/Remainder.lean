import ScriptFront.Proofs.Token.Splicing

/-!
# The remainder of a source

Where no piece begins, the rest of the source is reported as its remainder. What stands
before it is read by itself, and is the longest part of the source from its start that is.
The remainder begins with a character that no piece begins with, or with a quote that is
never closed.
-/

namespace ScriptFront

namespace Lexeme

open Text Piece

/-- What follows an opening quote that no quote closes: content up to the end of the source,
where a last backslash may stand alone, or up to a backslash before a line feed. -/
def Unclosed (text : List Char) : Prop :=
  ∃ content stop, text = content ++ stop ∧ Content content ∧
    (stop = [] ∨ stop = ['\\'] ∨ ['\\', '\n'] <+: stop)

/-- Where no closing quote is found, content goes on as far as it can and is not closed. -/
theorem unclosed_of_closing? {text : List Char} (unfound : closing? text = none) :
    Unclosed text := by
  fun_induction closing? text with
  | case1 => exact ⟨[], [], rfl, .empty, .inl rfl⟩
  | case2 => cases unfound
  | case3 => exact ⟨[], ['\\'], rfl, .empty, .inr (.inl rfl)⟩
  | case4 rest => exact ⟨[], _, rfl, .empty, .inr (.inr ⟨rest, rfl⟩)⟩
  | case5 escaped rest sameLine inductionHypothesis =>
      obtain ⟨content, stop, rfl, inside, ending⟩ :=
        inductionHypothesis (Option.map_eq_none_iff.mp unfound)
      exact ⟨'\\' :: escaped :: content, stop, rfl, .escape sameLine inside, ending⟩
  | case6 character rest noQuote noLast noEscape inductionHypothesis =>
      have noBackslash : character ≠ '\\' := by
        rintro rfl
        cases rest with
        | nil => exact noLast rfl rfl
        | cons escaped more => exact noEscape escaped more rfl rfl
      obtain ⟨content, stop, rfl, inside, ending⟩ :=
        inductionHypothesis (Option.map_eq_none_iff.mp unfound)
      exact ⟨character :: content, stop, rfl, .plain noQuote noBackslash inside, ending⟩

/-- A character that is a text of some sort by itself begins a piece. -/
theorem not_matches_of_first?_none {wordLike : Char → Bool} {head : Char} {tail : List Char}
    (unfound : first? wordLike (head :: tail) = none) (sort : PieceSort) :
    ¬ Matches sort [head] := by
  intro matched
  obtain ⟨found, begins, -⟩ := first?_of_matches wordLike matched tail
  rw [List.singleton_append, unfound] at begins
  cases begins

/-- Where no piece begins, the front character begins none, or it is a quote that is not
closed. -/
theorem head_of_first?_none {wordLike : Char → Bool} {head : Char} {tail : List Char}
    (unfound : first? wordLike (head :: tail) = none) :
    head = '"' ∧ Unclosed tail ∧
        (∀ content rest, Content content → tail ≠ content ++ '"' :: rest) ∨
      head.isAlpha = false ∧ head.isDigit = false ∧
        head ∉ [' ', '\t', '\r', '\n', '(', ')', ',', '=', '#', '"'] := by
  by_cases quote : head = '"'
  · subst quote
    have unclosed : closing? tail = none := Option.map_eq_none_iff.mp unfound
    refine .inl ⟨rfl, unclosed_of_closing? unclosed, ?_⟩
    rintro content rest inside rfl
    rw [closing?_content inside] at unclosed
    cases unclosed
  · have single := not_matches_of_first?_none unfound
    refine .inr ⟨?_, ?_, ?_⟩
    · rw [Bool.eq_false_iff]
      exact fun letter => single _ (.word letter nofun)
    · rw [Bool.eq_false_iff]
      intro digit
      exact single _ (.whole (List.cons_ne_nil _ _) (List.forall_mem_singleton.mpr digit))
    · intro known
      simp only [List.mem_cons, List.not_mem_nil, or_false, quote] at known
      rcases known with rfl | rfl | rfl | rfl | rfl | rfl | rfl | rfl | rfl
      · exact single (.layout .space) (.blank (by decide))
      · exact single (.layout .tab) (.blank (by decide))
      · exact single (.layout .carriageReturn) (.blank (by decide))
      · exact single (.verbatim .newline) (.mark (by decide))
      · exact single (.verbatim .parenthesisOpen) (.mark (by decide))
      · exact single (.verbatim .parenthesisClose) (.mark (by decide))
      · exact single (.verbatim .comma) (.mark (by decide))
      · exact single (.verbatim .equal) (.mark (by decide))
      · exact single (.layout .comment) (.comment nofun)

section Prefixes

variable {rest part : List Char}

/-- No piece begins in a part of a text from its start if none begins in the text. -/
theorem first?_none_of_isPrefix {wordLike : Char → Bool} (isPrefix : part <+: rest)
    (unfound : first? wordLike rest = none) : first? wordLike part = none := by
  cases found : first? wordLike part with
  | none => rfl
  | some front =>
      obtain ⟨piece, after⟩ := front
      obtain ⟨rfl, sort, matched, -⟩ := first?_sound wordLike found
      obtain ⟨more, rfl⟩ := isPrefix
      obtain ⟨other, foundOther, -⟩ := first?_of_matches wordLike matched (after ++ more)
      rw [← List.append_assoc, unfound] at foundOther
      cases foundOther

/-- Reading can stop short in what follows: a piece that ends before a text ends before any
part of it from its start. -/
theorem resumes_isPrefix (isPrefix : part <+: rest) : Resumes rest part part where
  alone := ⟨[], .nothing⟩
  behind := by
    intro sort text found
    left
    have longest : Longest text (text ++ part) := by
      intro other otherText matched shorter
      obtain ⟨more, rfl⟩ := isPrefix
      apply longest_of_first? found other otherText matched
      rw [← List.append_assoc]
      exact shorter.trans (List.prefix_append _ _)
    exact first?_of_longest_ascii (first?_matches found).2 longest

end Prefixes

/-- Reading that halts before a remainder has consumed all before it, and no piece begins
there. -/
theorem consumed_of_unmatched {wordLike : Char → Bool} {source : List Char} {remainder : String}
    (failed : reading wordLike source = .error (.unmatchedInput remainder)) :
    ∃ tokens events, Consumed wordLike source tokens events remainder.toList ∧
      remainder.toList ≠ [] ∧ first? wordLike remainder.toList = none := by
  obtain ⟨tokens, events, rest, consumed, ending⟩ := consumed_reading wordLike source
  rcases ending with ⟨error, halts, halted⟩ | ⟨-, finished⟩
  · rw [failed] at halted
    cases halts with
    | unmatched filled unfound =>
        cases halted
        rw [String.toList_ofList]
        exact ⟨tokens, events, consumed, filled, unfound⟩
    | outOfRange found valueless => cases halted
  · rw [failed] at finished
    cases finished

section Parts

variable {front rest part : List Char} {tokens : List Token} {events : List Event}

/-- What follows a place that is reached can be cut short: reading then ends as it does for
the part that is kept. -/
theorem reading_of_isPrefix
    (consumed : Consumed isAsciiWordCharacter (front ++ rest) tokens events rest)
    (isPrefix : part <+: rest) :
    reading isAsciiWordCharacter (front ++ part) =
      (reading isAsciiWordCharacter part).map (tokens ++ ·) := by
  obtain ⟨resumedEvents, resumed⟩ := consumed.resume (resumes_isPrefix isPrefix)
  exact reading_of_consumed resumed

/-- What stands before a place that is reached is read by itself. -/
theorem reading_front
    (consumed : Consumed isAsciiWordCharacter (front ++ rest) tokens events rest) :
    reading isAsciiWordCharacter front = .ok tokens := by
  have read := reading_of_isPrefix consumed List.nil_prefix
  rw [List.append_nil, reading_nil] at read
  rw [read]
  exact congrArg Except.ok (List.append_nil tokens)

/-- Where no piece begins, whatever is left of the rest is the remainder. -/
theorem reading_unmatched
    (consumed : Consumed isAsciiWordCharacter (front ++ rest) tokens events rest)
    (unfound : first? isAsciiWordCharacter rest = none) (filled : part ≠ [])
    (isPrefix : part <+: rest) :
    reading isAsciiWordCharacter (front ++ part) =
      .error (.unmatchedInput (String.ofList part)) := by
  rw [reading_of_isPrefix consumed isPrefix,
    reading_of_none filled (first?_none_of_isPrefix isPrefix unfound)]
  rfl

/-- Where no piece begins, nothing longer is read than what stands before. -/
theorem isPrefix_of_reading {read : List Token}
    (consumed : Consumed isAsciiWordCharacter (front ++ rest) tokens events rest)
    (unfound : first? isAsciiWordCharacter rest = none) (isPrefix : part <+: front ++ rest)
    (succeeded : reading isAsciiWordCharacter part = .ok read) : part <+: front := by
  rcases List.prefix_or_prefix_of_prefix isPrefix (List.prefix_append front rest) with
    shorter | ⟨more, rfl⟩
  · exact shorter
  · have continues := (List.prefix_append_right_inj front).mp isPrefix
    cases more with
    | nil => simp
    | cons head tail =>
        rw [reading_unmatched consumed unfound (List.cons_ne_nil _ _) continues] at succeeded
        cases succeeded

end Parts

end Lexeme

/-- The remainder that is reported is exact. It is not empty and ends the source, and what
stands before it is read. Every part of it from its start would have been the remainder
just so, so nothing longer is read from the start of the source. It begins with a quote
that is not closed, or with a character that begins no piece. -/
theorem tokenize_remainder (source remainder : String)
    (failed : (tokenize source).outcome = .error (.unmatchedInput remainder)) :
    remainder ≠ "" ∧ ∃ front : String, source = front ++ remainder ∧
      (∃ tokens, (tokenize front).outcome = .ok tokens) ∧
      (∀ part : String, part ≠ "" → part.toList <+: remainder.toList →
        (tokenize (front ++ part)).outcome = .error (.unmatchedInput part)) ∧
      (∀ (part : String) (tokens : List Token), part.toList <+: source.toList →
        (tokenize part).outcome = .ok tokens → part.toList <+: front.toList) ∧
      ∃ head tail, remainder.toList = head :: tail ∧
        (head = '"' ∧ Lexeme.Unclosed tail ∧
            (∀ content rest, Lexeme.Content content → tail ≠ content ++ '"' :: rest) ∨
          head.isAlpha = false ∧ head.isDigit = false ∧
            head ∉ [' ', '\t', '\r', '\n', '(', ')', ',', '=', '#', '"']) := by
  simp only [Lexeme.outcome_tokenize, String.toList_append] at failed ⊢
  obtain ⟨tokens, events, consumed, filled, unfound⟩ := Lexeme.consumed_of_unmatched failed
  obtain ⟨front, shape⟩ := consumed.split
  rw [shape] at consumed ⊢
  refine ⟨?_, String.ofList front, ?_, ⟨tokens, ?_⟩, ?_, ?_, ?_⟩
  · exact fun empty => filled (String.toList_eq_nil_iff.mpr empty)
  · apply String.toList_injective
    rw [shape, String.toList_append, String.toList_ofList]
  · rw [String.toList_ofList]
    exact Lexeme.reading_front consumed
  · intro part nonempty isPrefix
    have filledPart : part.toList ≠ [] := fun empty => nonempty (String.toList_eq_nil_iff.mp empty)
    rw [String.toList_ofList, Lexeme.reading_unmatched consumed unfound filledPart isPrefix,
      String.ofList_toList]
  · intro part read isPrefix succeeded
    rw [String.toList_ofList]
    exact Lexeme.isPrefix_of_reading consumed unfound isPrefix succeeded
  · obtain ⟨head, tail, begins⟩ := List.exists_cons_of_ne_nil filled
    rw [begins] at unfound
    exact ⟨head, tail, begins, Lexeme.head_of_first?_none unfound⟩

/-- An escaped quote does not close the string that is left open, and behind a point that
is no fraction nothing is read. -/
theorem tokenize_remainder_open_string :
    (tokenize "say(\"a\\\"").outcome = .error (.unmatchedInput "\"a\\\"") ∧
    (∃ front : String, "say(\"a\\\"" = front ++ "\"a\\\"" ∧
      (tokenize (front ++ "\"a")).outcome = .error (.unmatchedInput "\"a")) ∧
    (tokenize "1._2").outcome = .error (.unmatchedInput "._2") ∧
    ∃ front : String, "1._2" = front ++ "._2" ∧
      (tokenize (front ++ ".")).outcome = .error (.unmatchedInput ".") := by
  have openString : (tokenize "say(\"a\\\"").outcome =
      .error (.unmatchedInput "\"a\\\"") := rfl
  have bareWord : (tokenize "1._2").outcome = .error (.unmatchedInput "._2") := rfl
  obtain ⟨-, front, shape, -, parts, -⟩ := tokenize_remainder _ _ openString
  obtain ⟨-, whole, wholeShape, -, wholeParts, -⟩ := tokenize_remainder _ _ bareWord
  exact ⟨openString, ⟨front, shape, parts _ (by decide) (by decide)⟩, bareWord,
    whole, wholeShape, wholeParts _ (by decide) (by decide)⟩

end ScriptFront
