import ScriptFront.Proofs.Token.WordBoundary

/-!
# Sources put together at a place that is reached

What stands after a place that reading reaches can be exchanged if no piece before it goes
on with the new text. The pieces before are then consumed as they were. Only the last of
them looks at what is new, and at no more than one character of it, two behind digits.

Two laws follow. Layout between two pieces can be added without any effect, also where
reading halts. A line feed after a source that is read ends all its pieces, so lines can
be read one by one.

Everything is shown with the word characters of ASCII alone. Other notions of them reach
the same places and end the same way.
-/

namespace ScriptFront

namespace Lexeme

open Text Piece

section Pieces

variable {sort : PieceSort} {text rest : List Char} {next : Char}

/-- With the word characters of ASCII every piece is of the sort of its text. -/
theorem first?_matches {source : List Char} {piece : Piece}
    (found : first? isAsciiWordCharacter source = some (piece, rest)) :
    source = piece.text ++ rest ∧ Matches piece.sort piece.text := by
  obtain ⟨shape, sort, matched, same | ⟨character, tail, -, belongs, outside⟩⟩ :=
    first?_sound isAsciiWordCharacter found
  · exact ⟨shape, same ▸ matched⟩
  · rw [belongs] at outside
    cases outside

/-- With the word characters of ASCII a longest text of some sort is the piece in front. -/
theorem first?_of_longest_ascii (matched : Matches sort text)
    (longest : Longest text (text ++ rest)) :
    first? isAsciiWordCharacter (text ++ rest) = some (⟨sort, text⟩, rest) := by
  obtain ⟨front, found, same | ⟨character, tail, -, belongs, outside⟩⟩ :=
    first?_of_longest isAsciiWordCharacter matched longest
  · rw [found, same]
  · rw [belongs] at outside
    cases outside

/-- No mark is of the kind of a word. -/
theorem wordKind_not_mark (word text : List Char) : (wordKind word, text) ∉ marks := by
  unfold wordKind
  cases found : Kind.keyword? (String.ofList word) with
  | none => simp [marks]
  | some kind =>
      have keyword : kind ∈ Kind.keywords := List.mem_of_find?_eq_some found
      simp only [Kind.keywords, List.mem_cons, List.not_mem_nil, or_false] at keyword
      rcases keyword with rfl | rfl | rfl | rfl | rfl | rfl | rfl <;> simp [marks]

/-- A longest text does not go on with the next character. -/
theorem not_matches_of_longest (longest : Longest text (text ++ next :: rest))
    (other : PieceSort) : ¬ Matches other (text ++ [next]) := by
  intro prolonged
  have shorter := longest other _ prolonged ⟨rest, by simp⟩
  rw [List.length_append, List.length_singleton] at shorter
  omega

/-- The character after a longest text stops it. A point is left out: after digits it goes
on with them if another digit follows. -/
theorem stops_of_longest (matched : Matches sort text)
    (longest : Longest text (text ++ next :: rest)) (noPoint : sort = .numeral → next ≠ '.') :
    Stops isAsciiWordCharacter sort next := by
  have unprolonged := not_matches_of_longest longest
  have withNext : ∀ {property : Char → Bool} {front : List Char},
      (∀ character ∈ front, property character = true) → property next = true →
      ∀ character ∈ front ++ [next], property character = true := by
    intro property front inside last
    exact List.forall_mem_append.mpr ⟨inside, List.forall_mem_singleton.mpr last⟩
  constructor
  case word =>
      intro word same
      have outside : isAsciiWordCharacter next = false := by
        rw [Bool.eq_false_iff]
        intro belongs
        cases matched with
        | word letter following => exact unprolonged _ (.word letter (withNext following belongs))
        | mark known =>
            cases same
            exact wordKind_not_mark _ _ known
        | _ => cases same
      exact ⟨outside, outside⟩
  case numeral =>
      rintro rfl
      refine ⟨?_, noPoint rfl⟩
      rw [Bool.eq_false_iff]
      intro digit
      cases matched with
      | whole nonempty wholeDigits =>
          exact unprolonged _ (.whole (by simp) (withNext wholeDigits digit))
      | fractional wholeNonempty wholeDigits fractionNonempty fractionDigits =>
          apply unprolonged .numeral
          rw [List.append_assoc, List.cons_append]
          exact .fractional wholeNonempty wholeDigits (by simp) (withNext fractionDigits digit)
  case equal =>
      rintro same rfl
      cases matched with
      | @word first others letter following =>
          injection same with same
          apply wordKind_not_mark (first :: others) ['=']
          rw [same]
          decide
      | mark known =>
          cases same
          obtain rfl : text = ['='] := by simpa [marks] using known
          exact unprolonged _ (.mark (show (Kind.equalEqual, ['=', '=']) ∈ marks by decide))
      | _ => cases same
  case comment =>
      rintro rfl
      cases matched with
      | blank known => simp [blanks] at known
      | @comment body sameLine =>
          apply Decidable.byContradiction
          intro goesOn
          apply unprolonged (.layout .comment)
          rw [List.cons_append]
          apply Matches.comment
          exact List.forall_mem_append.mpr ⟨sameLine, List.forall_mem_singleton.mpr goesOn⟩

/-- A piece looks no further than at the character after it, unless that is a point. -/
theorem first?_of_same_head (noPoint : next ≠ '.')
    (found : first? isAsciiWordCharacter (text ++ next :: rest) =
      some (⟨sort, text⟩, next :: rest)) (other : List Char) :
    first? isAsciiWordCharacter (text ++ next :: other) =
      some (⟨sort, text⟩, next :: other) := by
  have matched := (first?_matches found).2
  apply first?_of_stops isAsciiWordCharacter matched
  rintro _ ⟨⟩
  exact stops_of_longest matched (longest_of_first? found) fun _ => noPoint

/-- A line feed goes on with no piece. -/
theorem stops_newline : Stops isAsciiWordCharacter sort '\n' where
  word _ _ := ⟨rfl, rfl⟩
  numeral _ := ⟨rfl, by decide⟩
  equal _ := by decide
  comment _ := rfl

end Pieces

namespace Consumed

variable {wordLike : Char → Bool} {source rest : List Char} {tokens : List Token}
  {events : List Event}

/-- Where nothing is taken away, no token has been read. -/
theorem tokens_eq_nil (consumed : Consumed wordLike source tokens events rest)
    (unmoved : source.length ≤ rest.length) : tokens = [] := by
  cases consumed using piecewise with
  | nothing => rfl
  | piece found gives following whole =>
      have shorter := length_lt_of_first? found
      have left := following.length_le
      omega

/-- Where something is taken away, no point stands in front. -/
theorem head_ne_point {head : Char} {tail : List Char}
    (consumed : Consumed wordLike (head :: tail) tokens events rest)
    (moved : rest.length < (head :: tail).length) : head ≠ '.' := by
  generalize shape : head :: tail = source at consumed moved
  cases consumed using piecewise with
  | nothing => exact absurd moved (Nat.lt_irrefl _)
  | piece found gives following whole =>
      rintro rfl
      rw [← shape] at found
      cases found

end Consumed

/-- Reading that has come to the old text can go on with the new one in its place, and then
comes to the rest without a further token. This holds for the new text by itself and behind
any piece that ended before the old one: the piece is kept, or it is layout and takes in all
that stands before the rest. -/
structure Resumes (old new rest : List Char) : Prop where
  alone : ∃ events, Consumed isAsciiWordCharacter new [] events rest
  behind : ∀ sort text,
    first? isAsciiWordCharacter (text ++ old) = some (⟨sort, text⟩, old) →
    first? isAsciiWordCharacter (text ++ new) = some (⟨sort, text⟩, new) ∨
      ∃ layout more, sort = .layout layout ∧
        first? isAsciiWordCharacter (text ++ new) = some (⟨.layout layout, more⟩, rest)

section Resuming

variable {old new rest front : List Char} {tokens : List Token} {events : List Event}

/-- A piece that is followed by others, or by the old text, is found before the new one. -/
theorem Resumes.keeps (resumes : Resumes old new rest) {sort : PieceSort} {text : List Char}
    (found : first? isAsciiWordCharacter (text ++ (front ++ old)) =
      some (⟨sort, text⟩, front ++ old))
    (following : Consumed isAsciiWordCharacter (front ++ old) tokens events old) :
    first? isAsciiWordCharacter (text ++ (front ++ new)) =
        some (⟨sort, text⟩, front ++ new) ∨
      front = [] ∧ ∃ layout more, sort = .layout layout ∧
        first? isAsciiWordCharacter (text ++ new) = some (⟨.layout layout, more⟩, rest) := by
  cases front with
  | nil =>
      rcases resumes.behind sort text found with kept | taken
      · exact .inl kept
      · exact .inr ⟨rfl, taken⟩
  | cons head tail =>
      have moved : old.length < (head :: tail ++ old).length := by
        rw [List.length_append, List.length_cons]
        omega
      exact .inl (first?_of_same_head (following.head_ne_point moved) found _)

/-- What has been consumed before the old text is consumed before the new one. -/
theorem Consumed.resume (resumes : Resumes old new rest)
    (consumed : Consumed isAsciiWordCharacter (front ++ old) tokens events old) :
    ∃ others, Consumed isAsciiWordCharacter (front ++ new) tokens others rest := by
  generalize shape : front ++ old = source at consumed
  induction consumed using Consumed.piecewise generalizing front with
  | nothing =>
      obtain rfl : front = [] := by simpa using shape
      exact resumes.alone
  | @piece source after piece given tokens events others found gives following whole
      inductionHypothesis =>
      obtain ⟨between, rfl⟩ := following.split
      obtain ⟨joined, -⟩ := first?_matches found
      obtain rfl : front = piece.text ++ between :=
        List.append_cancel_right (by rw [shape, joined, List.append_assoc])
      subst joined
      rw [List.append_assoc]
      rcases resumes.keeps found following with kept | ⟨rfl, layout, more, same, taken⟩
      · obtain ⟨_, resumed⟩ := inductionHypothesis rfl
        exact Consumed.step kept gives resumed
      · -- The last piece is layout and takes in the new text, so there is no token left.
        obtain rfl := following.tokens_eq_nil (Nat.le_refl _)
        rw [same] at gives
        cases gives
        exact ⟨_, .layout taken .nothing⟩

/-- Reading ends as before if the old text is reached again. -/
theorem reading_of_resumes (resumes : Resumes old new old)
    (reached : Consumed isAsciiWordCharacter (front ++ old) tokens events old) :
    reading isAsciiWordCharacter (front ++ new) =
      reading isAsciiWordCharacter (front ++ old) := by
  obtain ⟨others, resumed⟩ := reached.resume resumes
  rw [reading_of_consumed resumed, reading_of_consumed reached]

end Resuming

section Layouts

variable {inserted back : List Char} {events : List Event}

/-- Layout within a line can stand before anything that is reached. A comment before it
takes it in. -/
theorem resumes_layout (consumed : Consumed isAsciiWordCharacter (inserted ++ back) [] events back)
    (breaks : Breaks isAsciiWordCharacter (inserted ++ back))
    (sameLine : ∀ character ∈ inserted, character ≠ '\n') :
    Resumes back (inserted ++ back) back where
  alone := ⟨events, consumed⟩
  behind := by
    intro sort text found
    have matched := (first?_matches found).2
    by_cases comment : sort = .layout .comment
    · subst comment
      right
      refine ⟨.comment, text ++ inserted, rfl, ?_⟩
      rw [← List.append_assoc]
      apply first?_of_stops
      · cases matched with
        | blank known => simp [blanks] at known
        | comment body => exact .comment (List.forall_mem_append.mpr ⟨body, sameLine⟩)
      · intro next front
        obtain ⟨tail, rfl⟩ := List.head?_eq_some_iff.mp front
        exact stops_of_longest matched (longest_of_first? found) PieceSort.noConfusion
    · exact .inl (first?_of_breaks _ matched breaks fun same => absurd same comment)

/-- What layout begins with goes on with no piece but a comment. -/
theorem breaks_layout {character : Char} (known : character ∈ [' ', '\t', '\r', '#'])
    (rest : List Char) : Breaks isAsciiWordCharacter (character :: rest) := by
  simp only [List.mem_cons, List.not_mem_nil, or_false] at known
  rcases known with rfl | rfl | rfl | rfl <;> exact ⟨rfl, rfl, by decide, by decide⟩

/-- Spaces, tabs and carriage returns give no token. -/
theorem consumed_blanks {wordLike : Char → Bool}
    (blank : ∀ character ∈ inserted, character ∈ [' ', '\t', '\r']) :
    ∃ events, Consumed wordLike (inserted ++ back) [] events back := by
  induction inserted with
  | nil => exact ⟨[], .nothing⟩
  | cons character others inductionHypothesis =>
      obtain ⟨first, following⟩ := List.forall_mem_cons.mp blank
      obtain ⟨events, consumed⟩ := inductionHypothesis following
      have known : ∃ layout, (layout, [character]) ∈ blanks := by
        simp only [List.mem_cons, List.not_mem_nil, or_false] at first
        rcases first with rfl | rfl | rfl
        · exact ⟨.space, by decide⟩
        · exact ⟨.tab, by decide⟩
        · exact ⟨.carriageReturn, by decide⟩
      obtain ⟨layout, known⟩ := known
      exact ⟨_, .layout (first?_blank wordLike known _) consumed⟩

theorem resumes_blanks (blank : ∀ character ∈ inserted, character ∈ [' ', '\t', '\r']) :
    Resumes back (inserted ++ back) back := by
  cases inserted with
  | nil => exact ⟨⟨[], .nothing⟩, fun _ _ found => .inl found⟩
  | cons character others =>
      obtain ⟨events, consumed⟩ := consumed_blanks blank
      apply resumes_layout consumed
      · apply breaks_layout
        exact List.mem_append_left ['#'] (blank character List.mem_cons_self)
      · rintro _ member rfl
        exact absurd (blank '\n' member) (by decide)

/-- A comment can stand at the end of a line. -/
theorem resumes_comment (lineEnd : ∀ next ∈ back.head?, next = '\n')
    (sameLine : ∀ character ∈ inserted, character ≠ '\n') :
    Resumes back ('#' :: inserted ++ back) back := by
  have found : first? isAsciiWordCharacter ('#' :: inserted ++ back) =
      some (⟨.layout .comment, '#' :: inserted⟩, back) := by
    apply first?_of_stops isAsciiWordCharacter (.comment sameLine)
    intro next front
    rw [lineEnd next front]
    exact stops_newline
  apply resumes_layout (.layout found .nothing)
  · exact breaks_layout (by decide) _
  · exact List.forall_mem_cons.mpr ⟨by decide, sameLine⟩

end Layouts

section Lines

/-- A source that is read is consumed to its end. -/
theorem consumed_of_reading {wordLike : Char → Bool} {source : List Char} {tokens : List Token}
    (read : reading wordLike source = .ok tokens) :
    ∃ events, Consumed wordLike source tokens events [] := by
  obtain ⟨others, events, rest, consumed, ending⟩ := consumed_reading wordLike source
  rcases ending with ⟨error, -, failed⟩ | ⟨rfl, finished⟩
  · rw [failed] at read
    cases read
  · rw [finished] at read
    cases read
    exact ⟨events, consumed⟩

/-- A line feed can follow any source that is read. -/
theorem resumes_newline (rest : List Char) : Resumes [] ('\n' :: rest) ('\n' :: rest) where
  alone := ⟨[], .nothing⟩
  behind := by
    intro sort text found
    left
    apply first?_of_stops isAsciiWordCharacter (first?_matches found).2
    intro next front
    cases front
    exact stops_newline

/-- The token of a line end. -/
theorem reading_newline {wordLike : Char → Bool} (rest : List Char) :
    reading wordLike ('\n' :: rest) =
      (reading wordLike rest).map ([⟨.newline, .text "\n"⟩] ++ ·) := by
  have found : first? wordLike ('\n' :: rest) =
      some (⟨.verbatim .newline, ['\n']⟩, rest) := rfl
  exact reading_of_gives found .verbatim

/-- After a source that is read and a line feed, reading ends as it does for what
follows. -/
theorem reading_lines {first : List Char} {tokens : List Token}
    (read : reading isAsciiWordCharacter first = .ok tokens) (second : List Char) :
    reading isAsciiWordCharacter (first ++ '\n' :: second) =
      (reading isAsciiWordCharacter second).map (tokens ++ ⟨.newline, .text "\n"⟩ :: ·) := by
  obtain ⟨events, consumed⟩ := consumed_of_reading read
  rw [← List.append_nil first] at consumed
  obtain ⟨others, resumed⟩ := consumed.resume (resumes_newline second)
  rw [reading_of_consumed resumed, reading_newline]
  cases reading isAsciiWordCharacter second <;> rfl

end Lines

end Lexeme

/-- Layout can be added at any place that reading reaches, also where it ends or halts:
spaces, tabs and carriage returns anywhere, and a comment at the end of a line. Reading
ends the same way, with the same tokens or the same error. -/
theorem tokenize_layout_added (front back : String) (tokens : List Token) (events : List Event)
    (reached : Lexeme.Consumed Text.isWordCharacter (front ++ back).toList tokens events
      back.toList) :
    (∀ blanks : String, (∀ character ∈ blanks.toList, character ∈ [' ', '\t', '\r']) →
      (tokenize (front ++ blanks ++ back)).outcome = (tokenize (front ++ back)).outcome) ∧
    ((back = "" ∨ ∃ line, back = "\n" ++ line) →
      ∀ comment : String, (∀ character ∈ comment.toList, character ≠ '\n') →
        (tokenize (front ++ "#" ++ comment ++ back)).outcome =
          (tokenize (front ++ back)).outcome) := by
  obtain ⟨_, _, consumed⟩ := reached.agree Lexeme.isWordCharacter_agreesOnAscii
    Lexeme.isAsciiWordCharacter_agreesOnAscii
  simp only [Lexeme.outcome_tokenize, String.toList_append, List.append_assoc] at consumed ⊢
  constructor
  · intro blanks blank
    exact Lexeme.reading_of_resumes (Lexeme.resumes_blanks blank) consumed
  · intro lineEnd comment sameLine
    have ends : ∀ next ∈ back.toList.head?, next = '\n' := by
      rcases lineEnd with rfl | ⟨line, rfl⟩
      · nofun
      · simp [String.toList_append]
    exact Lexeme.reading_of_resumes (Lexeme.resumes_comment ends sameLine) consumed

/-- Blanks between a keyword and a letter beyond ASCII, where reading halts, and a comment
after another one at the end of a line. -/
theorem tokenize_layout_added_at_halt :
    (∃ tokens events, Lexeme.Consumed Text.isWordCharacter ("x=while" ++ "é").toList tokens
      events "é".toList) ∧
    (tokenize ("x=while" ++ " \t" ++ "é")).outcome =
      (tokenize ("x=while" ++ "é")).outcome ∧
    (tokenize ("x=while" ++ "é")).outcome = .error (.unmatchedInput "é") ∧
    (tokenize ("15#" ++ "#" ++ "\"" ++ "\n2")).outcome =
      (tokenize ("15#" ++ "\n2")).outcome := by
  have halted : Lexeme.Consumed Text.isWordCharacter ("x=while" ++ "é").toList _ _ "é".toList :=
    .token rfl .verbatim (.token rfl .verbatim (.token rfl .verbatim .nothing))
  have commented : Lexeme.Consumed Text.isWordCharacter ("15#" ++ "\n2").toList _ _
      "\n2".toList :=
    .token rfl (.numeral rfl) (.layout rfl .nothing)
  refine ⟨⟨_, _, halted⟩, (tokenize_layout_added _ _ _ _ halted).1 _ (by simp), rfl, ?_⟩
  exact (tokenize_layout_added _ _ _ _ commented).2 (.inr ⟨"2", rfl⟩) _ (by simp)

/-- Lines are read one by one: after a source that is read and a line feed stand the
tokens of what follows, or its error. -/
theorem tokenize_lines (first second : String) (tokens : List Token)
    (read : (tokenize first).outcome = .ok tokens) :
    (∀ others, (tokenize second).outcome = .ok others →
      (tokenize (first ++ "\n" ++ second)).outcome =
        .ok (tokens ++ [⟨.newline, .text "\n"⟩] ++ others)) ∧
    (∀ error, (tokenize second).outcome = .error error →
      (tokenize (first ++ "\n" ++ second)).outcome = .error error) := by
  have shape : (first ++ "\n" ++ second).toList = first.toList ++ '\n' :: second.toList := by
    simp [String.toList_append]
  rw [Lexeme.outcome_tokenize] at read
  simp only [Lexeme.outcome_tokenize, shape, Lexeme.reading_lines read]
  constructor
  · intro others readSecond
    rw [readSecond, List.append_assoc]
    rfl
  · intro error failed
    rw [failed]
    rfl

/-- A quote in a comment is not open at the end of the line. -/
theorem tokenize_lines_after_comment :
    (tokenize "a # \"").outcome = .ok [⟨.identifier, .text "a"⟩] ∧
    (tokenize ("a # \"" ++ "\n" ++ "\"b\"")).outcome =
      .ok ([⟨.identifier, .text "a"⟩] ++ [⟨.newline, .text "\n"⟩] ++
        [⟨.string, .text "b"⟩]) ∧
    (tokenize ("a # \"" ++ "\n" ++ "1.\"")).outcome = .error (.unmatchedInput ".\"") := by
  have read : (tokenize "a # \"").outcome = .ok [⟨.identifier, .text "a"⟩] := rfl
  exact ⟨read, (tokenize_lines _ _ _ read).1 _ rfl, (tokenize_lines _ _ _ read).2 _ rfl⟩

end ScriptFront
