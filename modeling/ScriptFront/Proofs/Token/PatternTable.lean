import ScriptFront.Proofs.Token.Consumption
import ScriptFront.Proofs.Token.Pattern
import ScriptFront.Token.PatternTable

/-!
# The table of patterns and the pieces

The first pattern of the table that matches finds the piece that the front character of
the source tells, for every notion of word characters that agrees on ASCII. What a single
pattern matches comes first, and then the rules that can begin with a given character.
-/

namespace ScriptFront

namespace Pattern

open Text Piece

variable {wordLike : Char → Bool}

/-- A comment goes on to the end of its line. -/
theorem matched?_comment (tail : List Char) :
    comment.matched? wordLike ('#' :: tail) = some ('#' :: tail.takeWhile (· != '\n')) := by
  have mark := congrArg List.head? (ways_one wordLike (· == '#') (beq_self_eq_true '#') tail [])
  have line := head?_repeated_one wordLike (· != '\n') tail ['#']
  apply matched?_of_head?
  rw [List.reverse_cons, List.append_nil]
  exact head?_both wordLike mark line

/-- An identifier is as long as there are word characters. -/
theorem matched?_identifier {head : Char} (letter : head.isAlpha = true) (tail : List Char) :
    identifier.matched? wordLike (head :: tail) =
      some ((head :: tail).takeWhile isAsciiWordCharacter) := by
  have first := congrArg List.head? (ways_one wordLike Char.isAlpha letter tail [])
  have others := head?_repeated_one wordLike isAsciiWordCharacter tail [head]
  apply matched?_of_head?
  rw [List.takeWhile_cons_of_pos (Lexeme.isAsciiWordCharacter_of_isAlpha letter),
    List.reverse_cons, List.append_nil]
  exact head?_both wordLike first others

variable (wordLike)

/-- No fraction stands where no digit follows a point. -/
theorem ways_fraction_of_not (source : List Char)
    (none : ∀ next more, source = '.' :: next :: more → next.isDigit = false)
    (passed : List Char) : ways wordLike fraction ⟨passed, source⟩ = [] := by
  rw [fraction, ways]
  cases source with
  | nil => rfl
  | cons character rest =>
      cases point : character == '.' with
      | false =>
          rw [ways_one_of_not wordLike (· == '.') point]
          rfl
      | true =>
          rw [ways_one wordLike (· == '.') point, List.flatMap_singleton, oneOrMore, ways]
          cases rest with
          | nil => rfl
          | cons next more =>
              have noDigit := none next more (by rw [beq_iff_eq.mp point])
              rw [ways_one_of_not wordLike Char.isDigit noDigit]
              rfl

variable {wordLike}

/-- A number is as long as a numeral. -/
theorem matched?_number {head : Char} (digit : head.isDigit = true) (tail : List Char) :
    number.matched? wordLike (head :: tail) = some (numeral (head :: tail)).1.text := by
  have whole := head?_oneOrMore wordLike digit tail []
  have without := ways_fraction_of_not wordLike ((head :: tail).dropWhile Char.isDigit)
  unfold numeral
  split
  · next next more remaining =>
    rw [remaining] at whole without
    split
    · next nextDigit =>
      have point := ways_one wordLike (· == '.') (beq_self_eq_true '.') (next :: more)
      have after := head?_oneOrMore wordLike nextDigit more
      apply matched?_of_head?
      rw [List.reverse_append, List.reverse_cons, List.append_assoc, List.append_assoc]
      exact head?_both wordLike whole
        (head?_optional (head?_both wordLike (congrArg List.head? (point _)) (after _)))
    · next noDigit =>
      have stuck := without fun _ _ same => by
        cases same
        exact Bool.eq_false_iff.mpr noDigit
      exact matched?_of_head? (head?_both wordLike whole (head?_optional_of_nil (stuck _)))
  · next noFraction =>
    have stuck := without fun _ _ same => (noFraction _ _ same).elim
    exact matched?_of_head? (head?_both wordLike whole (head?_optional_of_nil (stuck _)))

/-- There is no other way to a closing quote than the first, since at most one of a part
and a quote can stand in front. -/
theorem ways_closing (wordLike : Char → Bool) (source passed : List Char) {turns : Nat}
    (enough : source.length ≤ turns) :
    (repeatWithin (ways wordLike stringPart) turns ⟨passed, source⟩).flatMap
        (ways wordLike (.one (· == '"'))) =
      ((closing? source).map fun found => ⟨found.1.reverse ++ passed, found.2⟩).toList := by
  fun_induction closing? source generalizing passed turns with
  | case1 =>
      rw [repeatWithin_of_nil rfl]
      rfl
  | case2 rest =>
      rw [repeatWithin_of_nil rfl]
      rfl
  | case3 =>
      rw [repeatWithin_of_nil rfl]
      rfl
  | case4 rest =>
      rw [repeatWithin_of_nil rfl]
      rfl
  | case5 escaped rest sameLine inductionHypothesis =>
      simp only [List.length_cons] at enough
      obtain ⟨turns, rfl⟩ := Nat.exists_eq_add_one_of_ne_zero (show turns ≠ 0 by omega)
      have part : ways wordLike stringPart ⟨passed, '\\' :: escaped :: rest⟩ =
          [⟨escaped :: '\\' :: passed, rest⟩] := by
        simp [stringPart, ways, sameLine]
      rw [repeatWithin_of_singleton part rfl, inductionHypothesis _ (by omega), Option.map_map]
      simp [Function.comp_def]
  | case6 character rest noQuote noLast noEscape inductionHypothesis =>
      simp only [List.length_cons] at enough
      obtain ⟨turns, rfl⟩ := Nat.exists_eq_add_one_of_ne_zero (show turns ≠ 0 by omega)
      have noBackslash : character ≠ '\\' := by
        rintro rfl
        cases rest with
        | nil => exact noLast rfl rfl
        | cons escaped tail => exact noEscape escaped tail rfl rfl
      have part : ways wordLike stringPart ⟨passed, character :: rest⟩ =
          [⟨character :: passed, rest⟩] := by
        simp [stringPart, ways, show character ≠ '"' from noQuote, noBackslash]
      have stuck : ways wordLike (.one (· == '"')) ⟨passed, character :: rest⟩ = [] :=
        ways_one_of_not wordLike (· == '"') (beq_eq_false_iff_ne.mpr noQuote) ..
      rw [repeatWithin_of_singleton part stuck, inductionHypothesis _ (by omega),
        Option.map_map]
      simp [Function.comp_def]

/-- A string goes on to its closing quote. -/
theorem matched?_string (tail : List Char) :
    string.matched? wordLike ('"' :: tail) =
      (closing? tail).map fun found => '"' :: found.1 := by
  have quote := ways_one wordLike (· == '"') (beq_self_eq_true '"') tail []
  have closing := ways_closing wordLike tail ['"'] (Nat.le_refl tail.length)
  rw [matched?, string, ways, quote, List.flatMap_singleton, ways, ways, closing]
  cases closing? tail <;> simp

/-- A string begins with a quote and ends with another one. -/
theorem quoted_of_matched?_string {source text : List Char}
    (found : string.matched? wordLike source = some text) :
    ∃ content, text = '"' :: (content ++ ['"']) := by
  cases source with
  | nil => cases found
  | cons head tail =>
      by_cases quote : head = '"'
      · subst quote
        rw [matched?_string] at found
        obtain ⟨⟨inner, after⟩, closed, rfl⟩ := Option.map_eq_some_iff.mp found
        obtain ⟨content, rfl, -⟩ := Lexeme.closing?_sound closed
        exact ⟨content, rfl⟩
      · have apart : string.begins head = false := by simp [string, begins, canBeEmpty, quote]
        rw [matched?_eq_none tail rfl apart] at found
        cases found

end Pattern

namespace Lexeme

open Text Piece

namespace Rule

variable {Tag : Type} {wordLike : Char → Bool}

/-- Every pattern needs a character. -/
theorem canBeEmpty_of_mem {pattern : Pattern} (member : pattern ∈ patterns) :
    pattern.canBeEmpty = false := by
  revert pattern
  decide

/-- A rule that is found is one of those tried, and its pattern matches. -/
theorem mem_of_find? {rules : List (Rule Tag)} {rule : Rule Tag} {source text : List Char}
    (found : find? wordLike rules source = some (rule, text)) :
    rule ∈ rules ∧ rule.pattern.matched? wordLike source = some text := by
  obtain ⟨tried, member, matched⟩ := List.exists_of_findSome?_eq_some found
  obtain ⟨taken, matched, same⟩ := Option.map_eq_some_iff.mp matched
  cases same
  exact ⟨member, matched⟩

/-- Rules are tried in order. -/
theorem find?_append (rules others : List (Rule Tag)) (source : List Char) :
    find? wordLike (rules ++ others) source =
      (find? wordLike rules source).or (find? wordLike others source) :=
  List.findSome?_append

theorem find?_singleton (rule : Rule Tag) (source : List Char) :
    find? wordLike [rule] source =
      (rule.pattern.matched? wordLike source).map fun text => (rule, text) := by
  rw [find?, List.findSome?_singleton]

/-- Only rules whose patterns begin with the character in front need to be tried. -/
theorem find?_filter (wordLike : Char → Bool) (rules : List (Rule Tag))
    (needed : ∀ rule ∈ rules, rule.pattern.canBeEmpty = false) (head : Char) (tail : List Char) :
    find? wordLike rules (head :: tail) =
      find? wordLike (rules.filter fun rule => rule.pattern.begins head) (head :: tail) := by
  induction rules with
  | nil => rfl
  | cons rule rest inductionHypothesis =>
      obtain ⟨first, others⟩ := List.forall_mem_cons.mp needed
      have found := inductionHypothesis others
      unfold find? at found ⊢
      rw [List.findSome?_cons, found, List.filter_cons]
      cases begun : rule.pattern.begins head with
      | true => rw [if_pos rfl, List.findSome?_cons]
      | false =>
          rw [Pattern.matched?_eq_none tail first begun]
          rfl

end Rule

variable {wordLike : Char → Bool}

/-- The word characters of ASCII are word characters. -/
theorem wordLike_of_isAsciiWordCharacter (agrees : AgreesOnAscii wordLike) {character : Char}
    (belongs : isAsciiWordCharacter character = true) : wordLike character = true := by
  have ascii : character.toNat < 128 := by
    simp only [isAsciiWordCharacter, Char.isAlphanum, Bool.or_eq_true, beq_iff_eq] at belongs
    rcases belongs with (letter | digit) | rfl
    · have range := isAlpha_iff_toNat.mp letter
      omega
    · have range : 48 ≤ character.toNat ∧ character.toNat ≤ 57 := Char.isDigit_iff_toNat.mp digit
      omega
    · decide
  rw [agrees character ascii, belongs]

/-- The letters of a keyword are matched unless they touch a word character. -/
theorem matched?_keyword_append (agrees : AgreesOnAscii wordLike) {letters : List Char}
    (filled : letters ≠ []) (belong : ∀ letter ∈ letters, isAsciiWordCharacter letter = true)
    (rest : List Char) :
    (Pattern.keyword letters).matched? wordLike (letters ++ rest) =
      if rest.head?.any wordLike then none else some letters := by
  have before : (letters.reverse ++ []).head?.any wordLike = true := by
    rw [List.append_nil, List.head?_reverse, List.getLast?_eq_some_getLast filled]
    exact wordLike_of_isAsciiWordCharacter agrees (belong _ (List.getLast_mem filled))
  rw [Pattern.matched?, Pattern.keyword, Pattern.ways, Pattern.ways_spelled,
    List.flatMap_singleton, Pattern.ways, before]
  cases rest.head?.any wordLike <;> simp

/-- A keyword is matched where the word in front is spelled like it and no word character
follows. -/
theorem matched?_keyword (agrees : AgreesOnAscii wordLike) {letters : List Char}
    (filled : letters ≠ []) (belong : ∀ letter ∈ letters, isAsciiWordCharacter letter = true)
    (source : List Char) :
    (Pattern.keyword letters).matched? wordLike source =
      if (source.dropWhile isAsciiWordCharacter).head?.any wordLike then none
      else if source.takeWhile isAsciiWordCharacter = letters then some letters
      else none := by
  have split : source.takeWhile isAsciiWordCharacter ++ source.dropWhile isAsciiWordCharacter =
      source := List.takeWhile_append_dropWhile
  by_cases taken : source.takeWhile isAsciiWordCharacter = letters
  · rw [taken] at split
    rw [if_pos taken, ← matched?_keyword_append agrees filled belong, split]
  · rw [if_neg taken, ite_self]
    cases found : (Pattern.keyword letters).matched? wordLike source with
    | none => rfl
    | some text =>
        obtain ⟨finish, first, -⟩ := Option.map_eq_some_iff.mp found
        obtain ⟨middle, spelled, -⟩ := List.mem_flatMap.mp (List.mem_of_head? first)
        have shape : source = letters ++ middle.rest := Pattern.rest_of_mem_spelled spelled
        -- The word in front is longer than the keyword, which touches the rest of it.
        rw [shape, matched?_keyword_append agrees filled belong] at found
        split at found
        · cases found
        · next apart =>
          refine absurd ?_ taken
          rw [shape]
          refine (takeWhile_stop belong fun next first => ?_).1
          rw [Option.mem_def.mp first, Option.any_some] at apart
          rw [← Bool.not_eq_true]
          exact fun belongs => apart (wordLike_of_isAsciiWordCharacter agrees belongs)

/-- The rule for a keyword. -/
def Rule.ofKeyword (kind : Kind) : Rule Kind :=
  .keyword kind (kind.spelling?.getD "")

theorem keywords_eq : Rule.keywords = Kind.keywords.map Rule.ofKeyword :=
  rfl

/-- A keyword is spelled with at least one letter and only with letters. -/
theorem spelling_of_mem_keywords {kind : Kind} (known : kind ∈ Kind.keywords) :
    ∃ spelling, kind.spelling? = some spelling ∧ spelling.toList ≠ [] ∧
      spelling.toList.all Char.isAlpha = true := by
  revert kind
  decide

/-- The rule for a keyword finds it where the word in front is spelled like it. -/
theorem matched?_ofKeyword (agrees : AgreesOnAscii wordLike) {kind : Kind}
    (known : kind ∈ Kind.keywords) (source : List Char) :
    (Rule.ofKeyword kind).pattern.matched? wordLike source =
      if (source.dropWhile isAsciiWordCharacter).head?.any wordLike then none
      else if kind.spelling? == some (String.ofList (source.takeWhile isAsciiWordCharacter)) then
        some (source.takeWhile isAsciiWordCharacter)
      else none := by
  obtain ⟨spelling, spelled, filled, letters⟩ := spelling_of_mem_keywords known
  have shape : (Rule.ofKeyword kind).pattern = .keyword spelling.toList := by
    rw [Rule.ofKeyword, spelled]
    rfl
  have same : (source.takeWhile isAsciiWordCharacter = spelling.toList) ↔
      (kind.spelling? == some (String.ofList (source.takeWhile isAsciiWordCharacter))) = true := by
    rw [spelled, beq_iff_eq, Option.some.injEq, ← String.toList_inj, String.toList_ofList,
      eq_comm]
  have belong : ∀ letter ∈ spelling.toList, isAsciiWordCharacter letter = true :=
    fun letter member => isAsciiWordCharacter_of_isAlpha (List.all_eq_true.mp letters _ member)
  rw [shape, matched?_keyword agrees filled belong]
  split
  · rfl
  · split
    · next taken => rw [if_pos (same.mp taken), taken]
    · next apart => rw [if_neg (mt same.mpr apart)]

/-- The rules for keywords find the keyword that the word in front is. -/
theorem find?_keywords (agrees : AgreesOnAscii wordLike) (source : List Char) :
    Rule.find? wordLike Rule.keywords source =
      if (source.dropWhile isAsciiWordCharacter).head?.any wordLike then none
      else (Kind.keyword? (String.ofList (source.takeWhile isAsciiWordCharacter))).map
        fun kind => (Rule.ofKeyword kind, source.takeWhile isAsciiWordCharacter) := by
  rw [keywords_eq, Rule.find?, List.findSome?_map, Kind.keyword?]
  have matched {kind : Kind} (known : kind ∈ Kind.keywords) := matched?_ofKeyword agrees known
  generalize Kind.keywords = kinds at matched ⊢
  induction kinds with
  | nil => exact (ite_self _).symm
  | cons kind others inductionHypothesis =>
      have first := matched List.mem_cons_self source
      have following := inductionHypothesis fun known => matched (List.mem_cons_of_mem _ known)
      rw [List.findSome?_cons, List.find?_cons, following, Function.comp_apply, first]
      cases (source.dropWhile isAsciiWordCharacter).head?.any wordLike <;>
        cases kind.spelling? == some (String.ofList (source.takeWhile isAsciiWordCharacter)) <;>
          rfl

/-- No keyword is found where no letter stands. -/
theorem find?_keywords_of_not_letter (agrees : AgreesOnAscii wordLike) {head : Char}
    (noLetter : head.isAlpha = false) (tail : List Char) :
    Rule.find? wordLike Rule.keywords (head :: tail) = none := by
  rw [find?_keywords agrees]
  split
  · rfl
  · cases found : Kind.keyword? (String.ofList ((head :: tail).takeWhile isAsciiWordCharacter)) with
    | none => rfl
    | some kind =>
        obtain ⟨spelling, spelled, filled, letters⟩ :=
          spelling_of_mem_keywords (List.mem_of_find?_eq_some found)
        have same := List.find?_some found
        rw [spelled, beq_iff_eq, Option.some.injEq] at same
        subst same
        rw [String.toList_ofList] at filled letters
        cases belongs : isAsciiWordCharacter head with
        | true =>
            rw [List.takeWhile_cons_of_pos belongs, List.all_cons, noLetter] at letters
            cases letters
        | false =>
            exact absurd (List.takeWhile_cons_of_neg (Bool.eq_false_iff.mp belongs)) filled

/-- The characters other than letters and digits with which a piece can begin. -/
def signs : List Char :=
  ['(', ')', ',', '"', '=', '\n', ' ', '\t', '\r', '#']

/-- A character that is no sign begins a number if it is a digit, and an identifier if it
is a letter. -/
theorem filter_others {head : Char} (apart : head ∉ signs) :
    Rule.others.filter (fun rule => rule.pattern.begins head) =
      (if head.isDigit then [⟨.number, .number, .numeric⟩] else []) ++
        if head.isAlpha then [⟨.identifier, .identifier, .verbatim⟩] else [] := by
  simp only [signs, List.mem_cons, List.not_mem_nil, or_false, not_or] at apart
  cases digit : head.isDigit <;> cases letter : head.isAlpha <;>
    simp [Rule.others, Rule.fixed, Pattern.begins, Pattern.canBeEmpty, Pattern.spelled,
      Pattern.string, Pattern.number, Pattern.identifier, Pattern.oneOrMore, apart, digit, letter]

/-- A character that is no sign begins no layout. -/
theorem filter_ignored {head : Char} (apart : head ∉ signs) :
    Rule.ignored.filter (fun rule => rule.pattern.begins head) = [] := by
  simp only [signs, List.mem_cons, List.not_mem_nil, or_false, not_or] at apart
  simp [Rule.ignored, Rule.fixed, Pattern.begins, Pattern.canBeEmpty, Pattern.spelled,
    Pattern.comment, apart]

/-- A character that is neither a letter nor a digit nor a sign begins no piece. -/
theorem first?_of_apart {head : Char} (noLetter : head.isAlpha = false)
    (noDigit : head.isDigit = false) (apart : head ∉ signs) (tail : List Char) :
    first? wordLike (head :: tail) = none := by
  simp only [first?, noLetter, noDigit, Bool.false_eq_true, if_false]
  split <;> first | rfl | exact absurd (by decide) apart

/-- The rules find the piece in front if it begins with no sign. -/
theorem front?_of_apart (agrees : AgreesOnAscii wordLike) {head : Char} (apart : head ∉ signs)
    (tail : List Char) :
    Rule.front? wordLike (head :: tail) = (first? wordLike (head :: tail)).map Prod.fst := by
  have others := Rule.find?_filter wordLike Rule.others (by decide) head tail
  have ignored := Rule.find?_filter wordLike Rule.ignored (by decide) head tail
  rw [filter_others apart] at others
  rw [filter_ignored apart] at ignored
  unfold Rule.front? Rule.significant
  rw [Rule.find?_append, others, ignored]
  cases letter : head.isAlpha with
  | true =>
      have noDigit : head.isDigit = false := by
        cases digit : head.isDigit with
        | false => rfl
        | true => rw [isAlpha_of_isDigit digit] at letter; cases letter
      rw [noDigit, if_neg Bool.false_ne_true, if_pos rfl, List.nil_append, Rule.find?_singleton,
        Pattern.matched?_identifier letter, find?_keywords agrees,
        first?_letter wordLike tail letter]
      simp only [word]
      cases ((head :: tail).dropWhile isAsciiWordCharacter).head?.any wordLike <;>
        cases Kind.keyword? (String.ofList ((head :: tail).takeWhile isAsciiWordCharacter)) <;> rfl
  | false =>
      rw [find?_keywords_of_not_letter agrees letter, if_neg Bool.false_ne_true, List.append_nil]
      cases digit : head.isDigit with
      | true =>
          rw [if_pos rfl, Rule.find?_singleton, Pattern.matched?_number digit,
            first?_digit wordLike tail digit]
          have sort := (numeral_sound tail digit).2.1
          generalize numeral (head :: tail) = found at sort ⊢
          obtain ⟨⟨_, text⟩, rest⟩ := found
          cases sort
          rfl
      | false =>
          rw [first?_of_apart letter digit apart]
          rfl

/-- A quote begins a string if there is a closing one. -/
theorem front?_quote (tail : List Char) :
    Rule.front? wordLike ('"' :: tail) = (first? wordLike ('"' :: tail)).map Prod.fst := by
  have found : Rule.find? wordLike Rule.significant ('"' :: tail) =
      Rule.find? wordLike [⟨.string, .string, .unquoted⟩] ('"' :: tail) :=
    rfl
  have begun : first? wordLike ('"' :: tail) =
      (closing? tail).map fun found => (⟨.quoted, '"' :: found.1⟩, found.2) :=
    rfl
  rw [Rule.front?, found, Rule.find?_singleton, Pattern.matched?_string, begun]
  cases closing? tail <;> rfl

/-- An equals sign is a mark, or one half of one. -/
theorem front?_equal (tail : List Char) :
    Rule.front? wordLike ('=' :: tail) = (first? wordLike ('=' :: tail)).map Prod.fst := by
  cases tail with
  | nil => rfl
  | cons next rest =>
      by_cases doubled : next = '='
      · subst doubled
        rfl
      · have found : Rule.find? wordLike Rule.significant ('=' :: next :: rest) =
            Rule.find? wordLike ([.fixed .equalEqual ['=', '=']] ++ [.fixed .equal ['=']])
              ('=' :: next :: rest) :=
          rfl
        have single : (Pattern.spelled ['=', '=']).matched? wordLike ('=' :: next :: rest) =
            none := by
          apply Pattern.matched?_spelled_of_not
          rintro ⟨after, ⟨⟩⟩
          exact doubled rfl
        have begun : first? wordLike ('=' :: next :: rest) =
            some (⟨.verbatim .equal, ['=']⟩, next :: rest) := by
          simp [first?, doubled]
        rw [Rule.front?, found, Rule.find?_append, Rule.find?_singleton, Rule.fixed, single, begun]
        rfl

/-- A number sign begins a comment. -/
theorem front?_comment (tail : List Char) :
    Rule.front? wordLike ('#' :: tail) = (first? wordLike ('#' :: tail)).map Prod.fst := by
  have noToken : Rule.find? wordLike Rule.significant ('#' :: tail) = none := rfl
  have found : Rule.find? wordLike Rule.ignored ('#' :: tail) =
      Rule.find? wordLike [⟨.comment, .comment, .verbatim⟩] ('#' :: tail) :=
    rfl
  rw [Rule.front?, noToken, found, Rule.find?_singleton, Pattern.matched?_comment]
  rfl

/-- The rules find the piece in front. -/
theorem front?_eq (agrees : AgreesOnAscii wordLike) (source : List Char) :
    Rule.front? wordLike source = (first? wordLike source).map Prod.fst := by
  cases source with
  | nil => rfl
  | cons head tail =>
      by_cases apart : head ∈ signs
      · simp only [signs, List.mem_cons, List.not_mem_nil, or_false] at apart
        rcases apart with rfl | rfl | rfl | rfl | rfl | rfl | rfl | rfl | rfl | rfl
        · rfl
        · rfl
        · rfl
        · exact front?_quote tail
        · exact front?_equal tail
        · rfl
        · rfl
        · rfl
        · rfl
        · exact front?_comment tail
      · exact front?_of_apart agrees apart tail

/-- Some pattern matches the text of the piece in front. -/
theorem exists_pattern_of_first? (agrees : AgreesOnAscii wordLike) {source after : List Char}
    {piece : Piece} (found : first? wordLike source = some (piece, after)) :
    ∃ pattern ∈ Rule.patterns, pattern.matched? wordLike source = some piece.text := by
  have front := front?_eq agrees source
  rw [found, Rule.front?] at front
  split at front
  · next rule text matched =>
    cases front
    obtain ⟨member, fits⟩ := Rule.mem_of_find? matched
    exact ⟨_, List.mem_append_left _ (List.mem_map_of_mem member), fits⟩
  · obtain ⟨⟨rule, text⟩, matched, same⟩ := Option.map_eq_some_iff.mp front
    cases same
    obtain ⟨member, fits⟩ := Rule.mem_of_find? matched
    exact ⟨_, List.mem_append_right _ (List.mem_map_of_mem member), fits⟩

end Lexeme

end ScriptFront
