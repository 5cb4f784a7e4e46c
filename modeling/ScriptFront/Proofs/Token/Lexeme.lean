import ScriptFront.Token.Reading

/-!
# Lexemes

The texts that a piece of a source can have, described by sets of texts rather than by
a scanner, and the scanner's agreement with them. A source is cut in the declared way
if each piece is the longest text of any sort that begins where the piece begins;
`Munched` says so of a whole source and the tokens it gives.
-/

namespace ScriptFront

namespace Lexeme

open Text Piece

/-- What may stand between quotes: characters other than a quote and a backslash, and
backslashes each with a character after it that is no line feed. -/
inductive Content : List Char → Prop where
  | empty : Content []
  | plain {character : Char} {rest : List Char} (noQuote : character ≠ '"')
      (noBackslash : character ≠ '\\') (following : Content rest) :
      Content (character :: rest)
  | escape {character : Char} {rest : List Char} (sameLine : character ≠ '\n')
      (following : Content rest) : Content ('\\' :: character :: rest)

/-- The kind of a word: a keyword if the whole word is one, and else an identifier. -/
def wordKind (word : List Char) : Kind :=
  (Kind.keyword? (String.ofList word)).getD .identifier

/-- The marks, each with its text. -/
def marks : List (Kind × List Char) :=
  [(.parenthesisOpen, ['(']), (.parenthesisClose, [')']), (.comma, [',']),
    (.equal, ['=']), (.equalEqual, ['=', '=']), (.newline, ['\n'])]

/-- The single characters of layout. -/
def blanks : List (Layout × List Char) :=
  [(.space, [' ']), (.tab, ['\t']), (.carriageReturn, ['\r'])]

/-- The texts of each sort of piece. -/
inductive Matches : PieceSort → List Char → Prop where
  | word {first : Char} {rest : List Char} (letter : first.isAlpha = true)
      (following : ∀ character ∈ rest, isAsciiWordCharacter character = true) :
      Matches (.verbatim (wordKind (first :: rest))) (first :: rest)
  | whole {digits : List Char} (nonempty : digits ≠ [])
      (wholeDigits : ∀ digit ∈ digits, digit.isDigit = true) :
      Matches .numeral digits
  | fractional {whole fraction : List Char} (wholeNonempty : whole ≠ [])
      (wholeDigits : ∀ digit ∈ whole, digit.isDigit = true)
      (fractionNonempty : fraction ≠ [])
      (fractionDigits : ∀ digit ∈ fraction, digit.isDigit = true) :
      Matches .numeral (whole ++ '.' :: fraction)
  | quoted {content : List Char} (inside : Content content) :
      Matches .quoted ('"' :: (content ++ ['"']))
  | mark {kind : Kind} {text : List Char} (known : (kind, text) ∈ marks) :
      Matches (.verbatim kind) text
  | blank {layout : Layout} {text : List Char} (known : (layout, text) ∈ blanks) :
      Matches (.layout layout) text
  | comment {rest : List Char} (sameLine : ∀ character ∈ rest, character ≠ '\n') :
      Matches (.layout .comment) ('#' :: rest)

/-- The tokens a matched text gives: none for layout, what stands between the quotes
for a string, a number for a numeral in range, and else the text itself. -/
inductive Gives : PieceSort → List Char → List Token → Prop where
  | layout {layout : Layout} {text : List Char} : Gives (.layout layout) text []
  | verbatim {kind : Kind} {text : List Char} :
      Gives (.verbatim kind) text [⟨kind, .text (String.ofList text)⟩]
  | quoted {content : List Char} :
      Gives .quoted ('"' :: (content ++ ['"'])) [⟨.string, .text (String.ofList content)⟩]
  | numeral {text : List Char} {number : Number}
      (inRange : Number.ofNumeral? text = some number) :
      Gives .numeral text [⟨.number, .number number⟩]

/-- No text of any sort at the front of a source is longer than this one. -/
def Longest (text source : List Char) : Prop :=
  ∀ sort other, Matches sort other → other <+: source → other.length ≤ text.length

/-- A source cut into longest texts one after another, and the tokens of these. -/
inductive Munched : List Char → List Token → Prop where
  | done : Munched [] []
  | piece {sort : PieceSort} {text rest : List Char} {tokens others : List Token}
      (nonempty : text ≠ []) (matched : Matches sort text)
      (longest : Longest text (text ++ rest)) (gives : Gives sort text tokens)
      (following : Munched rest others) : Munched (text ++ rest) (tokens ++ others)

/-- Content before a quote is closed by that quote. -/
theorem closing?_content {content : List Char} (inside : Content content) (rest : List Char) :
    closing? (content ++ '"' :: rest) = some (content ++ ['"'], rest) := by
  induction inside with
  | empty => rfl
  | plain noQuote noBackslash following inductionHypothesis =>
      rw [List.cons_append, closing?, inductionHypothesis]
      · rfl
      · exact noQuote
      · exact fun backslash => absurd backslash noBackslash
      · exact fun _ _ backslash => absurd backslash noBackslash
  | escape sameLine following inductionHypothesis =>
      simp only [List.cons_append, closing?, if_neg sameLine, inductionHypothesis]
      rfl

/-- What is closed by a quote has content before it. -/
theorem closing?_sound {source found rest : List Char}
    (closed : closing? source = some (found, rest)) :
    ∃ content, found = content ++ ['"'] ∧ source = content ++ '"' :: rest ∧
      Content content := by
  fun_induction closing? source generalizing found with
  | case1 => cases closed
  | case2 tail =>
      cases closed
      exact ⟨[], rfl, rfl, .empty⟩
  | case3 => cases closed
  | case4 => cases closed
  | case5 escaped tail sameLine inductionHypothesis =>
      obtain ⟨⟨inner, after⟩, closedInner, finished⟩ := Option.map_eq_some_iff.mp closed
      cases finished
      obtain ⟨content, rfl, rfl, inside⟩ := inductionHypothesis closedInner
      exact ⟨'\\' :: escaped :: content, rfl, rfl, .escape sameLine inside⟩
  | case6 character tail noQuote noLast noEscape inductionHypothesis =>
      obtain ⟨⟨inner, after⟩, closedInner, finished⟩ := Option.map_eq_some_iff.mp closed
      cases finished
      obtain ⟨content, rfl, rfl, inside⟩ := inductionHypothesis closedInner
      refine ⟨character :: content, rfl, rfl, .plain noQuote ?_ inside⟩
      rintro rfl
      cases content <;> exact noEscape _ _ rfl rfl

section Scanning

variable (wordLike : Char → Bool) {source rest : List Char}

/-- Every letter belongs to words. -/
theorem isAsciiWordCharacter_of_isAlpha {character : Char} (letter : character.isAlpha = true) :
    isAsciiWordCharacter character = true := by
  simp [isAsciiWordCharacter, Char.isAlphanum, letter]

/-- The letters are those of ASCII. -/
theorem isAlpha_iff_toNat {character : Char} : character.isAlpha = true ↔
    65 ≤ character.toNat ∧ character.toNat ≤ 90 ∨
      97 ≤ character.toNat ∧ character.toNat ≤ 122 := by
  delta Char.isAlpha Char.isUpper Char.isLower
  simp only [Bool.or_eq_true, Bool.and_eq_true, decide_eq_true_eq, ge_iff_le,
    UInt32.le_iff_toNat_le]
  rfl

/-- A digit is no letter. -/
theorem isAlpha_of_isDigit {character : Char} (digit : character.isDigit = true) :
    character.isAlpha = false := by
  have range : 48 ≤ character.toNat ∧ character.toNat ≤ 57 := Char.isDigit_iff_toNat.mp digit
  rw [Bool.eq_false_iff, Ne, isAlpha_iff_toNat]
  omega

/-- A run of characters with a property ends where the first one without it stands. -/
theorem takeWhile_stop {property : Char → Bool} {text rest : List Char}
    (inside : ∀ character ∈ text, property character = true)
    (outside : ∀ character ∈ rest.head?, property character = false) :
    (text ++ rest).takeWhile property = text ∧ (text ++ rest).dropWhile property = rest := by
  rw [List.takeWhile_append_of_pos inside, List.dropWhile_append_of_pos inside]
  cases rest with
  | nil => simp
  | cons character tail => simp [outside character rfl]

/-- What stands before a mark and after it. -/
theorem split_at {mark : Char} {front : List Char} (rest : List Char)
    (free : ∀ character ∈ front, character ≠ mark) :
    (front ++ mark :: rest).takeWhile (· != mark) = front ∧
      ((front ++ mark :: rest).dropWhile (· != mark)).drop 1 = rest := by
  have inside : ∀ character ∈ front, (character != mark) = true := by simpa using free
  have outside : ∀ character ∈ (mark :: rest).head?, (character != mark) = false := by simp
  obtain ⟨taken, dropped⟩ := takeWhile_stop inside outside
  exact ⟨taken, by rw [dropped]; rfl⟩

/-- Without a mark all of a text stands before it. -/
theorem split_none {mark : Char} {text : List Char}
    (free : ∀ character ∈ text, character ≠ mark) :
    text.takeWhile (· != mark) = text ∧ (text.dropWhile (· != mark)).drop 1 = [] := by
  have inside : ∀ character ∈ text, (character != mark) = true := by simpa using free
  have outside : ∀ character ∈ ([] : List Char).head?, (character != mark) = false := nofun
  obtain ⟨taken, dropped⟩ := takeWhile_stop inside outside
  rw [List.append_nil] at taken dropped
  exact ⟨taken, by rw [dropped]; rfl⟩

/-- A word is as long as there are word characters. -/
theorem word_sound {head : Char} (tail : List Char) (letter : head.isAlpha = true) :
    (word wordLike (head :: tail)).1.text ++ (word wordLike (head :: tail)).2 = head :: tail ∧
      Matches (.verbatim (wordKind (word wordLike (head :: tail)).1.text))
        (word wordLike (head :: tail)).1.text := by
  constructor
  · exact List.takeWhile_append_dropWhile
  · have belongs := isAsciiWordCharacter_of_isAlpha letter
    simp only [word, List.takeWhile_cons_of_pos belongs]
    exact .word letter (List.all_eq_true.mp List.all_takeWhile)

/-- The sort of a word is that of its whole text, unless a keyword touches the next
character, which then is no character of ASCII words. -/
theorem word_sort (source : List Char) :
    (word wordLike source).1.sort = .verbatim (wordKind (word wordLike source).1.text) ∨
      ∃ character tail, (word wordLike source).2 = character :: tail ∧
        wordLike character = true ∧ isAsciiWordCharacter character = false := by
  cases remaining : source.dropWhile isAsciiWordCharacter with
  | nil =>
      left
      simp only [word, wordKind, remaining]
      cases Kind.keyword? (String.ofList (source.takeWhile isAsciiWordCharacter)) <;> rfl
  | cons character tail =>
      cases touches : wordLike character with
      | false =>
          left
          simp only [word, wordKind, remaining]
          cases Kind.keyword? (String.ofList (source.takeWhile isAsciiWordCharacter)) <;>
            simp [touches]
      | true =>
          right
          have stops := List.head?_dropWhile_not isAsciiWordCharacter source
          rw [remaining] at stops
          exact ⟨character, tail, remaining, touches, by simpa using stops⟩

/-- A numeral is digits with a fraction or without one. -/
theorem numeral_sound {head : Char} (tail : List Char) (digit : head.isDigit = true) :
    (numeral (head :: tail)).1.text ++ (numeral (head :: tail)).2 = head :: tail ∧
      (numeral (head :: tail)).1.sort = .numeral ∧
        Matches .numeral (numeral (head :: tail)).1.text := by
  have split := List.takeWhile_append_dropWhile (p := Char.isDigit) (l := head :: tail)
  have nonempty : (head :: tail).takeWhile Char.isDigit ≠ [] := by
    simp [List.takeWhile_cons_of_pos digit]
  have digits : ∀ other ∈ (head :: tail).takeWhile Char.isDigit, other.isDigit = true :=
    List.all_eq_true.mp List.all_takeWhile
  unfold numeral
  split
  · next next more remaining =>
    rw [remaining] at split
    split
    · next nextDigit =>
      refine ⟨?_, rfl, .fractional nonempty digits ?_ (List.all_eq_true.mp List.all_takeWhile)⟩
      · simpa using split
      · simp [List.takeWhile_cons_of_pos nextDigit]
    · exact ⟨split, rfl, .whole nonempty digits⟩
  · exact ⟨split, rfl, .whole nonempty digits⟩

/-- The piece at the front of a source is a text of its sort; only a keyword that
touches a word character is of another sort than its text alone would be. -/
theorem first?_sound {piece : Piece} (found : first? wordLike source = some (piece, rest)) :
    source = piece.text ++ rest ∧ ∃ sort, Matches sort piece.text ∧
      (piece.sort = sort ∨ ∃ character tail, rest = character :: tail ∧
        wordLike character = true ∧ isAsciiWordCharacter character = false) := by
  cases source with
  | nil => cases found
  | cons head tail =>
      simp only [first?] at found
      split at found
      · next letter =>
        have shape := word_sound wordLike tail letter
        have sort := word_sort wordLike (head :: tail)
        rw [Option.some.inj found] at shape sort
        exact ⟨shape.1.symm, _, shape.2, sort⟩
      · split at found
        · next digit =>
          have shape := numeral_sound tail digit
          rw [Option.some.inj found] at shape
          exact ⟨shape.1.symm, _, shape.2.2, Or.inl shape.2.1⟩
        · split at found
          · obtain ⟨⟨inner, after⟩, closed, finished⟩ := Option.map_eq_some_iff.mp found
            cases finished
            obtain ⟨content, rfl, rfl, inside⟩ := closing?_sound closed
            exact ⟨by simp, _, .quoted inside, Or.inl rfl⟩
          · split at found <;> cases found
            · exact ⟨rfl, _, .mark (by decide), Or.inl rfl⟩
            · exact ⟨rfl, _, .mark (by decide), Or.inl rfl⟩
          all_goals cases found
          · exact ⟨rfl, _, .mark (by decide), Or.inl rfl⟩
          · exact ⟨rfl, _, .mark (by decide), Or.inl rfl⟩
          · exact ⟨rfl, _, .mark (by decide), Or.inl rfl⟩
          · exact ⟨rfl, _, .mark (by decide), Or.inl rfl⟩
          · exact ⟨rfl, _, .blank (by decide), Or.inl rfl⟩
          · exact ⟨rfl, _, .blank (by decide), Or.inl rfl⟩
          · exact ⟨rfl, _, .blank (by decide), Or.inl rfl⟩
          · refine ⟨by simp, _, .comment ?_, Or.inl rfl⟩
            intro character member
            simpa using List.all_eq_true.mp List.all_takeWhile character member

/-- A letter in front begins a word. -/
theorem first?_letter {head : Char} (tail : List Char) (letter : head.isAlpha = true) :
    first? wordLike (head :: tail) = some (word wordLike (head :: tail)) := by
  simp only [first?, letter, if_true]

/-- A digit in front begins a numeral. -/
theorem first?_digit {head : Char} (tail : List Char) (digit : head.isDigit = true) :
    first? wordLike (head :: tail) = some (numeral (head :: tail)) := by
  simp only [first?, isAlpha_of_isDigit digit, digit, Bool.false_eq_true, if_false, if_true]

/-- A numeral has all the digits in front. -/
theorem length_le_numeral (source : List Char) :
    (source.takeWhile Char.isDigit).length ≤ (numeral source).1.text.length := by
  unfold numeral
  split
  · split
    · simp only [List.length_append]
      omega
    · exact Nat.le_refl _
  · exact Nat.le_refl _

/-- Digits, a point and digits in front belong to one numeral, with the digits after
them. -/
theorem numeral_fractional {whole fraction : List Char}
    (wholeDigits : ∀ digit ∈ whole, digit.isDigit = true) (fractionNonempty : fraction ≠ [])
    (fractionDigits : ∀ digit ∈ fraction, digit.isDigit = true) (rest : List Char) :
    numeral (whole ++ '.' :: fraction ++ rest) =
      (⟨.numeral, whole ++ '.' :: (fraction ++ rest.takeWhile Char.isDigit)⟩,
        rest.dropWhile Char.isDigit) := by
  obtain ⟨digit, more, rfl⟩ := List.exists_cons_of_ne_nil fractionNonempty
  have noPoint : ∀ character ∈ ('.' :: (digit :: more ++ rest)).head?,
      character.isDigit = false := by
    rintro character ⟨⟩
    rfl
  have stopped := takeWhile_stop wholeDigits noPoint
  have taken : (digit :: more ++ rest).takeWhile Char.isDigit = _ :=
    List.takeWhile_append_of_pos fractionDigits
  have dropped : (digit :: more ++ rest).dropWhile Char.isDigit = _ :=
    List.dropWhile_append_of_pos fractionDigits
  have first := fractionDigits digit List.mem_cons_self
  rw [List.cons_append] at stopped taken dropped
  rw [List.append_assoc, List.cons_append, List.cons_append]
  simp only [numeral, stopped, first, if_true, taken, dropped, List.cons_append]

/-- Digits in front are a numeral if neither a digit nor a point follows. -/
theorem numeral_whole {whole : List Char}
    (wholeDigits : ∀ digit ∈ whole, digit.isDigit = true)
    (noDigit : ∀ character ∈ rest.head?, character.isDigit = false)
    (noPoint : ∀ character ∈ rest.head?, character ≠ '.') :
    numeral (whole ++ rest) = (⟨.numeral, whole⟩, rest) := by
  have stopped := takeWhile_stop wholeDigits noDigit
  unfold numeral
  rw [stopped.1, stopped.2]
  split
  · exact absurd rfl (noPoint '.' rfl)
  · rfl

/-- A mark in front begins a piece, which is longer for an equals sign before
another. -/
theorem first?_mark {kind : Kind} {text : List Char} (known : (kind, text) ∈ marks)
    (rest : List Char) :
    first? wordLike (text ++ rest) = some (⟨.verbatim kind, text⟩, rest) ∨
      text = ['='] ∧ ∃ after, rest = '=' :: after ∧
        first? wordLike (text ++ rest) = some (⟨.verbatim .equalEqual, ['=', '=']⟩, after) := by
  simp only [marks, List.mem_cons, Prod.mk.injEq, List.not_mem_nil, or_false] at known
  rcases known with ⟨rfl, rfl⟩ | ⟨rfl, rfl⟩ | ⟨rfl, rfl⟩ | ⟨rfl, rfl⟩ | ⟨rfl, rfl⟩ | ⟨rfl, rfl⟩
  · exact Or.inl rfl
  · exact Or.inl rfl
  · exact Or.inl rfl
  · by_cases doubled : ∃ after, rest = '=' :: after
    · obtain ⟨after, rfl⟩ := doubled
      exact Or.inr ⟨rfl, after, rfl, rfl⟩
    · left
      cases rest with
      | nil => rfl
      | cons character after =>
          have different : character ≠ '=' := by
            rintro rfl
            exact doubled ⟨after, rfl⟩
          simp [first?, different]
  · exact Or.inl rfl
  · exact Or.inl rfl

/-- A single character of layout is always a piece of its own. -/
theorem first?_blank {layout : Layout} {text : List Char} (known : (layout, text) ∈ blanks)
    (rest : List Char) :
    first? wordLike (text ++ rest) = some (⟨.layout layout, text⟩, rest) := by
  simp only [blanks, List.mem_cons, Prod.mk.injEq, List.not_mem_nil, or_false] at known
  rcases known with ⟨rfl, rfl⟩ | ⟨rfl, rfl⟩ | ⟨rfl, rfl⟩ <;> rfl

/-- A quoted text in front is a piece, whatever follows it. -/
theorem first?_quoted {content : List Char} (inside : Content content) (rest : List Char) :
    first? wordLike ('"' :: (content ++ ['"']) ++ rest) =
      some (⟨.quoted, '"' :: (content ++ ['"'])⟩, rest) := by
  have closed := closing?_content inside rest
  simp [first?, closed]

/-- A comment goes on to the end of its line. -/
theorem first?_comment (tail : List Char) :
    first? wordLike ('#' :: tail) =
      some (⟨.layout .comment, '#' :: tail.takeWhile (· != '\n')⟩,
        tail.dropWhile (· != '\n')) :=
  rfl

/-- Where a text of some sort stands in front, a piece at least as long begins. -/
theorem first?_of_matches {sort : PieceSort} {text : List Char} (matched : Matches sort text)
    (rest : List Char) :
    ∃ found, first? wordLike (text ++ rest) = some found ∧
      text.length ≤ found.1.text.length := by
  cases matched with
  | @word head tail letter following =>
      refine ⟨Piece.word wordLike (head :: tail ++ rest), first?_letter wordLike _ letter, ?_⟩
      have belongs : ∀ character ∈ head :: tail, isAsciiWordCharacter character = true :=
        List.forall_mem_cons.mpr ⟨isAsciiWordCharacter_of_isAlpha letter, following⟩
      simp only [Piece.word, List.takeWhile_append_of_pos belongs, List.length_append]
      omega
  | whole nonempty wholeDigits =>
      have taken := length_le_numeral (text ++ rest)
      rw [List.takeWhile_append_of_pos wholeDigits, List.length_append] at taken
      obtain ⟨digit, more, rfl⟩ := List.exists_cons_of_ne_nil nonempty
      refine ⟨numeral (digit :: more ++ rest),
        first?_digit wordLike _ (wholeDigits digit List.mem_cons_self), ?_⟩
      exact Nat.le_trans (Nat.le_add_right _ _) taken
  | @fractional whole fraction wholeNonempty wholeDigits fractionNonempty fractionDigits =>
      have read := numeral_fractional wholeDigits fractionNonempty fractionDigits rest
      obtain ⟨digit, more, rfl⟩ := List.exists_cons_of_ne_nil wholeNonempty
      refine ⟨numeral (digit :: more ++ '.' :: fraction ++ rest),
        first?_digit wordLike _ (wholeDigits digit List.mem_cons_self), ?_⟩
      rw [read]
      simp
  | quoted inside => exact ⟨_, first?_quoted wordLike inside rest, Nat.le_refl _⟩
  | mark known =>
      rcases first?_mark wordLike known rest with
        found | ⟨rfl, after, rfl, found⟩
      · exact ⟨_, found, Nat.le_refl _⟩
      · exact ⟨_, found, Nat.le_succ 1⟩
  | blank known => exact ⟨_, first?_blank wordLike known rest, Nat.le_refl _⟩
  | @comment body sameLine =>
      refine ⟨_, first?_comment wordLike (body ++ rest), ?_⟩
      rw [List.takeWhile_append_of_pos (by simpa using sameLine)]
      simp

/-- The next character does not go on with a text of the sort: no word character goes on
with a word, no digit or point with a numeral, no equals sign with another, and only a line
feed ends a comment. -/
structure Stops (wordLike : Char → Bool) (sort : PieceSort) (next : Char) : Prop where
  word : ∀ word, sort = .verbatim (wordKind word) →
    wordLike next = false ∧ isAsciiWordCharacter next = false
  numeral : sort = .numeral → next.isDigit = false ∧ next ≠ '.'
  equal : sort = .verbatim .equal → next ≠ '='
  comment : sort = .layout .comment → next = '\n'

/-- A text of some sort that the next character does not go on with is the piece in
front. -/
theorem first?_of_stops {sort : PieceSort} {text : List Char} (matched : Matches sort text)
    (stops : ∀ next ∈ rest.head?, Stops wordLike sort next) :
    first? wordLike (text ++ rest) = some (⟨sort, text⟩, rest) := by
  cases matched with
  | @word head tail letter following =>
      have belongs : ∀ character ∈ head :: tail, isAsciiWordCharacter character = true :=
        List.forall_mem_cons.mpr ⟨isAsciiWordCharacter_of_isAlpha letter, following⟩
      have stopped := takeWhile_stop belongs fun next front => ((stops next front).word _ rfl).2
      have untouched : rest.head?.any wordLike = false := by
        cases rest with
        | nil => rfl
        | cons next after => exact ((stops next rfl).word _ rfl).1
      rw [List.cons_append, first?_letter wordLike _ letter, ← List.cons_append]
      simp only [Piece.word, stopped, untouched, wordKind]
      cases Kind.keyword? (String.ofList (head :: tail)) <;> rfl
  | whole nonempty wholeDigits =>
      have read := numeral_whole wholeDigits
        (fun next front => ((stops next front).numeral rfl).1)
        (fun next front => ((stops next front).numeral rfl).2)
      obtain ⟨digit, more, rfl⟩ := List.exists_cons_of_ne_nil nonempty
      rw [List.cons_append, first?_digit wordLike _ (wholeDigits digit List.mem_cons_self)]
      exact congrArg some read
  | @fractional whole fraction wholeNonempty wholeDigits fractionNonempty fractionDigits =>
      have read := numeral_fractional wholeDigits fractionNonempty fractionDigits rest
      have stopped := takeWhile_stop (List.forall_mem_nil _)
        fun next front => ((stops next front).numeral rfl).1
      rw [List.nil_append] at stopped
      rw [stopped.1, stopped.2, List.append_nil] at read
      obtain ⟨digit, more, rfl⟩ := List.exists_cons_of_ne_nil wholeNonempty
      rw [List.cons_append, List.cons_append,
        first?_digit wordLike _ (wholeDigits digit List.mem_cons_self)]
      exact congrArg some read
  | quoted inside => exact first?_quoted wordLike inside rest
  | @mark kind text known =>
      rcases first?_mark wordLike known rest with
        found | ⟨rfl, after, rfl, found⟩
      · exact found
      · have single : kind = .equal := by simpa [marks] using known
        exact absurd rfl ((stops '=' rfl).equal (congrArg PieceSort.verbatim single))
  | blank known => exact first?_blank wordLike known rest
  | @comment body sameLine =>
      have inside : ∀ character ∈ body, (character != '\n') = true := by simpa using sameLine
      have outside : ∀ next ∈ rest.head?, (next != '\n') = false := by
        intro next front
        simp [(stops next front).comment rfl]
      have stopped := takeWhile_stop inside outside
      rw [List.cons_append, first?_comment, stopped.1, stopped.2]

/-- A piece that is no comment cannot go on with what stands in front. -/
def Breaks (wordLike : Char → Bool) : List Char → Prop
  | [] => True
  | character :: _ => wordLike character = false ∧ isAsciiWordCharacter character = false ∧
      character ≠ '.' ∧ character ≠ '='

/-- What belongs to no word is no digit. -/
theorem isDigit_of_outside {character : Char} (outside : isAsciiWordCharacter character = false) :
    character.isDigit = false := by
  simp only [isAsciiWordCharacter, Char.isAlphanum, Bool.or_eq_false_iff] at outside
  exact outside.1.2

/-- A text of some sort that nothing prolongs is the piece in front. -/
theorem first?_of_breaks {sort : PieceSort} {text : List Char} (matched : Matches sort text)
    (breaks : Breaks wordLike rest) (noComment : sort = .layout .comment → rest = []) :
    first? wordLike (text ++ rest) = some (⟨sort, text⟩, rest) := by
  apply first?_of_stops wordLike matched
  intro next front
  cases rest with
  | nil => cases front
  | cons head tail =>
      cases front
      obtain ⟨untouched, outside, noPoint, noEqual⟩ := breaks
      exact {
        word := fun _ _ => ⟨untouched, outside⟩
        numeral := fun _ => ⟨isDigit_of_outside outside, noPoint⟩
        equal := fun _ => noEqual
        comment := fun comment => absurd (noComment comment) (List.cons_ne_nil _ _) }

end Scanning

end Lexeme

end ScriptFront
