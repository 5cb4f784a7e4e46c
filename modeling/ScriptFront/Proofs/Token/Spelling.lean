import ScriptFront.Proofs.Token.Munch

/-!
# Spelling tokens

The tokens that a source can give, and how each of them is written. Written one after
another with single spaces between them they are read back as they are. In the other
direction every token of a source is one of these, or carries a float, whose decimal
forms are not described here.
-/

namespace ScriptFront

/-- A name that a source can give: a letter with letters, digits and underscores after
it, which is no keyword. -/
structure IsName (name : String) : Prop where
  wordLike : ∃ first rest, name.toList = first :: rest ∧ first.isAlpha = true ∧
    ∀ character ∈ rest, Text.isAsciiWordCharacter character = true
  notReserved : name ∉ ["while", "if", "end", "true", "false", "and", "or"]

namespace Kind

/-- A keyword is spelled the way it is looked up. -/
theorem spelling?_of_keyword? {word : String} {kind : Kind} (found : keyword? word = some kind) :
    kind.spelling? = some word := by
  simpa using List.find?_some found

/-- Exactly the reserved words are keywords. -/
theorem keyword?_eq_none_iff {word : String} :
    keyword? word = none ↔
      word ∉ ["while", "if", "end", "true", "false", "and", "or"] := by
  simp only [keyword?, List.find?_eq_none, keywords, spelling?, beq_iff_eq, List.mem_cons,
    List.not_mem_nil, not_or]
  simp [eq_comm]

end Kind

namespace Token

/-- The tokens that are written without a fraction. -/
inductive WellFormed : Token → Prop where
  | identifier {name : String} (named : IsName name) :
      WellFormed ⟨.identifier, .text name⟩
  | string {content : String} (inside : Lexeme.Content content.toList) :
      WellFormed ⟨.string, .text content⟩
  | integer {value : Int64} (nonnegative : 0 ≤ value.toInt) :
      WellFormed ⟨.number, .number (.integer value)⟩
  | fixed {kind : Kind} {spelling : String} (spelled : kind.spelling? = some spelling) :
      WellFormed ⟨kind, .text spelling⟩

/-- How a token is written: its text, between quotes if it is a string, or its number. -/
def written (token : Token) : List Char :=
  match token.kind, token.value with
  | .string, .text content => '"' :: (content.toList ++ ['"'])
  | _, .text content => content.toList
  | _, .number number => number.display.toList

/-- Tokens written with single spaces between them. -/
def spaced (tokens : List Token) : List Char :=
  [' '].intercalate (tokens.map written)

end Token

namespace Lexeme

open Text Piece

/-- The digits of a natural number have no point among them. -/
theorem noPoint_toDigits (value : Nat) :
    ∀ digit ∈ Nat.toDigits 10 value, (digit != '.') = true := by
  intro digit member
  have isDigit := Nat.isDigit_of_mem_toDigits (by decide) (by decide) member
  rw [bne_iff_ne]
  rintro rfl
  cases isDigit

/-- The digits of an integer are read as that integer. -/
theorem ofNumeral?_toDigits {value : Int64} (nonnegative : 0 ≤ value.toInt) :
    Number.ofNumeral? (Nat.toDigits 10 value.toInt.natAbs) = some (.integer value) := by
  have noPoint := noPoint_toDigits value.toInt.natAbs
  have noPointMember : '.' ∉ Nat.toDigits 10 value.toInt.natAbs :=
    fun member => absurd (noPoint '.' member) (by decide)
  have whole : (Nat.toDigits 10 value.toInt.natAbs).takeWhile (· != '.') =
      Nat.toDigits 10 value.toInt.natAbs := by
    have ended : ∀ character ∈ ([] : List Char).head?, (character != '.') = false := by
      rintro _ ⟨⟩
    simpa using (takeWhile_stop noPoint ended).1
  have bounded : value.toInt.natAbs ≤ Number.greatestInteger := by
    have upper := value.toInt_lt
    rw [Number.greatestInteger, Nat.pow_eq]
    omega
  have same : Int64.ofNat value.toInt.natAbs = value := by
    rw [← Int64.ofInt_eq_ofNat, Int.natAbs_of_nonneg nonnegative, Int64.ofInt_toInt]
  simp only [Number.ofNumeral?, whole, Nat.ofDigitChars_ten_toDigits]
  rw [if_pos ⟨noPointMember, bounded⟩, same]

/-- A word of a known kind. -/
theorem matches_word {first : Char} {rest : List Char} {kind : Kind}
    (letter : first.isAlpha = true)
    (following : ∀ character ∈ rest, isAsciiWordCharacter character = true)
    (known : wordKind (first :: rest) = kind) : Matches (.verbatim kind) (first :: rest) :=
  known ▸ .word letter following

/-- A kind with a fixed spelling matches that spelling. -/
theorem matches_spelling {kind : Kind} {spelling : String}
    (spelled : kind.spelling? = some spelling) : Matches (.verbatim kind) spelling.toList := by
  cases kind <;> cases spelled
  case trueWord | falseWord | ifWord | whileWord | endWord | andWord | orWord =>
    exact matches_word rfl (List.all_eq_true.mp rfl) (by decide)
  all_goals exact .mark (by decide)

/-- A well-formed token is written as a text that gives it and is no comment. -/
theorem matches_written {token : Token} (wellFormed : token.WellFormed) :
    ∃ sort, Matches sort token.written ∧ Gives sort token.written [token] ∧
      sort ≠ .layout .comment := by
  cases wellFormed with
  | @identifier name named =>
      obtain ⟨⟨first, rest, shape, letter, following⟩, notReserved⟩ := named
      have known : wordKind (first :: rest) = .identifier := by
        rw [← shape, wordKind, String.ofList_toList,
          Kind.keyword?_eq_none_iff.mpr notReserved]
        rfl
      have matched := matches_word letter following known
      rw [← shape] at matched
      have gives : Gives (.verbatim .identifier) name.toList
          [⟨.identifier, .text (String.ofList name.toList)⟩] := .verbatim
      rw [String.ofList_toList] at gives
      exact ⟨_, matched, gives, PieceSort.noConfusion⟩
  | @string content inside =>
      have gives : Gives .quoted ('"' :: (content.toList ++ ['"']))
          [⟨.string, .text (String.ofList content.toList)⟩] := .quoted
      rw [String.ofList_toList] at gives
      exact ⟨_, .quoted inside, gives, PieceSort.noConfusion⟩
  | @integer value nonnegative =>
      have written : Token.written ⟨.number, .number (.integer value)⟩ =
          Nat.toDigits 10 value.toInt.natAbs := by
        have noSign : ¬ value.toInt < 0 := by omega
        simp [Token.written, Number.display, Number.integerText, noSign]
      rw [written]
      refine ⟨_, .whole Nat.toDigits_ne_nil ?_, .numeral (ofNumeral?_toDigits nonnegative),
        PieceSort.noConfusion⟩
      intro digit member
      exact Nat.isDigit_of_mem_toDigits (by decide) (by decide) member
  | @fixed kind spelling spelled =>
      have gives : Gives (.verbatim kind) spelling.toList
          [⟨kind, .text (String.ofList spelling.toList)⟩] := .verbatim
      rw [String.ofList_toList] at gives
      have written : Token.written ⟨kind, .text spelling⟩ = spelling.toList := by
        cases kind <;> first | rfl | cases spelled
      rw [written]
      exact ⟨_, matches_spelling spelled, gives, PieceSort.noConfusion⟩

/-- A token that is written before a space or at the end is the piece in front. -/
theorem munched_written {token : Token} (wellFormed : token.WellFormed) {rest : List Char}
    (breaks : Breaks isWordCharacter rest) {others : List Token}
    (following : Munched rest others) : Munched (token.written ++ rest) (token :: others) := by
  obtain ⟨sort, matched, gives, noComment⟩ := matches_written wellFormed
  have found := first?_of_breaks isWordCharacter matched breaks
    fun comment => absurd comment noComment
  exact .piece matched.ne_nil matched (longest_of_first? found) gives following

/-- A space belongs to no piece but its own. -/
theorem breaks_space (rest : List Char) : Breaks isWordCharacter (' ' :: rest) := by
  refine ⟨?_, ?_, ?_, ?_⟩ <;> decide

/-- A space between two pieces gives no token. -/
theorem munched_space {rest : List Char} {tokens : List Token} (following : Munched rest tokens) :
    Munched (' ' :: rest) tokens := by
  have known : (Layout.space, [' ']) ∈ blanks := by decide
  have found := first?_blank isWordCharacter known rest
  exact .piece (List.cons_ne_nil _ _) (.blank known) (longest_of_first? found) .layout following

/-- Well-formed tokens with single spaces between them are read back. -/
theorem munched_spaced {tokens : List Token}
    (wellFormed : ∀ token ∈ tokens, token.WellFormed) :
    Munched (Token.spaced tokens) tokens := by
  induction tokens with
  | nil => exact .done
  | cons token others inductionHypothesis =>
      obtain ⟨first, following⟩ := List.forall_mem_cons.mp wellFormed
      have munched := inductionHypothesis following
      cases others with
      | nil =>
          have ended : Breaks isWordCharacter [] := trivial
          simpa [Token.spaced] using munched_written first ended .done
      | cons next others =>
          have spaced : Token.spaced (token :: next :: others) =
              token.written ++ ' ' :: Token.spaced (next :: others) := by
            simp [Token.spaced, List.intercalate_cons_cons]
          rw [spaced]
          exact munched_written first (breaks_space _) (munched_space munched)

/-- A natural number within the integers keeps its value as one. -/
theorem nonnegative_ofNat {value : Nat} (bounded : value ≤ Number.greatestInteger) :
    0 ≤ (Int64.ofNat value).toInt := by
  have fits : value < 2 ^ 63 := Nat.lt_of_le_of_lt bounded (by decide)
  rw [Int64.toInt_ofNat_of_lt fits]
  exact Int.natCast_nonneg value

/-- A finite float is no integer. -/
theorem ofFinite?_ne_integer (float : Binary64) (value : Int64) :
    Number.ofFinite? float ≠ some (.integer value) := by
  cases float <;> simp [Number.ofFinite?]

/-- An integer that is read from a numeral is not negative. -/
theorem nonnegative_of_ofNumeral? {text : List Char} {value : Int64}
    (read : Number.ofNumeral? text = some (.integer value)) : 0 ≤ value.toInt := by
  simp only [Number.ofNumeral?] at read
  split at read
  · next fits =>
    injection read with same
    injection same with same
    rw [← same]
    exact nonnegative_ofNat fits.2
  · exact absurd read (ofFinite?_ne_integer _ value)

/-- A text of some sort gives well-formed tokens and floats only. -/
theorem wellFormed_of_gives {sort : PieceSort} {text : List Char} {tokens : List Token}
    (matched : Matches sort text) (gives : Gives sort text tokens) {token : Token}
    (member : token ∈ tokens) :
    token.WellFormed ∨ ∃ value, token = ⟨.number, .number (.float value)⟩ := by
  cases gives with
  | layout => cases member
  | verbatim =>
      obtain rfl := List.mem_singleton.mp member
      left
      cases matched with
      | @word first rest letter following =>
          cases found : Kind.keyword? (String.ofList (first :: rest)) with
          | some keyword =>
              rw [wordKind, found]
              exact .fixed (Kind.spelling?_of_keyword? found)
          | none =>
              rw [wordKind, found]
              refine .identifier ⟨⟨first, rest, String.toList_ofList, letter, following⟩, ?_⟩
              exact Kind.keyword?_eq_none_iff.mp found
      | @mark kind text known =>
          apply Token.WellFormed.fixed
          simp only [marks, List.mem_cons, Prod.mk.injEq, List.not_mem_nil, or_false] at known
          rcases known with ⟨rfl, rfl⟩ | ⟨rfl, rfl⟩ | ⟨rfl, rfl⟩ | ⟨rfl, rfl⟩ | ⟨rfl, rfl⟩ |
            ⟨rfl, rfl⟩ <;> rfl
  | @quoted content =>
      obtain rfl := List.mem_singleton.mp member
      left
      generalize shape : '"' :: (content ++ ['"']) = text at matched
      cases matched with
      | @quoted other inside =>
          have same : content = other := by simpa using shape
          subst same
          exact .string (by rw [String.toList_ofList]; exact inside)
  | @numeral _ number inRange =>
      obtain rfl := List.mem_singleton.mp member
      cases number with
      | integer value => exact Or.inl (.integer (nonnegative_of_ofNumeral? inRange))
      | float value => exact Or.inr ⟨value, rfl⟩

/-- Every token of a source is well-formed or carries a float. -/
theorem wellFormed_of_munched {source : List Char} {tokens : List Token}
    (munched : Munched source tokens) :
    ∀ token ∈ tokens,
      token.WellFormed ∨ ∃ value, token = ⟨.number, .number (.float value)⟩ := by
  induction munched with
  | done => exact List.forall_mem_nil _
  | piece nonempty matched longest gives following inductionHypothesis =>
      intro token member
      rcases List.mem_append.mp member with first | later
      · exact wellFormed_of_gives matched gives first
      · exact inductionHypothesis token later

end Lexeme

/-- Well-formed tokens that are written with single spaces between them are read back as
they are. A source gives no other tokens, apart from numbers that are floats. -/
theorem tokenize_spaced :
    (∀ tokens : List Token, (∀ token ∈ tokens, token.WellFormed) →
      (tokenize (String.ofList (Token.spaced tokens))).outcome = .ok tokens) ∧
    (∀ source tokens, (tokenize source).outcome = .ok tokens → ∀ token ∈ tokens,
      token.WellFormed ∨ ∃ value, token = ⟨.number, .number (.float value)⟩) := by
  have munched_iff : ∀ {source : String} {tokens : List Token},
      (tokenize source).outcome = .ok tokens ↔ Lexeme.Munched source.toList tokens :=
    Lexeme.outcome_tokenizeWith_iff_munched Lexeme.isWordCharacter_agreesOnAscii
  constructor
  · intro tokens wellFormed
    rw [munched_iff, String.toList_ofList]
    exact Lexeme.munched_spaced wellFormed
  · intro source tokens read
    exact Lexeme.wellFormed_of_munched (munched_iff.mp read)

/-- A name that begins like a keyword, the keyword, a string with an escaped quote, a line
feed and a backslash at its end, the greatest integer and a line end are read back. -/
theorem tokenize_spaced_hard_tokens :
    (tokenize "iffy if \"a\\\"\n\\\\\" 9223372036854775807 \n").outcome =
      .ok [⟨.identifier, .text "iffy"⟩, ⟨.ifWord, .text "if"⟩, ⟨.string, .text "a\\\"\n\\\\"⟩,
        ⟨.number, .number (.integer 9223372036854775807)⟩, ⟨.newline, .text "\n"⟩] ∧
    (Token.WellFormed ⟨.number, .number (.integer 9223372036854775807)⟩ ∨
      ∃ value, (⟨.number, .number (.integer 9223372036854775807)⟩ : Token) =
        ⟨.number, .number (.float value)⟩) := by
  have named : IsName "iffy" :=
    ⟨⟨'i', ['f', 'f', 'y'], rfl, rfl, List.all_eq_true.mp rfl⟩, by decide⟩
  have inside : Lexeme.Content "a\\\"\n\\\\".toList :=
    .plain (by decide) (by decide) (.escape (by decide)
      (.plain (by decide) (by decide) (.escape (by decide) .empty)))
  have keyword : Token.WellFormed ⟨.ifWord, .text "if"⟩ := .fixed rfl
  have lineEnd : Token.WellFormed ⟨.newline, .text "\n"⟩ := .fixed rfl
  have greatest : Token.WellFormed ⟨.number, .number (.integer 9223372036854775807)⟩ :=
    .integer (by decide)
  have read := tokenize_spaced.1 [⟨.identifier, .text "iffy"⟩, ⟨.ifWord, .text "if"⟩,
      ⟨.string, .text "a\\\"\n\\\\"⟩, ⟨.number, .number (.integer 9223372036854775807)⟩,
      ⟨.newline, .text "\n"⟩] <| by
    simp only [List.forall_mem_cons]
    exact ⟨.identifier named, keyword, .string inside, greatest, lineEnd, List.forall_mem_nil _⟩
  exact ⟨read, tokenize_spaced.2 _ _ read _ (by simp)⟩

end ScriptFront
