import Mathlib.Data.List.Forall2
import ScriptFront.Proofs.Program.Printing

/-!
# Line ends mean nothing

A program is read from its tokens without the line ends, and it is the same program.
Of the other tokens it holds all that tells them apart: their kinds in order, and the
values of identifiers, strings and numbers. Tokens of a program, without line ends and
with the usual spelling in place of every other value, are the tokens that the program
is written as.
-/

namespace ScriptFront

namespace Token

/-- The tokens that are no line ends. -/
def significant (tokens : List Token) : List Token :=
  tokens.filter fun token => token.kind ≠ .newline

/-- The token itself if its value counts, and otherwise the usual one of its kind. -/
def respelled (token : Token) : Token :=
  if token.kind ∈ Kind.valued then token else .fixed token.kind

theorem kind_respelled (token : Token) : token.respelled.kind = token.kind := by
  unfold respelled
  split <;> rfl

/-- Tokens that mean the same are those that respelling does not tell apart. -/
theorem respelled_eq_iff {left right : Token} :
    left.respelled = right.respelled ↔ SameMeaning left right := by
  constructor
  · intro same
    have kind : left.kind = right.kind := by
      rw [← kind_respelled left, same, kind_respelled]
    refine ⟨kind, fun valued => ?_⟩
    rw [respelled, respelled, ← kind, if_pos valued, if_pos valued] at same
    exact congrArg Token.value same
  · rintro ⟨kind, value⟩
    unfold respelled
    rw [← kind]
    split
    · next valued =>
      obtain ⟨leftKind, leftValue⟩ := left
      cases kind
      cases value valued
      rfl
    · rfl

/-- The same for tokens in a row. -/
theorem map_respelled_eq_iff {left right : List Token} :
    left.map respelled = right.map respelled ↔ List.Forall₂ SameMeaning left right := by
  rw [← List.forall₂_eq_eq_eq, List.forall₂_map_left_iff, List.forall₂_map_right_iff]
  simp only [respelled_eq_iff]

@[simp]
theorem significant_append (left right : List Token) :
    significant (left ++ right) = significant left ++ significant right :=
  List.filter_append ..

/-- A token that is no line end is kept. -/
theorem significant_cons {token : Token} (kind : token.kind ≠ .newline) (rest : List Token) :
    significant (token :: rest) = token :: significant rest :=
  List.filter_cons_of_pos (by simpa using kind)

/-- Line ends are not kept. -/
theorem significant_newlines {tokens : List Token} (newlines : Grammar.Newlines tokens) :
    significant tokens = [] := by
  unfold significant
  rw [List.filter_eq_nil_iff]
  intro token member
  simpa using newlines token member

/-- What the tokens say: those that are no line ends, respelled. -/
def essence (tokens : List Token) : List Token :=
  (significant tokens).map respelled

@[simp]
theorem essence_append (left right : List Token) :
    essence (left ++ right) = essence left ++ essence right := by
  simp [essence]

theorem essence_newlines {tokens : List Token} (newlines : Grammar.Newlines tokens) :
    essence tokens = [] := by
  rw [essence, significant_newlines newlines, List.map_nil]

/-- A name stays as it is. -/
theorem essence_name (name : String) (rest : List Token) :
    essence (⟨.identifier, .text name⟩ :: rest) = ⟨.identifier, .text name⟩ :: essence rest :=
  rfl

/-- A token without a value that counts stands for its kind, unless it is a line end. -/
theorem essence_fixed {token : Token} {kind : Kind} (same : token.kind = kind)
    (fixed : kind ∉ Kind.valued) (kept : kind ≠ .newline) (rest : List Token) :
    essence (token :: rest) = .fixed kind :: essence rest := by
  subst same
  rw [essence, significant_cons kept, List.map_cons, respelled, if_neg fixed]
  rfl

end Token

namespace Grammar

open Token

/-- A phrase as tokens. -/
def Phrase.tokens : Phrase → List Token
  | .expression value => value.tokens
  | .call name values => (Expression.call name values).tokens
  | .arguments values => Expression.argumentTokens values
  | .statement value => value.tokens
  | .statements values => Statement.tokensAll values

/-- Arguments have at least one among them. -/
theorem Derives.arguments_ne_nil {values : List Expression} {tokens : List Token}
    (derives : Derives (.arguments values) tokens) : values ≠ [] := by
  cases derives <;> exact List.cons_ne_nil _ _

/-- A phrase is derived from its tokens without the line ends. -/
theorem Derives.significant {phrase : Phrase} {tokens : List Token}
    (derives : Derives phrase tokens) : Derives phrase (significant tokens) := by
  have noLine : Newlines [] := List.forall_mem_nil _
  induction derives with
  | identifier => exact .identifier
  | string => exact .string
  | number => exact .number
  | trueWord kind =>
      rw [significant_cons (by simp [kind])]
      exact .trueWord kind
  | falseWord kind =>
      rw [significant_cons (by simp [kind])]
      exact .falseWord kind
  | callExpression call inductionHypothesis => exact .callExpression inductionHypothesis
  | @operation name connective token right rightTokens kind second inductionHypothesis =>
      rw [significant_cons Kind.noConfusion,
        significant_cons (kind ▸ connective.kind_ne_newline)]
      exact .operation kind inductionHypothesis
  | emptyCall openingKind closingKind =>
      rw [significant_cons Kind.noConfusion, significant_cons (by simp [openingKind]),
        significant_cons (by simp [closingKind])]
      exact .emptyCall openingKind closingKind
  | filledCall openingKind values closingKind inductionHypothesis =>
      rw [significant_cons Kind.noConfusion, significant_cons (by simp [openingKind]),
        significant_append, significant_cons (by simp [closingKind])]
      exact .filledCall openingKind inductionHypothesis closingKind
  | lastArgument only inductionHypothesis => exact .lastArgument inductionHypothesis
  | moreArguments first kind following firstDerives othersDerive =>
      rw [significant_append, significant_cons (by simp [kind])]
      exact .moreArguments firstDerives kind othersDerive
  | assignment kind assigned ending inductionHypothesis =>
      rw [significant_cons Kind.noConfusion, significant_cons (by simp [kind]),
        significant_append, significant_newlines ending]
      exact .assignment kind inductionHypothesis noLine
  | callStatement call ending inductionHypothesis =>
      rw [significant_append, significant_newlines ending]
      exact .callStatement inductionHypothesis noLine
  | @block kind opening closing condition body conditionTokens before bodyTokens after
      openingKind test start inner closingKind ending testDerives innerDerives =>
      rw [significant_cons (openingKind ▸ kind.keyword_ne_newline), significant_append,
        significant_append, significant_append, significant_newlines start,
        significant_cons (by simp [closingKind]), significant_newlines ending]
      exact .block openingKind testDerives noLine innerDerives closingKind noLine
  | noStatement => exact .noStatement
  | moreStatements first following firstDerives othersDerive =>
      rw [significant_append]
      exact .moreStatements firstDerives othersDerive

/-- The tokens of a phrase say what the phrase says, and nothing else. -/
theorem Derives.essence {phrase : Phrase} {tokens : List Token}
    (derives : Derives phrase tokens) : essence tokens = phrase.tokens := by
  induction derives with
  | identifier => rfl
  | string => rfl
  | number => rfl
  | trueWord kind => exact essence_fixed kind (by decide) (by decide) []
  | falseWord kind => exact essence_fixed kind (by decide) (by decide) []
  | callExpression call inductionHypothesis => exact inductionHypothesis
  | @operation name connective token right rightTokens kind second inductionHypothesis =>
      rw [essence_name, essence_fixed kind (by cases connective <;> decide)
        (connective.kind_ne_newline), inductionHypothesis]
      rfl
  | emptyCall openingKind closingKind =>
      rw [essence_name, essence_fixed openingKind (by decide) (by decide),
        essence_fixed closingKind (by decide) (by decide)]
      rfl
  | filledCall openingKind values closingKind inductionHypothesis =>
      rw [essence_name, essence_fixed openingKind (by decide) (by decide),
        essence_append, inductionHypothesis,
        essence_fixed closingKind (by decide) (by decide)]
      rfl
  | @lastArgument value tokens only inductionHypothesis =>
      rw [inductionHypothesis]
      exact (List.append_nil _).symm
  | @moreArguments value others comma tokens otherTokens first kind following firstEssence
      othersEssence =>
      rw [essence_append, essence_fixed kind (by decide) (by decide), firstEssence,
        othersEssence]
      obtain ⟨next, rest, rfl⟩ := List.exists_cons_of_ne_nil following.arguments_ne_nil
      rfl
  | assignment kind assigned ending inductionHypothesis =>
      rw [essence_name, essence_fixed kind (by decide) (by decide),
        essence_append, essence_newlines ending, inductionHypothesis, List.append_nil]
      rfl
  | callStatement call ending inductionHypothesis =>
      rw [essence_append, essence_newlines ending, inductionHypothesis, List.append_nil]
      rfl
  | @block kind opening closing condition body conditionTokens before bodyTokens after
      openingKind test start inner closingKind ending testEssence innerEssence =>
      rw [essence_fixed openingKind (by cases kind <;> decide) (kind.keyword_ne_newline),
        essence_append, essence_append, essence_append, essence_newlines start,
        essence_fixed closingKind (by decide) (by decide), essence_newlines ending,
        testEssence, innerEssence, List.append_nil]
      rfl
  | noStatement => rfl
  | moreStatements first following firstEssence othersEssence =>
      rw [essence_append, firstEssence, othersEssence]
      rfl

/-- Tokens derive at most one program: the grammar is unambiguous. -/
theorem Derives.program_unique {left right : List Statement} {tokens : List Token}
    (leftDerives : Derives (.statements left) tokens)
    (rightDerives : Derives (.statements right) tokens) : left = right := by
  -- Under a limit that covers both programs the reader yields both of them.
  have leftRead := outcome_parseWithin_eq_ok_iff.mpr
    ⟨leftDerives, Nat.le_max_left _ (Statement.levelAll right)⟩
  have rightRead := outcome_parseWithin_eq_ok_iff.mpr
    ⟨rightDerives, Nat.le_max_right (Statement.levelAll left) _⟩
  exact Except.ok.inj (leftRead.symm.trans rightRead)

/-- Two programs are the same exactly if their tokens say the same. -/
theorem Derives.program_eq_iff {left right : List Statement} {leftTokens rightTokens : List Token}
    (leftDerives : Derives (.statements left) leftTokens)
    (rightDerives : Derives (.statements right) rightTokens) :
    left = right ↔ Token.essence leftTokens = Token.essence rightTokens := by
  rw [leftDerives.essence, rightDerives.essence]
  constructor
  · rintro rfl
    rfl
  · intro same
    have written := Statement.derives_tokensAll left leftDerives.lefts_named
    rw [show Statement.tokensAll left = Statement.tokensAll right from same] at written
    exact written.program_unique
      (Statement.derives_tokensAll right rightDerives.lefts_named)

end Grammar

open Grammar Token

/-- Line ends are all that is lost when tokens are read as a program. Without them the
tokens of a program are read as the same program, and the tokens of two programs differ
in no other token exactly if the programs are the same. -/
theorem parse_significant :
    (∀ tokens program, (parse tokens).outcome = .ok program →
      (parse (significant tokens)).outcome = .ok program) ∧
    (∀ left right leftProgram rightProgram, (parse left).outcome = .ok leftProgram →
      (parse right).outcome = .ok rightProgram →
        ((parse left).outcome = (parse right).outcome ↔
          List.Forall₂ SameMeaning (significant left) (significant right))) := by
  constructor
  · intro tokens program read
    obtain ⟨derives, levels⟩ := outcome_parseWithin_eq_ok_iff.mp read
    exact outcome_parseWithin_eq_ok_iff.mpr ⟨derives.significant, levels⟩
  · intro left right leftProgram rightProgram leftRead rightRead
    obtain ⟨leftDerives, -⟩ := outcome_parseWithin_eq_ok_iff.mp leftRead
    obtain ⟨rightDerives, -⟩ := outcome_parseWithin_eq_ok_iff.mp rightRead
    calc (parse left).outcome = (parse right).outcome
        ↔ leftProgram = rightProgram := by rw [leftRead, rightRead, Except.ok.injEq]
      _ ↔ essence left = essence right := leftDerives.program_eq_iff rightDerives
      _ ↔ List.Forall₂ SameMeaning (significant left) (significant right) :=
        map_respelled_eq_iff

/-- The assignment `x = a` and the call `f()`, with tokens between them and after them. -/
def assignmentAndCall (equal opening : Value) (between after : List Token) : List Token :=
  [⟨.identifier, .text "x"⟩, ⟨.equal, equal⟩, ⟨.identifier, .text "a"⟩] ++ between ++
    [⟨.identifier, .text "f"⟩, ⟨.parenthesisOpen, opening⟩, .fixed .parenthesisClose] ++ after

/-- An assignment of a name and a call on a later line are also read on one line, where
that name stands against the name of the call. What an equals sign or a parenthesis
carries does not matter, nor does it matter how many lines lie between. -/
theorem parse_significant_joined_lines :
    (parse (significant (assignmentAndCall (.text "=") (.text "(")
      [.fixed .newline, .fixed .newline] [.fixed .newline]))).outcome =
        .ok [.assignment "x" (.identifier "a"), .call "f" []] ∧
    (parse (assignmentAndCall (.text "=") (.text "(")
      [.fixed .newline, .fixed .newline] [.fixed .newline])).outcome =
        (parse (assignmentAndCall (.number (.integer 1)) (.text "[")
          [⟨.newline, .text ""⟩] [])).outcome :=
  ⟨parse_significant.1 _ _ rfl,
    (parse_significant.2 _ _ _ _ rfl rfl).mpr (map_respelled_eq_iff.mp rfl)⟩

end ScriptFront
