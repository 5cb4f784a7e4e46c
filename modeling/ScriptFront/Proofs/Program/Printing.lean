import ScriptFront.Proofs.Program.Completeness
import ScriptFront.Proofs.Token.Spelling

/-!
# Tokens of a tree

A way to write every program as tokens, without line ends, and what a program shares
with any tokens that derive it: its names, strings and numbers stand among them, and
the left side of each operation is a name.
-/

namespace ScriptFront

/-- A part of a program that is taken over from a source as it is. -/
inductive Atom where
  | name (name : String)
  | string (content : String)
  | number (value : Number)

/-- The token an atom is read from. -/
def Atom.token : Atom → Token
  | .name text => ⟨.identifier, .text text⟩
  | .string content => ⟨.string, .text content⟩
  | .number value => ⟨.number, .number value⟩

namespace Expression

mutual

/-- The names, strings and numbers of an expression. -/
def atoms : Expression → List Atom
  | .identifier name => [.name name]
  | .string content => [.string content]
  | .number value => [.number value]
  | .boolean _ => []
  | .call name arguments => .name name :: atomsAll arguments
  | .operation _ left right => left.atoms ++ right.atoms

/-- The names, strings and numbers of several expressions. -/
def atomsAll : List Expression → List Atom
  | [] => []
  | first :: rest => first.atoms ++ atomsAll rest

end

mutual

/-- The left sides of all operations in an expression. -/
def lefts : Expression → List Expression
  | .identifier _ => []
  | .string _ => []
  | .number _ => []
  | .boolean _ => []
  | .call _ arguments => leftsAll arguments
  | .operation _ left right => left :: (left.lefts ++ right.lefts)

/-- The left sides of all operations in several expressions. -/
def leftsAll : List Expression → List Expression
  | [] => []
  | first :: rest => first.lefts ++ leftsAll rest

end

mutual

/-- An expression as tokens. -/
def tokens : Expression → List Token
  | .identifier name => [⟨.identifier, .text name⟩]
  | .string content => [⟨.string, .text content⟩]
  | .number value => [⟨.number, .number value⟩]
  | .boolean value => [Token.fixed (if value then .trueWord else .falseWord)]
  | .call name arguments =>
    ⟨.identifier, .text name⟩ :: Token.fixed .parenthesisOpen ::
      (argumentTokens arguments ++ [Token.fixed .parenthesisClose])
  | .operation connective left right =>
    left.tokens ++ Token.fixed connective.kind :: right.tokens

/-- Arguments as tokens, with commas between them. -/
def argumentTokens : List Expression → List Token
  | [] => []
  | first :: rest =>
    first.tokens ++
      if rest.isEmpty then [] else Token.fixed .comma :: argumentTokens rest

end

end Expression

namespace Statement

mutual

/-- The names, strings and numbers of a statement. -/
def atoms : Statement → List Atom
  | .assignment target value => .name target :: value.atoms
  | .call name arguments => .name name :: Expression.atomsAll arguments
  | .block _ condition body => condition.atoms ++ atomsAll body

/-- The names, strings and numbers of several statements. -/
def atomsAll : List Statement → List Atom
  | [] => []
  | first :: rest => first.atoms ++ atomsAll rest

end

mutual

/-- The left sides of all operations in a statement. -/
def lefts : Statement → List Expression
  | .assignment _ value => value.lefts
  | .call _ arguments => Expression.leftsAll arguments
  | .block _ condition body => condition.lefts ++ leftsAll body

/-- The left sides of all operations in several statements. -/
def leftsAll : List Statement → List Expression
  | [] => []
  | first :: rest => first.lefts ++ leftsAll rest

end

mutual

/-- A statement as tokens. -/
def tokens : Statement → List Token
  | .assignment target value =>
    ⟨.identifier, .text target⟩ :: Token.fixed .equal :: value.tokens
  | .call name arguments => (Expression.call name arguments).tokens
  | .block kind condition body =>
    Token.fixed kind.keyword ::
      (condition.tokens ++ tokensAll body ++ [Token.fixed .endWord])

/-- Statements as tokens, one after another. -/
def tokensAll : List Statement → List Token
  | [] => []
  | first :: rest => first.tokens ++ tokensAll rest

end

end Statement

namespace Grammar

/-- The names, strings and numbers of a phrase. -/
def Phrase.atoms : Phrase → List Atom
  | .expression value => value.atoms
  | .call name values => .name name :: Expression.atomsAll values
  | .arguments values => Expression.atomsAll values
  | .statement value => value.atoms
  | .statements values => Statement.atomsAll values

/-- The left sides of all operations in a phrase. -/
def Phrase.lefts : Phrase → List Expression
  | .expression value => value.lefts
  | .call _ values => Expression.leftsAll values
  | .arguments values => Expression.leftsAll values
  | .statement value => value.lefts
  | .statements values => Statement.leftsAll values

/-- Every atom of a phrase stands among its tokens. -/
theorem Derives.token_mem {phrase : Phrase} {tokens : List Token}
    (derives : Derives phrase tokens) : ∀ atom ∈ phrase.atoms, atom.token ∈ tokens := by
  induction derives with
  | identifier => exact List.forall_mem_singleton.mpr List.mem_cons_self
  | string => exact List.forall_mem_singleton.mpr List.mem_cons_self
  | number => exact List.forall_mem_singleton.mpr List.mem_cons_self
  | trueWord kind => exact List.forall_mem_nil _
  | falseWord kind => exact List.forall_mem_nil _
  | callExpression call inductionHypothesis => exact inductionHypothesis
  | operation kind second inductionHypothesis =>
      refine List.forall_mem_cons.mpr ⟨List.mem_cons_self, ?_⟩
      intro atom member
      exact List.mem_cons_of_mem _ (List.mem_cons_of_mem _ (inductionHypothesis atom member))
  | emptyCall openingKind closingKind =>
      exact List.forall_mem_singleton.mpr List.mem_cons_self
  | filledCall openingKind values closingKind inductionHypothesis =>
      refine List.forall_mem_cons.mpr ⟨List.mem_cons_self, ?_⟩
      intro atom member
      exact List.mem_cons_of_mem _ (List.mem_cons_of_mem _
        (List.mem_append_left _ (inductionHypothesis atom member)))
  | lastArgument only inductionHypothesis =>
      intro atom member
      exact inductionHypothesis atom (by simpa [Phrase.atoms, Expression.atomsAll] using member)
  | moreArguments first kind following firstMember othersMember =>
      intro atom member
      rcases List.mem_append.mp member with member | member
      · exact List.mem_append_left _ (firstMember atom member)
      · exact List.mem_append_right _ (List.mem_cons_of_mem _ (othersMember atom member))
  | assignment kind assigned ending inductionHypothesis =>
      refine List.forall_mem_cons.mpr ⟨List.mem_cons_self, ?_⟩
      intro atom member
      exact List.mem_cons_of_mem _ (List.mem_cons_of_mem _
        (List.mem_append_left _ (inductionHypothesis atom member)))
  | callStatement call ending inductionHypothesis =>
      intro atom member
      exact List.mem_append_left _ (inductionHypothesis atom member)
  | block openingKind test start inner closingKind ending testMember innerMember =>
      intro atom member
      simp only [List.mem_cons, List.mem_append]
      rcases List.mem_append.mp member with member | member
      · exact Or.inr (Or.inl (Or.inl (Or.inl (testMember atom member))))
      · exact Or.inr (Or.inl (Or.inr (innerMember atom member)))
  | noStatement => exact List.forall_mem_nil _
  | moreStatements first following firstMember othersMember =>
      intro atom member
      rcases List.mem_append.mp member with member | member
      · exact List.mem_append_left _ (firstMember atom member)
      · exact List.mem_append_right _ (othersMember atom member)

/-- The left side of every operation of a phrase is a name. -/
theorem Derives.lefts_named {phrase : Phrase} {tokens : List Token}
    (derives : Derives phrase tokens) :
    ∀ left ∈ phrase.lefts, ∃ name, left = .identifier name := by
  induction derives with
  | operation kind second inductionHypothesis =>
      exact List.forall_mem_cons.mpr ⟨⟨_, rfl⟩, inductionHypothesis⟩
  | callExpression call inductionHypothesis => exact inductionHypothesis
  | filledCall openingKind values closingKind inductionHypothesis =>
      exact inductionHypothesis
  | lastArgument only inductionHypothesis =>
      exact List.forall_mem_append.mpr ⟨inductionHypothesis, List.forall_mem_nil _⟩
  | moreArguments first kind following firstNamed othersNamed =>
      exact List.forall_mem_append.mpr ⟨firstNamed, othersNamed⟩
  | assignment kind assigned ending inductionHypothesis => exact inductionHypothesis
  | callStatement call ending inductionHypothesis => exact inductionHypothesis
  | block openingKind test start inner closingKind ending testNamed innerNamed =>
      exact List.forall_mem_append.mpr ⟨testNamed, innerNamed⟩
  | moreStatements first following firstNamed othersNamed =>
      exact List.forall_mem_append.mpr ⟨firstNamed, othersNamed⟩
  | _ => exact List.forall_mem_nil _

end Grammar

namespace Expression

open Grammar

mutual

/-- The tokens of an expression derive it, if a name stands left of every connective. -/
theorem derives_tokens (expression : Expression)
    (named : ∀ left ∈ expression.lefts, ∃ name, left = .identifier name) :
    Derives (.expression expression) expression.tokens := by
  cases expression with
  | identifier name => exact .identifier
  | string content => exact .string
  | number value => exact .number
  | boolean value =>
      cases value with
      | false => exact .falseWord rfl
      | true => exact .trueWord rfl
  | call name arguments =>
      apply Derives.callExpression
      by_cases empty : arguments = []
      · subst empty
        exact .emptyCall rfl rfl
      · exact .filledCall rfl (derives_argumentTokens arguments empty named) rfl
  | operation connective left right =>
      obtain ⟨⟨name, rfl⟩, others⟩ := List.forall_mem_cons.mp named
      exact .operation rfl (derives_tokens right others)

/-- The tokens of arguments derive them. -/
theorem derives_argumentTokens (values : List Expression) (filled : values ≠ [])
    (named : ∀ left ∈ leftsAll values, ∃ name, left = .identifier name) :
    Derives (.arguments values) (argumentTokens values) := by
  match values with
  | [] => exact absurd rfl filled
  | first :: rest =>
      obtain ⟨firstNamed, restNamed⟩ := List.forall_mem_append.mp named
      have only := derives_tokens first firstNamed
      by_cases last : rest = []
      · subst last
        simpa [argumentTokens] using Derives.lastArgument only
      · have following := derives_argumentTokens rest last restNamed
        have comma : (Token.fixed .comma).kind = .comma := rfl
        simpa [argumentTokens, last] using Derives.moreArguments only comma following

end

mutual

/-- If the names, strings and numbers of an expression can be written, so can all of
its tokens. -/
theorem wellFormed_tokens (expression : Expression)
    (atoms : ∀ atom ∈ expression.atoms, atom.token.WellFormed) :
    ∀ token ∈ expression.tokens, token.WellFormed := by
  cases expression with
  | identifier name => exact List.forall_mem_singleton.mpr (atoms _ List.mem_cons_self)
  | string content => exact List.forall_mem_singleton.mpr (atoms _ List.mem_cons_self)
  | number value => exact List.forall_mem_singleton.mpr (atoms _ List.mem_cons_self)
  | boolean value =>
      cases value <;> exact List.forall_mem_singleton.mpr (.fixed rfl)
  | call name arguments =>
      obtain ⟨named, others⟩ := List.forall_mem_cons.mp atoms
      refine List.forall_mem_cons.mpr ⟨named, List.forall_mem_cons.mpr ⟨.fixed rfl, ?_⟩⟩
      refine List.forall_mem_append.mpr ⟨wellFormed_argumentTokens arguments others, ?_⟩
      exact List.forall_mem_singleton.mpr (.fixed rfl)
  | operation connective left right =>
      obtain ⟨leftAtoms, rightAtoms⟩ := List.forall_mem_append.mp atoms
      refine List.forall_mem_append.mpr ⟨wellFormed_tokens left leftAtoms, ?_⟩
      refine List.forall_mem_cons.mpr ⟨?_, wellFormed_tokens right rightAtoms⟩
      cases connective <;> exact .fixed rfl

/-- If the names, strings and numbers of arguments can be written, so can all of their
tokens. -/
theorem wellFormed_argumentTokens (values : List Expression)
    (atoms : ∀ atom ∈ atomsAll values, atom.token.WellFormed) :
    ∀ token ∈ argumentTokens values, token.WellFormed := by
  cases values with
  | nil => exact List.forall_mem_nil _
  | cons first rest =>
      obtain ⟨firstAtoms, restAtoms⟩ := List.forall_mem_append.mp atoms
      refine List.forall_mem_append.mpr ⟨wellFormed_tokens first firstAtoms, ?_⟩
      split
      · exact List.forall_mem_nil _
      · exact List.forall_mem_cons.mpr
          ⟨.fixed rfl, wellFormed_argumentTokens rest restAtoms⟩

end

end Expression

namespace Statement

open Grammar

mutual

/-- The tokens of a statement derive it, if a name stands left of every connective. -/
theorem derives_tokens (statement : Statement)
    (named : ∀ left ∈ statement.lefts, ∃ name, left = .identifier name) :
    Derives (.statement statement) statement.tokens := by
  have noLine : Newlines [] := List.forall_mem_nil _
  cases statement with
  | assignment target value =>
      have equal : (Token.fixed .equal).kind = .equal := rfl
      simpa [tokens] using Derives.assignment equal (value.derives_tokens named) noLine
  | call name arguments =>
      cases (Expression.call name arguments).derives_tokens named with
      | callExpression call => simpa [tokens] using Derives.callStatement call noLine
  | block kind condition body =>
      obtain ⟨test, inner⟩ := List.forall_mem_append.mp named
      have opening : (Token.fixed kind.keyword).kind = kind.keyword := rfl
      have closing : (Token.fixed .endWord).kind = .endWord := rfl
      simpa [tokens] using Derives.block opening (condition.derives_tokens test) noLine
        (derives_tokensAll body inner) closing noLine

/-- The tokens of statements derive them. -/
theorem derives_tokensAll (statements : List Statement)
    (named : ∀ left ∈ leftsAll statements, ∃ name, left = .identifier name) :
    Derives (.statements statements) (tokensAll statements) := by
  cases statements with
  | nil => exact .noStatement
  | cons first rest =>
      obtain ⟨firstNamed, restNamed⟩ := List.forall_mem_append.mp named
      exact .moreStatements (derives_tokens first firstNamed) (derives_tokensAll rest restNamed)

end

mutual

/-- If the names, strings and numbers of a statement can be written, so can all of its
tokens. -/
theorem wellFormed_tokens (statement : Statement)
    (atoms : ∀ atom ∈ statement.atoms, atom.token.WellFormed) :
    ∀ token ∈ statement.tokens, token.WellFormed := by
  cases statement with
  | assignment target value =>
      obtain ⟨named, others⟩ := List.forall_mem_cons.mp atoms
      refine List.forall_mem_cons.mpr ⟨named, List.forall_mem_cons.mpr ⟨.fixed rfl, ?_⟩⟩
      exact value.wellFormed_tokens others
  | call name arguments => exact (Expression.call name arguments).wellFormed_tokens atoms
  | block kind condition body =>
      obtain ⟨test, inner⟩ := List.forall_mem_append.mp atoms
      refine List.forall_mem_cons.mpr ⟨by cases kind <;> exact .fixed rfl, ?_⟩
      refine List.forall_mem_append.mpr ⟨List.forall_mem_append.mpr ⟨?_, ?_⟩, ?_⟩
      · exact condition.wellFormed_tokens test
      · exact wellFormed_tokensAll body inner
      · exact List.forall_mem_singleton.mpr (.fixed rfl)

/-- If the names, strings and numbers of statements can be written, so can all of their
tokens. -/
theorem wellFormed_tokensAll (statements : List Statement)
    (atoms : ∀ atom ∈ atomsAll statements, atom.token.WellFormed) :
    ∀ token ∈ tokensAll statements, token.WellFormed := by
  cases statements with
  | nil => exact List.forall_mem_nil _
  | cons first rest =>
      obtain ⟨firstAtoms, restAtoms⟩ := List.forall_mem_append.mp atoms
      exact List.forall_mem_append.mpr
        ⟨wellFormed_tokens first firstAtoms, wellFormed_tokensAll rest restAtoms⟩

end

end Statement

end ScriptFront
