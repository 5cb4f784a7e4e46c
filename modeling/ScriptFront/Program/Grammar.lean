import ScriptFront.Program.Tree
import ScriptFront.Token

/-!
# The grammar of programs

The rules by which tokens make up expressions and statements, as a relation that
mentions no reader: each rule says which tokens stand one after another and which
tree they describe. Beside them stands the nesting level of a tree, which the rules
leave unbounded.
-/

namespace ScriptFront

/-- The token of a kind with a fixed spelling. -/
def Token.fixed (kind : Kind) : Token :=
  ⟨kind, .text (kind.spelling?.getD "")⟩

/-- The kinds of tokens whose values are taken over into a program. -/
def Kind.valued : List Kind :=
  [.identifier, .string, .number]

/-- Two tokens that mean the same: they are of one kind, and identifiers, strings and
numbers carry the same value. -/
structure Token.SameMeaning (left right : Token) : Prop where
  kind : left.kind = right.kind
  value : left.kind ∈ Kind.valued → left.value = right.value

/-- The word that opens a block. -/
def BlockKind.keyword : BlockKind → Kind
  | .conditional => .ifWord
  | .loop => .whileWord

/-- A word that opens a block is no line end. -/
theorem BlockKind.keyword_ne_newline (block : BlockKind) : block.keyword ≠ .newline := by
  cases block <;> exact Kind.noConfusion

/-- A connective is no line end. -/
theorem Connective.kind_ne_newline (connective : Connective) : connective.kind ≠ .newline := by
  cases connective <;> exact Kind.noConfusion

namespace Expression

/-- Whether a connective stands at the root of an expression. -/
def isOperation : Expression → Bool
  | .operation .. => true
  | _ => false

mutual

/-- How many levels reading an expression takes: one for the expression itself and
those of its deepest argument. In a chain of connectives each of them takes one, and
the operand at the end is an expression of its own. -/
def level : Expression → Nat
  | .identifier _ => 1
  | .string _ => 1
  | .number _ => 1
  | .boolean _ => 1
  | .call _ arguments => 1 + levelAll arguments
  | .operation _ _ right => (if right.isOperation then 1 else 2) + right.level

/-- The level of the deepest of several expressions; zero if there are none. -/
def levelAll : List Expression → Nat
  | [] => 0
  | first :: rest => max first.level (levelAll rest)

end

/-- Every expression takes a level. -/
theorem level_pos (expression : Expression) : 0 < expression.level := by
  cases expression with
  | operation connective left right =>
      simp only [level]
      split <;> omega
  | _ => simp only [level]; omega

/-- An operation takes a level beside that of its right side. -/
theorem one_lt_level_of_isOperation {expression : Expression}
    (operation : expression.isOperation = true) : 1 < expression.level := by
  cases expression with
  | operation connective left right =>
      have positive := right.level_pos
      simp only [level]
      split <;> omega
  | _ => cases operation

/-- A chain of connectives with a name before each, and the operand at its end. -/
def chain (links : List (String × Connective)) (last : Expression) : Expression :=
  links.foldr (fun link right => .operation link.2 (.identifier link.1) right) last

/-- The level of a chain: one, one a connective, and the level of its last operand. -/
theorem level_chain {links : List (String × Connective)} {last : Expression}
    (linked : links ≠ []) (operand : last.isOperation = false) :
    (chain links last).level = 1 + links.length + last.level := by
  induction links with
  | nil => exact absurd rfl linked
  | cons link others inductionHypothesis =>
      cases others with
      | nil =>
          simp only [chain, List.foldr_cons, List.foldr_nil, level, operand,
            Bool.false_eq_true, if_false, List.length_singleton]
      | cons next others =>
          have following := inductionHypothesis (List.cons_ne_nil next others)
          have nested : (chain (next :: others) last).isOperation = true := rfl
          change (if (chain (next :: others) last).isOperation then 1 else 2) +
            (chain (next :: others) last).level = _
          rw [nested, following]
          simp only [if_true, List.length_cons]
          omega

end Expression

namespace Statement

mutual

/-- How many levels reading a statement takes: those of its expressions, or one for a
block and those of the deepest statement in it. -/
def level : Statement → Nat
  | .assignment _ value => value.level
  | .call _ arguments => Expression.levelAll arguments
  | .block _ condition body => max condition.level (1 + levelAll body)

/-- The level of the deepest of several statements; zero if there are none. -/
def levelAll : List Statement → Nat
  | [] => 0
  | first :: rest => max first.level (levelAll rest)

end

/-- The deepest of several statements keeps to a bound exactly if all of them do. -/
theorem levelAll_le_iff {statements : List Statement} {bound : Nat} :
    levelAll statements ≤ bound ↔ ∀ statement ∈ statements, statement.level ≤ bound := by
  induction statements with
  | nil => simp [levelAll]
  | cons first rest inductionHypothesis =>
      simp only [levelAll, Nat.max_le, inductionHypothesis, List.forall_mem_cons]

end Statement

namespace Grammar

/-- Line ends and nothing else. -/
def Newlines (tokens : List Token) : Prop :=
  ∀ token ∈ tokens, token.kind = .newline

/-- What a rule of the grammar describes. -/
inductive Phrase where
  | expression (expression : Expression)
  /-- A call with its parentheses. -/
  | call (name : String) (arguments : List Expression)
  /-- One argument or more, with commas between them. -/
  | arguments (arguments : List Expression)
  /-- A statement with the line ends after it. -/
  | statement (statement : Statement)
  /-- Statements one after another. -/
  | statements (statements : List Statement)

/-- The tokens that make up a phrase. Identifiers and strings carry text and numbers
carry a number; every other token counts by its kind alone. -/
inductive Derives : Phrase → List Token → Prop where
  | identifier {name : String} :
      Derives (.expression (.identifier name)) [⟨.identifier, .text name⟩]
  | string {content : String} :
      Derives (.expression (.string content)) [⟨.string, .text content⟩]
  | number {value : Number} :
      Derives (.expression (.number value)) [⟨.number, .number value⟩]
  | trueWord {token : Token} (kind : token.kind = .trueWord) :
      Derives (.expression (.boolean true)) [token]
  | falseWord {token : Token} (kind : token.kind = .falseWord) :
      Derives (.expression (.boolean false)) [token]
  | callExpression {name : String} {arguments : List Expression} {tokens : List Token}
      (call : Derives (.call name arguments) tokens) :
      Derives (.expression (.call name arguments)) tokens
  | operation {name : String} {connective : Connective} {token : Token}
      {right : Expression} {rightTokens : List Token}
      (kind : token.kind = connective.kind)
      (second : Derives (.expression right) rightTokens) :
      Derives (.expression (.operation connective (.identifier name) right))
        (⟨.identifier, .text name⟩ :: token :: rightTokens)
  | emptyCall {name : String} {opening closing : Token}
      (openingKind : opening.kind = .parenthesisOpen)
      (closingKind : closing.kind = .parenthesisClose) :
      Derives (.call name []) [⟨.identifier, .text name⟩, opening, closing]
  | filledCall {name : String} {opening closing : Token}
      {arguments : List Expression} {argumentTokens : List Token}
      (openingKind : opening.kind = .parenthesisOpen)
      (values : Derives (.arguments arguments) argumentTokens)
      (closingKind : closing.kind = .parenthesisClose) :
      Derives (.call name arguments)
        (⟨.identifier, .text name⟩ :: opening :: (argumentTokens ++ [closing]))
  | lastArgument {value : Expression} {tokens : List Token}
      (only : Derives (.expression value) tokens) :
      Derives (.arguments [value]) tokens
  | moreArguments {value : Expression} {others : List Expression} {comma : Token}
      {tokens otherTokens : List Token}
      (first : Derives (.expression value) tokens)
      (kind : comma.kind = .comma)
      (following : Derives (.arguments others) otherTokens) :
      Derives (.arguments (value :: others)) (tokens ++ comma :: otherTokens)
  | assignment {target : String} {equal : Token} {value : Expression}
      {valueTokens after : List Token}
      (kind : equal.kind = .equal)
      (assigned : Derives (.expression value) valueTokens)
      (ending : Newlines after) :
      Derives (.statement (.assignment target value))
        (⟨.identifier, .text target⟩ :: equal :: (valueTokens ++ after))
  | callStatement {name : String} {arguments : List Expression}
      {callTokens after : List Token}
      (call : Derives (.call name arguments) callTokens)
      (ending : Newlines after) :
      Derives (.statement (.call name arguments)) (callTokens ++ after)
  | block {kind : BlockKind} {opening closing : Token} {condition : Expression}
      {body : List Statement} {conditionTokens before bodyTokens after : List Token}
      (openingKind : opening.kind = kind.keyword)
      (test : Derives (.expression condition) conditionTokens)
      (start : Newlines before)
      (inner : Derives (.statements body) bodyTokens)
      (closingKind : closing.kind = .endWord)
      (ending : Newlines after) :
      Derives (.statement (.block kind condition body))
        (opening :: (conditionTokens ++ before ++ bodyTokens ++ closing :: after))
  | noStatement : Derives (.statements []) []
  | moreStatements {statement : Statement} {others : List Statement}
      {tokens otherTokens : List Token}
      (first : Derives (.statement statement) tokens)
      (following : Derives (.statements others) otherTokens) :
      Derives (.statements (statement :: others)) (tokens ++ otherTokens)

end Grammar

end ScriptFront
