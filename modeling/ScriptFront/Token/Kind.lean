/-!
# Kinds of tokens

The sixteen kinds of tokens, their names and the fixed spelling most of them have in
a source, and the two connectives among them.
-/

namespace ScriptFront

/-- What a token is, apart from the value it carries. -/
inductive Kind where
  | identifier
  | string
  | number
  | trueWord
  | falseWord
  | ifWord
  | whileWord
  | endWord
  | andWord
  | orWord
  | parenthesisOpen
  | parenthesisClose
  | comma
  | equal
  | equalEqual
  | newline
deriving DecidableEq

namespace Kind

/-- Every kind, once. -/
def all : List Kind :=
  [.identifier, .string, .number, .trueWord, .falseWord, .ifWord, .whileWord, .endWord,
    .andWord, .orWord, .parenthesisOpen, .parenthesisClose, .comma, .equal, .equalEqual,
    .newline]

/-- The name of a kind, as listings, messages and JSON show it. -/
def name : Kind → String
  | .identifier => "IDENTIFIER"
  | .string => "STRING"
  | .number => "NUMBER"
  | .trueWord => "TRUE"
  | .falseWord => "FALSE"
  | .ifWord => "IF"
  | .whileWord => "WHILE"
  | .endWord => "END"
  | .andWord => "AND"
  | .orWord => "OR"
  | .parenthesisOpen => "PARENS_OPEN"
  | .parenthesisClose => "PARENS_CLOSE"
  | .comma => "COMMA"
  | .equal => "EQUAL"
  | .equalEqual => "EQUALEQUAL"
  | .newline => "NEWLINE"

/-- The only way a kind is written in a source. Identifiers, strings and numbers
have no spelling of their own. -/
def spelling? : Kind → Option String
  | .identifier => none
  | .string => none
  | .number => none
  | .trueWord => some "true"
  | .falseWord => some "false"
  | .ifWord => some "if"
  | .whileWord => some "while"
  | .endWord => some "end"
  | .andWord => some "and"
  | .orWord => some "or"
  | .parenthesisOpen => some "("
  | .parenthesisClose => some ")"
  | .comma => some ","
  | .equal => some "="
  | .equalEqual => some "=="
  | .newline => some "\n"

/-- The kinds that are spelled like words. -/
def keywords : List Kind :=
  [.whileWord, .ifWord, .endWord, .trueWord, .falseWord, .andWord, .orWord]

/-- The keyword with the given spelling. -/
def keyword? (word : String) : Option Kind :=
  keywords.find? fun kind => kind.spelling? == some word

/-- The kind with the given name. -/
def ofName? (name : String) : Option Kind :=
  all.find? fun kind => kind.name == name

/-- A name leads back to its kind. -/
theorem ofName?_name (kind : Kind) : ofName? kind.name = some kind := by
  cases kind <;> decide

/-- Different kinds have different names. -/
theorem name_injective {left right : Kind} (names : left.name = right.name) : left = right := by
  have found := ofName?_name left
  rw [names, ofName?_name right] at found
  exact (Option.some.inj found).symm

end Kind

/-- A word that joins two conditions. -/
inductive Connective where
  | and
  | or
deriving DecidableEq

namespace Connective

/-- The kind of token a connective is written with. -/
def kind : Connective → Kind
  | .and => .andWord
  | .or => .orWord

/-- The connective a kind of token stands for. -/
def ofKind? : Kind → Option Connective
  | .andWord => some .and
  | .orWord => some .or
  | _ => none

/-- The heading of a connective in an outline. -/
def title : Connective → String
  | .and => "And"
  | .or => "Or"

/-- Exactly the two connective words stand for connectives. -/
theorem ofKind?_eq_some_iff {kind : Kind} {connective : Connective} :
    ofKind? kind = some connective ↔ kind = connective.kind := by
  cases kind <;> cases connective <;> decide

end Connective

end ScriptFront
