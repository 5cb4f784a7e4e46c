import ScriptFront.Program.Tree

/-!
# Outlines

A program as an indented outline: a line for every statement and expression, four
blanks deeper than the line it belongs to, and a line that separates the condition
of a block from its body. String literals stand between quotes with their content
as it is.
-/

namespace ScriptFront

/-- A line of an outline: how deep it stands and what it says. -/
structure OutlineLine where
  level : Nat
  content : String
deriving DecidableEq

namespace OutlineLine

/-- The space before a line: four blanks a level. -/
def indentation (level : Nat) : String :=
  String.ofList (List.replicate (4 * level) ' ')

/-- A line with its indentation and its line feed. -/
def text (line : OutlineLine) : String :=
  indentation line.level ++ line.content ++ "\n"

/-- Lines one after another. -/
def join (lines : List OutlineLine) : String :=
  String.join (lines.map text)

end OutlineLine

namespace Expression

mutual

/-- The lines of an expression whose first line stands at the given level. -/
def outline (level : Nat) : Expression → List OutlineLine
  | .identifier name => [⟨level, name⟩]
  | .string content => [⟨level, "\"" ++ content ++ "\""⟩]
  | .number value => [⟨level, value.display⟩]
  | .boolean value => [⟨level, if value then "true" else "false"⟩]
  | .call name arguments => ⟨level, "Call " ++ name⟩ :: outlineAll (level + 1) arguments
  | .operation connective left right =>
    ⟨level, connective.title⟩ :: (outline (level + 1) left ++ outline (level + 1) right)

/-- The lines of several expressions at one level. -/
def outlineAll (level : Nat) : List Expression → List OutlineLine
  | [] => []
  | expression :: rest => outline level expression ++ outlineAll level rest

end

/-- An expression as an outline of its own. -/
def display (expression : Expression) : String :=
  OutlineLine.join (expression.outline 0)

end Expression

/-- The heading of a block's condition. -/
def BlockKind.opening : BlockKind → String
  | .conditional => "If"
  | .loop => "While"

/-- The heading of a block's body. -/
def BlockKind.division : BlockKind → String
  | .conditional => "Then"
  | .loop => "Do"

namespace Statement

mutual

/-- The lines of a statement whose first line stands at the given level. -/
def outline (level : Nat) : Statement → List OutlineLine
  | .assignment target value =>
    ⟨level, "Assign " ++ target⟩ :: value.outline (level + 1)
  | .call name arguments =>
    ⟨level, "Call " ++ name⟩ :: Expression.outlineAll (level + 1) arguments
  | .block kind condition body =>
    ⟨level, kind.opening⟩ :: (condition.outline (level + 1) ++
      ⟨level, kind.division⟩ :: outlineAll (level + 1) body)

/-- The lines of several statements at one level. -/
def outlineAll (level : Nat) : List Statement → List OutlineLine
  | [] => []
  | statement :: rest => outline level statement ++ outlineAll level rest

end

/-- A statement as an outline of its own. -/
def display (statement : Statement) : String :=
  OutlineLine.join (statement.outline 0)

end Statement

end ScriptFront
