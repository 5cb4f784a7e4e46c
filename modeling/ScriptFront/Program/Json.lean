import ScriptFront.Number.Json
import ScriptFront.Program.Tree

/-!
# Programs in JSON

Every node is an object with one member, named for the sort of the node.
-/

namespace ScriptFront

/-- The document of a call, as a statement and as an expression. -/
def callJson (name : String) (arguments : List Json) : Json :=
  .object [("FunctionCall", .object [("name", .string name), ("arguments", .array arguments)])]

namespace Expression

mutual

/-- An expression as a JSON document. -/
def json : Expression → Json
  | .identifier name => .object [("Identifier", .string name)]
  | .string content => .object [("StringLiteral", .string content)]
  | .number value => .object [("NumberLiteral", value.json)]
  | .boolean value => .object [("BooleanLiteral", .boolean value)]
  | .call name arguments => callJson name (jsonAll arguments)
  | .operation connective left right =>
    .object [("BinaryOperation", .object [("operator", .string connective.kind.name),
      ("left", json left), ("right", json right)])]

/-- Expressions as JSON documents. -/
def jsonAll : List Expression → List Json
  | [] => []
  | expression :: rest => json expression :: jsonAll rest

end

end Expression

/-- The name of a block's member. -/
def BlockKind.memberName : BlockKind → String
  | .conditional => "If"
  | .loop => "While"

namespace Statement

mutual

/-- A statement as a JSON document. -/
def json : Statement → Json
  | .assignment target value =>
    .object [("Assignment", .object [("target", .string target), ("value", value.json)])]
  | .call name arguments => callJson name (Expression.jsonAll arguments)
  | .block kind condition body =>
    .object [(kind.memberName,
      .object [("condition", condition.json), ("body", .array (jsonAll body))])]

/-- Statements as JSON documents. -/
def jsonAll : List Statement → List Json
  | [] => []
  | statement :: rest => json statement :: jsonAll rest

end

end Statement

end ScriptFront
