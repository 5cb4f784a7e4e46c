import ScriptFront.Proofs.Program.Readers

/-!
# Other names, strings and numbers

A program with its names, strings and numbers exchanged for others of their sort, and
when a token is what another one becomes that way. Only these values are exchanged:
the kind of a token stays, and what any other token carries does not matter.
-/

namespace ScriptFront

/-- What each name, each string and each number is exchanged for. -/
structure Exchange where
  name : String → String
  content : String → String
  number : Number → Number

/-- Everything stays as it is. -/
def Exchange.keep : Exchange := ⟨id, id, id⟩

namespace Expression

mutual

/-- An expression with its names, strings and numbers exchanged. -/
def exchanged (exchange : Exchange) : Expression → Expression
  | .identifier name => .identifier (exchange.name name)
  | .string content => .string (exchange.content content)
  | .number value => .number (exchange.number value)
  | .boolean value => .boolean value
  | .call name arguments => .call (exchange.name name) (exchangedAll exchange arguments)
  | .operation connective left right =>
    .operation connective (left.exchanged exchange) (right.exchanged exchange)

/-- Several expressions with their names, strings and numbers exchanged. -/
def exchangedAll (exchange : Exchange) : List Expression → List Expression
  | [] => []
  | first :: rest => first.exchanged exchange :: exchangedAll exchange rest

end

mutual

theorem exchanged_keep (expression : Expression) : expression.exchanged .keep = expression := by
  cases expression with
  | call name arguments => rw [exchanged, exchangedAll_keep arguments]; rfl
  | operation connective left right => rw [exchanged, exchanged_keep left, exchanged_keep right]
  | _ => rfl

theorem exchangedAll_keep (expressions : List Expression) :
    exchangedAll .keep expressions = expressions := by
  cases expressions with
  | nil => rfl
  | cons first rest => rw [exchangedAll, exchanged_keep first, exchangedAll_keep rest]

end

end Expression

namespace Statement

mutual

/-- A statement with its names, strings and numbers exchanged. -/
def exchanged (exchange : Exchange) : Statement → Statement
  | .assignment target value => .assignment (exchange.name target) (value.exchanged exchange)
  | .call name arguments =>
    .call (exchange.name name) (Expression.exchangedAll exchange arguments)
  | .block kind condition body =>
    .block kind (condition.exchanged exchange) (exchangedAll exchange body)

/-- Several statements with their names, strings and numbers exchanged. -/
def exchangedAll (exchange : Exchange) : List Statement → List Statement
  | [] => []
  | first :: rest => first.exchanged exchange :: exchangedAll exchange rest

end

mutual

theorem exchanged_keep (statement : Statement) : statement.exchanged .keep = statement := by
  cases statement with
  | assignment target value => rw [exchanged, value.exchanged_keep]; rfl
  | call name arguments => rw [exchanged, Expression.exchangedAll_keep arguments]; rfl
  | block kind condition body =>
      rw [exchanged, condition.exchanged_keep, exchangedAll_keep body]

theorem exchangedAll_keep (statements : List Statement) :
    exchangedAll .keep statements = statements := by
  cases statements with
  | nil => rfl
  | cons first rest => rw [exchangedAll, exchanged_keep first, exchangedAll_keep rest]

end

end Statement

namespace Exchange

open Program

/-- The second token is what the first one becomes: it is of the same kind, and what an
identifier, a string or a number carries is exchanged. -/
structure Pairs (exchange : Exchange) (first second : Token) : Prop where
  kind : second.kind = first.kind
  name : first.kind = .identifier → nameOf second = (nameOf first).map exchange.name
  content : first.kind = .string → contentOf second = (contentOf first).map exchange.content
  number : first.kind = .number → numberOf second = (numberOf first).map exchange.number

/-- Every token stays what it is. -/
theorem Pairs.keep (token : Token) : Exchange.keep.Pairs token token where
  kind := rfl
  name _ := by cases nameOf token <;> rfl
  content _ := by cases contentOf token <;> rfl
  number _ := by cases numberOf token <;> rfl

/-- A token that stands for itself becomes one that stands for the exchanged value. -/
theorem Pairs.atom {exchange : Exchange} {first second : Token}
    (pair : exchange.Pairs first second) :
    atom second = (atom first).map (Expression.exchanged exchange) := by
  obtain ⟨firstKind, firstValue⟩ := first
  obtain ⟨secondKind, secondValue⟩ := second
  obtain ⟨rfl, -, content, number⟩ := pair
  cases secondKind with
  | string =>
      simp only [Program.atom, content rfl]
      cases contentOf _ <;> rfl
  | number =>
      simp only [Program.atom, number rfl]
      cases numberOf _ <;> rfl
  | _ => rfl

end Exchange

end ScriptFront
