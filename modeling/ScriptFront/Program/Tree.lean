import ScriptFront.Number
import ScriptFront.Token.Kind

/-!
# Programs as trees

Expressions and statements. The types admit more trees than sources can describe:
the left side of an operation is any expression, and names are any text. Equality
of trees is decidable; floats in them are compared as values of their type.
-/

namespace ScriptFront

/-- An expression. -/
inductive Expression where
  | identifier (name : String)
  | string (content : String)
  | number (value : Number)
  | boolean (value : Bool)
  | call (name : String) (arguments : List Expression)
  | operation (connective : Connective) (left right : Expression)

/-- The two statements that hold a block. -/
inductive BlockKind where
  /-- The block runs if the condition holds. -/
  | conditional
  /-- The block runs as long as the condition holds. -/
  | loop
deriving DecidableEq

/-- A statement. -/
inductive Statement where
  | assignment (target : String) (value : Expression)
  | call (name : String) (arguments : List Expression)
  | block (kind : BlockKind) (condition : Expression) (body : List Statement)

namespace Expression

mutual

/-- Whether two expressions are the same. -/
def same : Expression → Expression → Bool
  | .identifier left, .identifier right => left == right
  | .string left, .string right => left == right
  | .number left, .number right => left == right
  | .boolean left, .boolean right => left == right
  | .call leftName leftArguments, .call rightName rightArguments =>
    leftName == rightName && allSame leftArguments rightArguments
  | .operation leftConnective leftFirst leftSecond,
      .operation rightConnective rightFirst rightSecond =>
    leftConnective == rightConnective && same leftFirst rightFirst &&
      same leftSecond rightSecond
  | _, _ => false

/-- Whether two lists of expressions are the same. -/
def allSame : List Expression → List Expression → Bool
  | [], [] => true
  | left :: lefts, right :: rights => same left right && allSame lefts rights
  | _, _ => false

end

mutual

/-- The comparison of expressions decides equality. -/
theorem same_iff (left right : Expression) : same left right = true ↔ left = right := by
  cases left <;> cases right <;>
    simp [same, same_iff, allSame_iff, and_assoc]

/-- The comparison of lists of expressions decides equality. -/
theorem allSame_iff (lefts rights : List Expression) :
    allSame lefts rights = true ↔ lefts = rights := by
  cases lefts <;> cases rights <;> simp [allSame, same_iff, allSame_iff]

end

instance : DecidableEq Expression := fun left right =>
  decidable_of_iff _ (same_iff left right)

end Expression

namespace Statement

mutual

/-- Whether two statements are the same. -/
def same : Statement → Statement → Bool
  | .assignment leftTarget leftValue, .assignment rightTarget rightValue =>
    leftTarget == rightTarget && decide (leftValue = rightValue)
  | .call leftName leftArguments, .call rightName rightArguments =>
    leftName == rightName && decide (leftArguments = rightArguments)
  | .block leftKind leftCondition leftBody, .block rightKind rightCondition rightBody =>
    leftKind == rightKind && decide (leftCondition = rightCondition) &&
      allSame leftBody rightBody
  | _, _ => false

/-- Whether two lists of statements are the same. -/
def allSame : List Statement → List Statement → Bool
  | [], [] => true
  | left :: lefts, right :: rights => same left right && allSame lefts rights
  | _, _ => false

end

mutual

/-- The comparison of statements decides equality. -/
theorem same_iff (left right : Statement) : same left right = true ↔ left = right := by
  cases left <;> cases right <;> simp [same, allSame_iff, and_assoc]

/-- The comparison of lists of statements decides equality. -/
theorem allSame_iff (lefts rights : List Statement) :
    allSame lefts rights = true ↔ lefts = rights := by
  cases lefts <;> cases rights <;> simp [allSame, same_iff, allSame_iff]

end

instance : DecidableEq Statement := fun left right =>
  decidable_of_iff _ (same_iff left right)

end Statement

end ScriptFront
