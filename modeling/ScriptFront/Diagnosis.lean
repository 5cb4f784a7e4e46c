import ScriptFront.Text.Quoted
import ScriptFront.Token.Kind

/-!
# Diagnoses

Why a source is no program: what can go wrong while its tokens are read, what can go
wrong while the tokens are put together, and the wording of each.
-/

namespace ScriptFront

/-- Why a source cannot be read as tokens. -/
inductive LexicalError where
  /-- No piece begins where the remainder begins. -/
  | unmatchedInput (remainder : String)
  /-- The numeral is beyond the finite floats. -/
  | illegalNumeral (numeral : String)
deriving DecidableEq

/-- Why tokens are no program. -/
inductive SyntaxError where
  /-- A token of one kind stands where one of another kind must stand. -/
  | unexpectedToken (expected found : Kind)
  /-- No statement or expression begins with a token of this kind. -/
  | invalidToken (found : Kind)
  /-- The tokens end where one of this kind must stand. -/
  | missingToken (expected : Kind)
  /-- The tokens end where a statement or an expression must stand. -/
  | unexpectedEnd
  /-- Expressions, connectives and blocks are nested beyond the limit. -/
  | tooDeep (limit : Nat)
  /-- A token carries a value that its kind cannot have. -/
  | malformedLiteral (kind : Kind)
deriving DecidableEq

/-- Why a source is no program. -/
inductive Diagnosis where
  | lexical (error : LexicalError)
  | structural (error : SyntaxError)
deriving DecidableEq

namespace LexicalError

/-- What is wrong, in words. -/
def message : LexicalError → String
  | .unmatchedInput remainder => "could not match token for input " ++ Text.quoted remainder
  | .illegalNumeral numeral => "encountering illegal number literal: " ++ numeral

end LexicalError

namespace SyntaxError

/-- What is wrong, in words. -/
def message : SyntaxError → String
  | .unexpectedToken expected found => "expected " ++ expected.name ++ ", got " ++ found.name
  | .invalidToken found => "invalid token " ++ found.name
  | .missingToken expected => "expected " ++ expected.name ++ ", got end of input"
  | .unexpectedEnd => "encountering unexpected end of input"
  | .tooDeep limit =>
    "nesting deeper than " ++ String.ofList (Nat.toDigits 10 limit) ++ " levels"
  | .malformedLiteral kind => "malformed " ++ kind.name ++ " literal"

end SyntaxError

namespace Diagnosis

/-- What is wrong, in words, after the stage at which it was found. -/
def message : Diagnosis → String
  | .lexical error => "lex error: " ++ error.message
  | .structural error => "parse error: " ++ error.message

end Diagnosis

end ScriptFront
