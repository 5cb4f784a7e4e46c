import ScriptFront.Number.Json
import ScriptFront.Token.Kind

/-!
# Tokens

A token is a kind with a value. Any kind can carry any value; which of these pairs
can be read from a source is a matter of reading, not of this type.
-/

namespace ScriptFront

/-- What a token carries: a piece of text, or a number. -/
inductive Value where
  | text (content : String)
  | number (amount : Number)
deriving DecidableEq

namespace Value

/-- A value as people read it. -/
def display : Value → String
  | .text content => content
  | .number amount => amount.display

/-- A value as a JSON document: a string or a numeral. -/
def json : Value → Json
  | .text content => .string content
  | .number amount => amount.json

end Value

/-- A word, literal or mark of the language. -/
structure Token where
  kind : Kind
  value : Value
deriving DecidableEq

namespace Token

/-- A token as a listing shows it: its kind and its value, which is left out for a
line end and stands between quotes for a string. -/
def display (token : Token) : String :=
  match token.kind with
  | .string => token.kind.name ++ " \"" ++ token.value.display ++ "\""
  | .newline => token.kind.name
  | _ => token.kind.name ++ " " ++ token.value.display

/-- A token as a JSON document. -/
def json (token : Token) : Json :=
  .object [("kind", .string token.kind.name), ("value", token.value.json)]

/-- Tokens one a line. -/
def listing (tokens : List Token) : String :=
  String.join (tokens.map fun token => token.display ++ "\n")

end Token

end ScriptFront
