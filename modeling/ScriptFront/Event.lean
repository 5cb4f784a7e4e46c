import ScriptFront.Diagnosis
import ScriptFront.Piece
import ScriptFront.Token

/-!
# Events

What reading a source reports as it goes on: the pieces consumed, the statements
begun, and how each of the two stages ended. An event has a level, the component it
comes from, a message and one named detail.
-/

namespace ScriptFront

/-- How important an event is, from the least to the most important. -/
inductive Level where
  | trace
  | debug
  | info
  | warn
  | error
deriving DecidableEq

namespace Level

/-- The name of a level in a log line. -/
def name : Level → String
  | .trace => "TRACE"
  | .debug => "DEBUG"
  | .info => "INFO"
  | .warn => "WARN"
  | .error => "ERROR"

/-- The place of a level among the levels. -/
def rank : Level → Nat
  | .trace => 0
  | .debug => 1
  | .info => 2
  | .warn => 3
  | .error => 4

end Level

/-- The two parts of the program that report events. -/
inductive Component where
  | lexer
  | parser
deriving DecidableEq

/-- The name of a component in a log line, which log settings refer to. -/
def Component.name : Component → String
  | .lexer => "uryb::compiler::lexis::lexer"
  | .parser => "uryb::compiler::syntax::parser"

/-- A named detail of an event. -/
structure Detail where
  name : String
  value : String
  /-- Whether a log line quotes the value, which can be any part of a source. -/
  isSourceText : Bool

/-- Something that happened while a source was read. -/
inductive Event where
  /-- A piece of layout was passed over. -/
  | skipped (layout : Layout)
  /-- A piece was read as a token. -/
  | digested (token : Token)
  /-- The tokens of the source cannot be read. -/
  | unreadable (error : LexicalError)
  /-- All tokens of the source have been read. -/
  | tokenized (count : Nat)
  /-- A statement begins with a token of this kind. -/
  | statement (kind : Kind)
  /-- The tokens are no program. -/
  | rejected (error : SyntaxError)
  /-- The program has been read to its end. -/
  | parsed (count : Nat)
deriving DecidableEq

namespace Event

/-- Single steps are traces, and the ends of the stages are for debugging. -/
def level : Event → Level
  | .skipped _ => .trace
  | .digested _ => .trace
  | .unreadable _ => .debug
  | .tokenized _ => .debug
  | .statement _ => .trace
  | .rejected _ => .debug
  | .parsed _ => .debug

/-- Which component an event comes from. -/
def component : Event → Component
  | .skipped _ => .lexer
  | .digested _ => .lexer
  | .unreadable _ => .lexer
  | .tokenized _ => .lexer
  | .statement _ => .parser
  | .rejected _ => .parser
  | .parsed _ => .parser

/-- What an event says. -/
def message : Event → String
  | .skipped _ => "skipped"
  | .digested _ => "digested token"
  | .unreadable (.unmatchedInput _) => "no token pattern matches"
  | .unreadable (.illegalNumeral _) => "number literal out of range"
  | .tokenized _ => "tokenized"
  | .statement _ => "parsing statement"
  | .rejected _ => "parse failed"
  | .parsed _ => "parsed program"

/-- A count as the detail of an event. -/
def countDetail (count : Nat) : Detail :=
  ⟨"count", String.ofList (Nat.toDigits 10 count), false⟩

/-- The detail of an event. -/
def detail : Event → Detail
  | .skipped layout => ⟨"ignored", layout.name, false⟩
  | .digested token => ⟨"token", token.display, false⟩
  | .unreadable (.unmatchedInput remainder) => ⟨"remainder", remainder, true⟩
  | .unreadable (.illegalNumeral numeral) => ⟨"text", numeral, true⟩
  | .tokenized count => countDetail count
  | .statement kind => ⟨"kind", kind.name, false⟩
  | .rejected error => ⟨"kind", error.message, false⟩
  | .parsed count => countDetail count

/-- An event as a line of a log. -/
def logLine (event : Event) : String :=
  let value :=
    if event.detail.isSourceText then Text.quoted event.detail.value else event.detail.value
  event.level.name ++ " " ++ event.component.name ++ ": " ++ event.message ++ " " ++
    event.detail.name ++ "=" ++ value ++ "\n"

end Event

end ScriptFront
