import ScriptFront.Program.Grammar
import ScriptFront.Program.Reading

/-!
# Reading with a cursor

Programs read in place: the tokens stay where they are, a cursor moves over them, a
counter is raised and lowered with the nesting, and events are reported when they
happen, an error where it is found. Chains of connectives are collected by a loop and
put together afterwards.

Nothing here recurses on the counter. Each nested expression and each block takes one
call from a budget of calls instead, and every loop has a budget of turns. A walk that
uses up a budget stops, and so does one that would lower the counter below zero. Every
check of the tokens has a name, also those that no input fails.
-/

namespace ScriptFront

open Program

/-- Where reading stands. -/
structure Cursor where
  /-- All tokens, those already passed included. -/
  tokens : List Token
  /-- How many tokens have been passed. -/
  position : Nat
  /-- How many levels are open. -/
  depth : Nat
  /-- What has been reported so far. -/
  events : List Event

namespace Cursor

/-- The cursor before the first token. -/
def start (tokens : List Token) : Cursor := ⟨tokens, 0, 0, []⟩

/-- The tokens that have not been passed. -/
def rest (cursor : Cursor) : List Token :=
  cursor.tokens.drop cursor.position

/-- The cursor after some more tokens and events. -/
def after (cursor : Cursor) (count : Nat) (events : List Event) : Cursor :=
  { cursor with position := cursor.position + count, events := cursor.events ++ events }

/-- The cursor at another depth. -/
def atDepth (cursor : Cursor) (depth : Nat) : Cursor :=
  { cursor with depth := depth }

end Cursor

/-- A check that can refuse tokens. -/
inductive Check where
  /-- There is a token where a statement begins. -/
  | statementToken
  /-- A statement begins with the token. -/
  | statementStart
  /-- There is a token, and an operand begins with it. -/
  | operand
  /-- There is a token, and it is a connective. -/
  | connective
  /-- There is a token of the kind. -/
  | expected (kind : Kind)
  /-- A token of the kind carries a value of its sort. -/
  | literal (kind : Kind)
  /-- The body of a block goes on while it is not closed. -/
  | body
  /-- There is a level left for an expression. -/
  | expressionLevel
  /-- There is a level left for a connective. -/
  | connectiveLevel
  /-- There is a level left for a block. -/
  | blockLevel
deriving DecidableEq

/-- Why a walk stops early. -/
inductive Stop where
  /-- A check has refused the tokens. -/
  | refused (check : Check) (error : SyntaxError)
  /-- A budget of calls or of turns is used up. -/
  | exhausted
  /-- More levels would be closed than are open. -/
  | underflow

/-- Moves a cursor and yields a part of a program. The cursor is kept when the walk
stops early. -/
abbrev Walk (Part : Type) := EStateM Stop Cursor Part

namespace Walk

variable {Part : Type}

/-- Stop for a reason that is not in the tokens. -/
def stop (reason : Stop) : Walk Part := fun cursor => .error reason cursor

/-- Report an error and stop. -/
def refuse (check : Check) (error : SyntaxError) : Walk Part := fun cursor =>
  .error (.refused check error) (cursor.after 0 [.rejected error])

/-- Report an event. -/
def report (event : Event) : Walk Unit := fun cursor => .ok () (cursor.after 0 [event])

/-- The token a number of places ahead of the cursor. -/
def ahead (distance : Nat) : Walk (Option Token) := fun cursor =>
  .ok cursor.tokens[cursor.position + distance]? cursor

/-- Pass one token. -/
def advance : Walk Unit := fun cursor => .ok () (cursor.after 1 [])

/-- How many tokens have not been passed. -/
def remaining : Walk Nat := fun cursor => .ok (cursor.tokens.length - cursor.position) cursor

/-- Open a level, which must be within the limit. -/
def descend (check : Check) (limit : Nat) : Walk Unit := fun cursor =>
  let deeper := cursor.atDepth (cursor.depth + 1)
  if deeper.depth ≤ limit then .ok () deeper else refuse check (.tooDeep limit) deeper

/-- Close some levels. -/
def ascend (levels : Nat) : Walk Unit := fun cursor =>
  if levels ≤ cursor.depth then .ok () (cursor.atDepth (cursor.depth - levels))
  else .error .underflow cursor

/-- Whether a token of the kind stands a number of places ahead. -/
def sees (distance : Nat) (kind : Kind) : Walk Bool := do
  return (← ahead distance).any fun token => token.kind = kind

/-- Pass a token of the kind if it is in front, and tell whether it was. -/
def take (kind : Kind) : Walk Bool := do
  if ← sees 0 kind then
    advance
    return true
  else
    return false

/-- Pass the token in front, which must be of the kind. -/
def expect (kind : Kind) : Walk Token := do
  match ← ahead 0 with
  | none => refuse (.expected kind) (.missingToken kind)
  | some token =>
    if token.kind = kind then
      advance
      return token
    else
      refuse (.expected kind) (.unexpectedToken kind token.kind)

/-- Pass any line ends in front. -/
def passLines : (turns : Nat) → Walk Unit
  | 0 => stop .exhausted
  | turns + 1 => do
    if ← take .newline then passLines turns

/-- What the token in front carries, which must be of the kind. -/
def literal (kind : Kind) (valueOf : Token → Except SyntaxError Part) : Walk Part := do
  let token ← expect kind
  match valueOf token with
  | .ok value => return value
  | .error error => refuse (.literal kind) error

/-- A level around a part of a program. -/
def level (check : Check) (limit : Nat) (inner : Walk Part) : Walk Part := do
  descend check limit
  let part ← inner
  ascend 1
  return part

/-- Arguments with commas between them. -/
def argumentLoop (nested : Walk Expression) : (turns : Nat) → Walk (List Expression)
  | 0 => stop .exhausted
  | turns + 1 => do
    let first ← nested
    if ← take .comma then
      let others ← argumentLoop nested turns
      return first :: others
    else
      return [first]

/-- The arguments of a call with its parentheses. -/
def arguments (nested : Walk Expression) : Walk (List Expression) := do
  let _ ← expect .parenthesisOpen
  if ← take .parenthesisClose then
    return []
  else
    let values ← argumentLoop nested ((← remaining) + 1)
    let _ ← expect .parenthesisClose
    return values

/-- A name and the arguments it is called with. -/
def call (nested : Walk Expression) : Walk (String × List Expression) := do
  let name ← literal .identifier nameOf
  let values ← arguments nested
  return (name, values)

/-- Whether an identifier and a connective are in front. -/
def atOperation : Walk Bool := do
  let named ← sees 0 .identifier
  let second ← ahead 1
  return named && second.any fun token => (Connective.ofKind? token.kind).isSome

/-- Names and connectives in turn, each connective with a level that stays open. -/
def links (limit : Nat) : (turns : Nat) → Walk (List (String × Connective))
  | 0 => stop .exhausted
  | turns + 1 => do
    let name ← literal .identifier nameOf
    match ← ahead 0 with
    | none => refuse .connective .unexpectedEnd
    | some token =>
      match Connective.ofKind? token.kind with
      | none => refuse .connective (.invalidToken token.kind)
      | some connective =>
        advance
        descend .connectiveLevel limit
        if ← atOperation then
          let others ← links limit turns
          return (name, connective) :: others
        else
          return [(name, connective)]

/-- A chain of connectives. The levels of all of them are closed at its end. There is a
turn also where no token is left, for the check that refuses this. -/
def operation (limit : Nat) (nested : Walk Expression) : Walk Expression := do
  let found ← links limit ((← remaining) + 1)
  let last ← nested
  ascend found.length
  return Expression.chain found last

/-- A truth value, which must be in front. -/
def boolean : Walk Expression := do
  let value ← sees 0 .trueWord
  advance
  return .boolean value

/-- An expression within the level it has opened. -/
def operand (limit : Nat) (nested : Walk Expression) : Walk Expression := do
  match ← ahead 0 with
  | none => refuse .operand .unexpectedEnd
  | some token =>
    match token.kind with
    | .string => .string <$> literal .string contentOf
    | .number => .number <$> literal .number numberOf
    | .trueWord => boolean
    | .falseWord => boolean
    | .identifier =>
      if ← sees 1 .parenthesisOpen then
        let (name, values) ← call nested
        return .call name values
      else if ← atOperation then
        operation limit nested
      else
        return .identifier (← literal .identifier nameOf)
    | kind => refuse .operand (.invalidToken kind)

/-- An expression. It takes one call, and the expressions in it take theirs from what
is left. -/
def expression (limit : Nat) : (calls : Nat) → Walk Expression
  | 0 => stop .exhausted
  | calls + 1 => level .expressionLevel limit (operand limit (expression limit calls))

/-- Statements up to the closing word. -/
def bodyLoop (statement : Walk Statement) : (turns : Nat) → Walk (List Statement)
  | 0 => stop .exhausted
  | turns + 1 => do
    if ← take .endWord then
      return []
    else if (← remaining) = 0 then
      refuse .body (.missingToken .endWord)
    else
      let first ← statement
      let others ← bodyLoop statement turns
      return first :: others

/-- What stands in a block, its closing word included. -/
def body (statement : Walk Statement) : Walk (List Statement) := do
  passLines ((← remaining) + 1)
  bodyLoop statement ((← remaining) + 1)

/-- A block, which takes a level. -/
def block (limit : Nat) (statement : Walk Statement) : Walk (List Statement) :=
  level .blockLevel limit (body statement)

/-- A statement with a block. -/
def blockStatement (value : Walk Expression) (block : Walk (List Statement))
    (kind : BlockKind) : Walk Statement := do
  let _ ← expect kind.keyword
  let condition ← value
  let inner ← block
  return .block kind condition inner

/-- A call or an assignment. -/
def simpleStatement (value : Walk Expression) : Walk Statement := do
  if ← sees 1 .parenthesisOpen then
    let (name, values) ← call value
    return .call name values
  else
    let target ← literal .identifier nameOf
    let _ ← expect .equal
    let assigned ← value
    return .assignment target assigned

/-- A statement with the line ends after it, given how its expressions and its block are
read. -/
def statementWith (value : Walk Expression) (block : Walk (List Statement)) :
    Walk Statement := do
  match ← ahead 0 with
  | none => refuse .statementToken .unexpectedEnd
  | some token =>
    report (.statement token.kind)
    let statement ←
      match token.kind with
      | .ifWord => blockStatement value block .conditional
      | .whileWord => blockStatement value block .loop
      | .identifier => simpleStatement value
      | kind => refuse .statementStart (.invalidToken kind)
    passLines ((← remaining) + 1)
    return statement

/-- A statement. Its block takes one call, and the statements in it take theirs from
what is left. -/
def statement (limit : Nat) : (calls : Nat) → Walk Statement
  | 0 => statementWith (expression limit 0) (stop .exhausted)
  | calls + 1 =>
    statementWith (expression limit (calls + 1)) (block limit (statement limit calls))

/-- Statements up to the end of the tokens. -/
def programLoop (statement : Walk Statement) : (turns : Nat) → Walk (List Statement)
  | 0 => stop .exhausted
  | turns + 1 => do
    if (← remaining) = 0 then
      return []
    else
      let first ← statement
      let others ← programLoop statement turns
      return first :: others

/-- A whole program, under a limit on nesting and with a budget of nested calls. -/
def program (limit calls : Nat) : Walk (List Statement) := do
  let statements ← programLoop (statement limit calls) ((← remaining) + 1)
  report (.parsed statements.length)
  return statements

end Walk

end ScriptFront
