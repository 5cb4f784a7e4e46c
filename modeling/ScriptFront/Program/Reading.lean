import ScriptFront.Program.Tree
import ScriptFront.Traced

/-!
# Reading programs

A program is read from its tokens from front to back. Each function takes the tokens
that are left, and yields a part of the program with the tokens after it.

Nesting is limited. Every expression, every connective and every block takes one
level from an allowance, and reading recurses on that allowance, so no input can
nest deeper. Loops run over the tokens that are left: each turn takes at least one
of them.
-/

namespace ScriptFront

namespace Program

/-- Reads a part of a program from the front of a list of tokens. -/
abbrev Reader (Part : Type) := List Token → Except SyntaxError (Part × List Token)

/-- Reads a part of a program and reports the statements in it. -/
abbrev TracedReader (Part : Type) := List Token → Traced SyntaxError (Part × List Token)

/-- The name an identifier carries. -/
def nameOf (token : Token) : Except SyntaxError String :=
  match token.value with
  | .text name => .ok name
  | .number _ => .error (.malformedLiteral .identifier)

/-- The content a string carries. -/
def contentOf (token : Token) : Except SyntaxError String :=
  match token.value with
  | .text content => .ok content
  | .number _ => .error (.malformedLiteral .string)

/-- The number a number token carries. -/
def numberOf (token : Token) : Except SyntaxError Number :=
  match token.value with
  | .number value => .ok value
  | .text _ => .error (.malformedLiteral .number)

/-- The tokens after one of the expected kind, which must stand in front. -/
def expect (expected : Kind) : List Token → Except SyntaxError (List Token)
  | [] => .error (.missingToken expected)
  | token :: rest =>
    if token.kind = expected then .ok rest
    else .error (.unexpectedToken expected token.kind)

/-- The tokens after any line ends in front. -/
def skipNewlines (tokens : List Token) : List Token :=
  tokens.dropWhile fun token => token.kind = .newline

/-- At most the given number of arguments with commas between them, and the closing
parenthesis. -/
def argumentsWithin (expression : Reader Expression) :
    (most : Nat) → Reader (List Expression)
  | 0, _ => .error .unexpectedEnd
  | most + 1, tokens => do
    let (first, afterFirst) ← expression tokens
    match afterFirst with
    | [] => .error (.missingToken .parenthesisClose)
    | token :: rest =>
      if token.kind = .comma then
        let (others, afterOthers) ← argumentsWithin expression most rest
        return (first :: others, afterOthers)
      else
        let afterClose ← expect .parenthesisClose (token :: rest)
        return ([first], afterClose)

/-- The arguments of a call, after the opening parenthesis and up to the closing one.
Each argument but the first follows a comma, so there are at most as many as tokens
and one more. -/
def arguments (expression : Reader Expression) : Reader (List Expression)
  | [] => argumentsWithin expression 1 []
  | token :: rest =>
    if token.kind = .parenthesisClose then .ok ([], rest)
    else argumentsWithin expression ((token :: rest).length + 1) (token :: rest)

/-- Whether an operation is in front: an identifier and a connective. -/
def startsOperation : List Token → Bool
  | first :: second :: _ =>
    first.kind = .identifier && (Connective.ofKind? second.kind).isSome
  | _ => false

/-- What follows an identifier: the arguments of a call, a connective with its right
side, or neither. -/
def afterName (nested right : Reader Expression) (name : String) : Reader Expression
  | [] => .ok (.identifier name, [])
  | token :: rest =>
    if token.kind = .parenthesisOpen then do
      let (values, afterCall) ← arguments nested rest
      return (.call name values, afterCall)
    else
      match Connective.ofKind? token.kind with
      | some connective => do
        let (second, afterSecond) ← right rest
        return (.operation connective (.identifier name) second, afterSecond)
      | none => .ok (.identifier name, token :: rest)

/-- An expression within the level it has taken, given how arguments and how the right
side of a connective are read. -/
def operand (nested right : Reader Expression) : Reader Expression
  | [] => .error .unexpectedEnd
  | token :: rest =>
    match token.kind with
    | .string => do return (.string (← contentOf token), rest)
    | .number => do return (.number (← numberOf token), rest)
    | .trueWord => .ok (.boolean true, rest)
    | .falseWord => .ok (.boolean false, rest)
    | .identifier => do afterName nested right (← nameOf token) rest
    | kind => .error (.invalidToken kind)

/-- The right side of a connective. The connective has taken a level. Another
operation goes on at that level, and anything else takes one more. -/
def rightSide (sameLevel nextLevel : Reader Expression) : Reader Expression := fun tokens =>
  if startsOperation tokens then sameLevel tokens else nextLevel tokens

/-- An expression that may take the given number of levels. The limit is only told in
the error. -/
def expression (limit : Nat) : (allowance : Nat) → Reader Expression
  | 0 => fun _ => .error (.tooDeep limit)
  | 1 => operand (expression limit 0) (expression limit 0)
  | allowance + 2 =>
    operand (expression limit (allowance + 1))
      (rightSide (expression limit (allowance + 1)) (expression limit allowance))

/-- A statement without a block, after its first token: a call or an assignment. -/
def simpleStatement (value : Reader Expression) (first : Token) : Reader Statement :=
  fun tokens => do
    let name ← nameOf first
    match tokens with
    | [] => .error (.missingToken .equal)
    | token :: rest =>
      if token.kind = .parenthesisOpen then
        let (values, afterCall) ← arguments value rest
        return (.call name values, afterCall)
      else
        let afterEqual ← expect .equal (token :: rest)
        let (assigned, afterValue) ← value afterEqual
        return (.assignment name assigned, afterValue)

/-- A statement with a block, after its first token: a condition and a body. -/
def blockStatement (value : Reader Expression) (body : TracedReader (List Statement))
    (kind : BlockKind) : TracedReader Statement := fun tokens => do
  let (condition, afterCondition) ← Traced.ofExcept (value tokens)
  let (statements, afterBody) ← body afterCondition
  return (.block kind condition statements, afterBody)

/-- A statement with the line ends after it, given how its expressions and its body
are read. -/
def statementWith (value : Reader Expression) (body : TracedReader (List Statement)) :
    TracedReader Statement
  | [] => Traced.fail .unexpectedEnd
  | token :: rest => do
    Traced.emit (.statement token.kind)
    let (statement, afterStatement) ←
      match token.kind with
      | .ifWord => blockStatement value body .conditional rest
      | .whileWord => blockStatement value body .loop rest
      | .identifier => Traced.ofExcept (simpleStatement value token rest)
      | kind => Traced.fail (.invalidToken kind)
    return (statement, skipNewlines afterStatement)

/-- At most the given number of statements up to the closing word. -/
def bodyWithin (statement : TracedReader Statement) :
    (most : Nat) → TracedReader (List Statement)
  | 0, _ => Traced.fail (.missingToken .endWord)
  | _ + 1, [] => Traced.fail (.missingToken .endWord)
  | most + 1, token :: rest =>
    if token.kind = .endWord then return ([], rest)
    else do
      let (first, afterFirst) ← statement (token :: rest)
      (fun others => (first :: others.1, others.2)) <$> bodyWithin statement most afterFirst

/-- The body of a block with the line ends before it and the closing word after it. -/
def body (statement : TracedReader Statement) : TracedReader (List Statement) := fun tokens =>
  bodyWithin statement (skipNewlines tokens).length (skipNewlines tokens)

/-- A statement that may take the given number of levels. -/
def statement (limit : Nat) : (allowance : Nat) → TracedReader Statement
  | 0 => statementWith (expression limit 0) fun _ => Traced.fail (.tooDeep limit)
  | allowance + 1 =>
    statementWith (expression limit (allowance + 1)) (body (statement limit allowance))

/-- At most the given number of statements up to the end of the tokens. -/
def statementsWithin (statement : TracedReader Statement) :
    (most : Nat) → List Token → Traced SyntaxError (List Statement)
  | _, [] => return []
  | 0, _ :: _ => Traced.fail .unexpectedEnd
  | most + 1, token :: rest => do
    let (first, afterFirst) ← statement (token :: rest)
    (first :: ·) <$> statementsWithin statement most afterFirst

/-- Report how a run over all tokens has ended. -/
def conclude (run : Traced SyntaxError (List Statement)) :
    Traced SyntaxError (List Statement) where
  outcome := run.outcome
  events := run.events ++ [
    match run.outcome with
    | .ok program => .parsed program.length
    | .error error => .rejected error]

/-- The deepest nesting of expressions, connectives and blocks that is read. -/
def nestingLimit : Nat := 128

end Program

/-- The program that tokens make up, under a limit on nesting. -/
def parseWithin (limit : Nat) (tokens : List Token) : Traced SyntaxError (List Statement) :=
  Program.conclude
    (Program.statementsWithin (Program.statement limit limit) tokens.length tokens)

/-- The program that tokens make up. -/
def parse (tokens : List Token) : Traced SyntaxError (List Statement) :=
  parseWithin Program.nestingLimit tokens

end ScriptFront
