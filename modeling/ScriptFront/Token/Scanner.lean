import ScriptFront.Event
import ScriptFront.Token.PatternTable

/-!
# Scanning by byte offsets

Tokens read in place: the source stays as it is, and a position counts the bytes that
have been passed. What is left is a slice of the source, and what stands between the
quotes of a string is a slice of the text that has been matched. A slice that would begin
or end beyond a text or within a character stops the scan, and so does a used-up budget
of steps.
-/

namespace ScriptFront

open Lexeme Piece

/-- The part of a text from one byte offset to another, if they are in order and each is
at an edge of a character of the text. -/
def Text.slice? (text : String) (first last : Nat) : Option String :=
  if inside : first ≤ last ∧ String.Pos.Raw.IsValid text ⟨first⟩ ∧
      String.Pos.Raw.IsValid text ⟨last⟩ then
    some (String.extract (text.pos ⟨first⟩ inside.2.1) (text.pos ⟨last⟩ inside.2.2))
  else none

/-- A source and how far it has been read. -/
structure Scanner where
  source : String
  /-- How many bytes have been passed. -/
  position : Nat
  /-- What has been reported so far. -/
  events : List Event

namespace Scanner

/-- The scanner in front of a source. -/
def start (source : String) : Scanner := ⟨source, 0, []⟩

/-- The scanner after some more bytes and events. -/
def after (scanner : Scanner) (length : Nat) (events : List Event) : Scanner :=
  { scanner with
    position := scanner.position + length
    events := scanner.events ++ events }

end Scanner

/-- Why a scan stops early. -/
inductive Interruption where
  /-- The source cannot be read. -/
  | refused (error : LexicalError)
  /-- A slice does not begin and end between characters of its text. -/
  | outOfRange
  /-- A budget of steps is used up. -/
  | exhausted

/-- Moves a scanner and yields something read. The scanner is kept when the scan stops
early. -/
abbrev Scan (Part : Type) := EStateM Interruption Scanner Part

namespace Scan

variable {Part : Type}

/-- Stop without a report. -/
def stop (reason : Interruption) : Scan Part := fun scanner => .error reason scanner

/-- Report an error and stop. -/
def refuse (error : LexicalError) : Scan Part := fun scanner =>
  .error (.refused error) (scanner.after 0 [.unreadable error])

/-- Report an event. -/
def report (event : Event) : Scan Unit := fun scanner => .ok () (scanner.after 0 [event])

/-- Pass a number of bytes. -/
def forward (length : Nat) : Scan Unit := fun scanner => .ok () (scanner.after length [])

/-- A slice of a text. -/
def slice (text : String) (first last : Nat) : Scan String :=
  match Text.slice? text first last with
  | some part => pure part
  | none => stop .outOfRange

/-- What is left of the source. -/
def rest : Scan String := fun scanner =>
  slice scanner.source scanner.position scanner.source.utf8ByteSize scanner

/-- Whether all of the source has been passed. -/
def atEnd : Scan Bool := fun scanner =>
  .ok (scanner.source.utf8ByteSize ≤ scanner.position) scanner

/-- The token that comes from a matched text. -/
def convert (rule : Rule Kind) (text : String) : Scan Token :=
  match rule.conversion with
  | .verbatim => return ⟨rule.tag, .text text⟩
  | .unquoted => do
    let content ← slice text 1 (text.utf8ByteSize - 1)
    return ⟨rule.tag, .text content⟩
  | .numeric =>
    match Number.ofNumeral? text.toList with
    | some number => return ⟨rule.tag, .number number⟩
    | none => refuse (.illegalNumeral text)

/-- Pass the piece in front, and yield its token if it is not layout. -/
def digest (wordLike : Char → Bool) : Scan (Option Token) := do
  let source ← rest
  match Rule.find? wordLike Rule.significant source.toList with
  | some (rule, text) =>
    let token ← convert rule (String.ofList text)
    forward (String.ofList text).utf8ByteSize
    return some token
  | none =>
    match Rule.find? wordLike Rule.ignored source.toList with
    | some (rule, text) =>
      report (.skipped rule.tag)
      forward (String.ofList text).utf8ByteSize
      return none
    | none => refuse (.unmatchedInput source)

/-- Digest a piece, and report its token and keep it after the others. -/
def step (wordLike : Char → Bool) (tokens : List Token) : Scan (List Token) := do
  match ← digest wordLike with
  | some token =>
    report (.digested token)
    return tokens ++ [token]
  | none => return tokens

/-- Steps up to the end of the source. -/
def loop (wordLike : Char → Bool) : (most : Nat) → List Token → Scan (List Token)
  | 0, tokens => do
    if ← atEnd then return tokens else stop .exhausted
  | most + 1, tokens => do
    if ← atEnd then return tokens else
      let following ← step wordLike tokens
      loop wordLike most following

/-- All tokens of a source, in at most the given number of steps. -/
def whole (wordLike : Char → Bool) (most : Nat) : Scan (List Token) := do
  let tokens ← loop wordLike most []
  report (.tokenized tokens.length)
  return tokens

end Scan

end ScriptFront
