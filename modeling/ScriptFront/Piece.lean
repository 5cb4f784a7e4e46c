import ScriptFront.Text.WordCharacter
import ScriptFront.Token.Kind

/-!
# Pieces of a source

A source is cut into pieces from its start: words, numerals, quoted texts, marks
and layout. The first character of a piece tells its sort, with two exceptions. A
word is a keyword or an identifier by its spelling, and one equals sign or two make
different marks. Each piece is as long as its sort allows. Cutting stops at the
first place where no piece begins, and what stands there is the remainder; nothing
else of the source is lost.

Which characters count as word characters is a parameter, since it decides whether
a keyword that touches the next character is still a keyword.
-/

namespace ScriptFront

/-- What stands between tokens and is no token. -/
inductive Layout where
  | space
  | tab
  | carriageReturn
  | comment
deriving DecidableEq

/-- The name of a sort of layout. -/
def Layout.name : Layout → String
  | .space => "Space"
  | .tab => "Tab"
  | .carriageReturn => "Return"
  | .comment => "Comment"

/-- What a piece of a source is. -/
inductive PieceSort where
  /-- Layout, which no token comes from. -/
  | layout (layout : Layout)
  /-- A token that carries the piece as it stands. -/
  | verbatim (kind : Kind)
  /-- A string with its quotes. -/
  | quoted
  /-- The digits of a number. -/
  | numeral
deriving DecidableEq

/-- A part of a source that is read as a whole. -/
structure Piece where
  sort : PieceSort
  text : List Char
deriving DecidableEq

namespace Piece

/-- The word at the start of a source. A keyword is one only where no word character
follows; anywhere else its letters are an identifier. -/
def word (wordLike : Char → Bool) (source : List Char) : Piece × List Char :=
  let text := source.takeWhile Text.isAsciiWordCharacter
  let rest := source.dropWhile Text.isAsciiWordCharacter
  let kind :=
    match Kind.keyword? (String.ofList text) with
    | some keyword => if rest.head?.any wordLike then .identifier else keyword
    | none => .identifier
  (⟨.verbatim kind, text⟩, rest)

/-- The numeral at the start of a source: digits, and a point with the digits after
it if there are any. -/
def numeral (source : List Char) : Piece × List Char :=
  let whole := source.takeWhile Char.isDigit
  match source.dropWhile Char.isDigit with
  | '.' :: digit :: more =>
    if digit.isDigit then
      (⟨.numeral, whole ++ '.' :: (digit :: more).takeWhile Char.isDigit⟩,
        (digit :: more).dropWhile Char.isDigit)
    else
      (⟨.numeral, whole⟩, '.' :: digit :: more)
  | rest => (⟨.numeral, whole⟩, rest)

/-- What follows an opening quote up to the closing one, and the source after that. A
backslash takes the next character with it, which must not be a line feed. -/
def closing? : List Char → Option (List Char × List Char)
  | [] => none
  | '"' :: rest => some (['"'], rest)
  | ['\\'] => none
  | '\\' :: escaped :: rest =>
    if escaped = '\n' then none
    else (closing? rest).map fun found => ('\\' :: escaped :: found.1, found.2)
  | character :: rest => (closing? rest).map fun found => (character :: found.1, found.2)

/-- The piece at the start of a source, and the source after it. -/
def first? (wordLike : Char → Bool) : List Char → Option (Piece × List Char)
  | [] => none
  | head :: rest =>
    if head.isAlpha then some (word wordLike (head :: rest))
    else if head.isDigit then some (numeral (head :: rest))
    else
      match head with
      | '"' => (closing? rest).map fun found => (⟨.quoted, '"' :: found.1⟩, found.2)
      | '=' =>
        match rest with
        | '=' :: after => some (⟨.verbatim .equalEqual, ['=', '=']⟩, after)
        | _ => some (⟨.verbatim .equal, ['=']⟩, rest)
      | '(' => some (⟨.verbatim .parenthesisOpen, ['(']⟩, rest)
      | ')' => some (⟨.verbatim .parenthesisClose, [')']⟩, rest)
      | ',' => some (⟨.verbatim .comma, [',']⟩, rest)
      | '\n' => some (⟨.verbatim .newline, ['\n']⟩, rest)
      | ' ' => some (⟨.layout .space, [' ']⟩, rest)
      | '\t' => some (⟨.layout .tab, ['\t']⟩, rest)
      | '\r' => some (⟨.layout .carriageReturn, ['\r']⟩, rest)
      | '#' => some (⟨.layout .comment, '#' :: rest.takeWhile (· != '\n')⟩,
          rest.dropWhile (· != '\n'))
      | _ => none

/-- At most the given number of pieces, and the source after them. -/
def cutWithin (wordLike : Char → Bool) : (most : Nat) → List Char → List Piece × List Char
  | 0, source => ([], source)
  | most + 1, source =>
    match first? wordLike source with
    | none => ([], source)
    | some (piece, rest) =>
      let following := cutWithin wordLike most rest
      (piece :: following.1, following.2)

/-- All pieces of a source up to the place where none begins, and the remainder from
there. No piece is empty, so there are at most as many as characters. -/
def cut (wordLike : Char → Bool) (source : List Char) : List Piece × List Char :=
  cutWithin wordLike source.length source

end Piece

end ScriptFront
