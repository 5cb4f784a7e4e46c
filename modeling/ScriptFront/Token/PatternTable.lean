import ScriptFront.Piece
import ScriptFront.Token.Pattern

/-!
# The table of patterns

The pieces of a source as patterns that are tried one after another: keywords before
identifiers, two equals signs before one, and layout last. The first pattern that matches
decides.
-/

namespace ScriptFront

namespace Pattern

/-- A part of what stands between quotes: a character other than a quote and a backslash,
or a backslash with a character after it that is no line feed. -/
def stringPart : Pattern :=
  .either (.one fun character => character != '"' && character != '\\')
    (.both (.one (· == '\\')) (.one (· != '\n')))

/-- A quote, parts of a string, and a quote. -/
def string : Pattern :=
  .both (.one (· == '"')) (.both (.repeated stringPart) (.one (· == '"')))

/-- A point and the digits after it. -/
def fraction : Pattern :=
  .both (.one (· == '.')) (oneOrMore Char.isDigit)

/-- Digits, and a fraction if there is one. -/
def number : Pattern :=
  .both (oneOrMore Char.isDigit) (.either fraction .empty)

/-- A letter and the word characters after it. -/
def identifier : Pattern :=
  .both (.one Char.isAlpha) (.repeated (.one Text.isAsciiWordCharacter))

/-- A number sign and the line after it. -/
def comment : Pattern :=
  .both (.one (· == '#')) (.repeated (.one (· != '\n')))

/-- A word that ends after the given letters. -/
def keyword (letters : List Char) : Pattern :=
  .both (spelled letters) .wordEdge

end Pattern

namespace Lexeme

open Text Piece

/-- How a token comes from the text that is matched. -/
inductive Conversion where
  /-- The text as it stands. -/
  | verbatim
  /-- The text between the quotes. -/
  | unquoted
  /-- The number that the text stands for. -/
  | numeric
deriving DecidableEq

/-- A pattern and what a text that it matches is. -/
structure Rule (Tag : Type) where
  tag : Tag
  pattern : Pattern
  conversion : Conversion

namespace Rule

variable {Tag : Type}

/-- A text with one spelling. -/
def fixed (tag : Tag) (text : List Char) : Rule Tag :=
  ⟨tag, .spelled text, .verbatim⟩

/-- A keyword. -/
def keyword (kind : Kind) (spelling : String) : Rule Kind :=
  ⟨kind, .keyword spelling.toList, .verbatim⟩

/-- The keywords. -/
def keywords : List (Rule Kind) :=
  [keyword .whileWord "while", keyword .ifWord "if", keyword .endWord "end",
    keyword .trueWord "true", keyword .falseWord "false", keyword .andWord "and",
    keyword .orWord "or"]

/-- Tokens other than keywords. -/
def others : List (Rule Kind) :=
  [fixed .parenthesisOpen ['('], fixed .parenthesisClose [')'], fixed .comma [','],
    ⟨.string, .string, .unquoted⟩, ⟨.number, .number, .numeric⟩,
    ⟨.identifier, .identifier, .verbatim⟩, fixed .equalEqual ['=', '='], fixed .equal ['='],
    fixed .newline ['\n']]

/-- The rules for tokens, in the order in which they are tried. -/
def significant : List (Rule Kind) :=
  keywords ++ others

/-- The rules for layout, which are tried after those for tokens. -/
def ignored : List (Rule Layout) :=
  [fixed .space [' '], fixed .tab ['\t'], fixed .carriageReturn ['\r'],
    ⟨.comment, .comment, .verbatim⟩]

/-- All patterns in the order in which they are tried. -/
def patterns : List Pattern :=
  significant.map pattern ++ ignored.map pattern

/-- The first rule that matches at the start of a source, and the text it matches. -/
def find? (wordLike : Char → Bool) (rules : List (Rule Tag)) (source : List Char) :
    Option (Rule Tag × List Char) :=
  rules.findSome? fun rule =>
    (rule.pattern.matched? wordLike source).map fun text => (rule, text)

/-- The sort of piece that a rule for tokens finds. -/
def sort (rule : Rule Kind) : PieceSort :=
  match rule.conversion with
  | .verbatim => .verbatim rule.tag
  | .unquoted => .quoted
  | .numeric => .numeral

/-- The piece that the rules find at the start of a source. -/
def front? (wordLike : Char → Bool) (source : List Char) : Option Piece :=
  match find? wordLike significant source with
  | some (rule, text) => some ⟨rule.sort, text⟩
  | none => (find? wordLike ignored source).map fun found => ⟨.layout found.1.tag, found.2⟩

end Rule

end Lexeme

end ScriptFront
