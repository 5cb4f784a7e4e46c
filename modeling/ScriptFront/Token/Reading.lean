import ScriptFront.Traced

/-!
# Reading tokens

The tokens of a source: its pieces in order, without the layout among them. Reading
fails at the first numeral without a value, or else at the remainder.
-/

namespace ScriptFront

namespace Token

/-- Report a token and yield it. -/
def digest (token : Token) : Traced LexicalError (List Token) := do
  Traced.emit (.digested token)
  return [token]

/-- Report why the source cannot be read, and fail. -/
def refuse {Result : Type} (error : LexicalError) : Traced LexicalError Result := do
  Traced.emit (.unreadable error)
  Traced.fail error

/-- The tokens of a piece: one, or none if it is layout. A string carries what
stands between its quotes. -/
def ofPiece (piece : Piece) : Traced LexicalError (List Token) :=
  match piece.sort with
  | .layout layout => do
    Traced.emit (.skipped layout)
    return []
  | .verbatim kind => digest ⟨kind, .text (String.ofList piece.text)⟩
  | .quoted => digest ⟨.string, .text (String.ofList (piece.text.drop 1).dropLast)⟩
  | .numeral =>
    match Number.ofNumeral? piece.text with
    | some number => digest ⟨.number, .number number⟩
    | none => refuse (.illegalNumeral (String.ofList piece.text))

/-- The tokens of pieces one after another. -/
def ofPieces : List Piece → Traced LexicalError (List Token)
  | [] => return []
  | piece :: rest => do
    let tokens ← ofPiece piece
    (tokens ++ ·) <$> ofPieces rest

/-- The tokens of pieces and of a remainder, which has none. -/
def ofCut (pieces : List Piece) (remainder : List Char) : Traced LexicalError (List Token) := do
  let tokens ← ofPieces pieces
  if remainder.isEmpty then
    Traced.emit (.tokenized tokens.length)
    return tokens
  else
    refuse (.unmatchedInput (String.ofList remainder))

end Token

/-- The tokens of a source, for a given notion of word characters. -/
def tokenizeWith (wordLike : Char → Bool) (source : String) :
    Traced LexicalError (List Token) :=
  let cut := Piece.cut wordLike source.toList
  Token.ofCut cut.1 cut.2

/-- The tokens of a source. -/
def tokenize (source : String) : Traced LexicalError (List Token) :=
  tokenizeWith Text.isWordCharacter source

end ScriptFront
