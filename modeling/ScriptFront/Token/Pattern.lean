/-!
# Patterns

Patterns for texts: a character of a set, two patterns in a row, a choice, any number of
repetitions, and the edge of a word. A pattern is tried from a place in a source and can
lead to several others. The ways are tried in order, the left side of a choice before the
right one and more repetitions before fewer, and the first way that leads anywhere is the
match.
-/

namespace ScriptFront

/-- A place in a source. -/
structure Place where
  /-- The characters before it, the nearest one first. -/
  passed : List Char
  /-- The characters after it. -/
  rest : List Char

/-- A description of texts. -/
inductive Pattern where
  /-- No character. -/
  | empty
  /-- No character, where a word begins or ends. -/
  | wordEdge
  /-- A character of a set. -/
  | one (accepts : Char → Bool)
  /-- Two patterns in a row. -/
  | both (first second : Pattern)
  /-- One of two patterns. -/
  | either (first second : Pattern)
  /-- A pattern any number of times. -/
  | repeated (inner : Pattern)

namespace Pattern

/-- The ways to take at most the given number of turns, from more turns to fewer. -/
def repeatWithin (turn : Place → List Place) : (turns : Nat) → Place → List Place
  | 0, place => [place]
  | turns + 1, place => (turn place).flatMap (repeatWithin turn turns) ++ [place]

/-- The places a pattern leads to, in the order in which they are tried. No more turns of
a repetition are tried than there are characters left. -/
def ways (wordLike : Char → Bool) : Pattern → Place → List Place
  | .empty, place => [place]
  | .wordEdge, place =>
    if place.passed.head?.any wordLike = place.rest.head?.any wordLike then [] else [place]
  | .one accepts, place =>
    match place.rest with
    | [] => []
    | head :: rest => if accepts head then [⟨head :: place.passed, rest⟩] else []
  | .both first second, place => (ways wordLike first place).flatMap (ways wordLike second)
  | .either first second, place => ways wordLike first place ++ ways wordLike second place
  | .repeated inner, place => repeatWithin (ways wordLike inner) place.rest.length place

/-- The text that a pattern matches at the start of a source. -/
def matched? (wordLike : Char → Bool) (pattern : Pattern) (source : List Char) :
    Option (List Char) :=
  (ways wordLike pattern ⟨[], source⟩).head?.map fun place => place.passed.reverse

/-- A text as it stands. -/
def spelled : List Char → Pattern
  | [] => .empty
  | head :: rest => .both (.one (· == head)) (spelled rest)

/-- A character of a set and all that follow it. -/
def oneOrMore (accepts : Char → Bool) : Pattern :=
  .both (.one accepts) (.repeated (.one accepts))

/-- Whether a pattern needs no character. -/
def canBeEmpty : Pattern → Bool
  | .empty => true
  | .wordEdge => true
  | .one _ => false
  | .both first second => first.canBeEmpty && second.canBeEmpty
  | .either first second => first.canBeEmpty || second.canBeEmpty
  | .repeated _ => true

/-- Whether a text of a pattern can begin with a character. -/
def begins : Pattern → Char → Bool
  | .empty, _ => false
  | .wordEdge, _ => false
  | .one accepts, head => accepts head
  | .both first second, head => first.begins head || first.canBeEmpty && second.begins head
  | .either first second, head => first.begins head || second.begins head
  | .repeated inner, head => inner.begins head

end Pattern

end ScriptFront
