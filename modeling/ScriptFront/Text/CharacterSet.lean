/-!
# Sets of characters

A set of characters written down as closed ranges of code points. It holds no
set of its own: each property of characters has a module with its ranges.
-/

namespace ScriptFront.Text

/-- A set of characters, given by closed ranges of code points. -/
structure CharacterSet where
  /-- First and last code point of each range. -/
  ranges : List (Nat × Nat)

namespace CharacterSet

/-- Whether a character lies in one of the ranges. -/
def contains (set : CharacterSet) (character : Char) : Bool :=
  set.ranges.any fun range => range.1 ≤ character.toNat && character.toNat ≤ range.2

end CharacterSet

end ScriptFront.Text
