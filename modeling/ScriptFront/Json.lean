/-!
# JSON documents

A JSON document and its two written forms: compact, without any space, and pretty,
with one item or member a line. Numerals keep the text they are given, so how a
number is written is decided where the document is made.
-/

namespace ScriptFront

/-- A JSON document. Members of an object keep their order. -/
inductive Json where
  | null
  | boolean (value : Bool)
  | numeral (text : String)
  | string (text : String)
  | array (items : List Json)
  | object (members : List (String × Json))

namespace Json

/-- How one character stands inside a JSON string. Only the quote, the backslash and
the controls below the space are escaped. -/
def escapedCharacter (character : Char) : List Char :=
  match character with
  | '"' => ['\\', '"']
  | '\\' => ['\\', '\\']
  | '\x08' => ['\\', 'b']
  | '\x0c' => ['\\', 'f']
  | '\n' => ['\\', 'n']
  | '\r' => ['\\', 'r']
  | '\t' => ['\\', 't']
  | other =>
    if other.toNat < 0x20 then
      ['\\', 'u', '0', '0', Nat.digitChar (other.toNat / 16), Nat.digitChar (other.toNat % 16)]
    else
      [other]

/-- A JSON string with its quotes. -/
def stringText (text : String) : String :=
  String.ofList ('"' :: (text.toList.flatMap escapedCharacter ++ ['"']))

/-- The words for the two truth values. -/
def booleanText (value : Bool) : String :=
  if value then "true" else "false"

/-- Texts one after another with a separator between them. -/
def separated (separator : String) : List String → String
  | [] => ""
  | first :: rest => first ++ String.join (rest.map (separator ++ ·))

mutual

/-- A document without any space between its parts. -/
def compact : Json → String
  | .null => "null"
  | .boolean value => booleanText value
  | .numeral text => text
  | .string text => stringText text
  | .array items => "[" ++ separated "," (compactItems items) ++ "]"
  | .object members => "\x7b" ++ separated "," (compactMembers members) ++ "\x7d"

/-- The compact texts of items. -/
def compactItems : List Json → List String
  | [] => []
  | item :: rest => compact item :: compactItems rest

/-- The compact texts of members. -/
def compactMembers : List (String × Json) → List String
  | [] => []
  | member :: rest => compactMember member :: compactMembers rest

/-- The compact text of a member: its name and its document. -/
def compactMember : String × Json → String
  | (name, document) => stringText name ++ ":" ++ compact document

end

/-- The space before a line of pretty text: two blanks a level. -/
def margin (level : Nat) : String :=
  String.ofList (List.replicate (2 * level) ' ')

/-- Parts of a document on a line each between brackets, one level deeper than these.
Brackets around nothing stay on one line. -/
def bracketed (level : Nat) (opening closing : String) (parts : List String) : String :=
  if parts.isEmpty then opening ++ closing
  else
    opening ++ "\n" ++ separated ",\n" (parts.map (margin (level + 1) ++ ·)) ++ "\n" ++
      margin level ++ closing

mutual

/-- A document with each item and each member on a line of its own, for a document
whose first line stands at the given level. The text ends without a line feed. -/
def pretty (level : Nat) : Json → String
  | .null => "null"
  | .boolean value => booleanText value
  | .numeral text => text
  | .string text => stringText text
  | .array items => bracketed level "[" "]" (prettyItems (level + 1) items)
  | .object members => bracketed level "\x7b" "\x7d" (prettyMembers (level + 1) members)

/-- The pretty texts of items. -/
def prettyItems (level : Nat) : List Json → List String
  | [] => []
  | item :: rest => pretty level item :: prettyItems level rest

/-- The pretty texts of members. -/
def prettyMembers (level : Nat) : List (String × Json) → List String
  | [] => []
  | member :: rest => prettyMember level member :: prettyMembers level rest

/-- The pretty text of a member: its name and its document. -/
def prettyMember (level : Nat) : String × Json → String
  | (name, document) => stringText name ++ ": " ++ pretty level document

end

end Json

end ScriptFront
