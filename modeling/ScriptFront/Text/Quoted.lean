import ScriptFront.Text.Hidden

/-!
# Quoted text

Text between double quotes in which nothing is hidden: the usual controls have
short escapes, a quote and a backslash are escaped by a backslash, and every
hidden character is written by its number.
-/

namespace ScriptFront.Text

/-- A character by its number: lower-case hexadecimal digits between braces. -/
def numbered (character : Char) : List Char :=
  '\\' :: 'u' :: '\x7b' :: (Nat.toDigits 16 character.toNat ++ ['\x7d'])

/-- How one character stands inside quoted text. -/
def quotedCharacter (character : Char) : List Char :=
  match character with
  | '\x00' => ['\\', '0']
  | '\t' => ['\\', 't']
  | '\n' => ['\\', 'n']
  | '\r' => ['\\', 'r']
  | '"' => ['\\', '"']
  | '\\' => ['\\', '\\']
  | other => if isHidden other then numbered other else [other]

/-- A text between double quotes, every character of it made visible. -/
def quoted (text : String) : String :=
  String.ofList ('"' :: (text.toList.flatMap quotedCharacter ++ ['"']))

example : quoted "a\t\"\u0301" = "\"a\\t\\\"\\u\x7b301\x7d\"" := by decide +kernel

end ScriptFront.Text
