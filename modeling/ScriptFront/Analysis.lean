import ScriptFront.Program.Reading
import ScriptFront.Token.Reading

/-!
# Analysis of a source

Both stages one after another: the tokens of a source, and the program they make up.
-/

namespace ScriptFront

/-- The program of a source. -/
def analyze (source : String) : Traced Diagnosis (List Statement) := do
  let tokens ← (tokenize source).mapError .lexical
  (parse tokens).mapError .structural

end ScriptFront
