import ScriptFront.Main
import ScriptFront.Proofs.Comparison.BlankLines
import ScriptFront.Proofs.Comparison.NestingLimit
import ScriptFront.Proofs.Comparison.Revaluing
import ScriptFront.Proofs.Cursor.Discipline
import ScriptFront.Proofs.Cursor.Lookahead
import ScriptFront.Proofs.Json.Tree
import ScriptFront.Proofs.Number.NumeralValue
import ScriptFront.Proofs.Outline.Rows
import ScriptFront.Proofs.Program.Concatenation
import ScriptFront.Proofs.Program.LineEnds
import ScriptFront.Proofs.Program.Refusals
import ScriptFront.Proofs.Program.ViablePrefix
import ScriptFront.Proofs.Run.Invocation
import ScriptFront.Proofs.Run.Reporting
import ScriptFront.Proofs.Token.Listing
import ScriptFront.Proofs.Token.Remainder
import ScriptFront.Proofs.Token.Scanner
