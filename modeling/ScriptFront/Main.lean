import ScriptFront.CommandLine

/-!
# The program

Reads the file that the arguments name and writes what the command line makes of it.
-/

namespace ScriptFront.CommandLine

/-- What the system says about a failed attempt to read a file. -/
def SystemError.ofFailure (failure : IO.Error) : SystemError :=
  match failure with
  | .noFileOrDirectory _ _ _ => .noSuchFile
  | .inappropriateType _ _ _ => .isDirectory
  | .permissionDenied _ _ _ => .permissionDenied
  | other => ⟨toString other, 0⟩

/-- The bytes of a file, or why there are none. -/
def contents (path : String) : IO (Except SystemError ByteArray) := do
  try
    return .ok (← IO.FS.readBinFile path)
  catch failure =>
    return .error (SystemError.ofFailure failure)

/-- The outcome of a call with the files and the log setting of the system. -/
def outcome (arguments : List String) : IO Outcome := do
  let filter := LogFilter.ofSetting? (← IO.getEnv "RUST_LOG")
  match Request.ofArguments? arguments with
  | none => return .helped
  | some request => return request.answer (← contents request.path) filter

end ScriptFront.CommandLine

/-- Answers a call of the program. -/
def main (arguments : List String) : IO UInt32 := do
  let outcome ← ScriptFront.CommandLine.outcome arguments
  IO.eprint outcome.errors
  IO.print outcome.output
  return UInt32.ofNat outcome.status
