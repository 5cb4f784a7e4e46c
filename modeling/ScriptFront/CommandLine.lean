import ScriptFront.Analysis
import ScriptFront.LogFilter
import ScriptFront.Program.Json
import ScriptFront.Program.Outline

/-!
# The command line

The program as a function: the arguments, the contents of files and the log setting
determine the exit status and what is written to the two output streams. Nothing here
touches the outside world.
-/

namespace ScriptFront

namespace CommandLine

/-- The name of the program. -/
def programName : String := "uryb"

/-- How names of source files end. -/
def fileExtension : String := ".uryb"

/-- How the program is called. -/
def usage : String :=
  "usage: " ++ programName ++ " [--tokens | --json] <file" ++ fileExtension ++ ">"

/-- What is shown when the arguments do not ask for anything, or ask for help. -/
def help : String :=
  usage ++ "\n\nReads a " ++ programName ++ " script (" ++ fileExtension ++
    ") and prints its syntax tree.\n\n" ++
    "    --tokens    print the token stream instead\n" ++
    "    --json      print the syntax tree as JSON\n\n" ++
    "Set RUST_LOG (e.g. RUST_LOG=" ++ programName ++
    "=trace) to log lexing and parsing\nto stderr.\n"

/-- What to show of a source. -/
inductive Presentation where
  | tree
  | tokens
  | json
deriving DecidableEq

/-- What one argument says. -/
inductive Argument where
  | show (presentation : Presentation)
  | help
  | path (path : String)
deriving DecidableEq

/-- The meaning of an argument. Whatever is no option is a path, dashes or not. -/
def Argument.ofText (text : String) : Argument :=
  if text = "--tokens" then .show .tokens
  else if text = "--json" then .show .json
  else if text = "-h" ∨ text = "--help" then .help
  else .path text

/-- A file to be shown, and what to show of it. -/
structure Request where
  presentation : Presentation
  path : String
deriving DecidableEq

namespace Request

/-- The request of the arguments that are left, after those which asked for a
presentation and perhaps named a path. Asking for help and naming a second path leave
no request. -/
def continue? (presentation : Presentation) (path : Option String) :
    List Argument → Option Request
  | [] => path.map fun path => ⟨presentation, path⟩
  | .show other :: rest => continue? other path rest
  | .help :: _ => none
  | .path other :: rest =>
    match path with
    | none => continue? presentation (some other) rest
    | some _ => none

/-- The request of all arguments, if they make one: one path, and the last
presentation asked for, which is the tree if none is. -/
def ofArguments? (arguments : List String) : Option Request :=
  continue? .tree none (arguments.map Argument.ofText)

end Request

/-- Why the system does not hand over a file. -/
structure SystemError where
  description : String
  code : Nat
deriving DecidableEq

namespace SystemError

/-- There is nothing under the path. -/
def noSuchFile : SystemError := ⟨"No such file or directory", 2⟩

/-- There is a directory under the path. -/
def isDirectory : SystemError := ⟨"Is a directory", 21⟩

/-- What is under the path must not be read. -/
def permissionDenied : SystemError := ⟨"Permission denied", 13⟩

/-- What went wrong, in words. -/
def message (error : SystemError) : String :=
  error.description ++ " (os error " ++ String.ofList (Nat.toDigits 10 error.code) ++ ")"

end SystemError

/-- What a call of the program leaves behind. -/
structure Outcome where
  status : Nat
  output : String
  errors : String
deriving DecidableEq

namespace Outcome

/-- The outcome of a call that is not understood. -/
def helped : Outcome := ⟨2, "", help⟩

/-- The outcome of a call that fails, after a log. -/
def failed (log message : String) : Outcome := ⟨1, "", log ++ message ++ "\n"⟩

end Outcome

/-- The text of a presentation of a source. -/
def Presentation.render (source : String) : Presentation → Traced Diagnosis String
  | .tokens => do
    let tokens ← (tokenize source).mapError .lexical
    return Token.listing tokens
  | .tree => do
    let program ← analyze source
    return OutlineLine.join (Statement.outlineAll 0 program)
  | .json => do
    let program ← analyze source
    return (Json.array (Statement.jsonAll program)).pretty 0 ++ "\n"

/-- The outcome of a traced run that yields the output, with its log on the error
stream. -/
def Outcome.ofRun (filter : LogFilter) (run : Traced Diagnosis String) : Outcome :=
  match run.outcome with
  | .ok output => ⟨0, output, filter.log run.events⟩
  | .error diagnosis => .failed (filter.log run.events) diagnosis.message

namespace Request

/-- The source in a file: bytes the system hands over, which are text in UTF-8. -/
def source (request : Request) (contents : Except SystemError ByteArray) :
    Except String String :=
  let failure (reason : String) :=
    "encountering fatal error when reading " ++ request.path ++ ": " ++ reason
  match contents with
  | .error error => .error (failure error.message)
  | .ok bytes =>
    match String.fromUTF8? bytes with
    | some source => .ok source
    | none => .error (failure "stream did not contain valid UTF-8")

/-- The outcome of a request, given what the system answers for its path. -/
def answer (request : Request) (contents : Except SystemError ByteArray)
    (filter : LogFilter) : Outcome :=
  match request.source contents with
  | .error message => .failed "" message
  | .ok source => .ofRun filter (request.presentation.render source)

end Request

/-- The outcome of a call, given what the system answers for each path and the log
setting. -/
def run (arguments : List String) (files : String → Except SystemError ByteArray)
    (setting : Option String) : Outcome :=
  match Request.ofArguments? arguments with
  | none => .helped
  | some request => request.answer (files request.path) (LogFilter.ofSetting? setting)

end CommandLine

end ScriptFront
