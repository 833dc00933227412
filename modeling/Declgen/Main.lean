import Declgen.Command.Run

/-!
# The command line

Hands the arguments to the command, with the files and the standard output of the system.
-/

namespace Declgen.Command

/-- The number of a system error; some reports count downwards from zero. -/
def systemNumber (code : UInt32) : Nat := (if code < 0x80000000 then code else 0 - code).toNat

/-- What a system error means for a file. -/
def faultOf : IO.Error → FileFault
  | .noFileOrDirectory _ _ _ => .notFound
  | .inappropriateType _ code details =>
    match systemNumber code with
    | 20 => .notDirectory
    | 21 => .isDirectory
    | n => .other details n
  | .permissionDenied _ code _ => .other "Permission denied" (systemNumber code)
  | .resourceExhausted _ code details | .resourceVanished code details => .other details (systemNumber code)
  | e => .other e.toString 0

/-- The outcome of an action on a file. -/
def outcome {α : Type} (action : IO α) : IO (Except FileFault α) := do
  try return .ok (← action) catch e => return .error (faultOf e)

/-- The files of the system. -/
def onSystem : Access IO where
  size path := do
    match ← outcome (IO.FS.readBinFile path) with
    | .ok content => return .ok content.size
    | .error .isDirectory => return .ok 0
    | .error fault => return .error fault
  read path := do
    match ← outcome (IO.FS.readBinFile path) with
    | .ok content => return (String.fromUTF8? content).elim (.error .invalidText) .ok
    | .error fault => return .error fault
  write path text := outcome (IO.FS.writeFile path text)
  print text := outcome do
    let stdout ← IO.getStdout
    stdout.putStr text
    stdout.flush
  load := Model.load

def usageText : String :=
  "Usage: typegen generate [OPTIONS] <INPUT>\n\n" ++
  "  -o, --output <OUT>      Output file (default: stdout)\n" ++
  "      --reserve <FQN>     Fully-qualified name whose bare identifier is already taken (repeatable)\n" ++
  "      --overrides <FILE>  JSON override rules\n" ++
  "      --no-header         Omit the generated-code header\n" ++
  "      --derive <NAME>     Extra derive added to every struct (repeatable)\n" ++
  "      --check             Compare against the output file instead of writing it\n"

end Declgen.Command

open Declgen Command in
def main (args : List String) : IO UInt32 := do
  match parse args with
  | .error usage =>
    match usage with
    | .version => IO.print ("typegen " ++ Render.version ++ "\n")
    | .help => IO.print usageText
    | _ => IO.eprint usageText
    return usage.exitCode.toUInt32
  | .ok options =>
    let result ← (options.run onSystem).run
    if let .error failure := result then IO.eprint (failure.message ++ "\n")
    return (exitCode result).toUInt32
