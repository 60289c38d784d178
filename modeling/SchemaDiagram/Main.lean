import SchemaDiagram.CommandLine.Command
import Std.Time.DateTime

/-!
# The program

Reads the files of a command, carries the command out and writes its result.
-/

namespace SchemaDiagram

open CommandLine

/-- The fault that an error of the system stands for. -/
def faultOf : IO.Error → FileFault
  | .noFileOrDirectory .. => .notFound
  | .inappropriateType .. => .isDirectory
  | e => .other (toString e)

/-- The content of a file. -/
def contentOf (path : String) : IO (Except FileFault String) := do
  try
    let bytes ← IO.FS.readBinFile path
    match Utf8.decode bytes.toList with
    | .ok text => return .ok (String.ofList text)
    | .error _ => return .error .notText
  catch e => return .error (faultOf e)

/-- The present moment. -/
def presentMoment : IO Instant := do
  let now ← Std.Time.Timestamp.now
  return .ofNanos now.toNanosecondsSinceUnixEpoch.val

/-- Writes a result to where it belongs. -/
def deliver (output : Option String) (text : String) : IO (Except Failure Unit) := do
  match output with
  | none =>
    IO.print text
    return .ok ()
  | some path =>
    try
      IO.FS.writeFile path text
      return .ok ()
    catch e => return .error (.output path (faultOf e))

/-- Carries out a command. The answer is the exit code. -/
def execute (i : Invocation) : IO UInt32 := do
  let input ← contentOf i.input
  let config ← i.config.mapM contentOf
  let files : Files := fun path => if i.config = some path then config.getD input else input
  let outcome ← match i.run files (← presentMoment) with
    | .ok text => deliver i.output text
    | .error failure => pure (.error failure)
  match outcome with
  | .ok () => return 0
  | .error failure =>
    IO.eprint failure.report
    return 1

end SchemaDiagram

open SchemaDiagram in
/-- Runs the program. -/
def main (arguments : List String) : IO UInt32 := do
  match CommandLine.Invocation.parse arguments with
  | .ok i => execute i
  | .error .help =>
    IO.print CommandLine.usage
    return 0
  | .error .misuse =>
    IO.eprint CommandLine.usage
    return 2
