import CapturedTraffic.CommandLine.Run

/-!
# The program

Reads the files that the command names, and writes what the command answers. Results go to the
standard output, failures to the standard error.
-/
namespace CapturedTraffic

open CommandLine

namespace Program

def usage : String :=
  "\n  ".intercalate ["Usage: [--log-level LEVEL] [--json-logs] COMMAND",
    "search --logs FILE --expr FILE", "scope --logs FILE --scope FILE",
    "filter --logs FILE [--scope FILE] [--expr FILE]", "fields"]

def version : String := "0.1.1"

def complaint : Refusal → String
  | .unknownArgument => "unexpected argument"
  | .unknownCommand => "unrecognized subcommand"
  | .missingCommand => "a subcommand is required"
  | .missingSetting => "a required option is missing"
  | .invalidValue => "an option has no value, or an empty one"
  | .needlessValue => "an option that takes no value has one"
  | .repeated => "an option is given more than once"
  | _ => usage

def fault : IO.Error → FileFault
  | .noFileOrDirectory .. => .notFound
  | .permissionDenied .. => .denied
  | .inappropriateType .. => .isDirectory
  | .invalidArgument .. => .nameTooLong
  | _ => .other

def contents (path : String) : IO (Except FileFault (List UInt8)) := do
  try
    return .ok (← IO.FS.readBinFile path).toList
  catch e =>
    return .error (fault e)

/-- The named files, as they are now. -/
def read (paths : List String) : IO Files := do
  let known ← paths.mapM fun path => return (path, ← contents path)
  return fun path => (known.lookup path).getD (.error .notFound)

def refuse (r : Refusal) : IO UInt32 := do
  if r = .help then
    IO.println usage
    return 0
  else if r = .version then
    IO.println version
    return 0
  else
    IO.eprintln ("error: " ++ complaint r)
    return 2

def report (o : Outcome) : IO UInt32 := do
  IO.print o.output
  match o.failure with
  | none => return 0
  | some failure =>
    IO.eprintln ("Error: " ++ "\n  ".intercalate (failure.chain.map Cause.message))
    return 1

end Program

end CapturedTraffic

open CapturedTraffic CommandLine in
/-- Runs the command that the arguments name. -/
def main (arguments : List String) : IO UInt32 := do
  match Arguments.read arguments with
  | .error r => Program.refuse r
  | .ok a => Program.report (a.run (← Program.read a.command.paths))
