/-
  The program around the command line tool: arguments, files and exit codes.
-/
import EntitySql.CommandLine.Explain

open EntitySql.CommandLine

/-- The files that a request names, with what reading each of them gave. -/
def readRequested (request : Request) : IO (List (String × Except String String)) :=
  let paths := request.config.toList ++ [request.entity] ++ request.query.toList
  paths.mapM fun (path : String) => do
    try return (path, .ok (← IO.FS.readFile path))
    catch e => return (path, .error (toString e))

def main (arguments : List String) : IO UInt32 := do
  let files ←
    match parse arguments with
    | .request request => readRequested request
    | _ => pure []
  let outcome := run arguments fun path => (files.lookup path).getD (.error "no such file")
  IO.print outcome.output
  IO.eprint outcome.errorOutput
  return outcome.exitCode
