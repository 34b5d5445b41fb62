/-
  The command line tool: prints the statement that is written for a query found in files.
-/
import EntitySql.CommandLine.Arguments
import EntitySql.Document.Entity
import EntitySql.Document.Query
import EntitySql.Document.Result
import EntitySql.Document.Settings
import EntitySql.Sql.Select

namespace EntitySql.CommandLine

/-! ## Output -/

/-- How a run ends: what it prints, or why it fails. -/
inductive Outcome where
  | printed (text : String)
  | failed (message : String) (cause : Option String)
  | usageError
  deriving DecidableEq

def Outcome.exitCode : Outcome → UInt32
  | .printed _ => 0
  | .failed .. => 1
  | .usageError => 2

/-- What goes to the standard output. -/
def Outcome.output : Outcome → String
  | .printed text => text
  | _ => ""

/-- The first line of what goes to the error output when a run fails. -/
def Outcome.headline : Outcome → String
  | .failed message _ => "Error: " ++ message
  | .usageError => "error: invalid usage"
  | .printed _ => ""

/-- What goes to the error output. -/
def Outcome.errorOutput : Outcome → String
  | .printed _ => ""
  | .failed message (some cause) =>
    (Outcome.failed message none).headline ++ "\n\nCaused by:\n    " ++ cause ++ "\n"
  | outcome => outcome.headline ++ "\n"

def Help.text : Help → String
  | .program =>
    "Prints the SQL ezsql compiles for a query descriptor\n\n" ++
    "Usage: ezsql-explain <COMMAND>\n\n" ++
    "Commands:\n" ++
    "  select  Compile the data query\n" ++
    "  count   Compile the matching COUNT(*) query\n" ++
    "  help    Print this message or the help of the given subcommand(s)\n\n" ++
    "Options:\n" ++
    "  -h, --help  Print help\n"
  | .command c =>
    (match c with
      | .select => "Compile the data query\n\nUsage: ezsql-explain select"
      | .count => "Compile the matching COUNT(*) query\n\nUsage: ezsql-explain count") ++
    " [OPTIONS] --entity <ENTITY>\n\n" ++
    "Options:\n" ++
    "      --config <CONFIG>  EzConfig as JSON; defaults apply when omitted\n" ++
    "      --entity <ENTITY>  Entity metadata as JSON\n" ++
    "      --query <QUERY>    Query descriptor as JSON; an empty query when omitted\n" ++
    "      --format <FORMAT>  [default: text] [possible values: text, json]\n" ++
    "  -h, --help             Print help\n"
  | .help =>
    "Print this message or the help of the given subcommand(s)\n\n" ++
    "Usage: ezsql-explain help [COMMAND]...\n\n" ++
    "Arguments:\n" ++
    "  [COMMAND]...  Print help for the subcommand(s)\n"

/-- The statement in lines: its text, then each parameter with its number. -/
def textReport (statement : Sql) : String :=
  statement.text ++ "\n" ++
    String.join ((statement.params.zipIdx 1).map fun (value, number) =>
      "  ?" ++ toString number ++ " = " ++ value.display ++ "\n")

def report : OutputFormat → Sql → String
  | .text, statement => textReport statement
  | .json, statement => statement.toJson.renderIndented 0 ++ "\n"

/-! ## Input -/

/-- Why a run fails, with the cause behind it. -/
structure Failure where
  message : String
  cause : Option String

/-- The text of a file. -/
def readFile (files : String → Except String String) (path : String) : Except Failure String :=
  (files path).mapError fun cause => ⟨"failed to read " ++ path, some cause⟩

/-- A document in a file. -/
def readDocument {α : Type} (files : String → Except String String)
    (decode : Json.Reading → Json → Decoded α) (path : String) : Except Failure α := do
  let text ← readFile files path
  (Json.decodeText decode text).mapError fun e => ⟨"failed to parse " ++ path, some e.message⟩

def readSettings (files : String → Except String String) (path : String) :
    Except Failure Settings := do
  let text ← readFile files path
  (Settings.read text).mapError fun e => ⟨"invalid config " ++ path, some e.message⟩

/-- What is left out of a request is left at its default. -/
def readIfGiven {α : Type} (otherwise : α) (read : String → Except Failure α) :
    Option String → Except Failure α
  | some path => read path
  | none => .ok otherwise

/-! ## Running -/

/-- The statement that a request asks for. -/
def explain (files : String → Except String String) (request : Request) : Except Failure Sql := do
  let settings ← readIfGiven default (readSettings files) request.config
  let entity ← readDocument files EntityDecl.ofJson request.entity
  let query ← readIfGiven .all (readDocument files Query.ofJson) request.query
  let statement : Except Error Sql := do
    let table ← settings.table entity
    match request.command with
    | .select => query.selectSql settings table
    | .count => query.countSql settings table
  statement.mapError fun e => ⟨e.message, none⟩

/-- A run of the tool with its arguments, in a directory with these files. -/
def run (arguments : List String) (files : String → Except String String) : Outcome :=
  match parse arguments with
  | .usageError => .usageError
  | .help h => .printed h.text
  | .request request =>
    match explain files request with
    | .ok statement => .printed (report request.format statement)
    | .error failure => .failed failure.message failure.cause

end EntitySql.CommandLine
