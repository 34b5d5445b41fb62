/-
  Arguments of the command line: which statement to explain, from which files, in which form.
-/

namespace EntitySql.CommandLine

inductive Command where
  | select
  | count
  deriving DecidableEq

inductive OutputFormat where
  | text
  | json
  deriving DecidableEq

inductive OptionName where
  | config | entity | query | format
  deriving DecidableEq

/-- What the command line asks for. -/
structure Request where
  command : Command
  config : Option String
  entity : String
  query : Option String
  format : OutputFormat
  deriving DecidableEq

/-- Pages of help. -/
inductive Help where
  | program
  | command (c : Command)
  | help
  deriving DecidableEq

/-- What the arguments amount to. -/
inductive Parsed where
  | request (r : Request)
  | help (h : Help)
  | usageError
  deriving DecidableEq

def commandOf? : String → Option Command
  | "select" => some .select
  | "count" => some .count
  | _ => none

def optionOf? (name : List Char) : Option OptionName :=
  match String.ofList name with
  | "config" => some .config
  | "entity" => some .entity
  | "query" => some .query
  | "format" => some .format
  | _ => none

def formatOf? : String → Option OutputFormat
  | "text" => some .text
  | "json" => some .json
  | _ => none

/-- The options given so far, each at most once. -/
abbrev Given := List (OptionName × String)

/-- Notes an option. Files need a name, a format must be known, and nothing is given twice. -/
def note? (given : Given) (option : OptionName) (value : String) : Option Given :=
  let valid := if option = .format then (formatOf? value).isSome else value ≠ ""
  if valid ∧ (given.lookup option).isNone then some ((option, value) :: given) else none

/-- An argument that names an option, or none, instead of a value. A single hyphen is a value. -/
def isFlag (argument : List Char) : Bool :=
  match argument with
  | '-' :: _ :: _ => true
  | _ => false

/-- The request that the given options make, if the one that is needed is among them. -/
def finish (command : Command) (given : Given) : Parsed :=
  match given.lookup .entity with
  | none => .usageError
  | some entity =>
    .request {
      command, entity, config := given.lookup .config, query := given.lookup .query
      format := ((given.lookup .format).bind formatOf?).getD .text }

/-- Reads the arguments of a command from the left. The first mistake or request for help decides. -/
def readOptions (command : Command) (given : Given) : List String → Parsed
  | [] => finish command given
  | argument :: rest =>
    match argument.toList with
    | ['-', '-'] => if rest.isEmpty then finish command given else .usageError
    | '-' :: '-' :: name =>
      if name = "help".toList then .help (.command command)
      else
        let value := name.dropWhile (· ≠ '=')
        match optionOf? (name.takeWhile (· ≠ '=')), value with
        | none, _ => .usageError
        | some option, _ :: value =>
          match note? given option (String.ofList value) with
          | some given => readOptions command given rest
          | none => .usageError
        | some option, [] =>
          match rest with
          | [] => .usageError
          | value :: rest =>
            if isFlag value.toList then .usageError
            else
              match note? given option value with
              | some given => readOptions command given rest
              | none => .usageError
    | '-' :: 'h' :: _ => .help (.command command)
    | _ => .usageError

/-- Reads what follows the word `help`. -/
def readHelp : List String → Parsed
  | [] => .help .program
  | ["help"] => .help .help
  | [name] =>
    match commandOf? name with
    | some c => .help (.command c)
    | none => .usageError
  | _ => .usageError

/-- Reads all arguments. -/
def parse : List String → Parsed
  | [] => .usageError
  | argument :: rest =>
    match commandOf? argument with
    | some command => readOptions command [] rest
    | none =>
      if argument = "help" then readHelp rest
      else if argument = "--help" then .help .program
      else
        match argument.toList with
        | '-' :: 'h' :: _ => .help .program
        | _ => .usageError

end EntitySql.CommandLine
