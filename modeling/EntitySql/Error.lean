/-
  Why a statement cannot be written or run, and how each cause is worded.
-/
import EntitySql.Value.Text

namespace EntitySql

/-- The statements that change rows, as messages name them. -/
inductive WriteKind where
  | insert
  | update
  | delete
  deriving DecidableEq

def WriteKind.keyword : WriteKind → String
  | .insert => "INSERT"
  | .update => "UPDATE"
  | .delete => "DELETE"

inductive Error where
  /-- A field or column that the entity does not have or that is no identifier. -/
  | unresolved (entity name : String)
  /-- A write without a condition would reach every row. -/
  | unconditional (kind : WriteKind) (table : String)
  /-- An insert without rows. -/
  | noRows (table : String)
  /-- An update that would assign nothing. -/
  | noAssignments (table : String)
  /-- Pages need an order in this database. -/
  | unorderedPage
  /-- A row that has not one value per field. -/
  | rowWidth (entity : String) (expected actual : Nat)
  /-- The answer to a count is empty. -/
  | countMissing
  /-- The answer to a count is no natural number. -/
  | countInvalid (cell : Value)
  | noFields (entity : String)
  | noKey (entity : String)
  | severalKeys (entity : String)
  | repeatedField (entity field : String)
  | unnamedDatabase
  /-- A document of settings that cannot be decoded, with the reason. -/
  | unreadableSettings (reason : String)
  /-- The session failed while a statement was run. -/
  | execution (failure : String)
  deriving DecidableEq

namespace Error

/-- The areas that errors belong to. -/
inductive Area where
  | unresolvedIdentifier
  | emptyCondition
  | emptyAssignment
  | unsupportedFeature
  | mappingMismatch
  | invalidMetadata
  | settings
  | execution
  deriving DecidableEq

def area : Error → Area
  | .unresolved .. => .unresolvedIdentifier
  | .unconditional .. => .emptyCondition
  | .noRows _ | .noAssignments _ => .emptyAssignment
  | .unorderedPage => .unsupportedFeature
  | .rowWidth .. | .countMissing | .countInvalid _ => .mappingMismatch
  | .noFields _ | .noKey _ | .severalKeys _ | .repeatedField .. => .invalidMetadata
  | .unnamedDatabase | .unreadableSettings _ => .settings
  | .execution _ => .execution

/-- What the error says, without its area. -/
def detail : Error → String
  | .unresolved entity name => "Cannot resolve '" ++ name ++ "' on entity '" ++ entity ++ "'"
  | .unconditional kind table =>
    "Refusing to run " ++ kind.keyword ++ " on '" ++ table ++ "' without a WHERE condition"
  | .noRows table => "insert into " ++ table ++ " has no rows"
  | .noAssignments table => "update of " ++ table ++ " assigns no columns"
  | .unorderedPage => "sqlserver OFFSET/FETCH paging requires an ORDER BY"
  | .rowWidth entity expected actual =>
    entity ++ " expects " ++ toString expected ++ " values per row, got " ++ toString actual
  | .countMissing => "count query returned no rows"
  | .countInvalid cell =>
    "count query returned " ++ cell.typeName ++ " " ++ cell.display ++
      " instead of a non-negative integer"
  | .noFields entity => "entity '" ++ entity ++ "' has no persistent fields"
  | .noKey entity => "entity '" ++ entity ++ "' declares no primary key"
  | .severalKeys entity => "entity '" ++ entity ++ "' declares more than one primary key"
  | .repeatedField entity field => "entity '" ++ entity ++ "' declares field '" ++ field ++ "' twice"
  | .unnamedDatabase => "dbType cannot be empty"
  | .unreadableSettings reason => reason
  | .execution failure => failure

/-- The whole message. -/
def message (e : Error) : String :=
  match e.area with
  | .unresolvedIdentifier | .emptyCondition => e.detail
  | .emptyAssignment =>
    "Nothing to update on '" ++ e.detail ++ "': no assignable field carries a value"
  | .unsupportedFeature => "Unsupported dialect feature: " ++ e.detail
  | .mappingMismatch => "Mapping mismatch: " ++ e.detail
  | .invalidMetadata => "Invalid entity metadata: " ++ e.detail
  | .settings => "Configuration error: " ++ e.detail
  | .execution => "Execution failure: " ++ e.detail

/-- The error arose before anything was sent to the database. -/
def isCompileError (e : Error) : Bool := e.area ≠ .execution

end Error

end EntitySql
