/-
  Tables: entities under given settings, with the names that they and their fields have in SQL.
-/
import EntitySql.Dialect
import EntitySql.Entity.Declaration
import EntitySql.Text.Case

namespace EntitySql

structure Column where
  field : String
  /-- The name of the column, as results label it. -/
  name : String
  /-- The name as it stands in statements. -/
  sql : String
  primaryKey : Bool
  generated : Bool
  deriving DecidableEq

structure Table where
  entity : String
  /-- The name of the table as it stands in statements. -/
  sql : String
  /-- One column per field, in the order of the fields. -/
  columns : List Column
  keyIndex : Nat
  keyIndex_lt : keyIndex < columns.length
  deriving DecidableEq

namespace Table

/-- The primary-key column. -/
def key (t : Table) : Column := t.columns.get ⟨t.keyIndex, t.keyIndex_lt⟩

/-- The column of the field with a name. -/
def field (t : Table) (name : String) : Except Error Column :=
  match t.columns.find? fun c => c.field = name with
  | some c => .ok c
  | none => .error (.unresolved t.entity name)

/-- The place of the last element with a property. -/
def lastIndex? {α : Type} (p : α → Bool) (xs : List α) : Option Nat :=
  (xs.reverse.findIdx? p).map fun i => xs.length - 1 - i

/-- The place of the field that a label of a result means: that of the column with this name in
any case, else of the field with exactly this name, else of the first field with this name in any
case of ASCII letters. Of two columns whose names differ only in case, the last one is meant. -/
def position? (t : Table) (label : String) : Option Nat :=
  let key := Text.lower label
  lastIndex? (fun c => decide (Text.lower c.name = key)) t.columns
    <|> t.columns.findIdx? (fun c => decide (c.field = label))
    <|> t.columns.findIdx? (fun c => Text.eqIgnoreCase c.field label)

end Table

/-! ## Names in SQL -/

namespace Settings

/-- The part of an identifier in quotes if it is a reserved word. -/
def escapePart (s : Settings) (part : String) : String :=
  if s.database.isReserved part then s.dialect.quote part else part

/-- The parts of an identifier between its dots. -/
def identifierParts (identifier : String) : List String :=
  (identifier.toList.splitOn '.').map String.ofList

/-- The identifier with those of its dotted parts in quotes that are reserved words, if the
settings ask for it. -/
def escape (s : Settings) (identifier : String) : String :=
  if s.escapeKeywords then ".".intercalate ((identifierParts identifier).map s.escapePart)
  else identifier

/-- The name of a field's column: the explicit one, else as the naming pattern has it. -/
def columnName (s : Settings) (f : FieldDecl) : String :=
  f.column.getD (s.tableNaming.apply f.name)

/-- The table of an entity as it stands in statements. -/
def tableSql (s : Settings) (d : EntityDecl) : String :=
  s.escape (d.table.getD (s.tableNaming.apply d.name))

/-- The column of the field with a name, as it stands in statements. -/
def columnSql (s : Settings) (d : EntityDecl) (field : String) : Except Error String :=
  match d.fields.find? fun f => f.name = field with
  | some f => .ok (s.escape (s.columnName f))
  | none => .error (.unresolved d.name field)

/-- Column names given by callers consist of letters, numbers, `_`, `$` and inner dots. -/
def isColumnName (name : String) : Bool :=
  let chars := name.toList
  !chars.isEmpty && chars.head? ≠ some '.' && chars.getLast? ≠ some '.' &&
    chars.all fun c => Text.isAlphanumeric c || c = '_' || c = '$' || c = '.'

/-- A column name given by a caller, as it stands in statements. -/
def rawColumn (s : Settings) (entity name : String) : Except Error String :=
  if isColumnName name then .ok (s.escape name) else .error (.unresolved entity name)

/-- The column of a field. -/
def column (s : Settings) (f : FieldDecl) : Column :=
  { field := f.name, name := s.columnName f, sql := s.escape (s.columnName f)
    primaryKey := f.primaryKey, generated := f.generated }

/-- The table of an entity, if its declaration is valid. -/
def table (s : Settings) (d : EntityDecl) : Except Error Table := do
  d.validate
  let key ← d.keyIndex
  return { entity := d.name, sql := s.tableSql d, columns := d.fields.map s.column, keyIndex := key
           keyIndex_lt := by simp }

end Settings

end EntitySql
