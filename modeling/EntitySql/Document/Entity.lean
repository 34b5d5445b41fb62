/-
  Declarations of entities in documents.
-/
import EntitySql.Entity.Declaration
import EntitySql.Json.Decode
import EntitySql.Json.Writer

namespace EntitySql

open Json

/-- A text, or null for none. -/
def textOrNull (s : Option String) : Json := (s.map Json.text).getD .null

namespace FieldDecl

def toJson (f : FieldDecl) : Json :=
  .ofMembers [("name", .text f.name), ("column", textOrNull f.column),
    ("primaryKey", .bool f.primaryKey), ("generated", .bool f.generated)]

def ofJson (r : Reading) (j : Json) : Decoded FieldDecl := do
  match ← members r ["name", "column", "primaryKey", "generated"] j with
  | (_, [name, column, primaryKey, generated]) =>
    return {
      name := ← required "name" asText name
      column := ← optionalOr none (asOptional asText) column
      primaryKey := ← optionalOr false asBool primaryKey
      generated := ← optionalOr false asBool generated }
  | _ => throw .malformed

end FieldDecl

namespace EntityDecl

def toJson (d : EntityDecl) : Json :=
  .ofMembers [("name", .text d.name), ("table", textOrNull d.table),
    ("fields", .array (d.fields.map FieldDecl.toJson))]

def ofJson (r : Reading) (j : Json) : Decoded EntityDecl := do
  match ← members r ["name", "table", "fields"] j with
  | (r, [name, table, fields]) =>
    return {
      name := ← required "name" asText name
      table := ← optionalOr none (asOptional asText) table
      fields := ← required "fields" (asList r FieldDecl.ofJson) fields }
  | _ => throw .malformed

end EntityDecl

end EntitySql
