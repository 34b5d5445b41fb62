/-
  Statements and results in documents.
-/
import EntitySql.Document.Value
import EntitySql.Result.Basic
import EntitySql.Result.Counted
import EntitySql.Sql.Basic

namespace EntitySql

open Json

/-- Values in a list. -/
def Row.toJson (row : Row) : Json := .array (row.map Value.toJson)

def Sql.toJson (s : Sql) : Json :=
  .ofMembers [("sql", .text s.text), ("params", Row.toJson s.params)]

def Write.toJson : Write → Json
  | .single statement => .ofMembers [("Single", statement.toJson)]
  | .batch text paramSets =>
    .ofMembers [("Batch", .ofMembers [("sql", .text text),
      ("param_sets", .array (paramSets.map Row.toJson))])]

def ResultSet.toJson (r : ResultSet) : Json :=
  .ofMembers [("columns", .array (r.labels.map Json.text)), ("rows", .array (r.rows.map Row.toJson))]

namespace Counted

def toJson {α : Type} (element : α → Json) (c : Counted α) : Json :=
  .ofMembers [("data", .array (c.elements.map element)), ("total", .nat c.total.toNat)]

def ofJson {α : Type} (element : Reading → Json → Decoded α) (r : Reading) (j : Json) :
    Decoded (Counted α) := do
  match ← members r ["data", "total"] j with
  | (r, [data, total]) =>
    return ⟨← required "data" (asList r element) data, ← required "total" asNatural total⟩
  | _ => throw .malformed

end Counted

end EntitySql
