/-
  Queries in documents. Whatever is left out of a query keeps what the query for every row has.
-/
import EntitySql.Document.Condition
import EntitySql.Query.Basic

namespace EntitySql

open Json

def Direction.names : List (String × Direction) := [("asc", .ascending), ("desc", .descending)]

def Direction.name : Direction → String
  | .ascending => "asc"
  | .descending => "desc"

def OrderItem.toJson (item : OrderItem) : Json :=
  .ofMembers [("operand", item.operand.toJson), ("direction", .text item.direction.name)]

def OrderItem.ofJson (r : Reading) (j : Json) : Decoded OrderItem := do
  match ← members r ["operand", "direction"] j with
  | (r, [operand, direction]) =>
    return ⟨← required "operand" (Operand.ofJson r) operand,
      ← optionalOr .ascending (asChoice "direction" Direction.names r) direction⟩
  | _ => throw .malformed

def Page.toJson (p : Page) : Json :=
  .ofMembers [("offset", .nat p.offset.toNat), ("limit", .nat p.limit.toNat)]

def Page.ofJson (r : Reading) (j : Json) : Decoded Page := do
  match ← members r ["offset", "limit"] j with
  | (_, [offset, limit]) =>
    return ⟨← required "offset" asNatural offset, ← required "limit" asNatural limit⟩
  | _ => throw .malformed

namespace Query

def toJson (q : Query) : Json :=
  .ofMembers [("condition", q.condition.toJson), ("orderBy", .array (q.order.map OrderItem.toJson)),
    ("projection", .array (q.projection.map Operand.toJson)),
    ("page", (q.page.map Page.toJson).getD .null)]

def ofJson (r : Reading) (j : Json) : Decoded Query := do
  match ← members r ["condition", "orderBy", "projection", "page"] j with
  | (r, [condition, order, projection, page]) =>
    return {
      condition := ← optionalOr default (Condition.ofJson r) condition
      order := ← optionalOr [] (asList r OrderItem.ofJson) order
      projection := ← optionalOr [] (asList r Operand.ofJson) projection
      page := ← optionalOr none (asOptional (Page.ofJson r)) page }
  | _ => throw .malformed

end Query

end EntitySql
