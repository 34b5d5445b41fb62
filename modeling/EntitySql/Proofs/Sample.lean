/-
  A small store, on which general statements are tried out.
-/
import EntitySql.Entity.Record
import EntitySql.Entity.Table
import EntitySql.Query.Basic
import EntitySql.Query.Mutation

namespace EntitySql.Sample

def settings : Settings := .forDatabase .oracle

/-- Items with a key that the database assigns, a name and a quantity. -/
def items : Table :=
  { entity := "Item", sql := "Item"
    columns := [⟨"id", "id", "id", true, true⟩, ⟨"name", "name", "name", false, false⟩,
      ⟨"qty", "qty", "qty", false, false⟩]
    keyIndex := 0, keyIndex_lt := by decide }

/-- The declaration that the table of items comes from. -/
def itemDecl : EntityDecl :=
  { name := "Item", table := none
    fields := [⟨"id", none, true, true⟩, ⟨"name", none, false, false⟩, ⟨"qty", none, false, false⟩] }

/-- Items as tuples of a key, which may be left to the database, a name and a quantity. -/
def itemType : EntityType (Fields [.optional .int64, .text, .optional .int32]) :=
  .ofFields "Item" none [⟨⟨"id", none, true, true⟩, .optional .int64⟩,
    ⟨⟨"name", none, false, false⟩, .text⟩, ⟨⟨"qty", none, false, false⟩, .optional .int32⟩]

theorem table_itemDecl : settings.table itemDecl = .ok items := rfl

/-- A condition with groups inside groups, one of them empty, and lists of values, one of them
empty. -/
def condition : Condition :=
  .any [
    .all [.compare (.field "name") .like (.text "a%"),
      .any [.isIn (.column "order") [.integer 1, .null], .isIn (.field "id") []]],
    .all [.any []],
    .between (.field "qty") (.integer 5) (.integer 9)]

/-- The second page, of five items, of those that meet the condition; most of an item comes first. -/
def query : Query :=
  { condition, order := [⟨.field "qty", .descending⟩]
    projection := [.field "id", .column "order"], page := some ⟨5, 5⟩ }

/-- The same query with other values, and about the first page. -/
def otherQuery : Query :=
  { query with
    condition := .any [
      .all [.compare (.field "name") .like (.text "' OR 1 = 1"),
        .any [.isIn (.column "order") [.null, .boolean true], .isIn (.field "id") []]],
      .all [.any []],
      .between (.field "qty") .null (.integer 0)]
    page := some ⟨0, 1⟩ }

/-- Rows of items, some of which leave their key to the database. -/
def rows : List Row :=
  [[.null, .text "pen", .integer 3], [.null, .text "ink", .null],
    [.integer 7, .text "pad", .integer 1]]

/-- Two items get another name and keep their quantities. -/
def change : Mutation :=
  .update [.null, .text "pad", .null] (.keys [.integer 1, .integer 2])

/-- The same change with other values. A key in the row makes no difference to it. -/
def otherChange : Mutation :=
  .update [.integer 4, .text "' OR 1 = 1", .null] (.keys [.null, .text "2"])

end EntitySql.Sample
