/-
  Records of entities: the Lean types whose elements are stored as rows, described by a declaration
  and the ways from elements to rows and back.
-/
import EntitySql.Entity.Declaration
import EntitySql.Value.CellType

namespace EntitySql

/-- What storing the elements of `α` takes. Rows hold one value per declared field, in order; a
cell is absent when a result has no column for its field. -/
structure EntityType (α : Type) extends TypeKey where
  toRow : α → Row
  ofCells : List (Option Value) → α

/-! ## Records with typed fields -/

/-- The tuples with one element per type. -/
abbrev Fields : List CellType → Type
  | [] => Unit
  | t :: rest => t.Carrier × Fields rest

namespace Fields

def toRow : (types : List CellType) → Fields types → Row
  | [], _ => []
  | t :: rest, (x, xs) => t.toValue x :: toRow rest xs

/-- Missing cells are absent, and cells beyond the last field are not looked at. -/
def ofCells : (types : List CellType) → List (Option Value) → Fields types
  | [], _ => ()
  | t :: rest, cells => (t.ofCell cells.head?.join, ofCells rest cells.tail)

@[simp] theorem length_toRow (types : List CellType) (xs : Fields types) :
    (toRow types xs).length = types.length := by
  induction types with
  | nil => rfl
  | cons t rest ih => simp [toRow, ih]

end Fields

/-- A field of a record with its type. -/
structure TypedField where
  decl : FieldDecl
  type : CellType

/-- The entity whose elements are tuples with one element per field. -/
def EntityType.ofFields (name : String) (table : Option String) (fields : List TypedField) :
    EntityType (Fields (fields.map TypedField.type)) where
  typeName := name
  decl := ⟨name, table, fields.map TypedField.decl⟩
  toRow := Fields.toRow _
  ofCells := Fields.ofCells _

/-! ## Rows as records -/

/-- The entity whose elements are rows of any width, taken as they come. -/
def EntityType.ofRows (decl : EntityDecl) : EntityType Row where
  typeName := decl.name
  decl
  toRow row := row
  ofCells cells := cells.map fun cell => cell.getD .null

end EntitySql
