/-
  Catalogues: the tables that have been asked for so far, so that each is worked out only once.
-/
import EntitySql.Entity.Table

namespace EntitySql

/-- The settings with the tables already worked out, by the types of their elements. -/
structure Catalog where
  settings : Settings
  known : List (TypeKey × Table)

namespace Catalog

def empty (settings : Settings) : Catalog := ⟨settings, []⟩

/-- The table of a type, and the catalogue that remembers it. Nothing is remembered of a type whose
declaration is not valid. -/
def table (c : Catalog) (k : TypeKey) : Except Error Table × Catalog :=
  match c.known.lookup k with
  | some t => (.ok t, c)
  | none =>
    match c.settings.table k.decl with
    | .ok t => (.ok t, { c with known := (k, t) :: c.known })
    | .error e => (.error e, c)

end Catalog

end EntitySql
