/-
  Dialects: quotes, limits and paging of the database products.
-/
import EntitySql.Database.ReservedWords
import EntitySql.Query.Page
import EntitySql.Settings
import EntitySql.Sql.Basic

namespace EntitySql

/-- How a page is attached to a select statement. -/
inductive Paging where
  /-- `LIMIT ? OFFSET ?` -/
  | limitOffset
  /-- `OFFSET ? ROWS FETCH NEXT ? ROWS ONLY` -/
  | offsetFetch
  /-- The statement becomes a subquery whose rows are counted with `ROWNUM`. -/
  | rowNumber
  deriving DecidableEq

/-- A database with the choice between the two ways of paging that it may have. -/
structure Dialect where
  database : Database
  oracleOffsetFetch : Bool
  deriving DecidableEq

/-- The dialect that the settings ask for. -/
def Settings.dialect (s : Settings) : Dialect := ⟨s.database, s.oracleOffsetFetch⟩

namespace Dialect

def paging (d : Dialect) : Paging :=
  match d.database with
  | .oracle => if d.oracleOffsetFetch then .offsetFetch else .rowNumber
  | .sqlServer => .offsetFetch
  | _ => .limitOffset

/-- The opening and the closing quote of identifiers. -/
def quotes (d : Dialect) : Char × Char :=
  match d.database with
  | .mySql => ('\x60', '\x60')
  | .sqlServer => ('[', ']')
  | _ => ('"', '"')

/-- The identifier in quotes. -/
def quote (d : Dialect) (identifier : String) : String :=
  String.singleton d.quotes.1 ++ identifier ++ String.singleton d.quotes.2

/-- An insert statement may hold several rows. -/
def multiRow (d : Dialect) : Bool := d.database ≠ .oracle

/-- The most parameters that a statement may have. -/
def maxParams (d : Dialect) : Nat :=
  match d.database with
  | .sqlServer => 2100
  | .sqlite | .other _ => 32766
  | .mySql | .postgreSql | .oracle | .dm => 65535

theorem maxParams_pos (d : Dialect) : 0 < d.maxParams := by
  rw [maxParams]
  split <;> decide

/-- The longest list of values after `IN`, where there is a limit to it. -/
def inListLimit? (d : Dialect) : Option Nat :=
  if d.database = .oracle then some 1000 else none

theorem inListLimit?_pos {d : Dialect} {limit : Nat} (h : d.inListLimit? = some limit) :
    0 < limit := by
  rw [inListLimit?] at h
  split at h
  · cases h
    decide
  · cases h

/-- A 64-bit natural number as a parameter; what is too large becomes the largest integer. -/
def countParameter (n : UInt64) : Value :=
  .integer (Int64.ofInt (min n.toNat Int64.maxValue.toInt))

/-- Restricts a select statement to a page. The page's parameters follow those of the statement. -/
def paginate (d : Dialect) (statement : Sql) (page : Page) (ordered : Bool) : Except Error Sql :=
  match d.paging with
  | .limitOffset =>
    .ok (statement ++ ⟨" LIMIT ? OFFSET ?", [countParameter page.limit, countParameter page.offset]⟩)
  | .offsetFetch =>
    if d.database = .sqlServer ∧ ordered = false then .error .unorderedPage
    else .ok (statement ++ ⟨" OFFSET ? ROWS FETCH NEXT ? ROWS ONLY",
      [countParameter page.offset, countParameter page.limit]⟩)
  | .rowNumber =>
    .ok (.plain "SELECT * FROM (SELECT ez_t.*, ROWNUM ez_rn FROM (" ++ statement ++
      ⟨") ez_t WHERE ROWNUM <= ?) WHERE ez_rn > ?",
        [countParameter page.finish, countParameter page.offset]⟩)

end Dialect

end EntitySql
