/-
  The database products that statements are written for.
-/
import EntitySql.Text.Ascii
import EntitySql.Text.Blank

namespace EntitySql

inductive Database where
  | mySql
  | oracle
  /-- Dameng: identifiers as in Oracle, paging as in MySQL. -/
  | dm
  | postgreSql
  | sqlServer
  | sqlite
  /-- A product without rules of its own, by the name it was given. -/
  | other (name : String)
  deriving DecidableEq

namespace Database

instance : Inhabited Database := ⟨.mySql⟩

def name : Database → String
  | .mySql => "mysql"
  | .oracle => "oracle"
  | .dm => "dm"
  | .postgreSql => "postgresql"
  | .sqlServer => "sqlserver"
  | .sqlite => "sqlite"
  | .other name => name

/-- The product known by a name in small letters. -/
def known? : String → Option Database
  | "mysql" | "mariadb" => some .mySql
  | "oracle" => some .oracle
  | "dm" | "dameng" => some .dm
  | "postgresql" | "postgres" | "pg" => some .postgreSql
  | "sqlserver" | "sql_server" | "mssql" => some .sqlServer
  | "sqlite" => some .sqlite
  | _ => none

/-- The product with a name; blanks around it and the case of its letters do not matter. -/
def ofName (s : String) : Database :=
  let trimmed := String.ofList (Text.trim s.toList)
  (known? (Text.asciiLower trimmed)).getD (.other trimmed)

end Database

end EntitySql
