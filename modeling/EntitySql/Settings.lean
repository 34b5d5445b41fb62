/-
  Settings: for which database statements are written and how names are treated.
-/
import EntitySql.Database.Basic
import EntitySql.Error
import EntitySql.Naming.Pattern

namespace EntitySql

structure Settings where
  database : Database
  /-- Identifiers that are reserved words are put in quotes. -/
  escapeKeywords : Bool
  /-- Makes names of tables and columns out of those of entities and fields. -/
  tableNaming : NamingPattern
  /-- Oracle 12 and later can page without counting rows. -/
  oracleOffsetFetch : Bool
  /-- Makes keys out of the labels of a result. -/
  keyNaming : NamingPattern
  deriving DecidableEq

namespace Settings

/-- The settings for a database where nothing else is chosen. -/
def forDatabase (database : Database) : Settings :=
  { database, escapeKeywords := true, tableNaming := .verbatim, oracleOffsetFetch := false
    keyNaming := .verbatim }

instance : Inhabited Settings := ⟨forDatabase default⟩

/-- Settings that name no database at all are refused. -/
def validate (s : Settings) : Except Error Unit :=
  if s.database = .other "" then .error .unnamedDatabase else .ok ()

end Settings

end EntitySql
