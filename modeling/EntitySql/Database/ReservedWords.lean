/-
  Reserved words: the identifiers that a database product does not accept without quotes.
-/
import EntitySql.Database.Basic

namespace EntitySql.Database

/-- Reserved by every product. -/
def commonWords : List String :=
  ["ADD", "ALL", "ALTER", "AND", "ANY", "AS", "ASC", "BETWEEN", "BY", "CASE", "CHECK", "COLUMN",
   "CONSTRAINT", "CREATE", "CROSS", "CURRENT", "DATE", "DEFAULT", "DELETE", "DESC", "DISTINCT",
   "DROP", "ELSE", "END", "EXISTS", "FALSE", "FOR", "FOREIGN", "FROM", "FULL", "GRANT", "GROUP",
   "HAVING", "IN", "INDEX", "INNER", "INSERT", "INTERSECT", "INTO", "IS", "JOIN", "KEY", "LEFT",
   "LIKE", "NOT", "NULL", "OF", "ON", "OR", "ORDER", "OUTER", "PRIMARY", "REFERENCES", "RIGHT",
   "SELECT", "SET", "TABLE", "THEN", "TO", "TRUE", "UNION", "UNIQUE", "UPDATE", "USER", "USING",
   "VALUES", "VIEW", "WHEN", "WHERE", "WITH"]

/-- Reserved by MySQL as well. -/
def mySqlWords : List String :=
  ["CHANGE", "CONDITION", "DATABASE", "DESCRIBE", "DIV", "DUAL", "EXPLAIN", "FULLTEXT", "IGNORE",
   "INTERVAL", "KEYS", "KILL", "LIMIT", "LOCK", "MATCH", "MOD", "RANGE", "READ", "REGEXP",
   "RELEASE", "RENAME", "REPLACE", "RLIKE", "SCHEMA", "SHOW", "STATUS", "RANK", "ROW", "ROWS",
   "SEPARATOR", "SPATIAL", "USAGE", "WRITE", "XOR"]

/-- Reserved by Oracle and Dameng as well. -/
def oracleWords : List String :=
  ["ACCESS", "AUDIT", "CLUSTER", "COMMENT", "COMPRESS", "EXCLUSIVE", "FILE", "IDENTIFIED",
   "IMMEDIATE", "INCREMENT", "INITIAL", "LEVEL", "LOCK", "LONG", "MAXEXTENTS", "MINUS", "MODE",
   "MODIFY", "NOAUDIT", "NOCOMPRESS", "NUMBER", "OFFLINE", "ONLINE", "OPTION", "PCTFREE", "PRIOR",
   "RAW", "RENAME", "RESOURCE", "ROW", "ROWID", "ROWNUM", "ROWS", "SESSION", "SIZE", "START",
   "SUCCESSFUL", "SYNONYM", "SYSDATE", "TRIGGER", "UID", "VALIDATE", "VARCHAR", "VARCHAR2",
   "WHENEVER"]

/-- Reserved by PostgreSQL as well. -/
def postgreSqlWords : List String :=
  ["ANALYSE", "ANALYZE", "ARRAY", "ASYMMETRIC", "BOTH", "CAST", "COLLATE", "CURRENT_USER",
   "DEFERRABLE", "DO", "EXCEPT", "FETCH", "ILIKE", "INITIALLY", "LATERAL", "LEADING", "LIMIT",
   "OFFSET", "ONLY", "PLACING", "RETURNING", "SESSION_USER", "SOME", "SYMMETRIC", "TRAILING",
   "VARIADIC", "WINDOW"]

/-- Reserved by SQL Server as well. -/
def sqlServerWords : List String :=
  ["BACKUP", "BREAK", "BROWSE", "BULK", "CLUSTERED", "COMPUTE", "CONTAINS", "DATABASE", "DENY",
   "DISK", "DUMP", "ERRLVL", "EXEC", "EXECUTE", "FILE", "FILLFACTOR", "IDENTITY", "KILL",
   "LINENO", "MERGE", "NOCHECK", "OFFSETS", "OPEN", "OVER", "PERCENT", "PIVOT", "PLAN", "PRINT",
   "PROC", "PUBLIC", "RULE", "SCHEMA", "TOP", "TRAN", "TRUNCATE", "VARYING"]

/-- Reserved by SQLite as well. -/
def sqliteWords : List String :=
  ["ABORT", "AUTOINCREMENT", "CONFLICT", "FAIL", "GLOB", "INDEXED", "ISNULL", "LIMIT", "NOTNULL",
   "OFFSET", "PRAGMA", "RAISE", "REGEXP", "REINDEX", "REPLACE", "VACUUM"]

/-- The lists whose words a product reserves; one without rules of its own reserves them all. -/
def reservedLists : Database → List (List String)
  | .mySql => [commonWords, mySqlWords]
  | .oracle | .dm => [commonWords, oracleWords]
  | .postgreSql => [commonWords, postgreSqlWords]
  | .sqlServer => [commonWords, sqlServerWords]
  | .sqlite => [commonWords, sqliteWords]
  | .other _ =>
    [commonWords, mySqlWords, oracleWords, postgreSqlWords, sqlServerWords, sqliteWords]

/-- The identifier is a reserved word, in whatever case it is written. -/
def isReserved (db : Database) (identifier : String) : Bool :=
  let word := Text.asciiUpper identifier
  db.reservedLists.any fun words => words.contains word

/-- The reserved words, each once and in alphabetical order. -/
def reservedWords (db : Database) : List String :=
  (db.reservedLists.flatten.mergeSort fun a b => decide (a ≤ b)).eraseReps

theorem isReserved_iff {db : Database} {identifier : String} :
    db.isReserved identifier = true ↔
      ∃ words ∈ db.reservedLists, Text.asciiUpper identifier ∈ words := by
  simp [isReserved]

end EntitySql.Database
