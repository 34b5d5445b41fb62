/-
  Settings in documents. Whatever is left out keeps its default.
-/
import EntitySql.Json.Decode
import EntitySql.Json.Writer
import EntitySql.Settings

namespace EntitySql

open Json

namespace NamingPattern

/-- The names of patterns that documents may use. -/
def documentNames : List (String × NamingPattern) :=
  [("original", .verbatim), ("ORIGINAL", .verbatim),
    ("lower_case", .lowerCase), ("LOWER_CASE", .lowerCase),
    ("upper_case", .upperCase), ("UPPER_CASE", .upperCase),
    ("lower_snake", .lowerSnake), ("LOWER_SNAKE", .lowerSnake),
    ("HUMP_TO_UNDERLINE_LOWER", .lowerSnake),
    ("upper_snake", .upperSnake), ("UPPER_SNAKE", .upperSnake),
    ("HUMP_TO_UNDERLINE_UPPER", .upperSnake),
    ("camel", .camel), ("CAMEL", .camel), ("HUMP", .camel)]

def toJson (p : NamingPattern) : Json := .text p.label

def ofJson (r : Reading) (j : Json) : Decoded NamingPattern :=
  asChoice "naming pattern" documentNames r j

end NamingPattern

namespace Settings

def toJson (s : Settings) : Json :=
  .ofMembers [("dbType", .text s.database.name), ("escapeKeyword", .bool s.escapeKeywords),
    ("tableNamePattern", s.tableNaming.toJson),
    ("enableOracleOffsetFetchPage", .bool s.oracleOffsetFetch),
    ("mapRetKeyPattern", s.keyNaming.toJson)]

def memberNames : List String :=
  ["dbType", "escapeKeyword", "tableNamePattern", "enableOracleOffsetFetchPage",
    "mapRetKeyPattern"]

def ofJson (r : Reading) (j : Json) : Decoded Settings := do
  let defaults : Settings := default
  match ← members r memberNames j with
  | (r, [database, escape, tables, offsetFetch, keys]) =>
    return {
      database := ← optionalOr defaults.database (fun j => do return .ofName (← asText j)) database
      escapeKeywords := ← optionalOr defaults.escapeKeywords asBool escape
      tableNaming := ← optionalOr defaults.tableNaming (NamingPattern.ofJson r) tables
      oracleOffsetFetch := ← optionalOr defaults.oracleOffsetFetch asBool offsetFetch
      keyNaming := ← optionalOr defaults.keyNaming (NamingPattern.ofJson r) keys }
  | _ => throw .malformed

/-- The valid settings that a text spells. -/
def read (s : String) : Except Error Settings := do
  let settings ← (decodeText ofJson s).mapError fun e => .unreadableSettings e.message
  settings.validate
  return settings

end Settings

end EntitySql
