/-
  Naming patterns: how the names of entities and fields become those of tables and columns, and how
  the labels of a result become keys.
-/
import EntitySql.Naming.Words
import EntitySql.Text.Ascii
import EntitySql.Text.Blank

namespace EntitySql

inductive NamingPattern where
  /-- Names stay as they are. -/
  | verbatim
  | lowerCase
  | upperCase
  /-- `UserAccount` becomes `user_account`. -/
  | lowerSnake
  /-- `UserAccount` becomes `USER_ACCOUNT`. -/
  | upperSnake
  /-- `user_account` becomes `userAccount`. -/
  | camel
  deriving DecidableEq, Inhabited

namespace NamingPattern

def apply : NamingPattern → String → String
  | .verbatim, name => name
  | .lowerCase, name => Text.lower name
  | .upperCase, name => Text.upper name
  | .lowerSnake, name => Naming.snake name
  | .upperSnake, name => Text.upper (Naming.snake name)
  | .camel, name => Naming.camel name

/-- The pattern's own name. -/
def label : NamingPattern → String
  | .verbatim => "original"
  | .lowerCase => "lower_case"
  | .upperCase => "upper_case"
  | .lowerSnake => "lower_snake"
  | .upperSnake => "upper_snake"
  | .camel => "camel"

def all : List NamingPattern :=
  [.verbatim, .lowerCase, .upperCase, .lowerSnake, .upperSnake, .camel]

/-- Under which further names a pattern is known. -/
def synonyms : NamingPattern → List String
  | .verbatim => []
  | .lowerCase => ["lowercase"]
  | .upperCase => ["uppercase"]
  | .lowerSnake => ["hump_to_underline_lower"]
  | .upperSnake => ["hump_to_underline_upper"]
  | .camel => ["hump"]

/-- A name of a pattern as people write it: blanks around it, the case of its letters, and whether
its words are joined by hyphens do not matter. -/
def normalized (s : String) : String :=
  String.ofList <| (Text.trim s.toList).map fun c =>
    if c = '-' then '_' else c.toLower

/-- The pattern with the given name, or what is wrong with that name. -/
def ofName (s : String) : Except String NamingPattern :=
  let name := normalized s
  match all.find? fun p => p.label = name || p.synonyms.contains name with
  | some p => .ok p
  | none => .error ("unknown naming pattern '" ++ name ++ "'")

end NamingPattern

end EntitySql
