/-
  Values as text for people: explanations of parameters and messages show them this way.
-/
import EntitySql.Calendar.Writer
import EntitySql.Decimal.Shortest
import EntitySql.Value.Basic

namespace EntitySql

/-- A text between single quotes, with the quotes inside it written twice. -/
def quoted (s : String) : String :=
  "'" ++ String.ofList (s.toList.flatMap fun c => if c = '\'' then ['\'', '\''] else [c]) ++ "'"

def Value.display : Value → String
  | .null => "NULL"
  | .boolean b => if b then "true" else "false"
  | .integer i => toString i.toInt
  | .float x => x.text
  | .timestamp t => "'" ++ t.text ' ' ++ "'"
  | .text s => quoted s

end EntitySql
