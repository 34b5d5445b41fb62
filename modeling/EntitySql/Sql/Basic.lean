/-
  SQL text with parameters. A text never holds a value: each value has a placeholder `?` in the text
  and a place among the parameters, in the same order.
-/
import EntitySql.Value.Basic

namespace EntitySql

/-- A statement, or a part of one, with the parameters of its placeholders. -/
structure Sql where
  text : String
  params : List Value
  deriving DecidableEq

namespace Sql

/-- Text without parameters. -/
def plain (text : String) : Sql := ⟨text, []⟩

instance : Append Sql := ⟨fun a b => ⟨a.text ++ b.text, a.params ++ b.params⟩⟩

/-- The parts one after the other, with the same text between any two of them. -/
def joined (separator : String) (parts : List Sql) : Sql :=
  ⟨separator.intercalate (parts.map text), parts.flatMap params⟩

/-- The part behind parameters that come first. -/
def after (bound : List Value) (part : Sql) : Sql := { part with params := bound ++ part.params }

def placeholderCount (s : Sql) : Nat := s.text.toList.count '?'

@[simp] theorem text_append (a b : Sql) : (a ++ b).text = a.text ++ b.text := rfl

@[simp] theorem params_append (a b : Sql) : (a ++ b).params = a.params ++ b.params := rfl

@[simp] theorem text_plain (t : String) : (plain t).text = t := rfl

@[simp] theorem params_plain (t : String) : (plain t).params = [] := rfl

@[simp] theorem placeholderCount_append (a b : Sql) :
    (a ++ b).placeholderCount = a.placeholderCount + b.placeholderCount := by
  simp [placeholderCount, String.toList_append]

end Sql

/-- `n` placeholders with commas between them. -/
def placeholders (n : Nat) : String := ", ".intercalate (List.replicate n "?")

/-- What is sent to the database to carry out a write. -/
inductive Write where
  | single (statement : Sql)
  /-- One text, run once with each list of parameters. -/
  | batch (text : String) (paramSets : List (List Value))
  deriving DecidableEq

def Write.text : Write → String
  | .single statement => statement.text
  | .batch text _ => text

end EntitySql
