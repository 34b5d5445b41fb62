/-
  Conditions: filters as trees of predicates, joined by AND and OR.
-/
import EntitySql.Value.Basic

namespace EntitySql

/-- What a predicate is about, and what is selected or ordered by. -/
inductive Operand where
  /-- A field of the entity. -/
  | field (name : String)
  /-- A column of the database; its name is used as it is. -/
  | column (name : String)
  deriving DecidableEq

def Operand.name : Operand → String
  | .field name | .column name => name

inductive CompareOp where
  | eq | ne | gt | ge | lt | le | like
  deriving DecidableEq

def CompareOp.sql : CompareOp → String
  | .eq => "="
  | .ne => "!="
  | .gt => ">"
  | .ge => ">="
  | .lt => "<"
  | .le => "<="
  | .like => "LIKE"

inductive Logic where
  | and
  | or
  deriving DecidableEq

def Logic.sql : Logic → String
  | .and => "AND"
  | .or => "OR"

/-- A filter. A group without any predicate in it filters nothing and is passed over. -/
inductive Condition where
  | compare (operand : Operand) (op : CompareOp) (value : Value)
  | isIn (operand : Operand) (values : List Value)
  | between (operand : Operand) (low high : Value)
  | nullTest (operand : Operand) (isNull : Bool)
  | group (logic : Logic) (children : List Condition)

namespace Condition

/-- The group of no predicates. -/
def all (children : List Condition) : Condition := .group .and children

def any (children : List Condition) : Condition := .group .or children

instance : Inhabited Condition := ⟨all []⟩

/-- A comparison. Equality with NULL, which holds nowhere in SQL, becomes a test for NULL. -/
def comparing (operand : Operand) (op : CompareOp) (value : Value) : Condition :=
  match op, value.isNull with
  | .eq, true => .nullTest operand true
  | .ne, true => .nullTest operand false
  | _, _ => .compare operand op value

mutual

/-- There is no predicate in the condition. -/
def isEmpty : Condition → Bool
  | .group _ children => allEmpty children
  | _ => false

/-- There is no predicate in any of the conditions. -/
def allEmpty : List Condition → Bool
  | [] => true
  | c :: rest => isEmpty c && allEmpty rest

end

/-- Joins a second condition to a first one. A first one that is a group of this logic, or a group
without children, takes the second one in. -/
def combine (logic : Logic) (first second : Condition) : Condition :=
  match first with
  | .group current children =>
    if current = logic ∨ children = [] then .group logic (children ++ [second])
    else .group logic [first, second]
  | _ => .group logic [first, second]

protected def and (first second : Condition) : Condition := combine .and first second

protected def or (first second : Condition) : Condition := combine .or first second

end Condition

namespace Operand

/-- The operand has a value, tested as `Condition.comparing` does. -/
def equals (o : Operand) (value : Value) : Condition := .comparing o .eq value

end Operand

end EntitySql
