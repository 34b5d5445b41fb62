/-
  Queries: which rows of an entity are read, what of them, in which order, and which page.
-/
import EntitySql.Query.Condition
import EntitySql.Query.Page

namespace EntitySql

inductive Direction where
  | ascending
  | descending
  deriving DecidableEq, Inhabited

def Direction.sql : Direction → String
  | .ascending => "ASC"
  | .descending => "DESC"

structure OrderItem where
  operand : Operand
  direction : Direction
  deriving DecidableEq

structure Query where
  condition : Condition
  order : List OrderItem
  /-- What is selected; if nothing is listed, every column. -/
  projection : List Operand
  page : Option Page

namespace Query

/-- The query for every row. -/
def all : Query := ⟨default, [], [], none⟩

instance : Inhabited Query := ⟨all⟩

/-- The query for the rows that meet a condition. -/
def whereOnly (condition : Condition) : Query := { all with condition }

def isOrdered (q : Query) : Bool := !q.order.isEmpty

/-- Keeps only rows that meet a further condition. -/
def filter (q : Query) (condition : Condition) : Query :=
  { q with condition := q.condition.and condition }

def orderBy (q : Query) (item : OrderItem) : Query := { q with order := q.order ++ [item] }

def select (q : Query) (operands : List Operand) : Query :=
  { q with projection := q.projection ++ operands }

def withPage (q : Query) (page : Page) : Query := { q with page := some page }

/-- The first rows only. -/
def limit (q : Query) (n : UInt64) : Query := q.withPage ⟨0, n⟩

end Query

end EntitySql
