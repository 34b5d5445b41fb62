/-
  Scripted sessions: rehearsals without a database, in which each call takes the next of a list of
  prepared replies.
-/
import EntitySql.Session.Basic

namespace EntitySql

inductive Reply where
  | rows (result : ResultSet)
  | affected (count : UInt64)
  | failure (text : String)

namespace Script

/-- Takes the next reply, and what it says to `read`; a reply of the wrong sort, or none at all,
stands for `otherwise`. -/
def next {α : Type} (read : Reply → Option α) (otherwise : α) :
    List Reply → Except String α × List Reply
  | [] => (.ok otherwise, [])
  | .failure text :: rest => (.error text, rest)
  | reply :: rest => (.ok ((read reply).getD otherwise), rest)

def rows? : Reply → Option ResultSet
  | .rows result => some result
  | _ => none

def affected? : Reply → Option UInt64
  | .affected count => some count
  | _ => none

/-- The session that follows a script. Without a reply a query finds nothing, an update changes one
row and a batch one row for each list of parameters. -/
def session (ownBatch multiRow : Bool) : Session (List Reply) where
  query _ := next rows? .empty
  update _ := next affected? 1
  batch? :=
    if ownBatch then some fun _ paramSets => next affected? (UInt64.ofNat paramSets.length)
    else none
  multiRow

end Script

end EntitySql
