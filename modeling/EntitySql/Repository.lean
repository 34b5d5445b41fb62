/-
  Repositories: reading and writing the elements of one entity through a session. Every statement
  of an operation is written before the first one is sent, so an operation that cannot be written
  sends nothing.
-/
import EntitySql.Entity.Catalog
import EntitySql.Result.Counted
import EntitySql.Result.Mapping
import EntitySql.Session.Basic
import EntitySql.Sql.Change
import EntitySql.Sql.Select

namespace EntitySql

/-- The elements of type `α` behind a session. The table is an error when the declaration of the
entity is not valid, and then no operation gets further. -/
structure Repository (σ α : Type) where
  settings : Settings
  session : Session σ
  type : EntityType α
  table : Except Error Table

namespace Repository

variable {σ α : Type}

/-- The repository of an entity under some settings. -/
def of (settings : Settings) (session : Session σ) (type : EntityType α) : Repository σ α :=
  ⟨settings, session, type, settings.table type.decl⟩

/-! ## Reading -/

/-- Sends a select statement and reads the answer as elements. -/
def read (r : Repository σ α) (t : Table) (statement : Sql) : Access σ (List α) := do
  return (← r.session.sendQuery statement).elements t r.type

/-- The elements that a query finds. -/
def find (r : Repository σ α) (q : Query) : Access σ (List α) := do
  let t ← .lift r.table
  r.read t (← .lift (q.selectSql r.settings t))

/-- How many elements meet the condition of a query. -/
def count (r : Repository σ α) (q : Query) : Access σ UInt64 := do
  let t ← .lift r.table
  let answer ← r.session.sendQuery (← .lift (q.countSql r.settings t))
  .lift answer.count

/-- The elements that a query finds with the count of all that meet its condition. When that is
zero, they are not asked for. -/
def findCounted (r : Repository σ α) (q : Query) : Access σ (Counted α) := do
  let t ← .lift r.table
  let count ← .lift (q.countSql r.settings t)
  let select ← .lift (q.selectSql r.settings t)
  let answer ← r.session.sendQuery count
  let total ← .lift answer.count
  if total = 0 then return .empty
  else return ⟨← r.read t select, total⟩

/-- The rows that a query finds, as maps with renamed labels as keys. -/
def findKeyed (r : Repository σ α) (q : Query) : Access σ (List ResultSet.KeyedRow) := do
  let t ← .lift r.table
  let answer ← r.session.sendQuery (← .lift (q.selectSql r.settings t))
  return answer.keyedRows r.settings.keyNaming

/-- The elements that meet a condition. -/
def findWhere (r : Repository σ α) (condition : Condition) : Access σ (List α) :=
  r.find (.whereOnly condition)

/-- The primary key as an operand. -/
def keyOperand (t : Table) : Operand := .field t.key.field

/-- The element with a primary key. There is none for NULL, and nothing is sent then. -/
def findById (r : Repository σ α) (id : Value) : Access σ (Option α) := do
  if id.isNull then return none
  else
    let t ← .lift r.table
    return (← r.findWhere ((keyOperand t).equals id)).head?

/-- Sends select statements one after the other and joins what they find. -/
def readAll (r : Repository σ α) (t : Table) : List Sql → Access σ (List α)
  | [] => return []
  | statement :: rest => do
    let found ← r.read t statement
    return found ++ (← r.readAll t rest)

/-- The elements with one of several primary keys. Long lists of keys take several statements. -/
def findByIds (r : Repository σ α) (ids : List Value) : Access σ (List α) := do
  if ids.isEmpty then return []
  else
    let t ← .lift r.table
    let statements ← .lift <| (chunks r.settings.dialect.maxParams ids).mapM fun piece =>
      (Query.whereOnly (.isIn (keyOperand t) piece)).selectSql r.settings t
    r.readAll t statements

/-- The elements for which an operand has a value. -/
def findBy (r : Repository σ α) (operand : Operand) (value : Value) : Access σ (List α) :=
  r.findWhere (operand.equals value)

/-- The first of the elements for which an operand has a value. -/
def findOneBy (r : Repository σ α) (operand : Operand) (value : Value) : Access σ (Option α) := do
  return (← r.findBy operand value).head?

/-! ## Writing -/

/-- Writes the statements of all mutations, then sends them in order. -/
def write (r : Repository σ α) (t : Table) (mutations : List Mutation) : Access σ UInt64 := do
  let writes ← .lift (mutations.mapM fun m => m.writes r.settings t r.session.multiRow)
  r.session.sendWrites writes.flatten

/-- Sends a mutation that may depend on the table. -/
def writeOne (r : Repository σ α) (mutation : Table → Mutation) : Access σ UInt64 := do
  let t ← .lift r.table
  r.write t [mutation t]

/-- The target that is the row of an element. -/
def targetOf (t : Table) (row : Row) : Target := .key (t.keyValue row)

/-- Sets the fields of stored elements, found by their primary keys, that are not NULL here. -/
def updateAll (r : Repository σ α) (elements : List α) : Access σ UInt64 := do
  let t ← .lift r.table
  r.write t (elements.map fun x => .update (r.type.toRow x) (targetOf t (r.type.toRow x)))

def update (r : Repository σ α) (element : α) : Access σ UInt64 := r.updateAll [element]

/-- Sets the fields that are not NULL in all elements that meet a condition. -/
def updateWhere (r : Repository σ α) (element : α) (condition : Condition) : Access σ UInt64 :=
  r.writeOne fun _ => .update (r.type.toRow element) (.matching condition)

def updateBy (r : Repository σ α) (element : α) (operand : Operand) (value : Value) :
    Access σ UInt64 :=
  r.updateWhere element (operand.equals value)

/-- Sets all fields of stored elements, found by their primary keys. -/
def replaceAll (r : Repository σ α) (elements : List α) : Access σ UInt64 := do
  let t ← .lift r.table
  r.write t (elements.map fun x => .replace (r.type.toRow x) (targetOf t (r.type.toRow x)))

def replace (r : Repository σ α) (element : α) : Access σ UInt64 := r.replaceAll [element]

def deleteById (r : Repository σ α) (id : Value) : Access σ UInt64 :=
  r.writeOne fun _ => .delete (.key id)

def deleteByIds (r : Repository σ α) (ids : List Value) : Access σ UInt64 :=
  if ids.isEmpty then return 0 else r.writeOne fun _ => .delete (.keys ids)

def deleteWhere (r : Repository σ α) (condition : Condition) : Access σ UInt64 :=
  r.writeOne fun _ => .delete (.matching condition)

def deleteBy (r : Repository σ α) (operand : Operand) (value : Value) : Access σ UInt64 :=
  r.deleteWhere (operand.equals value)

/-- Deletes the row with the primary key of an element. -/
def delete (r : Repository σ α) (element : α) : Access σ UInt64 :=
  r.writeOne fun t => .delete (targetOf t (r.type.toRow element))

/-- Deletes the rows with the primary keys of elements, none if one of these is NULL. -/
def deleteAll (r : Repository σ α) (elements : List α) : Access σ UInt64 := do
  if elements.isEmpty then return 0
  else
    let t ← .lift r.table
    let keys := elements.map fun x => t.keyValue (r.type.toRow x)
    if keys.any Value.isNull then .lift (.error (.unconditional .delete t.sql))
    else r.write t [.delete (.keys keys)]

/-- Inserts elements. -/
def saveAll (r : Repository σ α) (elements : List α) : Access σ UInt64 :=
  if elements.isEmpty then return 0
  else r.writeOne fun _ => .insert (elements.map r.type.toRow)

def save (r : Repository σ α) (element : α) : Access σ UInt64 := r.saveAll [element]

end Repository

/-! ## Gateways -/

/-- A session with a catalogue of the tables that have been used through it. -/
structure Gateway (σ : Type) where
  session : Session σ
  catalog : Catalog

namespace Gateway

variable {σ : Type}

def start (session : Session σ) (settings : Settings) : Gateway σ := ⟨session, .empty settings⟩

/-- The repository of an entity, whose table is worked out on first use only. -/
def repository {α : Type} (g : Gateway σ) (type : EntityType α) : Repository σ α × Gateway σ :=
  let (table, catalog) := g.catalog.table type.toTypeKey
  (⟨catalog.settings, g.session, type, table⟩, { g with catalog })

end Gateway

end EntitySql
