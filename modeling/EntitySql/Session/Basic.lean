/-
  Sessions: the connections to a database that statements are sent through, and what has been sent.
-/
import EntitySql.Result.Basic
import EntitySql.Sql.Basic

namespace EntitySql

/-- A connection with a state of type `σ`. Whatever is sent to it either succeeds or fails with a
text, and may change the state. -/
structure Session (σ : Type) where
  query : Sql → σ → Except String ResultSet × σ
  update : Sql → σ → Except String UInt64 × σ
  /-- Runs one text with several lists of parameters, where the connection can do so itself. -/
  batch? : Option (String → List (List Value) → σ → Except String UInt64 × σ)
  /-- Inserts of several rows are accepted. -/
  multiRow : Bool

/-- What a session has been asked to do. -/
inductive Call where
  | query (statement : Sql)
  | update (statement : Sql)
  | batch (text : String) (paramSets : List (List Value))
  deriving DecidableEq

/-- A session in use: its state and the calls made so far. -/
structure Link (σ : Type) where
  state : σ
  calls : Array Call

def Link.start {σ : Type} (state : σ) : Link σ := ⟨state, #[]⟩

/-- A computation that uses a session and may fail. What was sent before a failure stays sent. -/
def Access (σ α : Type) := Link σ → Except Error α × Link σ

namespace Access

variable {σ α β : Type}

instance : Monad (Access σ) where
  pure a link := (.ok a, link)
  bind m f link :=
    match m link with
    | (.ok a, link) => f a link
    | (.error e, link) => (.error e, link)

/-- A result that needs no session. -/
def lift (r : Except Error α) : Access σ α := fun link => (r, link)

theorem pure_apply (a : α) (link : Link σ) : (pure a : Access σ α) link = (.ok a, link) := rfl

theorem bind_apply (m : Access σ α) (f : α → Access σ β) (link : Link σ) :
    (m >>= f) link =
      match m link with
      | (.ok a, link) => f a link
      | (.error e, link) => (.error e, link) := rfl

theorem bind_pure (m : Access σ α) : m >>= pure = m := by
  funext link
  rw [bind_apply]
  split
  · next h => exact h.symm
  · next h => exact h.symm

theorem lift_ok (a : α) : (lift (.ok a) : Access σ α) = pure a := rfl

end Access

namespace Session

variable {σ : Type}

/-! ## Sending -/

/-- Makes a call and notes it; a failure of the session becomes an execution error. -/
def send {α : Type} (call : Call) (act : σ → Except String α × σ) : Access σ α := fun link =>
  let (answer, state) := act link.state
  (answer.mapError .execution, ⟨state, link.calls.push call⟩)

def sendQuery (s : Session σ) (statement : Sql) : Access σ ResultSet :=
  send (.query statement) (s.query statement)

def sendUpdate (s : Session σ) (statement : Sql) : Access σ UInt64 :=
  send (.update statement) (s.update statement)

/-- Adds up the results of computations on a list, up to the first failure. -/
def sumOver {α : Type} (act : α → Access σ UInt64) (total : UInt64) : List α → Access σ UInt64
  | [], link => (.ok total, link)
  | x :: rest, link =>
    match act x link with
    | (.ok n, link) => sumOver act (total + n) rest link
    | (.error e, link) => (.error e, link)

/-- Runs a text with several lists of parameters: by one call if the session can do that, else by
one call for each list. -/
def sendBatch (s : Session σ) (text : String) (paramSets : List (List Value)) : Access σ UInt64 :=
  match s.batch? with
  | some batch => send (.batch text paramSets) (batch text paramSets)
  | none => sumOver (fun params => s.sendUpdate ⟨text, params⟩) 0 paramSets

def sendWrite (s : Session σ) : Write → Access σ UInt64
  | .single statement => s.sendUpdate statement
  | .batch text paramSets => s.sendBatch text paramSets

/-- Runs writes one after the other, up to the first failure, and counts the rows they changed. -/
def sendWrites (s : Session σ) (writes : List Write) : Access σ UInt64 :=
  sumOver s.sendWrite 0 writes

end Session

end EntitySql
