/-
  A session on a table that stores records.

  It takes inserts, whose records it keeps in the order in which they come, and answers a selection of
  all rows with what the records hold for the columns that are selected, under the names of these
  columns. Whether texts with several lists of parameters are run by the session itself makes no
  difference to what is stored (`Session.adds_sendWrites`).
-/
import EntitySql.Proofs.Entity.Validity
import EntitySql.Proofs.Insert.Storage
import EntitySql.Proofs.Statement.Selection
import EntitySql.Proofs.Storage.Unnamed
import EntitySql.Session.Basic

namespace EntitySql

namespace Table

/-- Stores the records of an insert behind the others and counts them. -/
def store (t : Table) (write : Write) (records : List Record) :
    Except String UInt64 × List Record :=
  match Insert.read? t.sql write with
  | some new => (.ok (.ofNat new.length), records ++ new)
  | none => (.error "not an insert", records)

/-- The columns that a statement without a WHERE part selects, if there are as many as the table
has. -/
def selected? (t : Table) (statement : Sql) : Option (List Column) := do
  let rest ← "SELECT ".toList.isPrefixOf? statement.text.toList
  let names ← Record.readNames t.columns.length (← (" FROM " ++ t.sql).toList.isSuffixOf? rest)
  names.mapM fun name => t.columns.find? fun c => decide (c.sql = name)

/-- What the records hold for some columns, under the names of the columns. A column that was not
written is NULL. -/
def answer (columns : List Column) (records : List Record) : ResultSet where
  labels := columns.map Column.name
  rows := records.map fun record => columns.map fun c => (record.value? c.sql).getD .null

end Table

/-- The session on a table that stores records. It runs texts with several lists of parameters itself
if `ownBatch`. -/
def Session.storing (t : Table) (ownBatch multiRow : Bool) : Session (List Record) where
  query statement records :=
    match t.selected? statement with
    | some columns => (.ok (Table.answer columns records), records)
    | none => (.error "not a selection of all rows", records)
  update statement := t.store (.single statement)
  batch? := if ownBatch then some fun text paramSets => t.store (.batch text paramSets) else none
  multiRow

namespace Session

variable {t : Table} {ownBatch multiRow : Bool}

/-! ## Storing -/

/-- The computation stores records behind the others and counts them. -/
def Adds (act : Access (List Record) UInt64) (new : List Record) : Prop :=
  ∀ link, ∃ calls, act link = (.ok (.ofNat new.length), ⟨link.state ++ new, calls⟩)

theorem adds_send (call : Call) {write : Write} {new : List Record}
    (h : Insert.read? t.sql write = some new) : Adds (send call (t.store write)) new := by
  intro link
  refine ⟨link.calls.push call, ?_⟩
  unfold send Table.store
  rw [h]
  rfl

/-- Computations on a list store their records one after the other. -/
theorem adds_sumOver {α : Type} {act : α → Access (List Record) UInt64}
    {read : α → Option (List Record)} (each : ∀ {x new}, read x = some new → Adds (act x) new)
    {xs : List α} {news : List (List Record)} (h : xs.mapM read = some news) :
    Adds (sumOver act 0 xs) news.flatten := by
  -- Each step goes on from the total and the records that the one before has left.
  suffices ∀ total link, ∃ calls, sumOver act total xs link =
      (.ok (total + .ofNat news.flatten.length), ⟨link.state ++ news.flatten, calls⟩) by
    intro link
    obtain ⟨calls, run⟩ := this 0 link
    exact ⟨calls, by rw [run, UInt64.zero_add]⟩
  induction xs generalizing news with
  | nil =>
    cases h
    intro total link
    exact ⟨link.calls, by simp [sumOver]⟩
  | cons x rest ih =>
    rw [List.mapM_cons] at h
    obtain ⟨new, first, h⟩ := Option.bind_eq_some_iff.1 h
    obtain ⟨others, further, h⟩ := Option.bind_eq_some_iff.1 h
    cases h
    intro total link
    obtain ⟨calls, step⟩ := each first link
    obtain ⟨calls', run⟩ := ih further (total + .ofNat new.length) ⟨link.state ++ new, calls⟩
    refine ⟨calls', ?_⟩
    rw [sumOver, step]
    dsimp only
    rw [run, List.flatten_cons, List.length_append, UInt64.ofNat_add, UInt64.add_assoc,
      List.append_assoc]

theorem adds_sendWrite {write : Write} {new : List Record}
    (h : Insert.read? t.sql write = some new) :
    Adds ((storing t ownBatch multiRow).sendWrite write) new := by
  cases write with
  | single statement => exact adds_send (.update statement) h
  | batch text paramSets =>
    unfold sendWrite sendBatch
    cases ownBatch with
    | true => exact adds_send (.batch text paramSets) h
    | false =>
      -- Each list of parameters is an insert of its own, with the records that it has in the batch.
      obtain ⟨unnamed, hunnamed, h⟩ := Option.bind_eq_some_iff.1 h
      obtain ⟨text', htext, rfl⟩ := Option.map_eq_some_iff.1 hunnamed
      obtain ⟨news, hnews, rfl⟩ := Option.map_eq_some_iff.1 h
      have each : ∀ {params new}, Insert.read? t.sql (.single ⟨text, params⟩) = some new →
          Adds ((storing t false multiRow).sendUpdate ⟨text, params⟩) new :=
        fun {params new} hnew => adds_send (.update ⟨text, params⟩) hnew
      refine adds_sumOver each ?_
      rw [← hnews]
      congr 1
      funext params
      unfold Insert.read? Insert.unnamed?
      dsimp only
      rw [htext]
      rfl

/-- Inserts that can be read store their records one after the other. -/
theorem adds_sendWrites {writes : List Write} {news : List (List Record)}
    (h : writes.mapM (Insert.read? t.sql) = some news) :
    Adds ((storing t ownBatch multiRow).sendWrites writes) news.flatten :=
  adds_sumOver adds_sendWrite h

end Session

namespace Table

variable {t : Table} (distinct : (t.columns.map Column.sql).Nodup)

include distinct

/-! ## Selecting -/

/-- The statement that reads every column selects the columns in order, whatever the table is
called. -/
theorem selected?_selectStart (plain : ∀ column ∈ t.columns, IsPlain column.sql) :
    t.selected? (.plain t.selectStart) = some t.columns := by
  have text : t.selectStart = "SELECT " ++
      (", ".intercalate (t.columns.map Column.sql) ++ (" FROM " ++ t.sql)) := by
    simp only [selectStart, String.append_assoc]
  have plain_names : ∀ name ∈ t.columns.map Column.sql, IsPlain name := List.forall_mem_map.2 plain
  have names := Record.readNames_intercalate plain_names
  rw [List.length_map] at names
  have found : ∀ column ∈ t.columns,
      ((fun name => t.columns.find? fun c => decide (c.sql = name)) ∘ Column.sql) column =
        pure (id column) := fun column hcolumn => find?_eq_of_nodup distinct hcolumn
  rw [selected?, Sql.text_plain, text, isPrefixOf?_toList_append]
  simp only [Option.bind_eq_bind, Option.bind_some, isSuffixOf?_toList_append, names]
  rw [List.mapM_map, mapM_eq_pure found, List.map_id]
  rfl

/-- What the record of a row holds for the columns is the row, unless its key was left to the
database. -/
theorem map_value?_recordOf {row : Row} (width : row.length = t.columns.length)
    (key : t.key.generated → (t.keyValue row).isNull = false) :
    (t.columns.map fun c => ((Insert.recordOf t.unnamed row).value? c.sql).getD .null) = row := by
  have stored : Insert.Stores t.unnamed row (Insert.recordOf t.unnamed row) :=
    @Insert.stores_recordOf t.unnamed distinct row width
  refine List.ext_getElem (by rw [List.length_map, width]) fun i h hrow => ?_
  have hi : i < t.columns.length := by rwa [List.length_map] at h
  have value : (Insert.recordOf t.unnamed row).value? t.columns[i].sql = row[i]? := by
    refine (stored.value i hi).trans (if_neg ?_)
    rintro ⟨-, generated, null⟩
    exact Bool.false_ne_true ((key generated).symm.trans null)
  rw [List.getElem_map, value, List.getElem?_eq_getElem hrow, Option.getD_some]

end Table

end EntitySql
