/-
  Statements stay within the limits of the database.

  Inserts, deletions by keys and reads by keys are cut into several statements where one would have too
  many parameters. Whatever they are cut into has some rows or keys in it, together these are all of
  them in order, and no statement and no run of a text has more parameters than the database takes, if
  the table has no more columns than that (`statements_within_limits`). How many rows share a statement
  follows from the columns that are written, which are one fewer where the key is left out.

  In a filter the lists behind IN have a limit of their own in some databases (`IsWritten`).
-/
import EntitySql.Proofs.Change.Refusal
import EntitySql.Proofs.Condition.Predicates
import EntitySql.Proofs.Insert.Rows
import EntitySql.Proofs.Keys.Deletion
import EntitySql.Proofs.Keys.Finding
import EntitySql.Proofs.Session.Running
import Mathlib.Data.List.InsertIdx

namespace EntitySql

variable {s : Settings} {t : Table} {limit : Nat}

/-- No run of the write has more parameters than that, and it is run at all. -/
def Write.Fits (limit : Nat) : Write → Prop
  | .single statement => statement.params.length ≤ limit
  | .batch _ paramSets => paramSets ≠ [] ∧ ∀ params ∈ paramSets, params.length ≤ limit

/-! ## Inserts -/

namespace Insert

namespace Shape

theorem length_columns_le (shape : Shape) : shape.columns.length ≤ shape.table.columns.length := by
  rw [columns, pick]
  split
  · rw [List.length_eraseIdx]
    split <;> omega
  · exact Nat.le_refl _

theorem length_params_rows (shape : Shape) {rows : List Row}
    (width : ∀ row ∈ rows, row.length = shape.table.columns.length) :
    (shape.rows rows).params.length = rows.length * shape.columns.length := by
  show (rows.flatMap shape.pick).length = _
  induction rows with
  | nil => simp
  | cons row rest ih =>
    rw [List.flatMap_cons, List.length_append, shape.length_pick (width row List.mem_cons_self),
      ih fun other hother => width other (List.mem_cons_of_mem row hother), List.length_cons,
      Nat.succ_mul, Nat.add_comm]

/-- As many rows as share a statement have no more parameters than it can take. -/
theorem rowsPerStatement_mul_le {shape : Shape} {d : Dialect}
    (fits : shape.columns.length ≤ d.maxParams) :
    shape.rowsPerStatement d * shape.columns.length ≤ d.maxParams := by
  have positive := d.maxParams_pos
  have some_row : 0 < d.maxParams / max shape.columns.length 1 :=
    Nat.div_pos (by omega) (by omega)
  rw [rowsPerStatement, Nat.max_eq_left some_row]
  calc d.maxParams / max shape.columns.length 1 * shape.columns.length
      ≤ d.maxParams / max shape.columns.length 1 * max shape.columns.length 1 :=
        Nat.mul_le_mul_left _ (Nat.le_max_left _ _)
    _ ≤ d.maxParams := Nat.div_mul_le_self _ _

end Shape

/-- The write inserts these rows, of which there is at least one: into all columns, or into all but the
key if the database assigns it and none of the rows has one. What is inserted is read off the write. -/
def Carries (t : Table) (rows : List Row) (write : Write) : Prop :=
  rows ≠ [] ∧
    if t.key.generated ∧ ∀ row ∈ rows, (t.keyValue row).isNull then
      write.tuples? (Record.head t.sql ((t.columns.map Column.sql).eraseIdx t.keyIndex)) =
        some (rows.map (·.eraseIdx t.keyIndex))
    else write.tuples? (Record.head t.sql (t.columns.map Column.sql)) = some rows

/-- The rows are cut into these pieces, one for each write, and no write is too long. -/
def CutInto (t : Table) (limit : Nat) (rows : List Row) (found : List Write) : Prop :=
  ∃ pieces : List (List Row), pieces.flatten = rows ∧
    List.Forall₂ (fun piece write => Carries t piece write ∧ write.Fits limit) pieces found

/-- Rows that are cut run by run are cut. -/
theorem cutInto_flatMap {f : List Row → List Write} {runs : List (List Row)}
    (h : ∀ run ∈ runs, CutInto t limit run (f run)) :
    CutInto t limit runs.flatten (runs.flatMap f) := by
  induction runs with
  | nil => exact ⟨[], rfl, .nil⟩
  | cons run rest ih =>
    obtain ⟨pieces, hpieces, first⟩ := h run List.mem_cons_self
    obtain ⟨others, hothers, second⟩ := ih fun other hother =>
      h other (List.mem_cons_of_mem run hother)
    refine ⟨pieces ++ others, ?_, List.rel_append first second⟩
    rw [List.flatten_append, hpieces, hothers, List.flatten_cons]

namespace Shape

/-- What is read behind the head of a statement is carried by it. -/
theorem Suits.carries {shape : Shape} {rows : List Row} (suits : shape.Suits rows)
    (some_row : rows ≠ []) {write : Write}
    (read : write.tuples? shape.head = some (rows.map shape.pick)) :
    Carries shape.table rows write := by
  have left := suits.withoutKey_iff some_row
  obtain ⟨t, withoutKey⟩ := shape
  refine ⟨some_row, ?_⟩
  cases withoutKey with
  | true =>
    rw [if_pos (left.1 rfl), List.eraseIdx_map]
    exact read
  | false =>
    rw [if_neg fun h => Bool.false_ne_true (left.2 h)]
    exact read.trans (congrArg some (List.map_id rows))

theorem cutInto_writes (shape : Shape) (d : Dialect) (multiRow : Bool) {run : List Row}
    (some_row : run ≠ []) (suits : shape.Suits run)
    (width : ∀ row ∈ run, row.length = shape.table.columns.length)
    (fits : shape.columns.length ≤ d.maxParams) :
    CutInto shape.table d.maxParams run (shape.writes d multiRow run) := by
  unfold writes
  split
  · next row =>
    rw [← rows_singleton]
    refine ⟨[[row]], rfl, .cons ⟨suits.carries some_row (shape.tuples?_rows some_row width), ?_⟩ .nil⟩
    rw [rows_singleton]
    show (shape.pick row).length ≤ _
    rwa [shape.length_pick (width row (List.mem_singleton_self row))]
  · split
    · -- Every piece has as many rows as share a statement, or fewer if it is the last one.
      have hsize : 0 < shape.rowsPerStatement d := Nat.le_max_right _ 1
      refine ⟨chunks (shape.rowsPerStatement d) run, flatten_chunks hsize, ?_⟩
      rw [List.forall₂_map_right_iff, List.forall₂_same]
      intro piece hpiece
      have filled := ne_nil_of_mem_chunks hsize hpiece
      have within := infix_of_mem_chunks hsize hpiece
      have width' : ∀ row ∈ piece, row.length = shape.table.columns.length := fun row hrow =>
        width row (within.mem hrow)
      have suits' : shape.Suits piece := fun row hrow => suits row (within.mem hrow)
      have short := Nat.mul_le_mul_right shape.columns.length (length_of_mem_chunks hsize hpiece).2
      refine ⟨suits'.carries filled (shape.tuples?_rows filled width'), ?_⟩
      show (shape.rows piece).params.length ≤ _
      rw [shape.length_params_rows width']
      exact short.trans (rowsPerStatement_mul_le fits)
    · refine ⟨[run], List.flatten_singleton,
        .cons ⟨suits.carries some_row (shape.tuples?_batch width), ?_, ?_⟩ .nil⟩
      · exact fun none => some_row (List.map_eq_nil_iff.1 none)
      · intro params hparams
        obtain ⟨row, hrow, rfl⟩ := List.mem_map.1 hparams
        rwa [shape.length_pick (width row hrow)]

end Shape

/-- Rows of the right width are inserted, piece by piece. -/
theorem cutInto_writes (fits : t.columns.length ≤ s.dialect.maxParams) (multiRow : Bool)
    {rows : List Row} (some_row : rows ≠ []) (width : ∀ row ∈ rows, row.length = t.columns.length) :
    ∃ found, writes s t multiRow rows = .ok found ∧ CutInto t s.dialect.maxParams rows found := by
  refine ⟨_, writes_eq_ok s t multiRow some_row width, ?_⟩
  have fits' (withoutKey : Bool) : (⟨t, withoutKey⟩ : Shape).columns.length ≤ s.dialect.maxParams :=
    (Shape.length_columns_le ⟨t, withoutKey⟩).trans fits
  split
  · next generated =>
    have each : ∀ run ∈ runs t rows, CutInto t s.dialect.maxParams run
        (Shape.writes s.dialect multiRow ⟨t, leavesKey t run⟩ run) := fun run hrun =>
      Shape.cutInto_writes ⟨t, leavesKey t run⟩ s.dialect multiRow (List.ne_nil_of_mem_splitBy hrun)
        (suits_of_mem_runs generated hrun) (fun row hrow => width row (mem_of_mem_runs hrun hrow))
        (fits' _)
    have whole := cutInto_flatMap each
    rwa [flatten_runs] at whole
  · next kept =>
    exact Shape.cutInto_writes ⟨t, false⟩ s.dialect multiRow some_row (suits_of_not_generated kept rows)
      width (fits' _)

end Insert

/-! ## Lists of keys -/

/-- The statement is about the rows with these keys, of which there is at least one, and has not too
many parameters. The column of the key and what stands in front of WHERE are given. -/
def Sql.AsksFor (start column : String) (limit : Nat) (keys : List Value) (statement : Sql) : Prop :=
  keys ≠ [] ∧ statement.keys? start column = some keys ∧ statement.params.length ≤ limit

/-- A list of keys is asked for piece by piece. -/
theorem Sql.asksFor_chunks (d : Dialect) (start column : String) (keys : List Value) :
    List.Forall₂ (AsksFor start column d.maxParams) (chunks d.maxParams keys)
      ((chunks d.maxParams keys).map fun piece =>
        .plain (start ++ " WHERE ") ++ Condition.inPredicate d column piece) := by
  rw [List.forall₂_map_right_iff, List.forall₂_same]
  intro piece hpiece
  obtain ⟨filled, short⟩ := length_of_mem_chunks d.maxParams_pos hpiece
  have some_key := List.length_pos_iff.1 filled
  refine ⟨some_key, keys?_of_inPredicate d start column some_key, ?_⟩
  rwa [params_append, params_plain, List.nil_append, Condition.params_inPredicate]

/-! ## Reads -/

/-- Using a result in another way changes nothing for the session. -/
theorem Access.snd_bind_pure {σ β γ : Type} (m : Access σ β) (f : β → γ) (link : Link σ) :
    ((m >>= fun b => pure (f b)) link).2 = (m link).2 := by
  rw [bind_apply]
  split
  · next h => rw [h, pure_apply]
  · next h => rw [h]

theorem Access.exists_of_bind_pure {σ β γ : Type} {m : Access σ β} {f : β → γ} {link : Link σ} {c : γ}
    (h : ((m >>= fun b => pure (f b)) link).1 = .ok c) : ∃ b, (m link).1 = .ok b := by
  rw [bind_apply] at h
  split at h
  · next b _ hb => exact ⟨b, by rw [hb]⟩
  · cases h

namespace Repository

variable {σ α : Type} {r : Repository σ α}

theorem calls_read (r : Repository σ α) (t : Table) (statement : Sql) (link : Link σ) :
    (r.read t statement link).2.calls = link.calls.push (.query statement) := by
  rw [read, Access.snd_bind_pure, Session.sendQuery_apply]

/-- Statements are sent from the first one on, and all of them unless one fails. -/
theorem calls_readAll (r : Repository σ α) (t : Table) (statements : List Sql) (link : Link σ) :
    ∃ sent, sent <+: statements ∧
      (r.readAll t statements link).2.calls = link.calls ++ (sent.map Call.query).toArray ∧
      ∀ found, (r.readAll t statements link).1 = .ok found → sent = statements := by
  induction statements generalizing link with
  | nil => exact ⟨[], List.nil_prefix, by simp [readAll, Access.pure_apply], fun _ _ => rfl⟩
  | cons statement rest ih =>
    have noted := calls_read r t statement link
    rw [readAll, Access.bind_apply]
    generalize r.read t statement link = outcome at noted
    obtain ⟨result, link'⟩ := outcome
    cases result with
    | error e =>
      refine ⟨[statement], List.prefix_append [statement] rest, by simpa using noted, fun _ h => ?_⟩
      cases h
    | ok found =>
      obtain ⟨sent, stretch, calls, all⟩ := ih link'
      refine ⟨statement :: sent, (List.prefix_cons_inj statement).2 stretch, ?_, fun whole h => ?_⟩
      · dsimp only at noted ⊢
        rw [Access.snd_bind_pure, calls, noted]
        simp
      · obtain ⟨others, read⟩ := Access.exists_of_bind_pure h
        rw [all others read]

/-- The statements of a read by keys, and those of them that are sent. -/
theorem calls_findByIds {t : Table} (h : r.table = .ok t)
    (distinct : (t.columns.map Column.field).Nodup) (ids : List Value) (link : Link σ) :
    ∃ statements sent : List Sql, ∃ pieces : List (List Value), pieces.flatten = ids ∧
      List.Forall₂ (Sql.AsksFor t.selectStart t.key.sql r.settings.dialect.maxParams) pieces
        statements ∧
      sent <+: statements ∧
      (r.findByIds ids link).2.calls = link.calls ++ (sent.map Call.query).toArray ∧
      ∀ found, (r.findByIds ids link).1 = .ok found → sent = statements := by
  rw [findByIds_eq h distinct]
  obtain ⟨sent, stretch, calls, all⟩ := calls_readAll r t
    ((chunks r.settings.dialect.maxParams ids).map (Query.keysSql r.settings.dialect t)) link
  exact ⟨_, sent, _, flatten_chunks r.settings.dialect.maxParams_pos,
    Sql.asksFor_chunks r.settings.dialect t.selectStart t.key.sql ids, stretch, calls, all⟩

end Repository

/-! ## Deletions -/

theorem Delete.writes_keys_asksFor (distinct : (t.columns.map Column.field).Nodup) {keys : List Value}
    (some_key : keys ≠ []) (multiRow : Bool) :
    ∃ statements : List Sql, ∃ pieces : List (List Value), pieces.flatten = keys ∧
      List.Forall₂ (Sql.AsksFor ("DELETE FROM " ++ t.sql) t.key.sql s.dialect.maxParams) pieces
        statements ∧
      (Mutation.delete (.keys keys)).writes s t multiRow = .ok (statements.map .single) := by
  refine ⟨(chunks s.dialect.maxParams keys).map (keysSql s.dialect t), _,
    flatten_chunks s.dialect.maxParams_pos,
    Sql.asksFor_chunks s.dialect ("DELETE FROM " ++ t.sql) t.key.sql keys, ?_⟩
  rw [writes_keys distinct some_key, List.map_map]
  rfl

/-! ## Lists in filters -/

theorem Sql.Cut.lists {part : Sql} {predicates : List Predicate} (h : part.Cut s t predicates) :
    ∃ pieces, part = .ofPieces pieces ∧
      List.Forall₂ (Predicate.IsWritten s t) predicates (pieces.filter Piece.isPredicate) ∧
      ∀ column lists, Piece.member column lists ∈ pieces → ∀ list ∈ lists,
        ∀ limit, s.dialect.inListLimit? = some limit → list.length ≤ limit := by
  obtain ⟨pieces, whole, written⟩ := h
  refine ⟨pieces, whole, written, fun column lists hpiece list hlist limit hlimit => ?_⟩
  have shown : Piece.member column lists ∈ pieces.filter Piece.isPredicate :=
    List.mem_filter.2 ⟨hpiece, rfl⟩
  obtain ⟨predicate, -, hwritten⟩ := exists_of_mem_forall₂ written shown
  cases hwritten with
  | member _ _ _ short => exact short list hlist limit hlimit

/-! ## All limits -/

/-- **Statements stay within the limits.** What is inserted, deleted by keys or read by keys is cut
into statements, each with some of the rows or keys and with few enough parameters, and a read sends
these statements and no others. In Oracle the lists of values in a condition have at most a thousand
values each; together the lists of one predicate have its values. -/
theorem statements_within_limits {d : EntityDecl} (h : s.table d = .ok t)
    (fits : t.columns.length ≤ s.dialect.maxParams) :
    (∀ (multiRow : Bool) (rows : List Row), rows ≠ [] →
      (∀ row ∈ rows, row.length = t.columns.length) →
      ∃ found, (Mutation.insert rows).writes s t multiRow = .ok found ∧
        Insert.CutInto t s.dialect.maxParams rows found) ∧
    (∀ (multiRow : Bool) (keys : List Value), keys ≠ [] →
      ∃ statements : List Sql, ∃ pieces : List (List Value), pieces.flatten = keys ∧
        List.Forall₂ (Sql.AsksFor ("DELETE FROM " ++ t.sql) t.key.sql s.dialect.maxParams) pieces
          statements ∧
        (Mutation.delete (.keys keys)).writes s t multiRow = .ok (statements.map .single)) ∧
    (∀ {σ α : Type} (session : Session σ) (type : EntityType α), type.decl = d →
      ∀ (ids : List Value) (link : Link σ),
        ∃ statements sent : List Sql, ∃ pieces : List (List Value), pieces.flatten = ids ∧
          List.Forall₂ (Sql.AsksFor t.selectStart t.key.sql s.dialect.maxParams) pieces statements ∧
          sent <+: statements ∧
          ((Repository.of s session type).findByIds ids link).2.calls =
            link.calls ++ (sent.map Call.query).toArray ∧
          ∀ found, ((Repository.of s session type).findByIds ids link).1 = .ok found →
            sent = statements) ∧
    (s.database = .oracle → ∀ (c : Condition) (inner : Bool) (part : Sql),
      c.render s t inner = .ok (some part) →
      ∃ pieces, part = .ofPieces pieces ∧
        List.Forall₂ (Predicate.IsWritten s t) c.predicates (pieces.filter Piece.isPredicate) ∧
        ∀ column lists, Piece.member column lists ∈ pieces → ∀ list ∈ lists, list.length ≤ 1000) := by
  have distinct := Settings.distinct_of_table h
  refine ⟨fun multiRow rows some_row width => ?_, fun multiRow keys some_key => ?_,
    fun session type same ids link => ?_, fun oracle c inner part rendered => ?_⟩
  · exact Insert.cutInto_writes fits multiRow some_row width
  · exact Delete.writes_keys_asksFor distinct some_key multiRow
  · subst same
    exact Repository.calls_findByIds (r := Repository.of s session type) h distinct ids link
  · obtain ⟨pieces, whole, written, short⟩ := (Condition.cut_of_render inner part c rendered).lists
    refine ⟨pieces, whole, written, fun column lists hpiece list hlist =>
      short column lists hpiece list hlist 1000 ?_⟩
    exact if_pos oracle

theorem statements_within_limits_items :
    Sample.settings.table Sample.itemDecl = .ok Sample.items ∧
      Sample.items.columns.length ≤ Sample.settings.dialect.maxParams ∧
      (∃ found, (Mutation.insert Sample.rows).writes Sample.settings Sample.items true = .ok found ∧
        Insert.CutInto Sample.items Sample.settings.dialect.maxParams Sample.rows found) ∧
      ∃ part pieces, Sample.condition.render Sample.settings Sample.items false = .ok (some part) ∧
        part = .ofPieces pieces ∧
        ∀ column lists, Piece.member column lists ∈ pieces → ∀ list ∈ lists, list.length ≤ 1000 := by
  have fits : Sample.items.columns.length ≤ Sample.settings.dialect.maxParams := by decide
  obtain ⟨inserts, -, -, conditions⟩ := statements_within_limits Sample.table_itemDecl fits
  obtain ⟨pieces, whole, -, short⟩ := conditions rfl Sample.condition false _ rfl
  exact ⟨Sample.table_itemDecl, fits, inserts true Sample.rows (by decide) (by decide), _, pieces, rfl,
    whole, short⟩

end EntitySql
