/-
  Texts of statements do not depend on values.

  Queries that differ in the values of their conditions and in the numbers of their pages only are
  written as statements that are alike, or refused with the same error. So are mutations that differ in
  their values only, as long as they agree in which values are NULL where that makes a difference: at
  a generated key that is inserted, and at columns that an update may leave out
  (`texts_independent_of_values`).
-/
import EntitySql.Proofs.Insert.Rows
import EntitySql.Proofs.Sample
import EntitySql.Proofs.Statement.Alike

namespace EntitySql

/-! ## Targets -/

theorem Condition.sameShape_comparing (operand : Operand) (op : CompareOp) {value value' : Value}
    (h : value.isNull = value'.isNull) :
    (comparing operand op value).SameShape (comparing operand op value') := by
  unfold comparing
  rw [h]
  split
  · exact .nullTest operand true
  · exact .nullTest operand false
  · exact .compare operand _ value value'

namespace Target

variable {s : Settings} {t : Table} {target target' : Target}

/-- The targets differ in values only. There are as many keys, and if there is one key then it is NULL
in both of them or in none. -/
inductive SameShape : Target → Target → Prop
  | key {value value' : Value} (h : value.isNull = value'.isNull) :
    SameShape (.key value) (.key value')
  | keys {values values' : List Value} (h : values.length = values'.length) :
    SameShape (.keys values) (.keys values')
  | matching {c c' : Condition} (h : c.SameShape c') : SameShape (.matching c) (.matching c')

theorem condition?_related (h : target.SameShape target') :
    Option.Rel Condition.SameShape (target.condition? t) (target'.condition? t) := by
  cases h with
  | @key value value' h =>
    rw [condition?, condition?, h]
    split
    · exact .none
    · exact .some (Condition.sameShape_comparing _ _ h)
  | keys h =>
    rw [condition?, condition?, isEmpty_eq_of_length_eq h]
    split
    · exact .none
    · exact .some (.isIn _ h)
  | matching h => exact .some h

theorem filter_matched (kind : WriteKind) (h : target.SameShape target') :
    Matched Sql.Alike (target.filter s t kind) (target'.filter s t kind) := by
  have conditions := condition?_related (t := t) h
  rw [filter, filter]
  generalize target.condition? t = condition at conditions
  generalize target'.condition? t = condition' at conditions
  cases conditions with
  | none => exact .error _
  | some h =>
    refine (Condition.filter?_matched h).bind fun found found' hfound => ?_
    cases hfound with
    | none => exact .error _
    | some h => exact .pure h

end Target

/-! ## Writes -/

/-- The texts are the same, and so are the numbers of parameters whenever they are run. -/
inductive Write.Alike : Write → Write → Prop
  | single {statement statement' : Sql} (h : statement.Alike statement') :
    Alike (.single statement) (.single statement')
  | batch (text : String) {paramSets paramSets' : List (List Value)}
    (h : List.Forall₂ (fun params params' => params.length = params'.length) paramSets paramSets') :
    Alike (.batch text paramSets) (.batch text paramSets')

namespace Insert

variable {t : Table}

/-- Two rows fill as many placeholders. -/
def Shape.SameWidth (shape : Shape) (row row' : Row) : Prop :=
  (shape.pick row).length = (shape.pick row').length

theorem Shape.alike_rows (shape : Shape) {rows rows' : List Row}
    (h : List.Forall₂ shape.SameWidth rows rows') : (shape.rows rows).Alike (shape.rows rows') := by
  refine ⟨?_, length_flatMap_of_forall₂ h⟩
  rw [Shape.rows, Shape.rows, h.length_eq]

theorem Shape.writes_related (d : Dialect) (multiRow : Bool) (shape : Shape) {run run' : List Row}
    (h : List.Forall₂ shape.SameWidth run run') :
    List.Forall₂ Write.Alike (shape.writes d multiRow run) (shape.writes d multiRow run') := by
  -- A run is written in this way unless it is a single row.
  have several : List.Forall₂ Write.Alike
      (if multiRow && d.multiRow then
        (chunks (shape.rowsPerStatement d) run).map fun piece => .single (shape.rows piece)
      else [.batch (shape.head ++ shape.tuple) (run.map shape.pick)])
      (if multiRow && d.multiRow then
        (chunks (shape.rowsPerStatement d) run').map fun piece => .single (shape.rows piece)
      else [.batch (shape.head ++ shape.tuple) (run'.map shape.pick)]) := by
    split
    · exact List.rel_map (fun _ _ piece => .single (shape.alike_rows piece)) (forall₂_chunks _ h)
    · have sets : List.Forall₂ (fun params params' => params.length = params'.length)
          (run.map shape.pick) (run'.map shape.pick) := by
        rw [List.forall₂_map_left_iff, List.forall₂_map_right_iff]
        exact h
      exact .cons (.batch _ sets) .nil
  cases h with
  | nil => exact several
  | cons only rest =>
    cases rest with
    | nil => exact .cons (.single ⟨rfl, only⟩) .nil
    | cons => exact several

/-- Both rows are as wide as the table, and agree in whether a generated key is NULL. -/
structure SameShape (t : Table) (row row' : Row) : Prop where
  width : row.length = t.columns.length
  width' : row'.length = t.columns.length
  key : t.key.generated → (t.keyValue row).isNull = (t.keyValue row').isNull

theorem SameShape.sameWidth {row row' : Row} (h : SameShape t row row') (withoutKey : Bool) :
    (⟨t, withoutKey⟩ : Shape).SameWidth row row' := by
  rw [Shape.SameWidth, Shape.length_pick _ h.width, Shape.length_pick _ h.width']

theorem runs_related (generated : t.key.generated) {rows rows' : List Row}
    (h : List.Forall₂ (SameShape t) rows rows') :
    List.Forall₂ (List.Forall₂ (SameShape t)) (runs t rows) (runs t rows') :=
  forall₂_splitBy (fun _ _ _ _ first second => by rw [first.key generated, second.key generated]) h

theorem leavesKey_eq_of_related (generated : t.key.generated) {run run' : List Row}
    (h : List.Forall₂ (SameShape t) run run') : leavesKey t run = leavesKey t run' := by
  cases h with
  | nil => rfl
  | cons head _ =>
    rw [leavesKey, leavesKey, List.head?_cons, List.head?_cons, Option.any_some, Option.any_some,
      head.key generated]

theorem writes_matched (s : Settings) (multiRow : Bool) {rows rows' : List Row}
    (h : List.Forall₂ (SameShape t) rows rows') :
    Matched (List.Forall₂ Write.Alike) (writes s t multiRow rows) (writes s t multiRow rows') := by
  by_cases no_row : rows = []
  · rw [no_row, List.forall₂_nil_left_iff] at h
    rw [no_row, h]
    exact .error _
  · have some_row : rows' ≠ [] := fun hnil => no_row (by rwa [hnil, List.forall₂_nil_right_iff] at h)
    have width : ∀ row ∈ rows, row.length = t.columns.length :=
      ((List.forall₂_and_left _ _).1 (h.imp fun _ _ hrow => ⟨hrow.width, hrow⟩)).1
    have flipped : List.Forall₂ (flip (SameShape t)) rows' rows := .flip h
    have width' : ∀ row ∈ rows', row.length = t.columns.length :=
      ((List.forall₂_and_left _ _).1 (flipped.imp fun _ _ hrow => ⟨hrow.width', hrow⟩)).1
    rw [writes_eq_ok s t multiRow no_row width, writes_eq_ok s t multiRow some_row width']
    refine .ok ?_
    split
    · next generated =>
      refine List.rel_flatMap (runs_related generated h) fun run run' hrun => ?_
      rw [leavesKey_eq_of_related generated hrun]
      exact Shape.writes_related _ _ _ (hrun.imp fun _ _ hrow => hrow.sameWidth _)
    · exact Shape.writes_related _ _ _ (h.imp fun _ _ hrow => hrow.sameWidth _)

end Insert

namespace Update

variable {s : Settings} {t : Table}

/-- NULL is at the same columns of both rows, as far as they are not the key. -/
def SameNulls (t : Table) (row row' : Row) : Prop :=
  ∀ (i : Nat) (column : Column), t.columns[i]? = some column → column.primaryKey = false →
    row[i]?.map Value.isNull = row'[i]?.map Value.isNull

/-- Two cells of one column. If NULL makes a difference there, it is in both of them or in none. -/
def SameCell (sparse : Bool) (cell cell' : Column × Value) : Prop :=
  cell.1 = cell'.1 ∧ (sparse → cell.1.primaryKey = false → cell.2.isNull = cell'.2.isNull)

theorem cells_related {sparse : Bool} {row row' : Row} (width : row.length = t.columns.length)
    (width' : row'.length = t.columns.length) (nulls : sparse → SameNulls t row row') :
    List.Forall₂ (SameCell sparse) (t.columns.zip row) (t.columns.zip row') := by
  have lengths : (t.columns.zip row).length = (t.columns.zip row').length := by
    rw [List.length_zip, List.length_zip, width, width']
  refine List.forall₂_of_length_eq_of_get lengths fun i h h' => ?_
  simp only [List.get_eq_getElem, List.getElem_zip, SameCell, true_and]
  intro is_sparse no_key
  have inside : i < t.columns.length := List.lt_length_left_of_zip h
  have same := nulls is_sparse i _ (List.getElem?_eq_getElem inside) no_key
  simpa [List.getElem?_eq_getElem, width, width', inside] using same

/-- The same columns are assigned. -/
theorem assigned_related (sparse : Bool) {row row' : Row} (width : row.length = t.columns.length)
    (width' : row'.length = t.columns.length) (nulls : sparse → SameNulls t row row') :
    List.Forall₂ (fun cell cell' => cell.1 = cell'.1) (assigned t sparse row)
      (assigned t sparse row') := by
  have cells := cells_related width width' nulls
  refine (List.rel_filter (fun cell cell' same => ?_) cells).imp fun _ _ same => same.1
  obtain ⟨column, value⟩ := cell
  obtain ⟨column', value'⟩ := cell'
  obtain ⟨rfl, nulls⟩ := same
  -- The key is left out and what is replaced is taken, whatever the values are.
  cases hkey : column.primaryKey with
  | true => simp [hkey]
  | false =>
    cases sparse with
    | false => simp [hkey]
    | true => simp [hkey, nulls rfl hkey]

theorem sql_matched (sparse : Bool) {row row' : Row} {target target' : Target}
    (width : row.length = t.columns.length) (width' : row'.length = t.columns.length)
    (nulls : sparse → SameNulls t row row') (h : target.SameShape target') :
    Matched Sql.Alike (sql s t sparse row target) (sql s t sparse row' target') := by
  have cells := assigned_related sparse width width' nulls
  rw [sql, sql, Table.checkWidth_eq_ok_iff.2 width, Table.checkWidth_eq_ok_iff.2 width']
  refine .bind_same fun _ => (Target.filter_matched .update h).bind fun filter filter' hfilter => ?_
  dsimp only
  rw [isEmpty_eq_of_length_eq cells.length_eq]
  split
  · exact .error _
  · have assignments : List.Forall₂ Sql.Alike
        ((assigned t sparse row).map fun cell => ⟨cell.1.sql ++ " = ?", [cell.2]⟩)
        ((assigned t sparse row').map fun cell => ⟨cell.1.sql ++ " = ?", [cell.2]⟩) :=
      List.rel_map (fun _ _ same => ⟨congrArg (fun column => column.sql ++ " = ?") same, rfl⟩) cells
    exact .pure ((((Sql.Alike.refl _).append (.joined ", " assignments)).append (.refl _)).append
      hfilter)

end Update

namespace Delete

variable {s : Settings} {t : Table} {target target' : Target}

theorem sql_matched (h : target.SameShape target') :
    Matched Sql.Alike (sql s t target) (sql s t target') :=
  (Target.filter_matched .delete h).bind fun _ _ hfilter => .pure ((Sql.Alike.refl _).append hfilter)

theorem targets_related (d : Dialect) (h : target.SameShape target') :
    List.Forall₂ Target.SameShape (targets d target) (targets d target') := by
  cases h with
  | key h => exact .cons (.key h) .nil
  | keys h =>
    rw [targets, targets, isEmpty_eq_of_length_eq h]
    split
    · exact .cons (.keys rfl) .nil
    · exact List.rel_map (fun _ _ piece => .keys piece.length_eq)
        (forall₂_chunks _ (forall₂_of_length_eq h))
  | matching h => exact .cons (.matching h) .nil

end Delete

namespace Mutation

variable {s : Settings} {t : Table}

/-- The mutations are of one kind and differ in values only. Rows are as wide as the table; they have
NULL at the same places as far as the mutation looks at it. -/
inductive SameShape (t : Table) : Mutation → Mutation → Prop
  | insert {rows rows' : List Row} (h : List.Forall₂ (Insert.SameShape t) rows rows') :
    SameShape t (.insert rows) (.insert rows')
  | update {row row' : Row} {target target' : Target} (width : row.length = t.columns.length)
    (width' : row'.length = t.columns.length) (nulls : Update.SameNulls t row row')
    (h : target.SameShape target') : SameShape t (.update row target) (.update row' target')
  | replace {row row' : Row} {target target' : Target} (width : row.length = t.columns.length)
    (width' : row'.length = t.columns.length) (h : target.SameShape target') :
    SameShape t (.replace row target) (.replace row' target')
  | delete {target target' : Target} (h : target.SameShape target') :
    SameShape t (.delete target) (.delete target')

theorem writes_matched (multiRow : Bool) {m m' : Mutation} (h : SameShape t m m') :
    Matched (List.Forall₂ Write.Alike) (m.writes s t multiRow) (m'.writes s t multiRow) := by
  cases h with
  | insert h => exact Insert.writes_matched s multiRow h
  | update width width' nulls h =>
    exact (Update.sql_matched true width width' (fun _ => nulls) h).bind fun _ _ statement =>
      .pure (.cons (.single statement) .nil)
  | replace width width' h =>
    exact (Update.sql_matched false width width' nofun h).bind fun _ _ statement =>
      .pure (.cons (.single statement) .nil)
  | delete h =>
    exact (Matched.mapM (Delete.targets_related s.dialect h) fun _ _ => Delete.sql_matched).bind
      fun _ _ statements => .pure (List.rel_map (fun _ _ => .single) statements)

end Mutation

/-- Queries of one shape, and mutations of one shape, are written as statements with the same texts
and the same numbers of parameters, or they are refused with the same error. -/
theorem texts_independent_of_values (s : Settings) (t : Table) :
    (∀ q q' : Query, q.SameShape q' →
      Matched Sql.Alike (q.selectSql s t) (q'.selectSql s t) ∧
        Matched Sql.Alike (q.countSql s t) (q'.countSql s t)) ∧
    ∀ (m m' : Mutation) (multiRow : Bool), m.SameShape t m' →
      Matched (List.Forall₂ Write.Alike) (m.writes s t multiRow) (m'.writes s t multiRow) :=
  ⟨fun _ _ h => ⟨Query.selectSql_matched h, Query.countSql_matched h⟩,
    fun _ _ multiRow h => Mutation.writes_matched multiRow h⟩

theorem texts_independent_of_values_items :
    Sample.query.SameShape Sample.otherQuery ∧
      Matched Sql.Alike (Sample.query.selectSql Sample.settings Sample.items)
        (Sample.otherQuery.selectSql Sample.settings Sample.items) ∧
      Matched Sql.Alike (Sample.query.countSql Sample.settings Sample.items)
        (Sample.otherQuery.countSql Sample.settings Sample.items) ∧
      Sample.change.SameShape Sample.items Sample.otherChange ∧
      Matched (List.Forall₂ Write.Alike) (Sample.change.writes Sample.settings Sample.items true)
        (Sample.otherChange.writes Sample.settings Sample.items true) := by
  have conditions : Sample.condition.SameShape Sample.otherQuery.condition :=
    .group _ (.cons (.group _ (.cons (.compare _ _ _ _) (.cons
      (.group _ (.cons (.isIn _ rfl) (.cons (.isIn _ rfl) .nil))) .nil)))
      (.cons (.group _ (.cons (.group _ .nil) .nil)) (.cons (.between _ _ _ _ _) .nil)))
  have queries : Sample.query.SameShape Sample.otherQuery := ⟨conditions, rfl, rfl, rfl⟩
  have nulls : Update.SameNulls Sample.items [.null, .text "pad", .null]
      [.integer 4, .text "' OR 1 = 1", .null] := by
    intro i column hcolumn no_key
    match i with
    | 0 =>
      cases hcolumn
      cases no_key
    | 1 | 2 | _ + 3 => rfl
  have changes : Sample.change.SameShape Sample.items Sample.otherChange :=
    .update rfl rfl nulls (.keys rfl)
  obtain ⟨of_queries, of_mutations⟩ := texts_independent_of_values Sample.settings Sample.items
  obtain ⟨select, count⟩ := of_queries _ _ queries
  exact ⟨queries, select, count, changes, of_mutations _ _ true changes⟩

end EntitySql
