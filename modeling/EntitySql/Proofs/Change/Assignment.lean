/-
  Updates assign their own cells to their own columns.

  An update is read back from its text and its parameters (`Update.read?`): behind SET stand names of
  columns with a placeholder each, which take the parameters from the front, and what is behind WHERE
  gets the rest. What is read is a cell for every column that is to be assigned, in order, with the
  value from the same place of the row, and the filter for the target with the values of the target
  (`assigns_own_cells`). Run on stored rows, such a statement changes no other row and no other column.
  Which rows a filter is about is left open.

  Names of columns have to be tokens for the reader to find where they end, and different, or else the
  value of one column might be stored in another.
-/
import EntitySql.Proofs.Change.Refusal
import EntitySql.Proofs.Condition.Predicates
import EntitySql.Proofs.Entity.Resolution
import EntitySql.Proofs.Statement.Token

namespace EntitySql

/-- Characters that may stand in the name of a column in front of `=`. -/
def isTokenChar (c : Char) : Bool := !([' ', ',', '(', ')', '=', '?'].contains c)

def IsToken (name : String) : Prop := name.toList.all isTokenChar = true

instance (name : String) : Decidable (IsToken name) :=
  inferInstanceAs (Decidable (_ = _))

/-- The values of a target. -/
def Target.params : Target → List Value
  | .key value => [value]
  | .keys values => values
  | .matching condition => condition.params

theorem Target.params_asCondition (t : Table) (target : Target) :
    (target.asCondition t).params = target.params := by
  cases target with
  | key value => rfl
  | keys values => exact List.append_nil values
  | matching condition => rfl

/-- A filter for a target is what is written for its condition. -/
theorem Target.render_of_filter {s : Settings} {t : Table} {kind : WriteKind} {target : Target}
    {filter : Sql} (h : target.filter s t kind = .ok filter) :
    (target.asCondition t).render s t false = .ok (some filter) := by
  cases empty : target.isEmpty with
  | true =>
    rw [filter_of_isEmpty kind empty] at h
    cases h
  | false =>
    rcases filter_of_not_isEmpty (s := s) (t := t) kind empty with
      ⟨found, hfound, hrender⟩ | ⟨entity, name, failed⟩
    · rw [hfound, Except.ok.injEq] at h
      rwa [← h]
    · rw [failed] at h
      cases h

namespace Update

/-! ## Reading -/

/-- Assignments with commas between them up to WHERE, and the filter behind it. Every assignment takes
the first of the parameters that are left. -/
def readCells (text : List Char) : List Value → Option (List (String × Value) × Sql)
  | [] => none
  | value :: params =>
    let name := String.ofList (text.takeWhile isTokenChar)
    match " = ?".toList.isPrefixOf? (text.dropWhile isTokenChar) with
    | some (',' :: ' ' :: rest) =>
      (readCells rest params).map fun (cells, filter) => ((name, value) :: cells, filter)
    | some rest =>
      (" WHERE ".toList.isPrefixOf? rest).map fun filter =>
        ([(name, value)], ⟨String.ofList filter, params⟩)
    | none => none

/-- The cells that a statement assigns, and the filter for the rows that get them. -/
def read? (t : Table) (statement : Sql) : Option (List (String × Value) × Sql) := do
  let rest ← ("UPDATE " ++ t.sql ++ " SET ").toList.isPrefixOf? statement.text.toList
  readCells rest statement.params

variable {name : String} {value : Value}

theorem takeWhile_token (token : IsToken name) (rest : List Char) :
    (name.toList ++ (" = ?".toList ++ rest)).takeWhile isTokenChar = name.toList := by
  rw [List.takeWhile_append_of_pos (List.all_eq_true.1 token)]
  exact List.append_nil _

theorem dropWhile_token (token : IsToken name) (rest : List Char) :
    (name.toList ++ (" = ?".toList ++ rest)).dropWhile isTokenChar = " = ?".toList ++ rest := by
  rw [List.dropWhile_append_of_pos (List.all_eq_true.1 token)]
  rfl

theorem readCells_last (token : IsToken name) (filter : Sql) :
    readCells (name.toList ++ (" = ?".toList ++ (" WHERE ".toList ++ filter.text.toList)))
      (value :: filter.params) = some ([(name, value)], filter) := by
  rw [readCells, takeWhile_token token, dropWhile_token token, isPrefixOf?_append,
    String.ofList_toList]
  show ((" WHERE ".toList.isPrefixOf? (" WHERE ".toList ++ filter.text.toList)).map fun filter' =>
    ([(name, value)], (⟨String.ofList filter', filter.params⟩ : Sql))) = _
  rw [isPrefixOf?_append, Option.map_some, String.ofList_toList]

theorem readCells_next (token : IsToken name) (rest : List Char) (params : List Value) :
    readCells (name.toList ++ (" = ?".toList ++ (", ".toList ++ rest))) (value :: params) =
      (readCells rest params).map fun (cells, filter) => ((name, value) :: cells, filter) := by
  rw [readCells, takeWhile_token token, dropWhile_token token, isPrefixOf?_append,
    String.ofList_toList]
  rfl

/-- One assignment. -/
def cellSql (cell : Column × Value) : Sql := ⟨cell.1.sql ++ " = ?", [cell.2]⟩

theorem start_eq (t : Table) (cells : List (Column × Value)) :
    start t cells = .plain ("UPDATE " ++ t.sql ++ " SET ") ++ .joined ", " (cells.map cellSql) := rfl

theorem params_start (t : Table) (cells : List (Column × Value)) :
    (start t cells).params = cells.map Prod.snd := by
  rw [start_eq, Sql.params_append, Sql.params_plain, List.nil_append]
  show (cells.map cellSql).flatMap Sql.params = _
  rw [List.flatMap_map]
  exact List.flatMap_pure_eq_map Prod.snd cells

/-- All assignments are read, whatever the filter is. -/
theorem readCells_joined (cell : Column × Value) (cells : List (Column × Value))
    (tokens : ∀ c ∈ cell :: cells, IsToken c.1.sql) (filter : Sql) :
    readCells ((Sql.joined ", " ((cell :: cells).map cellSql)).text.toList ++
        (" WHERE ".toList ++ filter.text.toList))
      ((cell :: cells).map Prod.snd ++ filter.params) =
        some ((cell :: cells).map fun c => (c.1.sql, c.2), filter) := by
  have token := tokens cell List.mem_cons_self
  induction cells generalizing cell with
  | nil =>
    rw [List.map_singleton, Sql.joined_singleton, cellSql, String.toList_append, List.append_assoc]
    exact readCells_last token filter
  | cons next cells ih =>
    have rest := ih next (fun c hc => tokens c (List.mem_cons_of_mem cell hc))
      (tokens next (List.mem_cons_of_mem cell List.mem_cons_self))
    rw [List.map_cons, List.map_cons, Sql.joined_cons_cons, cellSql, Sql.text_append, Sql.text_append,
      Sql.text_plain, String.toList_append, String.toList_append, String.toList_append,
      List.append_assoc, List.append_assoc, List.append_assoc, ← List.map_cons]
    refine (readCells_next token _ ((next :: cells).map Prod.snd ++ filter.params)).trans ?_
    rw [rest]
    rfl

/-- What an update assigns and the filter for its rows can be read from it. -/
theorem read?_start {t : Table} {cells : List (Column × Value)} (some_cell : cells ≠ [])
    (tokens : ∀ c ∈ cells, IsToken c.1.sql) (filter : Sql) :
    read? t (start t cells ++ .plain " WHERE " ++ filter) =
      some (cells.map fun c => (c.1.sql, c.2), filter) := by
  obtain ⟨cell, cells, rfl⟩ := List.exists_cons_of_ne_nil some_cell
  have values : (start t (cell :: cells) ++ .plain " WHERE " ++ filter).params =
      (cell :: cells).map Prod.snd ++ filter.params := by
    rw [Sql.params_append, Sql.params_append, Sql.params_plain, List.append_nil, params_start]
  have text : (start t (cell :: cells) ++ .plain " WHERE " ++ filter).text.toList =
      ("UPDATE " ++ t.sql ++ " SET ").toList ++
        ((Sql.joined ", " ((cell :: cells).map cellSql)).text.toList ++
          (" WHERE ".toList ++ filter.text.toList)) := by
    rw [start_eq]
    simp only [Sql.text_append, Sql.text_plain, String.toList_append, List.append_assoc]
  rw [read?, text, values, isPrefixOf?_append, Option.bind_eq_bind, Option.bind_some]
  exact readCells_joined cell cells tokens filter

/-! ## Assigned columns -/

section Places

variable {t : Table} {sparse : Bool} {row : Row}

/-- The value of a row for a column. -/
def valueAt (width : row.length = t.columns.length) (i : Fin t.columns.length) : Value :=
  row.get (i.cast width.symm)

/-- The places of the columns that are to be assigned: all but the key, and if `sparse` only those
with a value that is not NULL. -/
def places (t : Table) (sparse : Bool) (width : row.length = t.columns.length) :
    List (Fin t.columns.length) :=
  (List.finRange t.columns.length).filter fun i =>
    decide (i.val ≠ t.keyIndex) && !(sparse && (valueAt width i).isNull)

/-- The names of the columns at some places, each with its own value. -/
def cellsAt (width : row.length = t.columns.length) (is : List (Fin t.columns.length)) :
    List (String × Value) :=
  is.map fun i => ((t.columns.get i).sql, valueAt width i)

theorem zip_eq_map_finRange (width : row.length = t.columns.length) :
    t.columns.zip row =
      (List.finRange t.columns.length).map fun i => (t.columns.get i, valueAt width i) := by
  refine List.ext_getElem ?_ fun i h1 h2 => ?_
  · simp [width]
  · simp [valueAt]

/-- The columns at these places are assigned. The key is left out because of its mark, which no other
column has. -/
theorem assigned_eq (width : row.length = t.columns.length)
    (key : ∀ i : Fin t.columns.length, (t.columns.get i).primaryKey = true ↔ i.val = t.keyIndex) :
    assigned t sparse row =
      (places t sparse width).map fun i => (t.columns.get i, valueAt width i) := by
  rw [assigned, zip_eq_map_finRange width, List.filter_map, places]
  refine congrArg _ (List.filter_congr fun i _ => ?_)
  have mark : (t.columns.get i).primaryKey = decide (i.val = t.keyIndex) := by
    rw [Bool.eq_iff_iff, decide_eq_true_iff]
    exact key i
  simp only [Function.comp_apply, mark, ne_eq, decide_not]

end Places

/-! ## Running -/

/-- The row with new values in the columns that some cells name. -/
def assign (t : Table) (cells : List (String × Value)) (stored : Row) : Row :=
  (t.columns.zip stored).map fun (column, old) => (cells.lookup column.sql).getD old

/-- The rows of a table after an update, if it can be read as one. -/
def run (t : Table) (matching : Sql → Row → Bool) (statement : Sql) (content : List Row) :
    Option (List Row) :=
  (read? t statement).map fun (cells, filter) =>
    content.map fun stored => if matching filter stored then assign t cells stored else stored

section Run

variable {t : Table} {row : Row}

/-- The new row has the values of `row` at some places and is the old one at all others. -/
def AssignedAt (width : row.length = t.columns.length) (is : List (Fin t.columns.length))
    (old new : Row) : Prop :=
  ∀ stored : old.length = t.columns.length, new.length = t.columns.length ∧
    ∀ i : Fin t.columns.length,
      new[i.val]? = some (if i ∈ is then valueAt width i else valueAt stored i)

theorem sql_injective (distinct : (t.columns.map Column.sql).Nodup) :
    Function.Injective fun i : Fin t.columns.length => (t.columns.get i).sql := by
  intro i j same
  have columns := List.inj_on_of_nodup_map distinct (List.get_mem _ i) (List.get_mem _ j) same
  exact (List.Nodup.of_map _ distinct).injective_get columns

theorem lookup_cellsAt_cons (width : row.length = t.columns.length) (i : Fin t.columns.length)
    (is : List (Fin t.columns.length)) (name : String) :
    (cellsAt width (i :: is)).lookup name =
      bif name == (t.columns.get i).sql then some (valueAt width i)
      else (cellsAt width is).lookup name := by
  rw [cellsAt, List.map_cons, List.lookup_cons, ← cellsAt]
  cases name == (t.columns.get i).sql <;> rfl

variable {width : row.length = t.columns.length} {is : List (Fin t.columns.length)}
  {j : Fin t.columns.length}

/-- A column that is named gets its own value, since no other column has its name. -/
theorem lookup_cellsAt_of_mem (distinct : (t.columns.map Column.sql).Nodup) (h : j ∈ is) :
    (cellsAt width is).lookup (t.columns.get j).sql = some (valueAt width j) := by
  induction is with
  | nil => cases h
  | cons i rest ih =>
    rw [lookup_cellsAt_cons]
    by_cases same : (t.columns.get j).sql = (t.columns.get i).sql
    · rw [sql_injective distinct same, beq_self_eq_true, cond_true]
    · have h : j ∈ rest := (List.mem_cons.1 h).resolve_left fun e => same (by rw [e])
      rw [beq_eq_false_iff_ne.2 same, cond_false, ih h]

theorem lookup_cellsAt_of_not_mem (distinct : (t.columns.map Column.sql).Nodup) (h : j ∉ is) :
    (cellsAt width is).lookup (t.columns.get j).sql = none := by
  induction is with
  | nil => rfl
  | cons i rest ih =>
    rw [List.mem_cons, not_or] at h
    obtain ⟨other, h⟩ := h
    have other : (t.columns.get j).sql ≠ (t.columns.get i).sql := fun same =>
      other (sql_injective distinct same)
    rw [lookup_cellsAt_cons, beq_eq_false_iff_ne.2 other, cond_false, ih h]

theorem assignedAt_assign (distinct : (t.columns.map Column.sql).Nodup)
    (width : row.length = t.columns.length) (is : List (Fin t.columns.length)) (old : Row) :
    AssignedAt width is old (assign t (cellsAt width is) old) := by
  intro stored
  rw [assign, zip_eq_map_finRange stored, List.map_map]
  refine ⟨by simp, fun i => ?_⟩
  rw [List.getElem?_map, List.getElem?_eq_getElem (by simp), Option.map_some, List.getElem_finRange]
  show some (((cellsAt width is).lookup (t.columns.get i).sql).getD (valueAt stored i)) = _
  by_cases h : i ∈ is
  · rw [if_pos h, lookup_cellsAt_of_mem distinct h]
    rfl
  · rw [if_neg h, lookup_cellsAt_of_not_mem distinct h]
    rfl

end Run

/-! ## Updates and replacements -/

variable {s : Settings} {t : Table}

/-- A row for the rows of a target, with its NULLs left out or not. -/
def mutation (sparse : Bool) (row : Row) (target : Target) : Mutation :=
  if sparse then .update row target else .replace row target

theorem writes_mutation (sparse multiRow : Bool) (row : Row) (target : Target) :
    (mutation sparse row target).writes s t multiRow = do
      return [.single (← sql s t sparse row target)] := by
  cases sparse <;> rfl

theorem sql_of_filter {sparse : Bool} {row : Row} {target : Target} {filter : Sql}
    (width : row.length = t.columns.length) (h : target.filter s t .update = .ok filter) :
    sql s t sparse row target =
      if assigned t sparse row = [] then .error (.noAssignments t.sql)
      else .ok (start t (assigned t sparse row) ++ .plain " WHERE " ++ filter) := by
  rw [sql, Table.checkWidth_eq_ok_iff.2 width, h]
  by_cases nothing : assigned t sparse row = []
  · rw [if_pos nothing, nothing]
    rfl
  · rw [if_neg nothing]
    exact if_neg (by rwa [List.isEmpty_iff])

theorem run_eq {statement filter : Sql} {cells : List (String × Value)}
    (h : read? t statement = some (cells, filter)) (matching : Sql → Row → Bool)
    (content : List Row) :
    run t matching statement content =
      some (content.map fun stored =>
        if matching filter stored then assign t cells stored else stored) := by
  rw [run, h]
  rfl

/-- **Updates and replacements assign the right cells.** If the target cannot be written as a filter,
that is the error. Otherwise there is a statement unless there is nothing to assign, and it is read as
an assignment of the row's own values to the columns that are to be assigned, for the rows that the
filter is about. -/
theorem assigns_own_cells {d : EntityDecl} (h : s.table d = .ok t)
    (tokens : ∀ column ∈ t.columns, IsToken column.sql)
    (distinct : (t.columns.map Column.sql).Nodup) (sparse multiRow : Bool) {row : Row}
    (width : row.length = t.columns.length) (target : Target) :
    (∀ e, target.filter s t .update = .error e →
      (mutation sparse row target).writes s t multiRow = .error e) ∧
    ∀ filter, target.filter s t .update = .ok filter →
      filter.Cut s t (target.asCondition t).predicates ∧ filter.params = target.params ∧
      (places t sparse width = [] →
        (mutation sparse row target).writes s t multiRow = .error (.noAssignments t.sql)) ∧
      (places t sparse width ≠ [] → ∃ statement,
        (mutation sparse row target).writes s t multiRow = .ok [.single statement] ∧
        read? t statement = some (cellsAt width (places t sparse width), filter) ∧
        ∀ (matching : Sql → Row → Bool) (content : List Row), ∃ left,
          run t matching statement content = some left ∧
          List.Forall₂ (fun old new =>
            if matching filter old then AssignedAt width (places t sparse width) old new
            else new = old) content left) := by
  have cells : assigned t sparse row = _ := assigned_eq width (Settings.primaryKey_iff_of_table h)
  refine ⟨fun e he => ?_, fun filter hfilter => ?_⟩
  · rw [writes_mutation, sql, Table.checkWidth_eq_ok_iff.2 width, he]
    rfl
  have rendered := Target.render_of_filter hfilter
  refine ⟨Condition.cut_of_render false filter _ rendered, ?_, fun nothing => ?_, fun some_place => ?_⟩
  · rw [Condition.params_of_render rendered, Target.params_asCondition]
  · rw [nothing, List.map_nil] at cells
    rw [writes_mutation, sql_of_filter width hfilter, if_pos cells]
    rfl
  · have some_cell : assigned t sparse row ≠ [] := fun none =>
      some_place (List.map_eq_nil_iff.1 (cells.symm.trans none))
    have named : ∀ c ∈ assigned t sparse row, IsToken c.1.sql := fun c hc =>
      tokens c.1 (List.of_mem_zip (List.mem_filter.1 hc).1).1
    have read := read?_start (t := t) some_cell named filter
    have own : ((assigned t sparse row).map fun c => (c.1.sql, c.2)) =
        cellsAt width (places t sparse width) := by
      rw [cells, List.map_map]
      rfl
    rw [own] at read
    refine ⟨_, ?_, read, fun matching content => ⟨_, run_eq read matching content, ?_⟩⟩
    · rw [writes_mutation, sql_of_filter width hfilter, if_neg some_cell]
      rfl
    · rw [List.forall₂_map_right_iff, List.forall₂_same]
      intro stored _
      split
      · exact assignedAt_assign distinct width _ stored
      · rfl

theorem assigns_own_cells_sparse :
    Sample.settings.table Sample.itemDecl = .ok Sample.items ∧
      (∀ column ∈ Sample.items.columns, IsToken column.sql) ∧
      (Sample.items.columns.map Column.sql).Nodup ∧
      ∃ statement,
        (mutation true [.null, .text "cap", .null] (.keys [.integer 7])).writes Sample.settings
          Sample.items true = .ok [.single statement] ∧
        read? Sample.items statement =
          some ([("name", .text "cap")], ⟨"id IN (?)", [.integer 7]⟩) := by
  have tokens : ∀ column ∈ Sample.items.columns, IsToken column.sql := by decide
  have distinct : (Sample.items.columns.map Column.sql).Nodup := by decide
  have width : [Value.null, .text "cap", .null].length = Sample.items.columns.length := rfl
  have some_place : ∀ width : [Value.null, .text "cap", .null].length = Sample.items.columns.length,
      places Sample.items true width ≠ [] := by decide
  have filter : (Target.keys [.integer 7]).filter Sample.settings Sample.items .update =
      .ok ⟨"id IN (?)", [.integer 7]⟩ := by rfl
  obtain ⟨-, written⟩ := assigns_own_cells Sample.table_itemDecl tokens distinct true true width
    (.keys [.integer 7])
  obtain ⟨-, -, -, written⟩ := written _ filter
  obtain ⟨statement, found, read, -⟩ := written (some_place width)
  exact ⟨Sample.table_itemDecl, tokens, distinct, statement, found, read⟩

end Update

end EntitySql
