/-
  Inserts name the columns that they write.

  Behind the table every insert names columns of the table, and each of its tuples has a placeholder for
  every column that is named (`Names`). The columns are those of the table, less the key where it is left
  to the database. So nothing is left to name if the key is the only column: such an insert is still sent,
  as `() VALUES ()`, while a change that would assign nothing is refused
  (`column_named_unless_only_key_left`).
-/
import EntitySql.Proofs.Change.Assignment
import EntitySql.Proofs.Insert.Rows

namespace EntitySql

/-! ## Texts -/

/-- The placeholders for so many columns. -/
def Insert.tupleText (width : Nat) : String := "(" ++ placeholders width ++ ")"

/-- The text is an insert into these columns of the table, with at least one tuple. Each tuple has as
many placeholders as there are columns. -/
def Write.Names (t : Table) (columns : List Column) (write : Write) : Prop :=
  ∃ tuples, 0 < tuples ∧ write.text = Record.head t.sql (columns.map Column.sql) ++
    ", ".intercalate (List.replicate tuples (Insert.tupleText columns.length))

theorem exists_intercalate_replicate (separator part : String) {n : Nat} (h : 0 < n) :
    ∃ start, separator.intercalate (List.replicate n part) = start ++ part := by
  obtain ⟨n, rfl⟩ := Nat.exists_eq_succ_of_ne_zero (Nat.ne_of_gt h)
  rw [List.replicate_succ']
  cases n with
  | zero => exact ⟨"", by simp⟩
  | succ n =>
    rw [String.intercalate_append_of_ne_nil (by simp) (by simp), String.intercalate_singleton]
    exact ⟨_, rfl⟩

/-- The end of a tuple shows whether there is a placeholder in it. -/
theorem Insert.empty_suffix_tupleText_iff (start : String) (width : Nat) :
    "()".toList <:+ (start ++ tupleText width).toList ↔ width = 0 := by
  cases width with
  | zero => simp [tupleText, placeholders, String.toList_append]
  | succ n =>
    obtain ⟨others, hothers⟩ := exists_intercalate_replicate ", " "?" (Nat.succ_pos n)
    have text : (start ++ tupleText (n + 1)).toList =
        (start ++ "(" ++ others).toList ++ ['?', ')'] := by
      rw [tupleText, placeholders, hothers]
      simp [String.toList_append]
    rw [text]
    refine ⟨fun h => ?_, fun h => absurd h n.succ_ne_zero⟩
    have same := List.suffix_of_suffix_length_le h (List.suffix_append _ ['?', ')']) (Nat.le_refl _)
    exact absurd (same.eq_of_length rfl) (by decide)

/-- The text alone tells whether a column is named. -/
theorem Write.Names.empty_suffix_iff {t : Table} {columns : List Column} {write : Write}
    (h : write.Names t columns) : "()".toList <:+ write.text.toList ↔ columns = [] := by
  obtain ⟨tuples, some_tuple, text⟩ := h
  obtain ⟨start, tail⟩ :=
    exists_intercalate_replicate ", " (Insert.tupleText columns.length) some_tuple
  rw [text, tail, ← String.append_assoc, Insert.empty_suffix_tupleText_iff, List.length_eq_zero_iff]

namespace Insert

namespace Shape

theorem sublist_columns (shape : Shape) : shape.columns.Sublist shape.table.columns := by
  rw [columns, pick]
  split
  · exact List.eraseIdx_sublist _ _
  · exact List.Sublist.refl _

/-- Only the key can be left out, so nothing is left of a table that has no other column. -/
theorem columns_eq_nil_iff (shape : Shape) :
    shape.columns = [] ↔ shape.withoutKey ∧ shape.table.columns = [shape.table.key] := by
  have inside := shape.table.keyIndex_lt
  rw [columns, pick]
  split
  · next left =>
    rw [← List.length_eq_zero_iff, List.length_eraseIdx_of_lt inside]
    refine ⟨fun none => ⟨left, ?_⟩, fun h => by rw [h.2]; rfl⟩
    obtain ⟨column, only⟩ := List.length_eq_one_iff.1 (show shape.table.columns.length = 1 by omega)
    have key : shape.table.key ∈ shape.table.columns := List.get_mem _ _
    rw [only, List.mem_singleton] at key
    rw [only, key]
  · next kept =>
    exact ⟨fun none => absurd inside (by rw [none]; exact Nat.not_lt_zero _),
      fun h => absurd h.1 kept⟩

theorem names_rows (shape : Shape) {rows : List Row} (some_row : rows ≠ []) :
    (Write.single (shape.rows rows)).Names shape.table shape.columns :=
  ⟨rows.length, List.length_pos_iff.2 some_row, rfl⟩

theorem writes_ne_nil (shape : Shape) (d : Dialect) (multiRow : Bool) {run : List Row}
    (some_row : run ≠ []) : shape.writes d multiRow run ≠ [] := by
  unfold writes
  split
  · exact List.cons_ne_nil _ _
  · split
    · exact fun none => chunks_ne_nil (Nat.le_max_right _ 1) some_row (List.map_eq_nil_iff.1 none)
    · exact List.cons_ne_nil _ _

/-- However a run of rows is written, the columns are those of its shape. -/
theorem names_of_mem_writes (shape : Shape) {d : Dialect} {multiRow : Bool} {run : List Row}
    (some_row : run ≠ []) {write : Write} (h : write ∈ shape.writes d multiRow run) :
    write.Names shape.table shape.columns := by
  unfold writes at h
  split at h
  · next row =>
    rw [List.mem_singleton, ← rows_singleton] at h
    rw [h]
    exact shape.names_rows (List.cons_ne_nil _ _)
  · split at h
    · obtain ⟨piece, hpiece, rfl⟩ := List.mem_map.1 h
      exact shape.names_rows (ne_nil_of_mem_chunks (Nat.le_max_right _ 1) hpiece)
    · rw [List.mem_singleton] at h
      rw [h]
      refine ⟨1, Nat.one_pos, ?_⟩
      rw [List.replicate_one, String.intercalate_singleton]
      rfl

end Shape

/-! ## Inserts -/

variable {s : Settings} {t : Table} {multiRow : Bool} {rows : List Row} {found : List Write}

/-- A statement leaves the key out only where it is generated and NULL in some row. -/
theorem exists_shape_of_mem_writes (h : writes s t multiRow rows = .ok found) {write : Write}
    (hwrite : write ∈ found) : ∃ withoutKey : Bool, write.Names t (⟨t, withoutKey⟩ : Shape).columns ∧
      (withoutKey → t.key.generated ∧ ∃ row ∈ rows, t.keyValue row = .null) := by
  obtain ⟨some_row, width⟩ := width_of_writes h
  rw [writes_eq_ok s t multiRow some_row width, Except.ok.injEq] at h
  subst h
  split at hwrite
  · next generated =>
    obtain ⟨run, hrun, hwrite⟩ := List.mem_flatMap.1 hwrite
    have filled : run ≠ [] := List.ne_nil_of_mem_splitBy hrun
    refine ⟨leavesKey t run, Shape.names_of_mem_writes ⟨t, leavesKey t run⟩ filled hwrite,
      fun left => ⟨generated, ?_⟩⟩
    obtain ⟨row, hrow⟩ := List.exists_mem_of_ne_nil run filled
    rw [leavesKey_eq hrun hrow] at left
    exact ⟨row, mem_of_mem_runs hrun hrow, Value.isNull_iff.1 left⟩
  · exact ⟨false, Shape.names_of_mem_writes ⟨t, false⟩ some_row hwrite, nofun⟩

/-- A generated key that is NULL is left out by some statement. -/
theorem exists_write_without_key (h : writes s t multiRow rows = .ok found)
    (generated : t.key.generated) {row : Row} (hrow : row ∈ rows) (null : t.keyValue row = .null) :
    ∃ write ∈ found, write.Names t (⟨t, true⟩ : Shape).columns := by
  obtain ⟨some_row, width⟩ := width_of_writes h
  rw [writes_eq_ok s t multiRow some_row width, if_pos generated, Except.ok.injEq] at h
  subst h
  rw [← flatten_runs t rows] at hrow
  obtain ⟨run, hrun, hrow⟩ := List.mem_flatten.1 hrow
  have filled : run ≠ [] := List.ne_nil_of_mem hrow
  have left : leavesKey t run = true := by
    rw [leavesKey_eq hrun hrow, null]
    rfl
  obtain ⟨write, hwrite⟩ := List.exists_mem_of_ne_nil _
    (Shape.writes_ne_nil ⟨t, leavesKey t run⟩ s.dialect multiRow filled)
  refine ⟨write, List.mem_flatMap.2 ⟨run, hrun, hwrite⟩, ?_⟩
  rw [← left]
  exact Shape.names_of_mem_writes ⟨t, leavesKey t run⟩ filled hwrite

/-- **Inserts name a column, unless the only one is left to the database.** Rows of the right width are
never refused. Every statement names columns of the table, with a placeholder for each of them in every
tuple, and it names at least one unless the table has no column but a generated key that is NULL in some
row. There the statement is sent without columns, whereas a change that assigns nothing is refused. -/
theorem column_named_unless_only_key_left (s : Settings) (t : Table) (multiRow : Bool)
    {rows : List Row} (some_row : rows ≠ []) (width : ∀ row ∈ rows, row.length = t.columns.length) :
    ∃ found, (Mutation.insert rows).writes s t multiRow = .ok found ∧
      (∀ write ∈ found, ∃ columns, columns.Sublist t.columns ∧ write.Names t columns) ∧
      ((∀ write ∈ found, ∃ columns, columns ≠ [] ∧ columns.Sublist t.columns ∧
          write.Names t columns) ↔
        ¬ (t.columns = [t.key] ∧ t.key.generated ∧ ∃ row ∈ rows, t.keyValue row = .null)) ∧
      ∀ (sparse : Bool) (row : Row) (target : Target) (filter : Sql),
        row.length = t.columns.length → target.filter s t .update = .ok filter →
        Update.assigned t sparse row = [] →
        (Update.mutation sparse row target).writes s t multiRow = .error (.noAssignments t.sql) := by
  have h := writes_eq_ok s t multiRow some_row width
  refine ⟨_, h, fun write hwrite => ?_, ⟨fun named only => ?_, fun others write hwrite => ?_⟩,
    fun sparse row target filter width' hfilter nothing => ?_⟩
  · obtain ⟨withoutKey, names, -⟩ := exists_shape_of_mem_writes h hwrite
    exact ⟨_, Shape.sublist_columns _, names⟩
  · obtain ⟨only, generated, row, hrow, null⟩ := only
    obtain ⟨write, hwrite, bare⟩ := exists_write_without_key h generated hrow null
    obtain ⟨columns, some_column, -, names⟩ := named write hwrite
    have none := (Shape.columns_eq_nil_iff ⟨t, true⟩).2 ⟨rfl, only⟩
    exact some_column (names.empty_suffix_iff.1 (bare.empty_suffix_iff.2 none))
  · obtain ⟨withoutKey, names, left⟩ := exists_shape_of_mem_writes h hwrite
    refine ⟨_, fun none => ?_, Shape.sublist_columns _, names⟩
    obtain ⟨without, only⟩ := (Shape.columns_eq_nil_iff ⟨t, withoutKey⟩).1 none
    exact others ⟨only, left without⟩
  · rw [Update.writes_mutation, Update.sql_of_filter width' hfilter, if_pos nothing]
    rfl

theorem column_named_unless_only_key_left_items :
    Sample.rows ≠ [] ∧ (∀ row ∈ Sample.rows, row.length = Sample.items.columns.length) ∧
      ∃ found, (Mutation.insert Sample.rows).writes Sample.settings Sample.items true = .ok found ∧
        ∀ write ∈ found, ∃ columns, columns ≠ [] ∧ columns.Sublist Sample.items.columns ∧
          write.Names Sample.items columns := by
  have some_row : Sample.rows ≠ [] := List.cons_ne_nil _ _
  have width : ∀ row ∈ Sample.rows, row.length = Sample.items.columns.length := by decide
  obtain ⟨found, written, -, named, -⟩ :=
    column_named_unless_only_key_left Sample.settings Sample.items true some_row width
  exact ⟨some_row, width, found, written, named.2 fun h => absurd h.1 (by decide)⟩

/-- A table with a generated key and nothing else: a row without a key is inserted into no columns, and
the same row is refused as a replacement because it assigns nothing. -/
theorem only_key_left_names_no_column :
    let d : EntityDecl := ⟨"KeyOnly", none, [⟨"id", none, true, true⟩]⟩
    let t : Table := ⟨"KeyOnly", "KeyOnly", [⟨"id", "id", "id", true, true⟩], 0, by decide⟩
    Sample.settings.table d = .ok t ∧
      (Mutation.insert [[.null]]).writes Sample.settings t true =
        .ok [.single ⟨"INSERT INTO KeyOnly () VALUES ()", []⟩] ∧
      (Mutation.replace [.null] (.key (.integer 1))).writes Sample.settings t true =
        .error (.noAssignments "KeyOnly") :=
  ⟨rfl, rfl, rfl⟩

end Insert

end EntitySql
