/-
  Columns whose labels lead to another field.

  A valid declaration may give two fields columns of one name, or of names that differ in case only.
  Labels lead to the last of these columns; those before it are shadowed. So a label leads from each
  column back to its own field exactly where no two columns share a name, and of a row that has a cell
  for every column just the cells of shadowed columns are lost (`Table.column_found_unless_shadowed`).
-/
import EntitySql.Proofs.Entity.Validity
import EntitySql.Proofs.Result.Placement
import EntitySql.Proofs.Sample

namespace EntitySql

namespace Table

/-! ## Labels -/

/-- The last element with a property comes no sooner than any other element that has it. -/
theorem lastIndex?_spec {α : Type} {p : α → Bool} {xs : List α} {i : Nat} (h : i < xs.length)
    (has : p xs[i]) :
    ∃ m, lastIndex? p xs = some m ∧ i ≤ m ∧ ∃ hm : m < xs.length,
      p xs[m] ∧ ∀ (k : Nat) (hk : k < xs.length), m < k → ¬ p xs[k] := by
  have some_index : (xs.reverse.findIdx? p).isSome := by
    rw [List.findIdx?_isSome, List.any_reverse, List.any_eq_true]
    exact ⟨xs[i], List.getElem_mem h, has⟩
  obtain ⟨n, hn⟩ := Option.isSome_iff_exists.1 some_index
  obtain ⟨hlt, found, before⟩ := List.findIdx?_eq_some_iff_getElem.1 hn
  rw [List.length_reverse] at hlt
  rw [List.getElem_reverse] at found
  have after : ∀ (k : Nat) (hk : k < xs.length), xs.length - 1 - n < k → ¬ p xs[k] := by
    intro k hk later
    have none_before := before (xs.length - 1 - k) (by omega)
    rw [List.getElem_reverse] at none_before
    have same : xs.length - 1 - (xs.length - 1 - k) = k := by omega
    simpa only [same] using none_before
  refine ⟨xs.length - 1 - n, ?_, ?_, by omega, found, after⟩
  · rw [lastIndex?, hn, Option.map_some]
  · by_contra later
    exact after i h (by omega) has

/-- A later column has the same name, whatever the case of its letters. -/
def Shadowed (t : Table) (i : Fin t.columns.length) : Prop :=
  ∃ j : Fin t.columns.length, i < j ∧ Text.lower t.columns[j].name = Text.lower t.columns[i].name

instance (t : Table) (i : Fin t.columns.length) : Decidable (t.Shadowed i) :=
  inferInstanceAs (Decidable (∃ j : Fin t.columns.length,
    i < j ∧ Text.lower t.columns[j].name = Text.lower t.columns[i].name))

/-- The name of a column leads to the last column with this name. -/
theorem position?_name (t : Table) (i : Fin t.columns.length) :
    ∃ j : Fin t.columns.length, t.position? t.columns[i].name = some j.val ∧ i ≤ j ∧
      Text.lower t.columns[j].name = Text.lower t.columns[i].name ∧ ¬ t.Shadowed j := by
  obtain ⟨j, last, hij, hj, same, after⟩ := lastIndex?_spec
    (p := fun c : Column => decide (Text.lower c.name = Text.lower t.columns[i].name)) i.isLt
    (decide_eq_true rfl)
  have same := of_decide_eq_true same
  refine ⟨⟨j, hj⟩, ?_, hij, same, ?_⟩
  · unfold position?
    simp only [last]
    rfl
  · rintro ⟨k, later, shadows⟩
    exact after k k.isLt later (decide_eq_true (shadows.trans same))

theorem position?_name_eq_iff (t : Table) (i : Fin t.columns.length) :
    t.position? t.columns[i].name = some i.val ↔ ¬ t.Shadowed i := by
  obtain ⟨j, found, hij, same, last⟩ := t.position?_name i
  constructor
  · intro own
    have here : j = i := Fin.ext (Option.some.inj (found.symm.trans own))
    rwa [here] at last
  · intro unshadowed
    have here : j = i := by
      by_contra elsewhere
      exact unshadowed ⟨j, by omega, same⟩
    rw [found, here]

/-- No column is shadowed where all names differ, whatever the case of their letters. -/
theorem forall_not_shadowed_iff (t : Table) :
    (∀ i, ¬ t.Shadowed i) ↔ (t.columns.map fun c => Text.lower c.name).Nodup := by
  rw [List.nodup_iff_pairwise_ne, List.pairwise_iff_getElem]
  simp only [List.getElem_map, List.length_map]
  constructor
  · intro unshadowed i j hi hj hij same
    exact unshadowed ⟨i, hi⟩ ⟨⟨j, hj⟩, hij, same.symm⟩
  · rintro distinct i ⟨j, hij, same⟩
    exact distinct i j i.isLt j.isLt hij same.symm

end Table

namespace ResultSet

/-! ## Cells -/

/-- A field keeps its cell when no further value is for it. -/
theorem getElem?_foldl_placeCell_of_other {entries : List (Value × Option Nat)} {j : Nat}
    (others : ∀ entry ∈ entries, entry.2 ≠ some j) (cells : List (Option Value)) :
    (entries.foldl placeCell cells)[j]? = cells[j]? := by
  induction entries generalizing cells with
  | nil => rfl
  | cons entry rest ih =>
    have elsewhere : (placeCell cells entry)[j]? = cells[j]? := by
      obtain ⟨value, _ | i⟩ := entry
      · rfl
      · have hij : i ≠ j := fun hij => others _ List.mem_cons_self (congrArg some hij)
        exact List.getElem?_set_ne hij
    rw [List.foldl_cons, ih fun entry h => others entry (List.mem_cons_of_mem _ h), elsewhere]

/-- Of the values for one field the last one counts. -/
theorem getElem?_foldl_placeCell_of_last {entries rest : List (Value × Option Nat)} {j : Nat}
    (others : ∀ entry ∈ rest, entry.2 ≠ some j) (value : Value) {cells : List (Option Value)}
    (h : j < cells.length) :
    ((entries ++ (value, some j) :: rest).foldl placeCell cells)[j]? = some (some value) := by
  rw [List.foldl_append, List.foldl_cons, getElem?_foldl_placeCell_of_other others, placeCell,
    List.getElem?_set_self (by rwa [length_foldl_placeCell])]

/-- What a row with a cell for every column holds for a field: nothing if its column is shadowed, and
else its own cell. -/
def ownCell? (t : Table) (row : Row) (i : Fin t.columns.length) : Option Value :=
  if t.Shadowed i then none else row[i.val]?

variable {t : Table} {row : Row}

/-- The cells of a row with the fields that the names of the columns lead to. -/
theorem mem_drop_zip_positions {entry : Value × Option Nat} {n : Nat}
    (h : entry ∈ (row.zip (positions t (t.columns.map Column.name))).drop n) :
    ∃ i j : Fin t.columns.length, n ≤ i ∧ i ≤ j ∧ ¬ t.Shadowed j ∧ entry.2 = some j.val := by
  obtain ⟨k, hk, rfl⟩ := List.mem_iff_getElem.1 h
  rw [List.getElem_drop, List.getElem_zip]
  simp only [positions, List.length_drop, List.length_zip, List.length_map] at hk
  obtain ⟨j, found, hij, -, last⟩ := t.position?_name ⟨n + k, by omega⟩
  refine ⟨⟨n + k, by omega⟩, j, Nat.le_add_right n k, hij, last, ?_⟩
  simpa [positions] using found

theorem getElem?_placeCells_names (width : row.length = t.columns.length)
    (i : Fin t.columns.length) :
    (placeCells t.columns.length (positions t (t.columns.map Column.name)) row)[i.val]? =
      some (ownCell? t row i) := by
  unfold placeCells ownCell?
  split
  · next shadowed =>
    -- Labels never lead to a shadowed column.
    rw [getElem?_foldl_placeCell_of_other, List.getElem?_replicate_of_lt i.isLt]
    intro entry h here
    rw [← List.drop_zero (l := List.zip _ _)] at h
    obtain ⟨-, j, -, -, last, found⟩ := mem_drop_zip_positions h
    have hij : j = i := Fin.ext (Option.some.inj (found.symm.trans here))
    exact last (hij ▸ shadowed)
  · next unshadowed =>
    have hrow : i.val < row.length := by omega
    have inside : i.val < (row.zip (positions t (t.columns.map Column.name))).length := by
      simp only [positions, List.length_zip, List.length_map]
      omega
    have own : (row.zip (positions t (t.columns.map Column.name)))[i.val] = (row[i.val], some i.val) := by
      rw [List.getElem_zip]
      simpa [positions] using (t.position?_name_eq_iff i).2 unshadowed
    rw [← List.take_append_drop i.val (row.zip _), List.drop_eq_getElem_cons inside, own,
      getElem?_foldl_placeCell_of_last, List.getElem?_eq_getElem hrow]
    · intro entry h here
      obtain ⟨k, j, later, hkj, -, found⟩ := mem_drop_zip_positions h
      have hij : j.val = i.val := Option.some.inj (found.symm.trans here)
      omega
    · rw [List.length_replicate]
      exact i.isLt

theorem placeCells_names (width : row.length = t.columns.length) :
    placeCells t.columns.length (positions t (t.columns.map Column.name)) row =
      (List.finRange t.columns.length).map (ownCell? t row) := by
  refine List.ext_getElem? fun i => ?_
  by_cases hi : i < t.columns.length
  · rw [getElem?_placeCells_names width ⟨i, hi⟩]
    simp [hi]
  · rw [List.getElem?_eq_none (by rw [length_placeCells]; omega), List.getElem?_eq_none (by simpa using hi)]

end ResultSet

namespace Table

/-- The table of a valid declaration leads from the name of a column back to its own field unless
another column with this name comes later; it does so for all columns exactly where the names of the
declaration's columns differ, whatever the case of their letters. Of a row with a cell for every column,
the fields of shadowed columns get nothing and all others their own cells. -/
theorem column_found_unless_shadowed {s : Settings} {d : EntityDecl} {t : Table}
    (h : s.table d = .ok t) :
    (∀ i : Fin t.columns.length, t.position? t.columns[i].name = some i.val ↔ ¬ t.Shadowed i) ∧
    ((∀ i : Fin t.columns.length, t.position? t.columns[i].name = some i.val) ↔
      (d.fields.map fun f => Text.lower (s.columnName f)).Nodup) ∧
    ∀ (α : Type) (type : EntityType α) (rows : List Row),
      (∀ row ∈ rows, row.length = t.columns.length) →
      (⟨t.columns.map Column.name, rows⟩ : ResultSet).elements t type =
        rows.map fun row => type.ofCells
          ((List.finRange t.columns.length).map (ResultSet.ownCell? t row)) := by
  have columns := (Settings.table_eq_ok h).2
  refine ⟨t.position?_name_eq_iff, ?_, fun α type rows width => ?_⟩
  · have names : t.columns.map (fun c => Text.lower c.name) =
        d.fields.map fun f => Text.lower (s.columnName f) := by
      rw [columns, List.map_map]
      rfl
    rw [← names, ← t.forall_not_shadowed_iff]
    exact forall_congr' t.position?_name_eq_iff
  · unfold ResultSet.elements
    refine List.map_congr_left fun row hrow => ?_
    rw [ResultSet.placeCells_names (width row hrow)]

theorem column_found_unless_shadowed_items :
    Sample.settings.table Sample.itemDecl = .ok Sample.items ∧
      (∀ row ∈ Sample.rows, row.length = Sample.items.columns.length) ∧
      (∀ i : Fin Sample.items.columns.length,
        Sample.items.position? Sample.items.columns[i].name = some i.val) ∧
      (⟨["id", "name", "qty"], Sample.rows⟩ : ResultSet).elements Sample.items
        (.ofRows Sample.itemDecl) = Sample.rows := by
  have table : Sample.settings.table Sample.itemDecl = .ok Sample.items := Sample.table_itemDecl
  have width : ∀ row ∈ Sample.rows, row.length = Sample.items.columns.length := by decide
  have names : (Sample.itemDecl.fields.map fun f => Text.lower (Sample.settings.columnName f)).Nodup := by
    decide
  obtain ⟨-, all, cells⟩ := column_found_unless_shadowed table
  exact ⟨table, width, all.2 names, (cells _ (.ofRows Sample.itemDecl) Sample.rows width).trans rfl⟩

/-- A declaration whose columns differ in case only is valid. The label of the first one leads to the
second, and the first field gets nothing from a row that has a cell for it. -/
theorem shadowed_column_of_valid_declaration :
    let d : EntityDecl := ⟨"Clash", none, [⟨"id", none, true, false⟩,
      ⟨"first", some "VAL", false, false⟩, ⟨"second", some "val", false, false⟩]⟩
    ∃ t, Sample.settings.table d = .ok t ∧ t.columns.map Column.name = ["id", "VAL", "val"] ∧
      t.position? "VAL" = some 2 ∧
      (¬ ∀ i : Fin t.columns.length, t.position? t.columns[i].name = some i.val) ∧
      (⟨["id", "VAL", "val"], [[.integer 1, .text "a", .text "b"]]⟩ : ResultSet).elements t
        (.ofRows d) = [[.integer 1, .null, .text "b"]] := by
  intro d
  obtain ⟨t, table⟩ : ∃ t, Sample.settings.table d = .ok t := ⟨_, rfl⟩
  cases table
  refine ⟨_, rfl, rfl, rfl, fun own => ?_, rfl⟩
  have first := own ⟨1, by decide⟩
  revert first
  decide

end Table

end EntitySql
