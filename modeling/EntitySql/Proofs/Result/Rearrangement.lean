/-
  Rows are read by their labels, not by the order of their columns.

  The cells of a row are put at the places of their fields one after the other. If no two labels mean
  the same field then each cell comes to stand where its label says, whatever stands around it
  (`byLabel_placeCells`). So columns may change places, and columns whose labels mean no field may come
  between them, and every row is still read as the same element: this is proved for one such change
  (`SameRows.elements_eq`) and by induction for any number of them (`rows_read_by_label`).
-/
import EntitySql.Proofs.Result.Shadowing
import Mathlib.Data.List.Perm.Basic
import Mathlib.Data.List.Zip
import Mathlib.Logic.Relation

namespace EntitySql

/-! ## Places of fields -/

/-- The last element with a property is one of the elements. -/
theorem Table.lt_of_lastIndex? {α : Type} {p : α → Bool} {xs : List α} {i : Nat}
    (h : lastIndex? p xs = some i) : i < xs.length := by
  obtain ⟨n, found, rfl⟩ := Option.map_eq_some_iff.1 h
  have inside : n < xs.reverse.length := (List.findIdx?_eq_some_iff_getElem.1 found).choose
  rw [List.length_reverse] at inside
  omega

theorem Table.lt_of_position? {t : Table} {label : String} {i : Nat}
    (h : t.position? label = some i) : i < t.columns.length := by
  unfold position? at h
  simp only [Option.orElse_eq_orElse, Option.orElse_eq_or] at h
  rcases Option.or_eq_some_iff.1 h with h | ⟨-, h⟩
  · exact lt_of_lastIndex? h
  · rcases Option.or_eq_some_iff.1 h with h | ⟨-, h⟩
    · exact (List.findIdx?_eq_some_iff_getElem.1 h).choose
    · exact (List.findIdx?_eq_some_iff_getElem.1 h).choose

/-! ## Columns in another order -/

/-- The elements at some places, in the order of the places. -/
def pick {α : Type} (places : List Nat) (xs : List α) : List α := places.filterMap fun i => xs[i]?

theorem pick_range {α : Type} (xs : List α) : pick (List.range xs.length) xs = xs := by
  induction xs with
  | nil => rfl
  | cons x rest ih =>
    have behind : pick ((List.range rest.length).map Nat.succ) (x :: rest) = rest := by
      rw [pick, List.filterMap_map]
      exact ih
    rw [List.length_cons, List.range_succ_eq_map]
    exact congrArg (x :: ·) behind

theorem pick_zip {α β : Type} (places : List Nat) {xs : List α} {ys : List β}
    (same : xs.length = ys.length) :
    pick places (xs.zip ys) = (pick places xs).zip (pick places ys) := by
  induction places with
  | nil => rfl
  | cons i rest ih =>
    unfold pick at ih ⊢
    by_cases hi : i < xs.length
    · have hy : i < ys.length := same ▸ hi
      have both : (xs.zip ys)[i]? = some (xs[i], ys[i]) := by
        rw [List.getElem?_zip_eq_some]
        exact ⟨List.getElem?_eq_getElem hi, List.getElem?_eq_getElem hy⟩
      rw [List.filterMap_cons_some both, List.filterMap_cons_some (List.getElem?_eq_getElem hi),
        List.filterMap_cons_some (List.getElem?_eq_getElem hy), ih, List.zip_cons_cons]
    · have neither : (xs.zip ys)[i]? = none := by
        rw [List.getElem?_eq_none_iff, List.length_zip]
        omega
      rw [List.filterMap_cons_none neither,
        List.filterMap_cons_none (List.getElem?_eq_none (by omega)),
        List.filterMap_cons_none (List.getElem?_eq_none (by omega)), ih]

/-- What is picked at all places is the same elements in another order. -/
theorem perm_pick {α : Type} {places : List Nat} {xs : List α}
    (all : places.Perm (List.range xs.length)) : (pick places xs).Perm xs := by
  have picked : (pick places xs).Perm (pick (List.range xs.length) xs) := all.filterMap _
  rwa [pick_range] at picked

theorem insertIdx_zip {α β : Type} (place : Nat) (x : α) (y : β) {xs : List α} {ys : List β}
    (same : xs.length = ys.length) :
    (xs.insertIdx place x).zip (ys.insertIdx place y) = (xs.zip ys).insertIdx place (x, y) := by
  induction place generalizing xs ys with
  | zero => rfl
  | succ n ih =>
    cases xs with
    | nil =>
      rw [List.length_nil] at same
      rw [List.eq_nil_of_length_eq_zero same.symm]
      rfl
    | cons a xs =>
      cases ys with
      | nil => cases same
      | cons b ys => exact congrArg ((a, b) :: ·) (ih (Nat.succ.inj same))

theorem forall₂_zipWith {α β γ : Type} {R : α → γ → Prop} {f : α → β → γ} {xs : List α}
    {ys : List β} (h : ∀ x ∈ xs, ∀ y, R x (f x y)) (same : ys.length = xs.length) :
    List.Forall₂ R xs (List.zipWith f xs ys) := by
  induction xs generalizing ys with
  | nil => exact .nil
  | cons x xs ih =>
    cases ys with
    | nil => cases same
    | cons y ys =>
      exact .cons (h x List.mem_cons_self y)
        (ih (fun z hz => h z (List.mem_cons_of_mem x hz)) (Nat.succ.inj same))

namespace ResultSet

variable {t : Table}

/-! ## Cells by label -/

/-- The cells hold, for every field, what the row has under the label that means it, and nothing for
the fields that no label means. -/
structure ByLabel (t : Table) (entries : List (String × Value)) (cells : List (Option Value)) :
    Prop where
  length : cells.length = t.columns.length
  own : ∀ (label : String) (value : Value) (j : Nat), (label, value) ∈ entries →
    t.position? label = some j → cells[j]? = some (some value)
  absent : ∀ j < t.columns.length, (∀ entry ∈ entries, t.position? entry.1 ≠ some j) →
    cells[j]? = some none

variable {entries others : List (String × Value)} {cells cells' : List (Option Value)}

/-- There is one way only to put the cells where their labels say. -/
theorem ByLabel.unique (h : ByLabel t entries cells) (h' : ByLabel t entries cells') :
    cells = cells' := by
  refine List.ext_getElem? fun j => ?_
  by_cases hj : j < t.columns.length
  · by_cases meant : ∃ entry ∈ entries, t.position? entry.1 = some j
    · obtain ⟨⟨label, value⟩, present, found⟩ := meant
      rw [h.own label value j present found, h'.own label value j present found]
    · have nobody : ∀ entry ∈ entries, t.position? entry.1 ≠ some j :=
        fun entry present found => meant ⟨entry, present, found⟩
      rw [h.absent j hj nobody, h'.absent j hj nobody]
  · rw [List.getElem?_eq_none (by rw [h.length]; omega),
      List.getElem?_eq_none (by rw [h'.length]; omega)]

/-- The order of the entries makes no difference, nor do those whose labels mean no field. -/
theorem ByLabel.of_perm (h : ByLabel t entries cells) {foreign : List (String × Value)}
    (unknown : ∀ entry ∈ foreign, t.position? entry.1 = none)
    (perm : others.Perm (foreign ++ entries)) : ByLabel t others cells where
  length := h.length
  own label value j present found := by
    rcases List.mem_append.1 (perm.mem_iff.1 present) with outside | inside
    · rw [unknown _ outside] at found
      cases found
    · exact h.own label value j inside found
  absent j hj nobody :=
    h.absent j hj fun entry present =>
      nobody entry (perm.mem_iff.2 (List.mem_append_right foreign present))

theorem zip_positions (labels : List String) (row : Row) :
    row.zip (positions t labels) =
      (labels.zip row).map fun entry => (entry.2, t.position? entry.1) := by
  rw [positions, List.zip_map_right, ← List.zip_swap labels row, List.map_map]
  rfl

/-- By the labels' own account: the cells of a row come to stand where their labels say, if no two
labels mean the same field. -/
theorem byLabel_placeCells {labels : List String} {row : Row} (width : row.length = labels.length)
    (distinct : (labels.filterMap t.position?).Nodup) :
    ByLabel t (labels.zip row) (placeCells t.columns.length (positions t labels) row) := by
  refine ⟨length_placeCells _ _ _, fun label value j present found => ?_, fun j hj nobody => ?_⟩
  · obtain ⟨before, after, split⟩ := List.append_of_mem present
    have names : labels = before.map Prod.fst ++ label :: after.map Prod.fst := by
      have first : (labels.zip row).map Prod.fst = labels := List.map_fst_zip (by omega)
      rw [← first, split, List.map_append, List.map_cons]
    -- Further labels mean other fields, so the cell is not overwritten.
    have others : ∀ entry ∈ after, t.position? entry.1 ≠ some j := by
      rw [names, List.filterMap_append, List.filterMap_cons_some found] at distinct
      have fresh := (List.nodup_cons.1 (List.nodup_append.1 distinct).2.1).1
      intro entry present again
      exact fresh (List.mem_filterMap.2 ⟨entry.1, List.mem_map_of_mem present, again⟩)
    rw [placeCells, zip_positions, split, List.map_append, List.map_cons, found,
      getElem?_foldl_placeCell_of_last]
    · intro entry present again
      obtain ⟨e, he, rfl⟩ := List.mem_map.1 present
      exact others e he again
    · rw [List.length_replicate]
      exact Table.lt_of_position? found
  · rw [placeCells, zip_positions, getElem?_foldl_placeCell_of_other,
      List.getElem?_replicate_of_lt hj]
    intro entry present again
    obtain ⟨e, he, rfl⟩ := List.mem_map.1 present
    exact nobody e he again

/-! ## Rearrangements -/

/-- Every row has one cell per label, and no two labels mean the same field. -/
structure Regular (t : Table) (r : ResultSet) : Prop where
  width : ∀ row ∈ r.rows, row.length = r.labels.length
  distinct : (r.labels.filterMap t.position?).Nodup

/-- The columns of the result in the order of their places. -/
def reorder (r : ResultSet) (places : List Nat) : ResultSet :=
  ⟨pick places r.labels, r.rows.map (pick places)⟩

/-- The result with a further column, of which there is a cell for each row. -/
def insertColumn (r : ResultSet) (place : Nat) (label : String) (column : List Value) : ResultSet :=
  ⟨r.labels.insertIdx place label,
    List.zipWith (fun row value => row.insertIdx place value) r.rows column⟩

/-- One change to the columns of a result: all of them in another order, or one more that means no
field. -/
inductive Rearranged (t : Table) (r : ResultSet) : ResultSet → Prop
  | reorder {places : List Nat} (all : places.Perm (List.range r.labels.length)) :
    Rearranged t r (r.reorder places)
  | insert {place : Nat} {label : String} {column : List Value} (inside : place ≤ r.labels.length)
    (foreign : t.position? label = none) (filled : column.length = r.rows.length) :
    Rearranged t r (r.insertColumn place label column)

/-- Two rows with the same cells under the labels that mean a field, in whatever order. -/
def SameCells (t : Table) (labels labels' : List String) (row row' : Row) : Prop :=
  row.length = labels.length ∧ row'.length = labels'.length ∧
    ∃ foreign : List (String × Value), (∀ entry ∈ foreign, t.position? entry.1 = none) ∧
      (labels'.zip row').Perm (foreign ++ labels.zip row)

/-- Both results have the same rows, up to the order of their columns and foreign ones among them. -/
structure SameRows (t : Table) (r r' : ResultSet) : Prop where
  labels : ∃ foreign : List String, (∀ label ∈ foreign, t.position? label = none) ∧
    r'.labels.Perm (foreign ++ r.labels)
  rows : List.Forall₂ (SameCells t r.labels r'.labels) r.rows r'.rows

variable {r r' : ResultSet}

theorem sameRows_reorder (regular : r.Regular t) {places : List Nat}
    (all : places.Perm (List.range r.labels.length)) : SameRows t r (r.reorder places) where
  labels := ⟨[], fun _ h => absurd h List.not_mem_nil, perm_pick all⟩
  rows := by
    unfold reorder
    rw [List.forall₂_map_right_iff, List.forall₂_same]
    intro row present
    have width := regular.width row present
    have cells : (pick places row).Perm row := perm_pick (width ▸ all)
    have names : (pick places r.labels).Perm r.labels := perm_pick all
    refine ⟨width, by rw [cells.length_eq, names.length_eq, width], [],
      fun _ h => absurd h List.not_mem_nil, ?_⟩
    rw [List.nil_append, ← pick_zip places width.symm]
    refine perm_pick ?_
    rwa [List.length_zip, width, Nat.min_self]

theorem sameRows_insertColumn (regular : r.Regular t) {place : Nat} {label : String}
    {column : List Value} (inside : place ≤ r.labels.length) (foreign : t.position? label = none)
    (filled : column.length = r.rows.length) : SameRows t r (r.insertColumn place label column) where
  labels := ⟨[label], by simpa using foreign, List.perm_insertIdx label r.labels inside⟩
  rows := by
    have cells (row : Row) (present : row ∈ r.rows) (value : Value) :
        SameCells t r.labels (r.labels.insertIdx place label) row (row.insertIdx place value) := by
      have width := regular.width row present
      refine ⟨width, ?_, [(label, value)], by simpa using foreign, ?_⟩
      · rw [List.length_insertIdx_of_le_length inside,
          List.length_insertIdx_of_le_length (width ▸ inside), width]
      · rw [insertIdx_zip place label value width.symm]
        refine List.perm_insertIdx (label, value) (r.labels.zip row) ?_
        rwa [List.length_zip, width, Nat.min_self]
    exact forall₂_zipWith cells filled

theorem Rearranged.sameRows (h : Rearranged t r r') (regular : r.Regular t) : SameRows t r r' := by
  cases h with
  | reorder all => exact sameRows_reorder regular all
  | insert inside foreign filled => exact sameRows_insertColumn regular inside foreign filled

theorem SameRows.regular (h : SameRows t r r') (regular : r.Regular t) : r'.Regular t where
  width row present := by
    obtain ⟨_, -, -, width, -⟩ := exists_of_mem_forall₂ h.rows present
    exact width
  distinct := by
    obtain ⟨foreign, unknown, perm⟩ := h.labels
    have nothing : foreign.filterMap t.position? = [] := List.filterMap_eq_nil_iff.2 unknown
    rw [(perm.filterMap t.position?).nodup_iff, List.filterMap_append, nothing, List.nil_append]
    exact regular.distinct

theorem SameCells.placeCells_eq {labels labels' : List String} {row row' : Row}
    (h : SameCells t labels labels' row row') (distinct : (labels.filterMap t.position?).Nodup)
    (distinct' : (labels'.filterMap t.position?).Nodup) :
    placeCells t.columns.length (positions t labels) row =
      placeCells t.columns.length (positions t labels') row' := by
  obtain ⟨width, width', foreign, unknown, perm⟩ := h
  have before := (byLabel_placeCells width distinct).of_perm unknown perm
  exact before.unique (byLabel_placeCells width' distinct')

theorem SameRows.elements_eq {α : Type} (h : SameRows t r r') (regular : r.Regular t)
    (type : EntityType α) : r'.elements t type = r.elements t type := by
  have same : List.Forall₂ (· = ·) (r.elements t type) (r'.elements t type) := by
    unfold elements
    rw [List.forall₂_map_left_iff, List.forall₂_map_right_iff]
    refine h.rows.imp fun row row' cells => congrArg type.ofCells ?_
    exact cells.placeCells_eq regular.distinct (h.regular regular).distinct
  rw [List.forall₂_eq_eq_eq] at same
  exact same.symm

/-- Any number of changes, by induction on them: rows and labels stay regular, and every row is read as
before. -/
theorem rearranged_run (regular : r.Regular t) (h : Relation.ReflTransGen (Rearranged t) r r') :
    r'.Regular t ∧ ∀ (α : Type) (type : EntityType α), r'.elements t type = r.elements t type := by
  induction h with
  | refl => exact ⟨regular, fun _ _ => rfl⟩
  | tail _ step ih =>
    obtain ⟨regular', all⟩ := ih
    have rows := step.sameRows regular'
    exact ⟨rows.regular regular', fun α type => (rows.elements_eq regular' type).trans (all α type)⟩

/-- **Rows are read by their labels.** However the columns of a result are rearranged, and whatever
columns with unknown labels come between them, the elements are the same, one for each row. The element
of a row depends on nothing but this row, and its cells are those that the row has under the labels of
the fields. -/
theorem rows_read_by_label {α : Type} (t : Table) (type : EntityType α) (r : ResultSet)
    (regular : r.Regular t) :
    (∀ r', Relation.ReflTransGen (Rearranged t) r r' → r'.elements t type = r.elements t type) ∧
    ∃ read : Row → α,
      (∀ rows : List Row, (⟨r.labels, rows⟩ : ResultSet).elements t type = rows.map read) ∧
      ∀ row : Row, row.length = r.labels.length →
        ∃ cells, ByLabel t (r.labels.zip row) cells ∧ read row = type.ofCells cells := by
  let read (row : Row) := type.ofCells (placeCells t.columns.length (positions t r.labels) row)
  refine ⟨fun r' changes => (rearranged_run regular changes).2 α type, read, fun rows => rfl,
    fun row width => ?_⟩
  exact ⟨_, byLabel_placeCells width regular.distinct, rfl⟩

theorem rows_read_by_label_items :
    let r : ResultSet := ⟨["QTY", "Name", "id"],
      [[.integer 3, .text "pen", .integer 1], [.null, .text "ink", .integer 2]]⟩
    let r' : ResultSet := ⟨["id", "ez_rn", "Name", "QTY"],
      [[.integer 1, .integer 11, .text "pen", .integer 3],
        [.integer 2, .integer 12, .text "ink", .null]]⟩
    r.Regular Sample.items ∧ Relation.ReflTransGen (Rearranged Sample.items) r r' ∧
      r'.elements Sample.items (.ofRows Sample.itemDecl) =
        r.elements Sample.items (.ofRows Sample.itemDecl) ∧
      r.elements Sample.items (.ofRows Sample.itemDecl) =
        [[.integer 1, .text "pen", .integer 3], [.integer 2, .text "ink", .null]] := by
  intro r r'
  have regular : r.Regular Sample.items := ⟨by decide, by decide⟩
  have reordered : Rearranged Sample.items r (r.reorder [2, 1, 0]) := .reorder (by decide)
  have inserted : Rearranged Sample.items (r.reorder [2, 1, 0]) r' :=
    @Rearranged.insert Sample.items (r.reorder [2, 1, 0]) 1 "ez_rn" [.integer 11, .integer 12]
      (by decide) (by decide) (by decide)
  have changes := (Relation.ReflTransGen.single reordered).tail inserted
  obtain ⟨same, -⟩ := rows_read_by_label Sample.items (.ofRows Sample.itemDecl) r regular
  exact ⟨regular, changes, same r' changes, by decide⟩

end ResultSet

end EntitySql
