/-
  The table of an entity and the two ways from the name of a field to its column.

  A declaration has a table exactly when it has a field, one primary key and a name of its own for
  each field, and then the table has one column per field, in order, and knows the place of the key
  (`Settings.table_exact`).

  The column of a field can be found through an index of the table, which a later field of the same
  name would take over (`getElem?_index`), or by going through the declaration from the front
  (`Settings.columnSql`). The two would differ on a name that occurs twice. It is the check for such
  names in `EntityDecl.validate` that makes them agree (`lastIndex?_eq_findIdx?`).
-/
import EntitySql.Proofs.Entity.Validity
import EntitySql.Proofs.Sample
import Mathlib.Data.List.Induction

namespace EntitySql

/-! ## Valid declarations -/

namespace EntityDecl

variable {d : EntityDecl}

theorem mem_keyIndices {i : Fin d.fields.length} :
    i ∈ d.keyIndices ↔ (d.fields.get i).primaryKey = true := by
  simp [keyIndices]

theorem nodup_keyIndices : d.keyIndices.Nodup :=
  (List.nodup_finRange _).filter _

theorem keyIndices_eq_singleton_iff {i : Fin d.fields.length} :
    d.keyIndices = [i] ↔ ∀ j : Fin d.fields.length, (d.fields.get j).primaryKey = true ↔ j = i := by
  constructor
  · intro h j
    rw [← mem_keyIndices, h, List.mem_singleton]
  · intro h
    have same : ∀ j, j ∈ d.keyIndices ↔ j ∈ [i] := fun j => by
      rw [mem_keyIndices, h j, List.mem_singleton]
    exact List.perm_singleton.1
      ((List.perm_ext_iff_of_nodup nodup_keyIndices (List.nodup_singleton i)).2 same)

theorem keyIndex_eq_ok_iff {i : Fin d.fields.length} :
    d.keyIndex = .ok i ↔ ∀ j : Fin d.fields.length, (d.fields.get j).primaryKey = true ↔ j = i := by
  rw [← keyIndices_eq_singleton_iff, keyIndex]
  split
  · next none => simp [none]
  · next one => simp [one]
  · next several => simp [several]

/-- There is a primary key to be found if exactly one field is marked as one. -/
theorem exists_keyIndex_iff :
    (∃ i, d.keyIndex = .ok i) ↔ ∃! i : Fin d.fields.length, (d.fields.get i).primaryKey = true := by
  simp only [keyIndex_eq_ok_iff]
  constructor
  · rintro ⟨i, h⟩
    exact ⟨i, (h i).2 rfl, fun j => (h j).1⟩
  · rintro ⟨i, hi, unique⟩
    exact ⟨i, fun j => ⟨unique j, fun e => e ▸ hi⟩⟩

theorem validate_eq_ok_iff :
    d.validate = .ok ⟨⟩ ↔
      d.fields ≠ [] ∧ (∃ i, d.keyIndex = .ok i) ∧ (d.fields.map FieldDecl.name).Nodup := by
  constructor
  · intro h
    refine ⟨?_, ?_, distinct_of_validate h⟩
    · rintro none
      simp [validate, none] at h
      cases h
    · rw [validate] at h
      split at h
      · cases h
      · obtain ⟨i, hi, -⟩ := bind_eq_ok_iff.1 h
        exact ⟨i, hi⟩
  · rintro ⟨nonempty, ⟨i, hi⟩, distinct⟩
    have fresh : firstRepeated? [] (d.fields.map FieldDecl.name) = none :=
      firstRepeated?_eq_none_iff.2 ⟨distinct, fun _ _ => List.not_mem_nil⟩
    rw [validate, if_neg (by simpa using nonempty), fresh]
    exact bind_eq_ok_iff.2 ⟨i, hi, rfl⟩

end EntityDecl

theorem Settings.exists_table_iff {s : Settings} {d : EntityDecl} :
    (∃ t, s.table d = .ok t) ↔ d.validate = .ok ⟨⟩ := by
  constructor
  · rintro ⟨t, h⟩
    exact (table_eq_ok h).1
  · intro valid
    obtain ⟨-, ⟨i, hi⟩, -⟩ := EntityDecl.validate_eq_ok_iff.1 valid
    exact ⟨_, bind_eq_ok_iff.2 ⟨⟨⟩, valid, bind_eq_ok_iff.2 ⟨i, hi, rfl⟩⟩⟩

/-! ## The index of a table -/

namespace Table

variable {t : Table}

/-- The places of the columns by the names of their fields, entered one after the other. -/
def index (t : Table) : Std.HashMap String Nat :=
  t.columns.zipIdx.foldl (fun entries entry => entries.insert entry.1.field entry.2) ∅

/-- The column of the field with a name, as the index has it. -/
def indexed (t : Table) (name : String) : Except Error Column :=
  match t.index[name]?.bind fun i => t.columns[i]? with
  | some c => .ok c
  | none => .error (.unresolved t.entity name)

theorem lastIndex?_concat {α : Type} (p : α → Bool) (xs : List α) (x : α) :
    lastIndex? p (xs ++ [x]) = if p x then some xs.length else lastIndex? p xs := by
  unfold lastIndex?
  rw [List.reverse_append, List.reverse_singleton, List.singleton_append, List.findIdx?_cons]
  split
  · simp
  · rw [Option.map_map, List.length_append, List.length_singleton]
    congr 1
    funext i
    simp only [Function.comp_apply]
    omega

/-- Of several columns with one name, the index keeps the last one. -/
theorem getElem?_foldl_insert (columns : List Column) (name : String) :
    (columns.zipIdx.foldl (fun entries entry => entries.insert entry.1.field entry.2)
        (∅ : Std.HashMap String Nat))[name]? =
      lastIndex? (fun c => decide (c.field = name)) columns := by
  induction columns using List.reverseRecOn with
  | nil => simp [lastIndex?]
  | append_singleton columns c ih =>
    rw [List.zipIdx_append, List.foldl_append, lastIndex?_concat, ← ih]
    simp [Std.HashMap.getElem?_insert]

theorem getElem?_index (t : Table) (name : String) :
    t.index[name]? = lastIndex? (fun c => decide (c.field = name)) t.columns :=
  getElem?_foldl_insert t.columns name

/-- Where no two columns have the same name, the last one with a name is the first one. -/
theorem lastIndex?_eq_findIdx? {columns : List Column}
    (distinct : (columns.map Column.field).Nodup) (name : String) :
    lastIndex? (fun c => decide (c.field = name)) columns =
      columns.findIdx? fun c => decide (c.field = name) := by
  induction columns using List.reverseRecOn with
  | nil => rfl
  | append_singleton columns c ih =>
    rw [List.map_append, List.map_singleton, List.nodup_append] at distinct
    obtain ⟨distinct, -, fresh⟩ := distinct
    rw [lastIndex?_concat, List.findIdx?_append, List.findIdx?_singleton, ih distinct]
    by_cases h : c.field = name
    · have absent : columns.findIdx? (fun c => decide (c.field = name)) = none := by
        rw [List.findIdx?_eq_none_iff]
        intro b hb
        have other := fresh b.field (List.mem_map_of_mem hb) c.field (List.mem_singleton_self _)
        simpa [← h] using other
      simp [h, absent]
    · simp [h]

theorem indexed_eq_field (distinct : (t.columns.map Column.field).Nodup) (name : String) :
    t.indexed name = t.field name := by
  have found : t.index[name]?.bind (fun i => t.columns[i]?) =
      t.columns.find? fun c => decide (c.field = name) := by
    rw [getElem?_index, lastIndex?_eq_findIdx? distinct, List.find?_eq_bind_findIdx?_getElem?]
  unfold indexed field
  cases h : t.columns.find? fun c => decide (c.field = name) with
  | none => simp only [found, h]
  | some c => simp only [found, h]

end Table

/-! ## Resolution -/

namespace Settings

variable {s : Settings} {d : EntityDecl} {t : Table}

/-- The first field with a name decides where going through the declaration ends. -/
theorem columnSql_eq (s : Settings) (d : EntityDecl) (name : String) :
    s.columnSql d name =
      match (d.fieldIndex? name).bind fun i => d.fields[i]? with
      | some f => .ok (s.column f).sql
      | none => .error (.unresolved d.name name) := by
  rw [columnSql, EntityDecl.fieldIndex?, List.find?_eq_bind_findIdx?_getElem?]
  rfl

/-- And it decides which column a table of the declaration has for the name. -/
theorem field_eq (entity : t.entity = d.name) (columns : t.columns = d.fields.map s.column)
    (name : String) :
    t.field name =
      match (d.fieldIndex? name).bind fun i => d.fields[i]? with
      | some f => .ok (s.column f)
      | none => .error (.unresolved d.name name) := by
  have first : t.columns.find? (fun c => decide (c.field = name)) =
      ((d.fieldIndex? name).bind fun i => d.fields[i]?).map s.column := by
    rw [columns, List.find?_map, EntityDecl.fieldIndex?, ← List.find?_eq_bind_findIdx?_getElem?]
    rfl
  rw [Table.field, first, entity]
  cases (d.fieldIndex? name).bind fun i => d.fields[i]? <;> rfl

theorem parts_of_table (h : s.table d = .ok t) :
    ∃ key, d.keyIndex = .ok key ∧ t.entity = d.name ∧ t.columns = d.fields.map s.column ∧
      t.keyIndex = key.val := by
  obtain ⟨⟨⟩, -, h⟩ := bind_eq_ok_iff.1 h
  obtain ⟨key, hkey, h⟩ := bind_eq_ok_iff.1 h
  cases h
  exact ⟨key, hkey, rfl, rfl, rfl⟩

/-- The key is the one column that is marked as one. -/
theorem primaryKey_iff_of_table (h : s.table d = .ok t) (i : Fin t.columns.length) :
    (t.columns.get i).primaryKey = true ↔ i.val = t.keyIndex := by
  obtain ⟨key, hkey, -, columns, place⟩ := parts_of_table h
  have hi : i.val < d.fields.length := by
    rw [← length_of_table h]
    exact i.isLt
  have marked : (t.columns.get i).primaryKey = d.fields[i.val].primaryKey := by
    simp [columns, column]
  rw [marked, place]
  exact (EntityDecl.keyIndex_eq_ok_iff.1 hkey ⟨i.val, hi⟩).trans Fin.ext_iff

/-- **A valid declaration, and no other, has a table, and names lead to the same columns through
the index of the table and through the declaration.** -/
theorem table_exact (s : Settings) (d : EntityDecl) :
    ((∃ t, s.table d = .ok t) ↔
      d.fields ≠ [] ∧ (∃! i : Fin d.fields.length, (d.fields.get i).primaryKey = true) ∧
        (d.fields.map FieldDecl.name).Nodup) ∧
    ∀ t, s.table d = .ok t →
      t.columns = d.fields.map s.column ∧
      (∀ i : Fin t.columns.length, (t.columns.get i).primaryKey = true ↔ i.val = t.keyIndex) ∧
      ∀ name, t.field name = t.indexed name ∧
        ((∃ i, ∃ hi : i < d.fields.length, d.fieldIndex? name = some i ∧
            t.indexed name = .ok (s.column d.fields[i]) ∧
            s.columnSql d name = .ok (s.column d.fields[i]).sql) ∨
          d.fieldIndex? name = none ∧
            t.indexed name = .error (.unresolved d.name name) ∧
            s.columnSql d name = .error (.unresolved d.name name)) := by
  constructor
  · rw [exists_table_iff, EntityDecl.validate_eq_ok_iff, EntityDecl.exists_keyIndex_iff]
  · intro t h
    obtain ⟨-, -, entity, columns, -⟩ := parts_of_table h
    refine ⟨columns, primaryKey_iff_of_table h, fun name => ?_⟩
    rw [Table.indexed_eq_field (distinct_of_table h), field_eq entity columns, columnSql_eq]
    refine ⟨rfl, ?_⟩
    cases found : d.fieldIndex? name with
    | none => exact .inr ⟨rfl, rfl, rfl⟩
    | some i =>
      have hi := (List.findIdx?_eq_some_iff_getElem.1 found).choose
      refine .inl ⟨i, hi, rfl, ?_, ?_⟩ <;> rw [Option.bind_some, List.getElem?_eq_getElem hi]

theorem table_exact_items :
    Sample.settings.table Sample.itemDecl = .ok Sample.items ∧
      Sample.items.columns = Sample.itemDecl.fields.map Sample.settings.column ∧
      Sample.items.field "qty" = Sample.items.indexed "qty" ∧
      Sample.items.field "price" = Sample.items.indexed "price" := by
  obtain ⟨columns, -, names⟩ :=
    (table_exact Sample.settings Sample.itemDecl).2 Sample.items Sample.table_itemDecl
  exact ⟨Sample.table_itemDecl, columns, (names "qty").1, (names "price").1⟩

end Settings

end EntitySql
