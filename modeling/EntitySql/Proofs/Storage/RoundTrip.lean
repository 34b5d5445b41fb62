/-
  Elements that are saved are found again.

  The statements of a batch are read as one record for each element (`Insert.mapM_read?_insert`), the
  session stores them in order (`Session.adds_sendWrites`), the selection of all columns is answered
  from them (`Table.selected?_selectStart`), and the cells of the answer come to stand where the values
  came from (`ResultSet.elements_names`).
-/
import EntitySql.Proofs.Result.Placement
import EntitySql.Proofs.Session.Writing
import EntitySql.Proofs.Storage.Store

namespace EntitySql

namespace Repository

variable {σ α : Type} {s : Settings} {type : EntityType α} {t : Table}

/-! ## Saving -/

/-- The statements of a batch are those of one insert. -/
theorem plan_saveAll (h : s.table type.decl = .ok t) (session : Session σ) {xs : List α}
    (some_element : xs ≠ []) {found : List Write}
    (written : Insert.writes s t session.multiRow (xs.map type.toRow) = .ok found) :
    WriteOperation.plan (of s session type) (.saveAll xs) = .ok found := by
  have one : [Mutation.insert (xs.map type.toRow)].mapM
      (fun m => m.writes s t session.multiRow) = .ok [found] :=
    mapM_eq_ok_iff.2 (.cons written .nil)
  rw [WriteOperation.plan_eq_statements]
  · refine bind_eq_ok_iff.2 ⟨t, h, bind_eq_ok_iff.2 ⟨_, rfl, bind_eq_ok_iff.2 ⟨_, one, ?_⟩⟩⟩
    exact congrArg Except.ok List.flatten_singleton
  · exact Bool.eq_false_iff.2 fun none => some_element (List.isEmpty_iff.1 none)

/-- Saved elements are stored as the records of their rows, in order. -/
theorem saveAll_storing (h : s.table type.decl = .ok t) {xs : List α} (some_element : xs ≠ [])
    (width : ∀ x, (type.toRow x).length = t.columns.length)
    (plain : ∀ column ∈ t.columns, IsPlain column.sql) (ownBatch multiRow : Bool)
    (link : Link (List Record)) :
    ∃ calls, (of s (.storing t ownBatch multiRow) type).saveAll xs link =
      (.ok (.ofNat xs.length),
        ⟨link.state ++ xs.map fun x => Insert.recordOf t.unnamed (type.toRow x), calls⟩) := by
  have some_row : xs.map type.toRow ≠ [] := fun hnil => some_element (List.map_eq_nil_iff.1 hnil)
  have widths : ∀ row ∈ xs.map type.toRow, row.length = t.columns.length :=
    List.forall_mem_map.2 fun x _ => width x
  obtain ⟨found, news, written, read, flat⟩ :=
    Insert.mapM_read?_insert s t multiRow some_row widths plain
  have added : Session.Adds ((Session.storing t ownBatch multiRow).sendWrites found) news.flatten :=
    Session.adds_sendWrites read
  obtain ⟨calls, run⟩ := added link
  have planned : WriteOperation.plan (of s (.storing t ownBatch multiRow) type) (.saveAll xs) =
      .ok found := plan_saveAll h (.storing t ownBatch multiRow) some_element written
  refine ⟨calls, ?_⟩
  rw [WriteOperation.saveAll_eq_send, planned]
  refine run.trans ?_
  rw [flat, List.length_map, List.length_map, List.map_map]
  rfl

/-! ## Finding -/

/-- All rows are found in the order in which they are stored, as the elements that their cells make. -/
theorem find_all_storing (h : s.table type.decl = .ok t)
    (names : (t.columns.map fun c => Text.lower c.name).Nodup)
    (distinct : (t.columns.map Column.sql).Nodup)
    (plain : ∀ column ∈ t.columns, IsPlain column.sql) (ownBatch multiRow : Bool)
    (link : Link (List Record)) :
    ((of s (.storing t ownBatch multiRow) type).find .all link).1 =
      .ok (link.state.map fun record =>
        type.ofCells ((t.columns.map fun c => (record.value? c.sql).getD .null).map some)) := by
  have answered : (of s (.storing t ownBatch multiRow) type).read t (.plain t.selectStart) link =
      (.ok ((Table.answer t.columns link.state).elements t type),
        ⟨link.state, link.calls.push (.query (.plain t.selectStart))⟩) := by
    unfold read Session.sendQuery Session.send of Session.storing
    simp only [Table.selected?_selectStart distinct plain]
    rfl
  have width : ∀ row ∈ (Table.answer t.columns link.state).rows, row.length = t.columns.length :=
    List.forall_mem_map.2 fun _ _ => List.length_map _
  have elements := ResultSet.elements_names names type width
  have run : (of s (.storing t ownBatch multiRow) type).find .all link =
      (of s (.storing t ownBatch multiRow) type).read t (.plain t.selectStart) link := by
    show (Access.lift (s.table type.decl) >>= fun t => Access.lift (Query.all.selectSql s t) >>=
      fun statement => read _ t statement) link = _
    rw [h, Access.bind_apply]
    show (Access.lift (Query.all.selectSql s t) >>= fun statement => read _ t statement) link = _
    rw [Query.selectSql_all]
    rfl
  rw [run, answered]
  refine congrArg Except.ok (elements.trans ?_)
  exact List.map_map

/-! ## Saving and finding -/

/-- Elements that are saved in an empty table are found again, all of them in order, and no write of
elements of this kind fails for the number of its values. -/
theorem saved_then_found (h : s.table type.decl = .ok t)
    (width : ∀ x, (type.toRow x).length = type.decl.fields.length) {xs : List α}
    (some_element : xs ≠ []) (inverse : ∀ x ∈ xs, type.ofCells ((type.toRow x).map some) = x)
    (keys : t.key.generated → ∀ x ∈ xs, (t.keyValue (type.toRow x)).isNull = false)
    (names : (t.columns.map fun c => Text.lower c.name).Nodup)
    (distinct : (t.columns.map Column.sql).Nodup)
    (plain : ∀ column ∈ t.columns, IsPlain column.sql) (ownBatch multiRow : Bool) :
    (∃ link, (of s (.storing t ownBatch multiRow) type).saveAll xs (.start []) =
        (.ok (.ofNat xs.length), link) ∧
      ((of s (.storing t ownBatch multiRow) type).find .all link).1 = .ok xs) ∧
    ∀ (σ : Type) (session : Session σ) (op : WriteOperation α) (link : Link σ) (e : Error),
      (op.run (of s session type) link).1 = .error e → e.area ≠ .mappingMismatch := by
  have widths : ∀ x, (type.toRow x).length = t.columns.length := fun x =>
    (width x).trans (Settings.length_of_table h).symm
  obtain ⟨calls, saved⟩ := saveAll_storing h some_element widths plain ownBatch multiRow (.start [])
  refine ⟨⟨_, saved, ?_⟩, fun σ session op link e failed => WriteOperation.area_of_run_eq_error h widths failed⟩
  rw [find_all_storing h names distinct plain]
  refine congrArg Except.ok ?_
  show (xs.map fun x => Insert.recordOf t.unnamed (type.toRow x)).map _ = xs
  rw [List.map_map]
  refine (List.map_congr_left fun x hx => ?_).trans (List.map_id xs)
  have row := Table.map_value?_recordOf distinct (widths x) fun generated => keys generated x hx
  exact (congrArg (fun row => type.ofCells (row.map some)) row).trans (inverse x hx)

theorem saved_then_found_two_items :
    let xs : List (Fields [.optional .int64, .text, .optional .int32]) :=
      [(some 7, "pad", some 1, ()), (some 8, "ink", none, ())]
    let r := of Sample.settings (.storing Sample.items false true) Sample.itemType
    Sample.settings.table Sample.itemType.decl = .ok Sample.items ∧
      (∀ x, (Sample.itemType.toRow x).length = Sample.itemType.decl.fields.length) ∧ xs ≠ [] ∧
      (∀ x ∈ xs, Sample.itemType.ofCells ((Sample.itemType.toRow x).map some) = x) ∧
      (Sample.items.key.generated →
        ∀ x ∈ xs, (Sample.items.keyValue (Sample.itemType.toRow x)).isNull = false) ∧
      (Sample.items.columns.map fun c => Text.lower c.name).Nodup ∧
      (Sample.items.columns.map Column.sql).Nodup ∧
      (∀ column ∈ Sample.items.columns, IsPlain column.sql) ∧
      ∃ link, r.saveAll xs (.start []) = (.ok 2, link) ∧ (r.find .all link).1 = .ok xs := by
  intro xs r
  have width : ∀ x, (Sample.itemType.toRow x).length = Sample.itemType.decl.fields.length :=
    fun x => Fields.length_toRow _ x
  have some_element : xs ≠ [] := List.cons_ne_nil _ _
  have inverse : ∀ x ∈ xs, Sample.itemType.ofCells ((Sample.itemType.toRow x).map some) = x := by
    decide
  have keys : Sample.items.key.generated →
      ∀ x ∈ xs, (Sample.items.keyValue (Sample.itemType.toRow x)).isNull = false := by
    decide
  have names : (Sample.items.columns.map fun c => Text.lower c.name).Nodup := by decide
  have distinct : (Sample.items.columns.map Column.sql).Nodup := by decide
  have plain : ∀ column ∈ Sample.items.columns, IsPlain column.sql := by decide
  have table : Sample.settings.table Sample.itemType.decl = .ok Sample.items :=
    Sample.table_itemDecl
  have found :=
    saved_then_found table width some_element inverse keys names distinct plain false true
  exact ⟨table, width, some_element, inverse, keys, names, distinct, plain, found.1⟩

end Repository

end EntitySql
