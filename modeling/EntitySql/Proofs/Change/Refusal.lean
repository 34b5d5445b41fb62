/-
  Changes and deletions fail closed.

  A target that names no row, or that would take in every row, is refused before anything else that
  could be wrong with a change except the width of its row. Every other target ends up behind WHERE,
  as a condition that is never empty; the keys of a deletion may be spread over several statements,
  none of them without keys (`changes_fail_closed`).
-/
import EntitySql.Proofs.Condition.Rendering
import EntitySql.Proofs.Sample
import EntitySql.Sql.Change

namespace EntitySql

variable {s : Settings} {t : Table}

/-! ## Targets -/

namespace Target

/-- The target does not say which rows it is about. -/
def isEmpty : Target → Bool
  | .key value => value.isNull
  | .keys values => values.isEmpty
  | .matching condition => condition.isEmpty

/-- What the rows of the target have in common. -/
def asCondition (t : Table) : Target → Condition
  | .key value => .compare (.field t.key.field) .eq value
  | .keys values => .isIn (.field t.key.field) values
  | .matching condition => condition

/-- What one statement is about: the whole target, or else some of the keys to delete. -/
def Share (kind : WriteKind) (target part : Target) : Prop :=
  part = target ∨ kind = .delete ∧ ∃ keys piece,
    target = .keys keys ∧ part = .keys piece ∧ piece ≠ [] ∧ piece <:+: keys

theorem condition?_of_isEmpty {target : Target} (h : target.isEmpty) :
    target.condition? t = none ∨ ∃ c, target.condition? t = some c ∧ c.isEmpty := by
  cases target with
  | key value => exact .inl (if_pos h)
  | keys values => exact .inl (if_pos h)
  | matching condition => exact .inr ⟨condition, rfl, h⟩

theorem condition?_of_not_isEmpty {target : Target} (h : target.isEmpty = false) :
    target.condition? t = some (target.asCondition t) ∧ (target.asCondition t).isEmpty = false := by
  cases target with
  | key value =>
    have equals : (Operand.field t.key.field).equals value =
        .compare (.field t.key.field) .eq value := by
      cases value with
      | null => cases h
      | _ => rfl
    rw [condition?, equals, show value.isNull = false from h]
    exact ⟨rfl, rfl⟩
  | keys values =>
    rw [condition?, show values.isEmpty = false from h]
    exact ⟨rfl, rfl⟩
  | matching condition => exact ⟨rfl, h⟩

theorem filter_of_isEmpty (kind : WriteKind) {target : Target} (h : target.isEmpty) :
    target.filter s t kind = .error (.unconditional kind t.sql) := by
  rcases condition?_of_isEmpty (t := t) h with hnone | ⟨c, hsome, hempty⟩
  · rw [filter, hnone]
    rfl
  · rw [filter, hsome]
    dsimp only
    rw [Condition.filter?, (Condition.render_eq_ok_none_iff false c).2 hempty]
    rfl

/-- A target that is not empty is written as its condition. Only a name may be wrong with it. -/
theorem filter_of_not_isEmpty (kind : WriteKind) {target : Target} (h : target.isEmpty = false) :
    (∃ filter, target.filter s t kind = .ok filter ∧
      (target.asCondition t).render s t false = .ok (some filter)) ∨
    ∃ entity name, target.filter s t kind = .error (.unresolved entity name) := by
  obtain ⟨hcondition, hfilled⟩ := condition?_of_not_isEmpty (t := t) h
  rw [filter, hcondition]
  dsimp only
  cases hrender : (target.asCondition t).render s t false with
  | error e =>
    obtain ⟨entity, name, rfl⟩ := Condition.render_eq_error false e _ hrender
    rw [Condition.filter?, hrender]
    exact .inr ⟨entity, name, rfl⟩
  | ok found =>
    cases found with
    | none =>
      rw [(Condition.render_eq_ok_none_iff false _).1 hrender] at hfilled
      cases hfilled
    | some filter =>
      rw [Condition.filter?, hrender]
      exact .inl ⟨filter, rfl, rfl⟩

end Target

/-! ## Statements with a condition -/

/-- The outcome of writing a statement for a target: it is refused exactly if the target is empty,
and if it is written then its condition stands behind WHERE. -/
inductive Guarded (s : Settings) (t : Table) (kind : WriteKind) (start : Sql) (target : Target) :
    Except Error Sql → Prop
  | refused (h : target.isEmpty) :
    Guarded s t kind start target (.error (.unconditional kind t.sql))
  | failed (e : Error) (h : target.isEmpty = false)
    (other : ∀ kind table, e ≠ .unconditional kind table) : Guarded s t kind start target (.error e)
  | written (filter : Sql) (h : target.isEmpty = false)
    (rendered : (target.asCondition t).render s t false = .ok (some filter)) :
    Guarded s t kind start target (.ok (start ++ .plain " WHERE " ++ filter))

/-- The outcome depends on the filter for the target: what is wrong with the filter is wrong with the
statement, and nothing that is wrong with the rest of the statement makes it unconditional. -/
theorem guarded_of_filter {kind : WriteKind} {start : Sql} {target : Target}
    {outcome : Except Error Sql}
    (failed : ∀ e, target.filter s t kind = .error e → outcome = .error e)
    (written : ∀ filter, target.filter s t kind = .ok filter →
      outcome = .ok (start ++ .plain " WHERE " ++ filter) ∨
        ∃ e, outcome = .error e ∧ ∀ kind table, e ≠ .unconditional kind table) :
    Guarded s t kind start target outcome := by
  cases h : target.isEmpty with
  | true =>
    rw [failed _ (Target.filter_of_isEmpty kind h)]
    exact .refused h
  | false =>
    rcases Target.filter_of_not_isEmpty (s := s) (t := t) kind h with
      ⟨filter, hfilter, hrender⟩ | ⟨entity, name, hfilter⟩
    · rcases written filter hfilter with hok | ⟨e, he, other⟩
      · rw [hok]
        exact .written filter h hrender
      · rw [he]
        exact .failed e h other
    · rw [failed _ hfilter]
      exact .failed _ h fun _ _ => Error.noConfusion

namespace Update

/-- An update up to its condition. -/
def start (t : Table) (cells : List (Column × Value)) : Sql :=
  .plain ("UPDATE " ++ t.sql ++ " SET ") ++
    .joined ", " (cells.map fun (column, value) => ⟨column.sql ++ " = ?", [value]⟩)

theorem width_of_sql {sparse : Bool} {row : Row} {target : Target} {statement : Sql}
    (h : sql s t sparse row target = .ok statement) : row.length = t.columns.length := by
  obtain ⟨⟨⟩, checked, -⟩ := bind_eq_ok_iff.1 h
  exact Table.checkWidth_eq_ok_iff.1 checked

theorem sql_guarded (sparse : Bool) {row : Row} (target : Target)
    (width : row.length = t.columns.length) :
    Guarded s t .update (start t (assigned t sparse row)) target (sql s t sparse row target) := by
  have checked := Table.checkWidth_eq_ok_iff.2 width
  refine guarded_of_filter (fun e he => ?_) fun filter hfilter => ?_
  · rw [sql, checked, he]
    rfl
  · rw [sql, checked, hfilter]
    by_cases hcells : (assigned t sparse row).isEmpty
    · exact .inr ⟨.noAssignments t.sql, if_pos hcells, fun _ _ => Error.noConfusion⟩
    · exact .inl (if_neg hcells)

end Update

namespace Delete

theorem sql_guarded (target : Target) :
    Guarded s t .delete (.plain ("DELETE FROM " ++ t.sql)) target (sql s t target) := by
  refine guarded_of_filter (fun e he => ?_) fun filter hfilter => .inl ?_
  · rw [sql, he]
    rfl
  · rw [sql, hfilter]
    rfl

theorem targets_ne_nil (d : Dialect) (target : Target) : targets d target ≠ [] := by
  cases target with
  | keys values =>
    rw [targets]
    split
    · exact List.cons_ne_nil _ _
    · next some_key =>
      rw [List.isEmpty_iff] at some_key
      exact fun h => chunks_ne_nil d.maxParams_pos some_key (List.map_eq_nil_iff.1 h)
  | key value => exact List.cons_ne_nil _ _
  | matching condition => exact List.cons_ne_nil _ _

theorem share_of_mem_targets {d : Dialect} {target part : Target} (h : part ∈ targets d target) :
    target.Share .delete part ∧ part.isEmpty = target.isEmpty := by
  cases target with
  | keys values =>
    rw [targets] at h
    split at h
    · next no_key =>
      rw [List.isEmpty_iff] at no_key
      rw [List.mem_singleton.1 h, no_key]
      exact ⟨.inl rfl, rfl⟩
    · next some_key =>
      obtain ⟨piece, hpiece, rfl⟩ := List.mem_map.1 h
      have filled := ne_nil_of_mem_chunks d.maxParams_pos hpiece
      refine ⟨.inr ⟨rfl, values, piece, rfl, rfl, filled, ?_⟩, ?_⟩
      · exact infix_of_mem_chunks d.maxParams_pos hpiece
      · rw [Target.isEmpty, Target.isEmpty, Bool.eq_false_iff.2 some_key,
          List.isEmpty_eq_false_iff.2 filled]
  | key value =>
    rw [List.mem_singleton.1 h]
    exact ⟨.inl rfl, rfl⟩
  | matching condition =>
    rw [List.mem_singleton.1 h]
    exact ⟨.inl rfl, rfl⟩

end Delete

/-! ## Mutations -/

namespace Guarded

variable {kind : WriteKind} {start : Sql} {target : Target} {outcome : Except Error Sql}

theorem eq_unconditional_iff (h : Guarded s t kind start target outcome) (kind' : WriteKind)
    (table : String) :
    outcome = .error (.unconditional kind' table) ↔ kind' = kind ∧ table = t.sql ∧ target.isEmpty := by
  cases h with
  | refused hempty =>
    rw [Except.error.injEq, Error.unconditional.injEq, eq_comm, @eq_comm _ t.sql]
    exact ⟨fun ⟨hkind, htable⟩ => ⟨hkind, htable, hempty⟩, fun ⟨hkind, htable, _⟩ => ⟨hkind, htable⟩⟩
  | failed e hfilled other =>
    refine ⟨fun he => absurd (Except.error.inj he) (other kind' table), fun ⟨_, _, hempty⟩ => ?_⟩
    rw [hfilled] at hempty
    cases hempty
  | written filter hfilled _ =>
    refine ⟨nofun, fun ⟨_, _, hempty⟩ => ?_⟩
    rw [hfilled] at hempty
    cases hempty

theorem eq_ok {sql : Sql} (h : Guarded s t kind start target outcome) (hok : outcome = .ok sql) :
    ∃ filter, (target.asCondition t).render s t false = .ok (some filter) ∧ filter.text ≠ "" ∧
      sql = start ++ .plain " WHERE " ++ filter := by
  cases h with
  | refused hempty => cases hok
  | failed e hfilled other => cases hok
  | written filter hfilled rendered =>
    cases hok
    exact ⟨filter, rendered, Condition.inherited_text_ne_empty.render false filter _ rendered, rfl⟩

end Guarded

namespace Mutation

/-- The mutation changes or deletes the rows of the target, by statements that start in this way. -/
inductive Changes (t : Table) : Mutation → Target → Sql → Prop
  | update (row : Row) (target : Target) (width : row.length = t.columns.length) :
    Changes t (.update row target) target (Update.start t (Update.assigned t true row))
  | replace (row : Row) (target : Target) (width : row.length = t.columns.length) :
    Changes t (.replace row target) target (Update.start t (Update.assigned t false row))
  | delete (target : Target) :
    Changes t (.delete target) target (.plain ("DELETE FROM " ++ t.sql))

/-- A mutation that is written and is no insert is a change. -/
theorem changes_of_writes {m : Mutation} {multiRow : Bool} {found : List Write}
    (h : m.writes s t multiRow = .ok found) :
    (∃ rows, m = .insert rows) ∨ ∃ target start, m.Changes t target start := by
  cases m with
  | insert rows => exact .inl ⟨rows, rfl⟩
  | update row target =>
    obtain ⟨statement, hstatement, -⟩ := bind_eq_ok_iff.1 h
    exact .inr ⟨_, _, .update row target (Update.width_of_sql hstatement)⟩
  | replace row target =>
    obtain ⟨statement, hstatement, -⟩ := bind_eq_ok_iff.1 h
    exact .inr ⟨_, _, .replace row target (Update.width_of_sql hstatement)⟩
  | delete target => exact .inr ⟨_, _, .delete target⟩

/-- A change is one guarded statement for each share of its target. -/
theorem writes_of_changes {m : Mutation} {target : Target} {start : Sql} (multiRow : Bool)
    (h : m.Changes t target start) :
    ∃ (parts : List Target) (f : Target → Except Error Sql), parts ≠ [] ∧
      (∀ part ∈ parts, target.Share m.kind part ∧ part.isEmpty = target.isEmpty ∧
        Guarded s t m.kind start part (f part)) ∧
      m.writes s t multiRow = parts.mapM f >>= fun statements => pure (statements.map .single) := by
  have one (sparse : Bool) (row : Row) (target : Target) (width : row.length = t.columns.length) :
      ∀ part ∈ [target], target.Share .update part ∧ part.isEmpty = target.isEmpty ∧
        Guarded s t .update (Update.start t (Update.assigned t sparse row)) part
          (Update.sql s t sparse row part) := by
    intro part hpart
    rw [List.mem_singleton.1 hpart]
    exact ⟨.inl rfl, rfl, Update.sql_guarded sparse target width⟩
  have writes (f : Target → Except Error Sql) (target : Target) :
      (do return [Write.single (← f target)]) =
        [target].mapM f >>= fun statements => pure (statements.map Write.single) := by
    rw [List.mapM_cons, List.mapM_nil]
    cases f target <;> rfl
  cases h with
  | update row target width =>
    exact ⟨[target], Update.sql s t true row, List.cons_ne_nil _ _, one true row target width,
      writes _ target⟩
  | replace row target width =>
    exact ⟨[target], Update.sql s t false row, List.cons_ne_nil _ _, one false row target width,
      writes _ target⟩
  | delete target =>
    refine ⟨_, _, Delete.targets_ne_nil s.dialect target, fun part hpart => ?_, rfl⟩
    obtain ⟨hshare, hempty⟩ := Delete.share_of_mem_targets hpart
    exact ⟨hshare, hempty, Delete.sql_guarded part⟩

/-- A statement that is written has a condition for its share of the target. -/
theorem write_of_changes {m : Mutation} {target : Target} {start : Sql} {multiRow : Bool}
    {found : List Write} (h : m.Changes t target start) (hok : m.writes s t multiRow = .ok found)
    {write : Write} (hwrite : write ∈ found) :
    ∃ part filter, target.Share m.kind part ∧
      (part.asCondition t).render s t false = .ok (some filter) ∧ filter.text ≠ "" ∧
      write = .single (start ++ .plain " WHERE " ++ filter) := by
  obtain ⟨parts, f, -, hparts, hwrites⟩ := writes_of_changes (s := s) multiRow h
  rw [hwrites] at hok
  obtain ⟨statements, hstatements, hmap⟩ := bind_eq_ok_iff.1 hok
  rw [pure_eq_ok_iff] at hmap
  rw [hmap] at hwrite
  obtain ⟨sql, hsql, rfl⟩ := List.mem_map.1 hwrite
  obtain ⟨part, hpart, hsql⟩ := exists_of_mem_mapM hstatements hsql
  obtain ⟨hshare, -, hguarded⟩ := hparts part hpart
  obtain ⟨filter, hrender, hfilled, rfl⟩ := hguarded.eq_ok hsql
  exact ⟨part, filter, hshare, hrender, hfilled, rfl⟩

/-- Changes and deletions are refused as unconditional exactly if their target is empty, whatever
would be assigned. All statements that are written have a condition for their share of the target. -/
theorem changes_fail_closed (s : Settings) (t : Table) (multiRow : Bool) (m : Mutation)
    (target : Target) (start : Sql) (h : m.Changes t target start) :
    (∀ kind table, m.writes s t multiRow = .error (.unconditional kind table) ↔
      kind = m.kind ∧ table = t.sql ∧ target.isEmpty) ∧
    ∀ found, m.writes s t multiRow = .ok found →
      found ≠ [] ∧ ∀ write ∈ found, ∃ part filter, target.Share m.kind part ∧
        (part.asCondition t).render s t false = .ok (some filter) ∧ filter.text ≠ "" ∧
        write = .single (start ++ .plain " WHERE " ++ filter) := by
  obtain ⟨parts, f, some_part, hparts, hwrites⟩ := writes_of_changes (s := s) multiRow h
  refine ⟨fun kind table => ⟨fun he => ?_, fun ⟨hkind, htable, hempty⟩ => ?_⟩,
    fun found hfound => ⟨?_, fun write hwrite => write_of_changes h hfound hwrite⟩⟩
  · -- One of the shares is refused, and it is empty only if the target is.
    rw [hwrites] at he
    rcases bind_eq_error_iff.1 he with he | ⟨_, _, he⟩
    · obtain ⟨part, hpart, he⟩ := mapM_eq_error he
      obtain ⟨-, hempty, hguarded⟩ := hparts part hpart
      rw [← hempty]
      exact (hguarded.eq_unconditional_iff kind table).1 he
    · exact absurd he pure_ne_error
  · -- The first share is refused, so the others are not looked at.
    obtain ⟨part, rest, rfl⟩ := List.exists_cons_of_ne_nil some_part
    obtain ⟨-, hpart, hguarded⟩ := hparts part List.mem_cons_self
    have refused := (hguarded.eq_unconditional_iff kind table).2 ⟨hkind, htable, hpart ▸ hempty⟩
    rw [hwrites, List.mapM_cons, refused]
    rfl
  · rw [hwrites] at hfound
    obtain ⟨statements, hstatements, hmap⟩ := bind_eq_ok_iff.1 hfound
    have length := (mapM_eq_ok_iff.1 hstatements).length_eq
    rw [pure_eq_ok_iff] at hmap
    rw [hmap]
    intro hnil
    rw [List.map_eq_nil_iff.1 hnil] at length
    exact some_part (List.length_eq_zero_iff.1 length)

theorem changes_fail_closed_sparse :
    Sample.change.Changes Sample.items (.keys [.integer 1, .integer 2])
        ⟨"UPDATE Item SET name = ?", [.text "pad"]⟩ ∧
      Sample.change.writes Sample.settings Sample.items true =
        .ok [.single ⟨"UPDATE Item SET name = ? WHERE id IN (?, ?)",
          [.text "pad", .integer 1, .integer 2]⟩] ∧
      (∀ kind table,
        Sample.change.writes Sample.settings Sample.items true =
            .error (.unconditional kind table) ↔
          kind = Sample.change.kind ∧ table = Sample.items.sql ∧
            (Target.keys [.integer 1, .integer 2]).isEmpty) ∧
      ∀ found, Sample.change.writes Sample.settings Sample.items true = .ok found →
        found ≠ [] ∧ ∀ write ∈ found, ∃ part filter,
          (Target.keys [.integer 1, .integer 2]).Share Sample.change.kind part ∧
          (part.asCondition Sample.items).render Sample.settings Sample.items false =
            .ok (some filter) ∧
          filter.text ≠ "" ∧
          write = .single
            (⟨"UPDATE Item SET name = ?", [.text "pad"]⟩ ++ .plain " WHERE " ++ filter) := by
  have changes : Sample.change.Changes Sample.items (.keys [.integer 1, .integer 2])
      ⟨"UPDATE Item SET name = ?", [.text "pad"]⟩ := .update _ _ rfl
  exact ⟨changes, rfl, changes_fail_closed Sample.settings Sample.items true _ _ _ changes⟩

end Mutation

end EntitySql
