/-
  What can be wrong with an operation before anything of it is sent.

  Either the declaration of the entity is not valid (`Gateway.area_of_repository_eq_error`), or a
  query cannot be written (`Query.area_of_selectSql_eq_error`) for an unknown name or a page without
  an order, or a mutation cannot be written (`Mutation.refuses_of_writes_eq_error`): there is an
  unknown name in it, no condition, nothing to assign, or a row with a wrong number of values. None of
  this is a failure of the session.
-/
import EntitySql.Proofs.Change.Refusal
import EntitySql.Proofs.Entity.Validity
import EntitySql.Repository

namespace EntitySql

/-! ## Tables -/

theorem Gateway.area_of_repository_eq_error {σ α : Type} {g : Gateway σ} {type : EntityType α}
    {e : Error} (h : (g.repository type).1.table = .error e) : e.area = .invalidMetadata := by
  have h : (g.catalog.table type.toTypeKey).1 = .error e := h
  unfold Catalog.table at h
  split at h
  · cases h
  · split at h
    · cases h
    · next found =>
      cases h
      exact Settings.area_of_table_eq_error found

variable {s : Settings} {t : Table}

/-! ## Queries -/

theorem Operand.area_of_sql_eq_error {operand : Operand} {e : Error}
    (h : operand.sql s t = .error e) : e.area = .unresolvedIdentifier := by
  obtain ⟨entity, name, rfl⟩ := Condition.sql_eq_error h
  rfl

theorem Condition.area_of_whereClause_eq_error {c : Condition} {e : Error}
    (h : c.whereClause s t = .error e) : e.area = .unresolvedIdentifier := by
  rcases bind_eq_error_iff.1 h with h | ⟨found, -, h⟩
  · rcases bind_eq_error_iff.1 h with h | ⟨part, -, h⟩
    · obtain ⟨entity, name, rfl⟩ := render_eq_error false e c h
      rfl
    · exact absurd h pure_ne_error
  · cases found with
    | none => exact absurd h pure_ne_error
    | some filter => exact absurd h pure_ne_error

namespace Query

variable {q : Query} {e : Error}

theorem area_of_countSql_eq_error (h : q.countSql s t = .error e) :
    e.area = .unresolvedIdentifier := by
  rcases bind_eq_error_iff.1 h with h | ⟨clause, -, h⟩
  · exact Condition.area_of_whereClause_eq_error h
  · exact absurd h pure_ne_error

theorem area_of_selection_eq_error (h : q.selection s t = .error e) :
    e.area = .unresolvedIdentifier := by
  rw [selection] at h
  split at h
  · cases h
  · obtain ⟨operand, -, h⟩ := mapM_eq_error h
    exact Operand.area_of_sql_eq_error h

theorem area_of_orderClause_eq_error (h : q.orderClause s t = .error e) :
    e.area = .unresolvedIdentifier := by
  rw [orderClause] at h
  split at h
  · rcases bind_eq_error_iff.1 h with h | ⟨items, -, h⟩
    · obtain ⟨item, -, h⟩ := mapM_eq_error h
      rcases bind_eq_error_iff.1 h with h | ⟨column, -, h⟩
      · exact Operand.area_of_sql_eq_error h
      · exact absurd h pure_ne_error
    · exact absurd h pure_ne_error
  · exact absurd h pure_ne_error

theorem area_of_selectSql_eq_error (h : q.selectSql s t = .error e) :
    e.area = .unresolvedIdentifier ∨ e.area = .unsupportedFeature := by
  rcases bind_eq_error_iff.1 h with h | ⟨selection, -, h⟩
  · exact .inl (area_of_selection_eq_error h)
  rcases bind_eq_error_iff.1 h with h | ⟨clause, -, h⟩
  · exact .inl (Condition.area_of_whereClause_eq_error h)
  rcases bind_eq_error_iff.1 h with h | ⟨order, -, h⟩
  · exact .inl (area_of_orderClause_eq_error h)
  · dsimp only at h
    split at h
    · exact absurd h pure_ne_error
    · rw [Dialect.paginate] at h
      split at h
      · cases h
      · split at h
        · cases h
          exact .inr rfl
        · cases h
      · cases h

end Query

/-! ## Mutations -/

theorem Table.checkWidth_eq_error {row : Row} {e : Error} (h : t.checkWidth row = .error e) :
    e.area = .mappingMismatch ∧ row.length ≠ t.columns.length := by
  unfold checkWidth at h
  split at h
  · cases h
  · next width =>
    cases h
    exact ⟨rfl, width⟩

theorem Target.area_of_filter_eq_error {kind : WriteKind} {target : Target} {e : Error}
    (h : target.filter s t kind = .error e) :
    e.area = .unresolvedIdentifier ∨ e.area = .emptyCondition := by
  cases hempty : target.isEmpty with
  | true =>
    rw [filter_of_isEmpty kind hempty] at h
    cases h
    exact .inr rfl
  | false =>
    rcases filter_of_not_isEmpty (s := s) (t := t) kind hempty with ⟨filter, hok, -⟩ | ⟨entity, name, he⟩
    · rw [hok] at h
      cases h
    · rw [he] at h
      cases h
      exact .inl rfl

/-- The area of an error that a mutation with these rows can be refused with. -/
def Table.Refuses (t : Table) (rows : List Row) (area : Error.Area) : Prop :=
  area = .unresolvedIdentifier ∨ area = .emptyCondition ∨ area = .emptyAssignment ∨
    area = .mappingMismatch ∧ ∃ row ∈ rows, row.length ≠ t.columns.length

theorem Insert.refuses_of_writes_eq_error {multiRow : Bool} {rows : List Row} {e : Error}
    (h : writes s t multiRow rows = .error e) : t.Refuses rows e.area := by
  rw [writes] at h
  split at h
  · cases h
    exact .inr (.inr (.inl rfl))
  · rcases bind_eq_error_iff.1 h with h | ⟨_, -, h⟩
    · obtain ⟨row, hrow, h⟩ := forM_eq_error h
      obtain ⟨harea, width⟩ := Table.checkWidth_eq_error h
      exact .inr (.inr (.inr ⟨harea, row, hrow, width⟩))
    · split at h
      · exact absurd h pure_ne_error
      · exact absurd h pure_ne_error

theorem Update.refuses_of_sql_eq_error {sparse : Bool} {row : Row} {target : Target} {e : Error}
    (h : sql s t sparse row target = .error e) : t.Refuses [row] e.area := by
  rcases bind_eq_error_iff.1 h with h | ⟨_, -, h⟩
  · obtain ⟨harea, width⟩ := Table.checkWidth_eq_error h
    exact .inr (.inr (.inr ⟨harea, row, List.mem_singleton_self row, width⟩))
  · rcases bind_eq_error_iff.1 h with h | ⟨filter, -, h⟩
    · exact (Target.area_of_filter_eq_error h).imp_right .inl
    · dsimp only at h
      split at h
      · cases h
        exact .inr (.inr (.inl rfl))
      · exact absurd h pure_ne_error

theorem Delete.area_of_sql_eq_error {target : Target} {e : Error}
    (h : sql s t target = .error e) : e.area = .unresolvedIdentifier ∨ e.area = .emptyCondition := by
  rcases bind_eq_error_iff.1 h with h | ⟨_, -, h⟩
  · exact Target.area_of_filter_eq_error h
  · exact absurd h pure_ne_error

/-- The rows whose values a mutation writes. -/
def Mutation.rows : Mutation → List Row
  | .insert rows => rows
  | .update row _ | .replace row _ => [row]
  | .delete _ => []

theorem Mutation.refuses_of_writes_eq_error {m : Mutation} {multiRow : Bool} {e : Error}
    (h : m.writes s t multiRow = .error e) : t.Refuses m.rows e.area := by
  cases m with
  | insert rows => exact Insert.refuses_of_writes_eq_error h
  | update row target | replace row target =>
    rcases bind_eq_error_iff.1 h with h | ⟨_, -, h⟩
    · exact Update.refuses_of_sql_eq_error h
    · exact absurd h pure_ne_error
  | delete target =>
    rcases bind_eq_error_iff.1 h with h | ⟨_, -, h⟩
    · obtain ⟨part, -, h⟩ := mapM_eq_error h
      exact (Delete.area_of_sql_eq_error h).imp_right .inl
    · exact absurd h pure_ne_error

/-- Nothing of this is a failure of the session. -/
theorem Table.Refuses.isCompileError {rows : List Row} {e : Error} (h : t.Refuses rows e.area) :
    e.isCompileError := by
  unfold Error.isCompileError
  rcases h with h | h | h | ⟨h, -⟩ <;> rw [h] <;> rfl

end EntitySql
