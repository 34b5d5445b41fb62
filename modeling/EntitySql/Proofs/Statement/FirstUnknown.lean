/-
  Which queries cannot be written, and what is said of them.

  The operands of a query are looked up from the first to the last: those of the projection, of the
  condition, of the order. What is written for some of them fails for the first that has no column,
  and for nothing else (`Needs`); so does what is put together from such parts (`Needs.bind`). The page
  comes last, and there is one database that refuses it without an order. Hence a query is refused for
  its first unknown operand, else for its page, else not at all, and its count looks at the condition
  only (`refused_for_first_unknown`).
-/
import EntitySql.Proofs.Condition.Truth
import EntitySql.Proofs.Statement.Parts

namespace EntitySql

/-! ## Operands -/

namespace Operand

/-- The operand names a field of the table, or is a name that a column may have. -/
def IsKnown (t : Table) : Operand → Prop
  | .field name => name ∈ t.columns.map Column.field
  | .column name =>
    name ≠ "" ∧
      (∀ c ∈ name.toList, Text.isAlphanumeric c = true ∨ c = '_' ∨ c = '$' ∨ c = '.') ∧
      name.toList.head? ≠ some '.' ∧ name.toList.getLast? ≠ some '.'

instance (t : Table) : DecidablePred (IsKnown t)
  | .field name => inferInstanceAs (Decidable (name ∈ t.columns.map Column.field))
  | .column name => inferInstanceAs (Decidable (name ≠ "" ∧
      (∀ c ∈ name.toList, Text.isAlphanumeric c = true ∨ c = '_' ∨ c = '$' ∨ c = '.') ∧
      name.toList.head? ≠ some '.' ∧ name.toList.getLast? ≠ some '.'))

/-- The first operand that is not known. -/
def firstUnknown? (t : Table) (operands : List Operand) : Option Operand :=
  operands.find? fun operand => decide (¬ operand.IsKnown t)

end Operand

/-- The operands of a query, in the order in which they are looked up. -/
def Query.operands (q : Query) : List Operand :=
  q.projection ++ q.condition.operands ++ q.order.map OrderItem.operand

/-! ## Looking up operands -/

variable {α β : Type} {s : Settings} {t : Table}

/-- The computation fails for the first of the operands that is not known, and for nothing else. -/
def Needs (t : Table) (operands : List Operand) (x : Except Error α) : Prop :=
  match Operand.firstUnknown? t operands with
  | some operand => x = .error (.unresolved t.entity operand.name)
  | none => ∃ a, x = .ok a

theorem needs_pure (a : α) : Needs t [] (pure a) := ⟨a, rfl⟩

/-- What comes next looks up its own operands behind those before. -/
theorem Needs.bind {xs ys : List Operand} {x : Except Error α} {f : α → Except Error β}
    (h : Needs t xs x) (next : ∀ a, Needs t ys (f a)) : Needs t (xs ++ ys) (x >>= f) := by
  unfold Needs Operand.firstUnknown? at h
  rw [Needs, Operand.firstUnknown?, List.find?_append]
  cases first : xs.find? fun operand => decide (¬ operand.IsKnown t) with
  | some operand =>
    rw [first] at h
    exact bind_eq_error_iff.2 (.inl h)
  | none =>
    rw [first] at h
    obtain ⟨a, rfl⟩ := h
    exact next a

theorem Needs.map {xs : List Operand} {x : Except Error α} (h : Needs t xs x) (f : α → β) :
    Needs t xs (x >>= fun a => pure (f a)) := by
  have further : Needs t (xs ++ []) (x >>= fun a => pure (f a)) := h.bind fun a => needs_pure (f a)
  rwa [List.append_nil] at further

theorem needs_mapM {f : α → Except Error β} {operand : α → Operand}
    (h : ∀ a, Needs t [operand a] (f a)) (xs : List α) :
    Needs t (xs.map operand) (xs.mapM f) := by
  induction xs with
  | nil => exact needs_pure []
  | cons a rest ih =>
    rw [List.mapM_cons, List.map_cons, ← List.singleton_append]
    exact (h a).bind fun b => ih.map (b :: ·)

/-! ## Parts of a query -/

theorem Operand.isKnown_column_iff {name : String} :
    (column name).IsKnown t ↔ Settings.isColumnName name = true := by
  simp only [Settings.isColumnName, IsKnown, Bool.and_eq_true, Bool.or_eq_true, Bool.not_eq_true',
    List.all_eq_true, decide_eq_true_eq, List.isEmpty_eq_false_iff, ne_eq, String.toList_eq_nil_iff,
    or_assoc]
  tauto

theorem needs_sql (operand : Operand) : Needs t [operand] (operand.sql s t) := by
  rw [Needs, Operand.firstUnknown?, List.find?_singleton]
  cases operand with
  | field name =>
    rw [Operand.sql, Table.field]
    cases found : t.columns.find? fun c => decide (c.field = name) with
    | none =>
      have unknown : ¬ (Operand.field name).IsKnown t := by
        simpa [Operand.IsKnown] using found
      rw [if_pos (decide_eq_true unknown)]
      rfl
    | some c =>
      have known : (Operand.field name).IsKnown t :=
        List.mem_map.2 ⟨c, List.mem_of_find?_eq_some found, by simpa using List.find?_some found⟩
      rw [if_neg (by simpa using known)]
      exact ⟨c.sql, rfl⟩
  | column name =>
    rw [Operand.sql, Settings.rawColumn]
    by_cases proper : Settings.isColumnName name = true
    · have known : (Operand.column name).IsKnown t := Operand.isKnown_column_iff.2 proper
      rw [if_neg (by simpa using known), if_pos proper]
      exact ⟨s.escape name, rfl⟩
    · have unknown : ¬ (Operand.column name).IsKnown t := mt Operand.isKnown_column_iff.1 proper
      rw [if_pos (decide_eq_true unknown), if_neg proper]
      rfl

namespace Condition

mutual

/-- By induction on the condition: its predicates are looked up from the first to the last, also those
with an empty list of values. -/
theorem needs_render (inner : Bool) : (c : Condition) → Needs t c.operands (c.render s t inner)
  | .compare operand _ _ | .isIn operand _ | .between operand _ _ | .nullTest operand _ => by
    rw [operands, render]
    exact (needs_sql operand).map _
  | .group logic children => by
    rw [operands, render, ← List.append_nil (allOperands children)]
    refine (needs_renderAll children).bind fun parts => ?_
    match parts with
    | [] | [_] | _ :: _ :: _ => exact needs_pure _

theorem needs_renderAll : (cs : List Condition) → Needs t (allOperands cs) (renderAll s t cs)
  | [] => by
    rw [allOperands, renderAll]
    exact needs_pure []
  | c :: rest => by
    rw [allOperands, renderAll]
    exact (needs_render true c).bind fun part => (needs_renderAll rest).map _

end

theorem needs_whereClause (c : Condition) : Needs t c.operands (c.whereClause s t) := by
  rw [whereClause, filter?, ← List.append_nil c.operands]
  refine ((needs_render false c).map _).bind fun found => ?_
  cases found with
  | none => exact needs_pure _
  | some filter => exact needs_pure _

end Condition

namespace Query

theorem needs_selection (q : Query) : Needs t q.projection (q.selection s t) := by
  rw [selection]
  split
  · next nothing =>
    rw [List.isEmpty_iff.1 nothing]
    exact needs_pure _
  · have listed : Needs t (q.projection.map id) (q.projection.mapM (Operand.sql s t)) :=
      needs_mapM needs_sql q.projection
    rwa [List.map_id] at listed

theorem needs_orderClause (q : Query) :
    Needs t (q.order.map OrderItem.operand) (q.orderClause s t) := by
  rw [orderClause]
  split
  · exact (needs_mapM (fun item => (needs_sql item.operand).map _) q.order).map _
  · next unordered =>
    have nothing : q.order = [] := by simpa [isOrdered] using unordered
    rw [nothing]
    exact needs_pure _

theorem needs_countSql (q : Query) : Needs t q.condition.operands (q.countSql s t) :=
  (Condition.needs_whereClause q.condition).map _

theorem needs_unpaged (q : Query) : Needs t q.operands (q.unpaged.selectSql s t) := by
  have parts := (needs_selection (s := s) (t := t) q).bind fun selection =>
    (Condition.needs_whereClause (s := s) q.condition).bind fun filter =>
      (needs_orderClause (s := s) q).map fun order =>
        Sql.plain ("SELECT " ++ ", ".intercalate selection ++ " FROM " ++ t.sql) ++ filter ++ order
  rwa [← List.append_assoc] at parts

/-! ## Refusals -/

theorem selectSql_eq_bind (q : Query) :
    q.selectSql s t = q.unpaged.selectSql s t >>= q.restrict s.dialect := by
  simp only [selectSql, unpaged, bind_assoc, pure_bind]
  rfl

/-- A statement can be paged, except for an unordered page in the one database that refuses it. -/
theorem restrict_outcome (q : Query) (whole : Sql) :
    if s.database = .sqlServer ∧ q.page.isSome ∧ q.order = [] then
      q.restrict s.dialect whole = .error .unorderedPage
    else ∃ statement, q.restrict s.dialect whole = .ok statement := by
  have unordered : q.isOrdered = false ↔ q.order = [] := by simp [isOrdered]
  rw [restrict]
  cases q.page with
  | none =>
    rw [if_neg fun refused => Bool.false_ne_true refused.2.1]
    exact ⟨whole, rfl⟩
  | some page =>
    simp only [Option.isSome_some, true_and, ← unordered]
    split
    · next refused =>
      have paging : s.dialect.paging = .offsetFetch := by
        rw [Dialect.paging, show s.dialect.database = .sqlServer from refused.1]
      rw [Dialect.paginate, paging]
      exact if_pos refused
    · next accepted =>
      rw [Dialect.paginate]
      split
      · exact ⟨_, rfl⟩
      · exact ⟨_, if_neg accepted⟩
      · exact ⟨_, rfl⟩

/-- **A query is refused for its first unknown operand**, be it selected, tested or ordered by. If all
of them are known it is refused for a page without an order, where the database needs one, and else not
at all. The count of its rows is refused for the first unknown operand of the condition only. -/
theorem refused_for_first_unknown (s : Settings) (t : Table) (q : Query) :
    (match Operand.firstUnknown? t q.operands with
      | some operand => q.selectSql s t = .error (.unresolved t.entity operand.name)
      | none =>
        if s.database = .sqlServer ∧ q.page.isSome ∧ q.order = [] then
          q.selectSql s t = .error .unorderedPage
        else ∃ statement, q.selectSql s t = .ok statement) ∧
    match Operand.firstUnknown? t q.condition.operands with
    | some operand => q.countSql s t = .error (.unresolved t.entity operand.name)
    | none => ∃ statement, q.countSql s t = .ok statement := by
  refine ⟨?_, needs_countSql q⟩
  have unpaged := needs_unpaged (s := s) (t := t) q
  rw [Needs] at unpaged
  rw [selectSql_eq_bind]
  cases first : Operand.firstUnknown? t q.operands with
  | some operand =>
    rw [first] at unpaged
    exact bind_eq_error_iff.2 (.inl unpaged)
  | none =>
    rw [first] at unpaged
    obtain ⟨whole, written⟩ := unpaged
    rw [written]
    exact restrict_outcome q whole

/-- Also an operand that is compared with no value has to be known. -/
example : (whereOnly (.all [.isIn (.field "price") [], .compare (.field "cost") .eq .null])).selectSql
    Sample.settings Sample.items = .error (.unresolved "Item" "price") := rfl

end Query

end EntitySql
