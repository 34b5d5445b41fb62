/-
  The parts of the statements that read, and what the two statements of a query have in common.

  A select statement is a selection, a WHERE part and an ORDER BY part, and may be restricted to a
  page. The count of a query has the same WHERE part with the same parameters; whatever else there is
  in the select statement stands around it (`count_agrees_with_select`).
-/
import EntitySql.Proofs.Condition.Rendering
import EntitySql.Proofs.Sample
import EntitySql.Sql.Select

namespace EntitySql

variable {s : Settings} {t : Table}

/-! ## Parts -/

/-- The WHERE part is left out exactly for a condition without a predicate. -/
theorem Condition.whereClause_eq_ok {c : Condition} {clause : Sql} :
    c.whereClause s t = .ok clause ↔
      c.isEmpty ∧ clause = .plain "" ∨
        ∃ filter, c.render s t false = .ok (some filter) ∧ clause = .plain " WHERE " ++ filter := by
  rw [whereClause, bind_eq_ok_iff, ← render_eq_ok_none_iff (s := s) (t := t) false]
  constructor
  · rintro ⟨found, hfound, h⟩
    obtain ⟨part, hpart, rfl⟩ := filter?_eq_ok.1 hfound
    cases part with
    | none => exact .inl ⟨hpart, pure_eq_ok_iff.1 h⟩
    | some filter => exact .inr ⟨filter, hpart, pure_eq_ok_iff.1 h⟩
  · rintro (⟨hpart, rfl⟩ | ⟨filter, hpart, rfl⟩)
    · exact ⟨none, filter?_eq_ok.2 ⟨none, hpart, rfl⟩, rfl⟩
    · exact ⟨some filter, filter?_eq_ok.2 ⟨some filter, hpart, rfl⟩, rfl⟩

namespace Query

variable {q : Query} {statement : Sql}

theorem selection_eq_ok {selection : List String} :
    q.selection s t = .ok selection ↔
      q.projection = [] ∧ selection = t.columns.map Column.sql ∨
        q.projection ≠ [] ∧
          List.Forall₂ (fun operand column => operand.sql s t = .ok column) q.projection
            selection := by
  rw [Query.selection]
  by_cases h : q.projection = []
  · simp [h, eq_comm]
  · simp [h, mapM_eq_ok_iff]

/-- The text orders the rows by what the item says. -/
def Orders (s : Settings) (t : Table) (item : OrderItem) (text : String) : Prop :=
  ∃ column, item.operand.sql s t = .ok column ∧ text = column ++ " " ++ item.direction.sql

theorem orderItem_eq_ok {item : OrderItem} {text : String} :
    orderItem s t item = .ok text ↔ Orders s t item text := by
  rw [orderItem, bind_eq_ok_iff]
  exact exists_congr fun column => and_congr_right fun _ => pure_eq_ok_iff

theorem orderClause_eq_ok {clause : Sql} :
    q.orderClause s t = .ok clause ↔
      q.order = [] ∧ clause = .plain "" ∨
        q.order ≠ [] ∧ ∃ items, List.Forall₂ (Orders s t) q.order items ∧
          clause = .plain (" ORDER BY " ++ ", ".intercalate items) := by
  have ordered : q.isOrdered = true ↔ q.order ≠ [] := by simp [isOrdered]
  rw [orderClause]
  split
  · next some_item =>
    simp only [bind_eq_ok_iff, pure_eq_ok_iff, mapM_eq_ok_iff, orderItem_eq_ok]
    simp [ordered.1 some_item]
  · next no_item =>
    rw [pure_eq_ok_iff]
    simp [not_not.1 (mt ordered.2 no_item)]

theorem countSql_eq_ok :
    q.countSql s t = .ok statement ↔
      ∃ clause, q.condition.whereClause s t = .ok clause ∧
        statement = .plain ("SELECT COUNT(*) FROM " ++ t.sql) ++ clause := by
  rw [countSql, bind_eq_ok_iff]
  exact exists_congr fun clause => and_congr_right fun _ => pure_eq_ok_iff

/-- The query for the rows of all pages. -/
def unpaged (q : Query) : Query := { q with page := none }

theorem selectSql_unpaged_eq_ok :
    q.unpaged.selectSql s t = .ok statement ↔
      ∃ selection clause order, q.selection s t = .ok selection ∧
        q.condition.whereClause s t = .ok clause ∧ q.orderClause s t = .ok order ∧
        statement =
          .plain ("SELECT " ++ ", ".intercalate selection ++ " FROM " ++ t.sql) ++ clause ++ order := by
  simp only [selectSql, bind_eq_ok_iff, unpaged, pure_eq_ok_iff]
  constructor
  · rintro ⟨selection, hselection, clause, hclause, order, horder, h⟩
    exact ⟨selection, clause, order, hselection, hclause, horder, h⟩
  · rintro ⟨selection, clause, order, hselection, hclause, horder, h⟩
    exact ⟨selection, hselection, clause, hclause, order, horder, h⟩

end Query

/-! ## Pages -/

/-- Rows are numbered only where the database cannot page otherwise. -/
theorem Settings.paging_eq_rowNumber_iff :
    s.dialect.paging = .rowNumber ↔ s.database = .oracle ∧ s.oracleOffsetFetch = false := by
  unfold Dialect.paging Settings.dialect
  dsimp only
  split
  · next oracle => cases s.oracleOffsetFetch <;> simp [oracle]
  · next sqlServer => simp [sqlServer]
  · next no_oracle _ => exact ⟨nofun, fun h => absurd h.1 no_oracle⟩

theorem Dialect.exists_countParameter (n : UInt64) : ∃ i, countParameter n = .integer i := ⟨_, rfl⟩

/-- A page binds two numbers behind the parameters of its statement. The statement stays in one piece,
in front of the text or, where rows are numbered, inside two other statements. -/
theorem Dialect.cases_of_paginate {d : Dialect} {statement paged : Sql} {page : Page} {ordered : Bool}
    (h : d.paginate statement page ordered = .ok paged) :
    ∃ first second : Int64,
      if d.paging = .rowNumber then
        paged = .plain "SELECT * FROM (SELECT ez_t.*, ROWNUM ez_rn FROM (" ++ statement ++
          ⟨") ez_t WHERE ROWNUM <= ?) WHERE ez_rn > ?", [.integer first, .integer second]⟩
      else ∃ window, paged = statement ++ ⟨window, [.integer first, .integer second]⟩ := by
  obtain ⟨offset, hoffset⟩ := exists_countParameter page.offset
  obtain ⟨limit, hlimit⟩ := exists_countParameter page.limit
  obtain ⟨finish, hfinish⟩ := exists_countParameter page.finish
  rw [paginate, hoffset, hlimit, hfinish] at h
  split at h
  · next limitOffset =>
    cases h
    rw [limitOffset]
    exact ⟨limit, offset, _, rfl⟩
  · next offsetFetch =>
    split at h
    · cases h
    · cases h
      rw [offsetFetch]
      exact ⟨offset, limit, _, rfl⟩
  · next rowNumber =>
    cases h
    rw [rowNumber]
    exact ⟨finish, offset, rfl⟩

namespace Query

variable {q : Query} {statement : Sql}

/-- Restricts a statement to the page of the query, if it has one. -/
def restrict (d : Dialect) (q : Query) (statement : Sql) : Except Error Sql :=
  match q.page with
  | none => .ok statement
  | some page => d.paginate statement page q.isOrdered

/-- The statement of a query is that for the rows of all pages, restricted to its own page. -/
theorem selectSql_eq_ok :
    q.selectSql s t = .ok statement ↔
      ∃ unpaged, q.unpaged.selectSql s t = .ok unpaged ∧
        q.restrict s.dialect unpaged = .ok statement := by
  simp only [selectSql_unpaged_eq_ok]
  rw [selectSql]
  simp only [bind_eq_ok_iff]
  constructor
  · rintro ⟨selection, hselection, clause, hclause, order, horder, h⟩
    exact ⟨_, ⟨selection, clause, order, hselection, hclause, horder, rfl⟩, h⟩
  · rintro ⟨_, ⟨selection, clause, order, hselection, hclause, horder, rfl⟩, h⟩
    exact ⟨selection, hselection, clause, hclause, order, horder, h⟩

theorem restrict_eq_ok {whole : Sql} (h : q.restrict s.dialect whole = .ok statement) :
    (∃ numbers : List Int64, numbers.length = (if q.page.isSome then 2 else 0) ∧
      statement.params = whole.params ++ numbers.map .integer) ∧
    (q.page = none → statement = whole) ∧
    if s.database = .oracle ∧ s.oracleOffsetFetch = false ∧ q.page.isSome then
      statement.text = "SELECT * FROM (SELECT ez_t.*, ROWNUM ez_rn FROM (" ++ whole.text ++
        ") ez_t WHERE ROWNUM <= ?) WHERE ez_rn > ?"
    else ∃ window, statement.text = whole.text ++ window := by
  unfold restrict at h
  cases hpage : q.page with
  | none =>
    rw [hpage] at h
    cases h
    refine ⟨⟨[], rfl, by simp⟩, fun _ => rfl, ?_⟩
    simp only [Option.isSome_none, Bool.false_eq_true, and_false, if_false]
    exact ⟨"", by simp⟩
  | some page =>
    rw [hpage] at h
    obtain ⟨first, second, h⟩ := Dialect.cases_of_paginate h
    simp only [Option.isSome_some, and_true, if_true, ← Settings.paging_eq_rowNumber_iff]
    split at h
    · next rowNumber =>
      subst h
      rw [if_pos rowNumber]
      exact ⟨⟨[first, second], rfl, rfl⟩, nofun, rfl⟩
    · next other =>
      obtain ⟨window, rfl⟩ := h
      rw [if_neg other]
      exact ⟨⟨[first, second], rfl, rfl⟩, nofun, window, rfl⟩

/-! ## The two statements of a query -/

/-- The part of a statement that keeps the rows that meet a condition. -/
def Filters (s : Settings) (t : Table) (c : Condition) (part : Sql) : Prop :=
  c.isEmpty ∧ part = .plain "" ∨
    ∃ filter, c.render s t false = .ok (some filter) ∧ filter.text ≠ "" ∧
      part = .plain " WHERE " ++ filter

/-- The part of a statement that puts the rows in order. -/
def Sorts (s : Settings) (t : Table) (order : List OrderItem) (part : Sql) : Prop :=
  order = [] ∧ part = .plain "" ∨
    order ≠ [] ∧ ∃ items, List.Forall₂ (Orders s t) order items ∧
      part = .plain (" ORDER BY " ++ ", ".intercalate items)

/-- If the rows of a query can be selected then they can be counted, by the same WHERE part. All that
the select statement has beyond it, for the rows of all pages, is the selection and the order; the
page leaves that statement as it is and adds two numbers to its parameters. -/
theorem count_agrees_with_select (s : Settings) (t : Table) (q : Query) (statement : Sql)
    (h : q.selectSql s t = .ok statement) :
    ∃ count unpaged filter order : Sql, ∃ selection : List String, ∃ numbers : List Int64,
      q.countSql s t = .ok count ∧ q.unpaged.selectSql s t = .ok unpaged ∧
      q.selection s t = .ok selection ∧ Filters s t q.condition filter ∧ Sorts s t q.order order ∧
      count = .plain ("SELECT COUNT(*) FROM " ++ t.sql) ++ filter ∧
      unpaged = .plain ("SELECT " ++ ", ".intercalate selection ++ " FROM " ++ t.sql) ++ filter ++
        order ∧
      statement.params = count.params ++ numbers.map .integer ∧
      numbers.length = (if q.page.isSome then 2 else 0) ∧
      (q.page = none → statement = unpaged) ∧
      if s.database = .oracle ∧ s.oracleOffsetFetch = false ∧ q.page.isSome then
        statement.text = "SELECT * FROM (SELECT ez_t.*, ROWNUM ez_rn FROM (" ++ unpaged.text ++
          ") ez_t WHERE ROWNUM <= ?) WHERE ez_rn > ?"
      else ∃ window, statement.text = unpaged.text ++ window := by
  obtain ⟨unpaged, hunpaged, h⟩ := selectSql_eq_ok.1 h
  obtain ⟨selection, filter, order, hselection, hfilter, horder, parts⟩ :=
    selectSql_unpaged_eq_ok.1 hunpaged
  obtain ⟨⟨numbers, length, params⟩, first_page, text⟩ := restrict_eq_ok h
  have filters : Filters s t q.condition filter :=
    (Condition.whereClause_eq_ok.1 hfilter).imp_right fun ⟨rendered, hrender, hpart⟩ =>
      ⟨rendered, hrender, Condition.inherited_text_ne_empty.render false rendered _ hrender, hpart⟩
  have sorts : Sorts s t q.order order := orderClause_eq_ok.1 horder
  -- An order has no parameters, so those of the filter are all there are in front of the page.
  have no_params : order.params = [] := by
    rcases sorts with ⟨-, rfl⟩ | ⟨-, items, -, rfl⟩ <;> rfl
  refine ⟨_, unpaged, filter, order, selection, numbers,
    countSql_eq_ok.2 ⟨filter, hfilter, rfl⟩, hunpaged, hselection, filters, sorts, rfl, parts, ?_,
    length, first_page, text⟩
  rw [params, parts]
  simp [no_params]

theorem count_agrees_with_select_second_page :
    ∃ statement count unpaged : Sql, ∃ numbers : List Int64,
      Sample.query.selectSql Sample.settings Sample.items = .ok statement ∧
      Sample.query.countSql Sample.settings Sample.items = .ok count ∧
      Sample.query.unpaged.selectSql Sample.settings Sample.items = .ok unpaged ∧
      statement.params = count.params ++ numbers.map .integer ∧ numbers.length = 2 ∧
      statement.text = "SELECT * FROM (SELECT ez_t.*, ROWNUM ez_rn FROM (" ++ unpaged.text ++
        ") ez_t WHERE ROWNUM <= ?) WHERE ez_rn > ?" := by
  obtain ⟨statement, written⟩ :
      ∃ statement, Sample.query.selectSql Sample.settings Sample.items = .ok statement := ⟨_, rfl⟩
  obtain ⟨count, unpaged, filter, order, selection, numbers, hcount, hunpaged, -, -, -, -, -, params,
    length, -, text⟩ := count_agrees_with_select _ _ _ _ written
  exact ⟨statement, count, unpaged, numbers, written, hcount, hunpaged, params, length, text⟩

end Query

end EntitySql
