/-
  What statements are put together from.

  The text of a statement consists of constant texts, which stand with the parameters of their
  placeholders, and of names: that of the table, those of its columns, and column names given by
  callers. Nothing else gets into a statement that reads (`Query.built_selectSql`,
  `Query.built_countSql`) or into one that writes (`Mutation.built_writes`).
-/
import EntitySql.Proofs.Change.Refusal
import EntitySql.Proofs.Insert.Rows
import EntitySql.Proofs.Statement.Parts

namespace EntitySql

/-! ## Pieces -/

/-- The characters of constant texts. -/
def isConstantChar (c : Char) : Bool :=
  c.isAlphanum || ['_', '.', ' ', ',', '(', ')', '?', '=', '!', '<', '>', '*'].contains c

/-- A text that may be part of any statement, with its number of placeholders. -/
def IsConstant (placeholders : Nat) (text : String) : Prop :=
  text.toList.all isConstantChar = true ∧ text.toList.count '?' = placeholders

instance (placeholders : Nat) (text : String) : Decidable (IsConstant placeholders text) :=
  inferInstanceAs (Decidable (_ ∧ _))

variable {s : Settings} {t : Table}

/-- The names that a statement for the table may hold. -/
inductive NameOf (s : Settings) (t : Table) : String → Prop
  | table : NameOf s t t.sql
  | column {column : Column} (h : column ∈ t.columns) : NameOf s t column.sql
  | given {name column : String} (h : s.rawColumn t.entity name = .ok column) : NameOf s t column

theorem Operand.nameOf_of_sql {operand : Operand} {column : String}
    (h : operand.sql s t = .ok column) : NameOf s t column := by
  cases operand with
  | field name =>
    rw [Operand.sql, Table.field] at h
    split at h
    · next c found =>
      cases h
      exact .column (List.mem_of_find?_eq_some found)
    · cases h
  | column name => exact .given h

namespace Sql

/-- The piece is put together from constant texts and names. -/
inductive Built (s : Settings) (t : Table) : Sql → Prop
  | constant {text : String} {values : List Value} (n : Nat) (h : IsConstant n text)
    (length : values.length = n) : Built s t ⟨text, values⟩
  | name {text : String} (h : NameOf s t text) : Built s t (plain text)
  | append {a b : Sql} (first : Built s t a) (second : Built s t b) : Built s t (a ++ b)

namespace Built

theorem constant_plain {text : String} (h : IsConstant 0 text) : Built s t (plain text) :=
  .constant 0 h rfl

theorem nothing : Built s t (plain "") := .constant_plain (by decide)

/-- A constant text with its parameters may stand behind a piece of text. -/
theorem behind {start text : String} {values : List Value} (h : Built s t (plain start)) (n : Nat)
    (rest : IsConstant n text) (length : values.length = n) : Built s t ⟨start ++ text, values⟩ := by
  have split : (⟨start ++ text, values⟩ : Sql) = plain start ++ ⟨text, values⟩ := eq_of_parts rfl rfl
  rw [split]
  exact .append h (.constant n rest length)

theorem plain_append {a b : String} (ha : Built s t (plain a)) (hb : Built s t (plain b)) :
    Built s t (plain (a ++ b)) := .append ha hb

theorem joined {separator : String} {parts : List Sql} (between : IsConstant 0 separator)
    (h : ∀ part ∈ parts, Built s t part) : Built s t (joined separator parts) := by
  induction parts with
  | nil => exact nothing
  | cons part rest ih =>
    have first : Built s t part := h part List.mem_cons_self
    cases rest with
    | nil => rwa [joined_singleton]
    | cons next rest =>
      rw [joined_cons_cons]
      exact first.append (.append (.constant_plain between)
        (ih fun other hother => h other (List.mem_cons_of_mem part hother)))

theorem plain_intercalate {separator : String} {texts : List String} (between : IsConstant 0 separator)
    (h : ∀ text ∈ texts, Built s t (plain text)) :
    Built s t (plain (separator.intercalate texts)) := by
  have same : plain (separator.intercalate texts) = Sql.joined separator (texts.map plain) := by
    refine eq_of_parts ?_ ?_
    · simp [Sql.joined, Function.comp_def]
    · simp [Sql.joined]
  rw [same]
  refine .joined between fun part hpart => ?_
  obtain ⟨text, htext, rfl⟩ := List.mem_map.1 hpart
  exact h text htext

theorem placeholders (values : List Value) :
    Built s t ⟨placeholders values.length, values⟩ := by
  match values with
  | [] => exact nothing
  | [v] =>
    have one : IsConstant 1 (EntitySql.placeholders 1) := by decide
    exact .constant 1 one rfl
  | v :: w :: rest =>
    have split : (⟨EntitySql.placeholders (v :: w :: rest).length, v :: w :: rest⟩ : Sql) =
        ⟨"?", [v]⟩ ++ (plain ", " ++ ⟨EntitySql.placeholders (w :: rest).length, w :: rest⟩) :=
      eq_of_parts (placeholders_succ_succ rest.length) rfl
    rw [split]
    exact .append (.constant 1 (by decide) rfl)
      (.append (.constant_plain (by decide)) (placeholders (w :: rest)))

end Built

end Sql

open Sql

/-! ## Filters -/

namespace Condition

theorem built_inList {column : String} (h : NameOf s t column) (values : List Value) :
    Built s t (inList column values) := by
  have split : inList column values =
      plain column ++ plain " IN (" ++ ⟨placeholders values.length, values⟩ ++ plain ")" := by
    refine eq_of_parts rfl ?_
    simp [inList]
  rw [split]
  exact (((Built.name h).append (.constant_plain (by decide))).append (.placeholders values)).append
    (.constant_plain (by decide))

theorem inherited_built : Inherited s t (Built s t) where
  compare operand column op value hcolumn := by
    have left : Built s t (plain (column ++ " ")) :=
      .plain_append (.name (Operand.nameOf_of_sql hcolumn)) (.constant_plain (by decide))
    have op_sql : Built s t (plain op.sql) := .constant_plain (by cases op <;> decide)
    exact (left.plain_append op_sql).behind 1 (by decide) rfl
  inList operand column values hcolumn := built_inList (Operand.nameOf_of_sql hcolumn) values
  never := .constant_plain (by decide)
  between operand column low high hcolumn :=
    (Built.name (Operand.nameOf_of_sql hcolumn)).behind 2 (by decide) rfl
  nullTest operand column isNull hcolumn := by
    have test : Built s t (plain (if isNull then " IS NULL" else " IS NOT NULL")) :=
      .constant_plain (by cases isNull <;> decide)
    exact (Built.name (Operand.nameOf_of_sql hcolumn)).plain_append test
  joined logic _ _ hparts := .joined (by cases logic <;> decide) hparts
  parentheses _ hpart :=
    ((Built.constant_plain (by decide)).append hpart).append (.constant_plain (by decide))

theorem built_of_render {inner : Bool} {c : Condition} {part : Sql}
    (h : c.render s t inner = .ok (some part)) : Built s t part :=
  inherited_built.render inner part c h

theorem built_whereClause {c : Condition} {clause : Sql} (h : c.whereClause s t = .ok clause) :
    Built s t clause := by
  rcases whereClause_eq_ok.1 h with ⟨-, rfl⟩ | ⟨filter, hfilter, rfl⟩
  · exact .nothing
  · exact .append (.constant_plain (by decide)) (built_of_render hfilter)

end Condition

/-! ## Queries -/

theorem Dialect.built_paginate {d : Dialect} {statement paged : Sql} {page : Page} {ordered : Bool}
    (whole : Built s t statement) (h : d.paginate statement page ordered = .ok paged) :
    Built s t paged := by
  rw [paginate] at h
  split at h
  · cases h
    exact whole.append (.constant 2 (by decide +kernel) rfl)
  · split at h
    · cases h
    · cases h
      exact whole.append (.constant 2 (by decide +kernel) rfl)
  · cases h
    exact ((Built.constant_plain (by decide +kernel)).append whole).append (.constant 2 (by decide +kernel) rfl)

namespace Query

variable {q : Query} {statement : Sql}

theorem nameOf_of_selection {selection : List String} (h : q.selection s t = .ok selection) :
    ∀ name ∈ selection, NameOf s t name := by
  intro name hname
  rcases selection_eq_ok.1 h with ⟨-, rfl⟩ | ⟨-, selected⟩
  · obtain ⟨column, hcolumn, rfl⟩ := List.mem_map.1 hname
    exact .column hcolumn
  · obtain ⟨operand, -, hsql⟩ := exists_of_mem_forall₂ selected hname
    exact Operand.nameOf_of_sql hsql

theorem built_orderClause {clause : Sql} (h : q.orderClause s t = .ok clause) :
    Built s t clause := by
  rcases orderClause_eq_ok.1 h with ⟨-, rfl⟩ | ⟨-, items, hitems, rfl⟩
  · exact .nothing
  · refine .plain_append (.constant_plain (by decide))
      (.plain_intercalate (by decide) fun item hitem => ?_)
    obtain ⟨order, -, column, hcolumn, rfl⟩ := exists_of_mem_forall₂ hitems hitem
    have left : Built s t (plain (column ++ " ")) :=
      .plain_append (.name (Operand.nameOf_of_sql hcolumn)) (.constant_plain (by decide))
    exact left.plain_append (.constant_plain (by cases order.direction <;> decide))

theorem built_countSql (h : q.countSql s t = .ok statement) : Built s t statement := by
  obtain ⟨clause, hclause, rfl⟩ := countSql_eq_ok.1 h
  exact (Built.plain_append (.constant_plain (by decide)) (.name .table)).append
    (Condition.built_whereClause hclause)

theorem built_selectSql (h : q.selectSql s t = .ok statement) : Built s t statement := by
  obtain ⟨unpaged, hunpaged, h⟩ := selectSql_eq_ok.1 h
  obtain ⟨selection, clause, order, hselection, hclause, horder, rfl⟩ :=
    selectSql_unpaged_eq_ok.1 hunpaged
  have names : Built s t (plain (", ".intercalate selection)) :=
    .plain_intercalate (by decide) fun name hname => .name (nameOf_of_selection hselection name hname)
  have start : Built s t (plain ("SELECT " ++ ", ".intercalate selection ++ " FROM " ++ t.sql)) :=
    (((Built.constant_plain (by decide)).plain_append names).plain_append
      (.constant_plain (by decide))).plain_append (.name .table)
  have whole := (start.append (Condition.built_whereClause hclause)).append (built_orderClause horder)
  unfold restrict at h
  split at h
  · cases h
    exact whole
  · exact Dialect.built_paginate whole h

end Query

/-! ## Writes -/

/-- The text is put together from constant texts and names, with the parameters of each run. -/
def Write.Built (s : Settings) (t : Table) : Write → Prop
  | .single statement => Sql.Built s t statement
  | .batch text paramSets =>
    paramSets ≠ [] ∧ ∀ params ∈ paramSets, Sql.Built s t ⟨text, params⟩

namespace Insert

variable {withoutKey : Bool}

theorem Shape.built_rows {rows : List Row} (width : ∀ row ∈ rows, row.length = t.columns.length) :
    Built s t ((⟨t, withoutKey⟩ : Shape).rows rows) := by
  have names : Built s t
      (plain (", ".intercalate ((⟨t, withoutKey⟩ : Shape).columns.map Column.sql))) := by
    refine .plain_intercalate (by decide) fun name hname => ?_
    obtain ⟨column, hcolumn, rfl⟩ := List.mem_map.1 hname
    exact .name (.column (mem_of_mem_pick hcolumn))
  have head : Built s t (plain (⟨t, withoutKey⟩ : Shape).head) :=
    ((((Built.constant_plain (by decide)).plain_append (.name .table)).plain_append
      (.constant_plain (by decide))).plain_append names).plain_append (.constant_plain (by decide))
  rw [Shape.rows_eq _ width]
  refine head.append (.joined (by decide) fun part hpart => ?_)
  obtain ⟨values, -, rfl⟩ := List.mem_map.1 hpart
  exact .append (.constant_plain (by decide))
    (.append (.placeholders values) (.constant_plain (by decide)))

theorem Shape.built_writes {d : Dialect} {multiRow : Bool} {run : List Row} (some_row : run ≠ [])
    (width : ∀ row ∈ run, row.length = t.columns.length) {write : Write}
    (h : write ∈ (⟨t, withoutKey⟩ : Shape).writes d multiRow run) : write.Built s t := by
  rcases cases_of_mem_writes h with ⟨piece, hpiece, rfl⟩ | rfl
  · exact built_rows fun row hrow => width row (hpiece.mem hrow)
  · refine ⟨fun hnil => some_row (List.map_eq_nil_iff.1 hnil), fun params hparams => ?_⟩
    obtain ⟨row, hrow, rfl⟩ := List.mem_map.1 hparams
    rw [← rows_singleton]
    exact built_rows fun other hother => List.mem_singleton.1 hother ▸ width row hrow

theorem built_writes {multiRow : Bool} {rows : List Row} {found : List Write}
    (h : writes s t multiRow rows = .ok found) {write : Write} (hwrite : write ∈ found) :
    write.Built s t := by
  obtain ⟨some_row, width⟩ := width_of_writes h
  rw [writes_eq_ok s t multiRow some_row width] at h
  cases h
  split at hwrite
  · obtain ⟨run, hrun, hwrite⟩ := List.mem_flatMap.1 hwrite
    exact Shape.built_writes (List.ne_nil_of_mem_splitBy hrun)
      (fun row hrow => width row (mem_of_mem_runs hrun hrow)) hwrite
  · exact Shape.built_writes some_row width hwrite

end Insert

namespace Mutation

theorem Changes.built {m : Mutation} {target : Target} {start : Sql} (h : m.Changes t target start) :
    Built s t start := by
  have update (sparse : Bool) (row : Row) :
      Built s t (Update.start t (Update.assigned t sparse row)) := by
    have words : Built s t (plain ("UPDATE " ++ t.sql ++ " SET ")) :=
      ((Built.constant_plain (by decide)).plain_append (.name .table)).plain_append
        (.constant_plain (by decide))
    refine words.append (.joined (by decide) fun part hpart => ?_)
    obtain ⟨cell, hcell, rfl⟩ := List.mem_map.1 hpart
    have hcolumn := (List.of_mem_zip (List.mem_filter.1 hcell).1).1
    exact (Built.name (.column hcolumn)).behind 1 (by decide) rfl
  cases h with
  | update row target width => exact update true row
  | replace row target width => exact update false row
  | delete target => exact .plain_append (.constant_plain (by decide)) (.name .table)

theorem built_writes {m : Mutation} {multiRow : Bool} {found : List Write}
    (h : m.writes s t multiRow = .ok found) {write : Write} (hwrite : write ∈ found) :
    write.Built s t := by
  rcases changes_of_writes h with ⟨rows, rfl⟩ | ⟨target, start, changes⟩
  · exact Insert.built_writes h hwrite
  · obtain ⟨part, filter, -, hrender, -, rfl⟩ := write_of_changes changes h hwrite
    exact (changes.built.append (.constant_plain (by decide))).append
      (Condition.built_of_render hrender)

end Mutation

end EntitySql
