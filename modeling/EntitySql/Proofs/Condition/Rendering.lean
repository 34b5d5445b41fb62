/-
  How conditions are written: what a successful rendering looks like, constructor by constructor.

  There is no text exactly for the conditions without a predicate (`render_eq_ok_none_iff`), and a text
  is never empty (`inherited_text_ne_empty`). A condition is refused only for a name that means no
  column (`render_eq_error`).
-/
import EntitySql.Proofs.Outcome
import EntitySql.Proofs.Text.Characters
import EntitySql.Sql.Filter

namespace EntitySql

namespace Condition

variable {s : Settings} {t : Table} {inner : Bool} {found : Option Sql}

/-! ## Inversion -/

theorem render_compare_eq_ok {operand : Operand} {op : CompareOp} {value : Value} :
    (compare operand op value).render s t inner = .ok found ↔
      ∃ column, operand.sql s t = .ok column ∧
        found = some ⟨column ++ " " ++ op.sql ++ " ?", [value]⟩ := by
  simp only [render, bind_eq_ok_iff, pure_eq_ok_iff]

theorem render_isIn_eq_ok {operand : Operand} {values : List Value} :
    (isIn operand values).render s t inner = .ok found ↔
      ∃ column, operand.sql s t = .ok column ∧
        found = some (inPredicate s.dialect column values) := by
  simp only [render, bind_eq_ok_iff, pure_eq_ok_iff]

theorem render_between_eq_ok {operand : Operand} {low high : Value} :
    (between operand low high).render s t inner = .ok found ↔
      ∃ column, operand.sql s t = .ok column ∧
        found = some ⟨column ++ " BETWEEN ? AND ?", [low, high]⟩ := by
  simp only [render, bind_eq_ok_iff, pure_eq_ok_iff]

theorem render_nullTest_eq_ok {operand : Operand} {isNull : Bool} :
    (nullTest operand isNull).render s t inner = .ok found ↔
      ∃ column, operand.sql s t = .ok column ∧
        found = some (.plain (column ++ if isNull then " IS NULL" else " IS NOT NULL")) := by
  simp only [render, bind_eq_ok_iff, pure_eq_ok_iff]

/-- The text of a group of which these are the texts of the effective children. -/
def grouped (inner : Bool) (logic : Logic) : List Sql → Option Sql
  | [] => none
  | [only] => some only
  | parts =>
    let joined := Sql.joined (" " ++ logic.sql ++ " ") parts
    some (if inner then .plain "(" ++ joined ++ .plain ")" else joined)

theorem render_group_eq_ok {logic : Logic} {children : List Condition} :
    (group logic children).render s t inner = .ok found ↔
      ∃ parts, renderAll s t children = .ok parts ∧ found = grouped inner logic parts := by
  rw [render, bind_eq_ok_iff]
  refine exists_congr fun parts => and_congr_right fun _ => ?_
  match parts with
  | [] | [_] | _ :: _ :: _ => exact pure_eq_ok_iff

theorem renderAll_nil_eq_ok {parts : List Sql} : renderAll s t [] = .ok parts ↔ parts = [] := by
  rw [renderAll, pure_eq_ok_iff]

theorem renderAll_cons_eq_ok {c : Condition} {rest : List Condition} {parts : List Sql} :
    renderAll s t (c :: rest) = .ok parts ↔
      ∃ part, c.render s t true = .ok part ∧
        ∃ others, renderAll s t rest = .ok others ∧ parts = part.toList ++ others := by
  simp only [renderAll, bind_eq_ok_iff, pure_eq_ok_iff]

theorem filter?_eq_ok {c : Condition} {bound : List Value} :
    c.filter? s t bound = .ok found ↔
      ∃ part, c.render s t false = .ok part ∧ found = part.map (Sql.after bound) := by
  simp only [filter?, bind_eq_ok_iff, pure_eq_ok_iff]

/-! ## Conditions without a predicate -/

theorem grouped_eq_none_iff {logic : Logic} {parts : List Sql} :
    grouped inner logic parts = none ↔ parts = [] := by
  match parts with
  | [] | [_] | _ :: _ :: _ => simp [grouped]

mutual

/-- Nothing is written exactly for a condition that has no predicate in it. -/
theorem render_eq_ok_none_iff (inner : Bool) :
    (c : Condition) → (c.render s t inner = .ok none ↔ c.isEmpty)
  | .compare .. => by simp [render_compare_eq_ok, isEmpty]
  | .isIn .. => by simp [render_isIn_eq_ok, isEmpty]
  | .between .. => by simp [render_between_eq_ok, isEmpty]
  | .nullTest .. => by simp [render_nullTest_eq_ok, isEmpty]
  | .group logic children => by
    rw [render_group_eq_ok, isEmpty, ← renderAll_eq_ok_nil_iff children]
    constructor
    · rintro ⟨parts, hparts, hnone⟩
      rwa [grouped_eq_none_iff.1 hnone.symm] at hparts
    · intro h
      exact ⟨[], h, rfl⟩

theorem renderAll_eq_ok_nil_iff :
    (cs : List Condition) → (renderAll s t cs = .ok [] ↔ allEmpty cs)
  | [] => by simp [renderAll_nil_eq_ok, allEmpty]
  | c :: rest => by
    rw [renderAll_cons_eq_ok, allEmpty, Bool.and_eq_true, ← render_eq_ok_none_iff true c,
      ← renderAll_eq_ok_nil_iff rest]
    constructor
    · rintro ⟨part, hpart, others, hothers, h⟩
      obtain ⟨h1, h2⟩ := List.append_eq_nil_iff.1 h.symm
      rw [Option.toList_eq_nil_iff] at h1
      exact ⟨h1 ▸ hpart, h2 ▸ hothers⟩
    · rintro ⟨hpart, hothers⟩
      exact ⟨none, hpart, [], hothers, rfl⟩

end

/-! ## Lists of values -/

/-- Membership in the values of some lists, each with an IN of its own. -/
def inLists (column : String) : List (List Value) → Sql
  | [] => .plain "1 = 0"
  | [only] => inList column only
  | lists =>
    .plain "(" ++ .joined (" " ++ Logic.or.sql ++ " ") (lists.map (inList column)) ++ .plain ")"

theorem params_inLists (column : String) (lists : List (List Value)) :
    (inLists column lists).params = lists.flatten := by
  match lists with
  | [] => rfl
  | [only] => exact List.flatten_singleton.symm
  | first :: second :: rest =>
    simp [inLists, Sql.joined, inList, List.flatMap_map, List.flatMap_id']

/-- Values are written in lists that are not empty and not longer than the database takes. -/
theorem inPredicate_eq_inLists (d : Dialect) (column : String) (values : List Value) :
    ∃ lists : List (List Value), lists.flatten = values ∧ (∀ list ∈ lists, list ≠ []) ∧
      (∀ list ∈ lists, ∀ limit, d.inListLimit? = some limit → list.length ≤ limit) ∧
      inPredicate d column values = inLists column lists := by
  rw [inPredicate]
  split
  · next no_value =>
    rw [List.isEmpty_iff] at no_value
    have none_in_nil : ∀ list, list ∉ ([] : List (List Value)) := fun _ => List.not_mem_nil
    exact ⟨[], no_value.symm, fun list h => absurd h (none_in_nil list),
      fun list h => absurd h (none_in_nil list), rfl⟩
  · next some_value =>
    rw [List.isEmpty_iff] at some_value
    split
    · next unlimited =>
      refine ⟨[values], List.flatten_singleton, ?_, fun _ _ limit hlimit => ?_, rfl⟩
      · exact fun list hlist => List.mem_singleton.1 hlist ▸ some_value
      · rw [unlimited] at hlimit
        cases hlimit
    · next limit hlimit =>
      have hpos := Dialect.inListLimit?_pos hlimit
      refine ⟨chunks limit values, flatten_chunks hpos,
        fun list hlist => ne_nil_of_mem_chunks hpos hlist, fun list hlist other hother => ?_, ?_⟩
      · rw [hlimit] at hother
        cases hother
        exact (length_of_mem_chunks hpos hlist).2
      · have filled : chunks limit values ≠ [] := chunks_ne_nil hpos some_value
        obtain ⟨first, rest, several⟩ := List.exists_cons_of_ne_nil filled
        rw [several]
        cases rest <;> rfl

/-- The three ways to write membership: nothing is in the empty list, and a list that is too long is
written as several that are not empty. -/
theorem inPredicate_cases (d : Dialect) (column : String) (values : List Value) :
    (values = [] ∧ inPredicate d column values = .plain "1 = 0") ∨
      (values ≠ [] ∧ inPredicate d column values = inList column values) ∨
      ∃ lists : List (List Value), lists ≠ [] ∧ (∀ list ∈ lists, list ≠ []) ∧
        lists.flatten = values ∧ inPredicate d column values =
          .plain "(" ++ .joined (" " ++ Logic.or.sql ++ " ") (lists.map (inList column)) ++
            .plain ")" := by
  obtain ⟨lists, all, filled, -, written⟩ := inPredicate_eq_inLists d column values
  cases lists with
  | nil => exact .inl ⟨all.symm, written⟩
  | cons first rest =>
    cases rest with
    | nil =>
      rw [List.flatten_singleton] at all
      subst all
      exact .inr (.inl ⟨filled first List.mem_cons_self, written⟩)
    | cons second rest =>
      exact .inr (.inr ⟨_, List.cons_ne_nil first (second :: rest), filled, all, written⟩)

/-! ## What all texts have in common -/

/-- It holds of every predicate, and of what is put together from parts that it holds of. -/
structure Inherited (s : Settings) (t : Table) (P : Sql → Prop) : Prop where
  compare : ∀ (operand : Operand) (column : String) (op : CompareOp) (value : Value),
    operand.sql s t = .ok column → P ⟨column ++ " " ++ op.sql ++ " ?", [value]⟩
  inList : ∀ (operand : Operand) (column : String) (values : List Value),
    operand.sql s t = .ok column → P (inList column values)
  never : P (.plain "1 = 0")
  between : ∀ (operand : Operand) (column : String) (low high : Value),
    operand.sql s t = .ok column → P ⟨column ++ " BETWEEN ? AND ?", [low, high]⟩
  nullTest : ∀ (operand : Operand) (column : String) (isNull : Bool),
    operand.sql s t = .ok column →
      P (.plain (column ++ if isNull then " IS NULL" else " IS NOT NULL"))
  joined : ∀ (logic : Logic) (parts : List Sql), parts ≠ [] → (∀ part ∈ parts, P part) →
    P (.joined (" " ++ logic.sql ++ " ") parts)
  parentheses : ∀ part : Sql, P part → P (.plain "(" ++ part ++ .plain ")")

namespace Inherited

variable {P : Sql → Prop}

theorem inPredicate (inherited : Inherited s t P) {operand : Operand} {column : String}
    (hcolumn : operand.sql s t = .ok column) (values : List Value) :
    P (inPredicate s.dialect column values) := by
  rcases inPredicate_cases s.dialect column values with
    ⟨-, h⟩ | ⟨-, h⟩ | ⟨lists, some_list, -, -, h⟩
  · rw [h]
    exact inherited.never
  · rw [h]
    exact inherited.inList operand column values hcolumn
  · rw [h]
    refine inherited.parentheses _ (inherited.joined .or _ ?_ fun part hpart => ?_)
    · exact fun hnil => some_list (List.map_eq_nil_iff.1 hnil)
    · obtain ⟨list, -, rfl⟩ := List.mem_map.1 hpart
      exact inherited.inList operand column list hcolumn

theorem grouped (inherited : Inherited s t P) {logic : Logic} {parts : List Sql} {part : Sql}
    (h : ∀ part ∈ parts, P part) (hpart : grouped inner logic parts = some part) : P part := by
  match parts with
  | [] => cases hpart
  | [only] =>
    cases hpart
    exact h part (List.mem_singleton_self part)
  | first :: second :: rest =>
    have joined := inherited.joined logic (first :: second :: rest) (List.cons_ne_nil _ _) h
    cases inner with
    | false =>
      cases hpart
      exact joined
    | true =>
      cases hpart
      exact inherited.parentheses _ joined

mutual

theorem render (inherited : Inherited s t P) (inner : Bool) (part : Sql) :
    (c : Condition) → c.render s t inner = .ok (some part) → P part
  | .compare operand op value, h => by
    obtain ⟨column, hcolumn, hpart⟩ := render_compare_eq_ok.1 h
    cases hpart
    exact inherited.compare operand column op value hcolumn
  | .isIn operand values, h => by
    obtain ⟨column, hcolumn, hpart⟩ := render_isIn_eq_ok.1 h
    cases hpart
    exact inherited.inPredicate hcolumn values
  | .between operand low high, h => by
    obtain ⟨column, hcolumn, hpart⟩ := render_between_eq_ok.1 h
    cases hpart
    exact inherited.between operand column low high hcolumn
  | .nullTest operand isNull, h => by
    obtain ⟨column, hcolumn, hpart⟩ := render_nullTest_eq_ok.1 h
    cases hpart
    exact inherited.nullTest operand column isNull hcolumn
  | .group logic children, h => by
    obtain ⟨parts, hparts, hpart⟩ := render_group_eq_ok.1 h
    exact inherited.grouped (inherited.renderAll parts children hparts) hpart.symm

theorem renderAll (inherited : Inherited s t P) (parts : List Sql) :
    (cs : List Condition) → renderAll s t cs = .ok parts → ∀ part ∈ parts, P part
  | [], h, part, hpart => by
    rw [renderAll_nil_eq_ok.1 h] at hpart
    exact absurd hpart List.not_mem_nil
  | c :: rest, h, part, hpart => by
    obtain ⟨first, hfirst, others, hothers, rfl⟩ := renderAll_cons_eq_ok.1 h
    rcases List.mem_append.1 hpart with hpart | hpart
    · rw [Option.mem_toList] at hpart
      exact inherited.render true part c (hpart ▸ hfirst)
    · exact inherited.renderAll others rest hothers part hpart

end

end Inherited

theorem text_ne_empty_of_joined (separator : String) {parts : List Sql} (some_part : parts ≠ [])
    (h : ∀ part ∈ parts, part.text ≠ "") : (Sql.joined separator parts).text ≠ "" := by
  obtain ⟨part, rest, rfl⟩ := List.exists_cons_of_ne_nil some_part
  have first : part.text ≠ "" := h part List.mem_cons_self
  cases rest with
  | nil => rwa [Sql.joined, List.map_singleton, String.intercalate_singleton]
  | cons next rest =>
    rw [Sql.joined, List.map_cons, List.map_cons, String.intercalate_cons_cons, ne_eq,
      String.append_eq_empty_iff, String.append_eq_empty_iff]
    exact fun h => first h.1.1

/-- What is written for a condition is never the empty text. -/
theorem inherited_text_ne_empty : Inherited s t fun part => part.text ≠ "" where
  compare _ _ _ _ _ := append_ne_empty (by decide)
  inList _ _ _ _ := append_ne_empty (by decide)
  never := by decide
  between _ _ _ _ _ := append_ne_empty (by decide)
  nullTest _ _ isNull _ := append_ne_empty (by cases isNull <;> decide)
  joined _ _ some_part h := text_ne_empty_of_joined _ some_part h
  parentheses _ _ := append_ne_empty (by decide)

/-! ## Refusals -/

theorem sql_eq_error {operand : Operand} {e : Error} (h : operand.sql s t = .error e) :
    ∃ entity name, e = .unresolved entity name := by
  cases operand with
  | field name =>
    rw [Operand.sql, Table.field] at h
    split at h
    · cases h
    · cases h
      exact ⟨_, _, rfl⟩
  | column name =>
    rw [Operand.sql, Settings.rawColumn] at h
    split at h
    · cases h
    · cases h
      exact ⟨_, _, rfl⟩

mutual

/-- Only a name that means no column makes a condition impossible to write. -/
theorem render_eq_error (inner : Bool) (e : Error) :
    (c : Condition) → c.render s t inner = .error e → ∃ entity name, e = .unresolved entity name
  | .compare .., h | .isIn .., h | .between .., h | .nullTest .., h => by
    rw [render, bind_eq_error_iff] at h
    rcases h with h | ⟨column, -, h⟩
    · exact sql_eq_error h
    · exact absurd h pure_ne_error
  | .group logic children, h => by
    rw [render, bind_eq_error_iff] at h
    rcases h with h | ⟨parts, -, h⟩
    · exact renderAll_eq_error e children h
    · match parts with
      | [] | [_] | _ :: _ :: _ => exact absurd h pure_ne_error

theorem renderAll_eq_error (e : Error) :
    (cs : List Condition) → renderAll s t cs = .error e → ∃ entity name, e = .unresolved entity name
  | [], h => absurd h pure_ne_error
  | c :: rest, h => by
    rw [renderAll, bind_eq_error_iff] at h
    rcases h with h | ⟨part, -, h⟩
    · exact render_eq_error true e c h
    · rcases bind_eq_error_iff.1 h with h | ⟨parts, -, h⟩
      · exact renderAll_eq_error e rest h
      · exact absurd h pure_ne_error

end

end Condition

end EntitySql
