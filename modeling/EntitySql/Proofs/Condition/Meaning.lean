/-
  Rendering keeps the meaning of a condition.

  The text of a condition, read by the rules of SQL with its parameters in the places of the
  placeholders, is a formula with the truth value of the condition, whatever the columns contain
  (`filter_keeps_meaning`). Names of columns have to be readable as one word each.

  The induction goes over the condition. What is written inside a group is a term of AND (a predicate,
  or something in parentheses), so that it may stand next to either connective; only the outermost
  group is a bare chain.
-/
import EntitySql.Proofs.Condition.Rendering
import EntitySql.Proofs.Sample
import EntitySql.Proofs.Statement.Formula

namespace EntitySql

/-- The values of tests of operands where those of columns are given. An operand that means no column
has no known value. -/
def Operand.valued (s : Settings) (t : Table) (σ : Assignment) (operand : Operand) (test : Test) :
    Truth :=
  match operand.sql s t with
  | .ok c => σ c test
  | .error _ => .unknown

theorem Operand.valued_of_ok {s : Settings} {t : Table} {operand : Operand} {column : String}
    (h : operand.sql s t = .ok column) (σ : Assignment) (test : Test) :
    operand.valued s t σ test = σ column test := by
  rw [valued, h]

/-- Every operand that means a column is written as one word. -/
def Operand.Named (s : Settings) (t : Table) (operand : Operand) : Prop :=
  ∀ column, operand.sql s t = .ok column → IsName column

theorem Operand.named_of_ok {s : Settings} {t : Table} {operand : Operand} (column : String)
    (h : operand.sql s t = .ok column) (name : IsName column) : operand.Named s t := by
  intro c hc
  rw [h, Except.ok.injEq] at hc
  rwa [← hc]

namespace Sql

open Formula

/-! ## Predicates -/

/-- The token of a comparison. -/
def opToken : CompareOp → Token
  | .like => .key .like
  | op => .word op.sql

theorem isTerm_compare {column : String} (name : IsName column) (op : CompareOp) (value : Value) :
    IsTerm .and ⟨column ++ " " ++ op.sql ++ " ?", [value]⟩ fun σ => σ column (.compare op value) := by
  have split : (⟨column ++ " " ++ op.sql ++ " ?", [value]⟩ : Sql) =
      plain column ++ ⟨" " ++ op.sql ++ " ?", [value]⟩ :=
    eq_of_parts (by simp [String.append_assoc]) rfl
  have tail : (⟨" " ++ op.sql ++ " ?", [value]⟩ : Sql).tokens? = some [opToken op, .value value] := by
    cases op <;> cbv
  rw [split]
  refine isTerm_of_readPredicate (.test column (.compare op value))
    (tokens?_append (.inr ?_) (tokens?_name name) tail) (List.cons_ne_nil _ _) ?_ fun _ => rfl
  · show (" " ++ op.sql ++ " ?").toList.head?.all isSeparator
    cases op <;> decide
  · intro rest
    cases op <;> rfl

theorem isTerm_between {column : String} (name : IsName column) (low high : Value) :
    IsTerm .and ⟨column ++ " BETWEEN ? AND ?", [low, high]⟩ fun σ => σ column (.between low high) := by
  have split : (⟨column ++ " BETWEEN ? AND ?", [low, high]⟩ : Sql) =
      plain column ++ ⟨" BETWEEN ? AND ?", [low, high]⟩ :=
    eq_of_parts rfl rfl
  have tail : (⟨" BETWEEN ? AND ?", [low, high]⟩ : Sql).tokens? =
      some [.key .between, .value low, .key .and, .value high] := by
    cbv
  rw [split]
  refine isTerm_of_readPredicate (.test column (.between low high))
    (tokens?_append (.inr ?_) (tokens?_name name) tail) (List.cons_ne_nil _ _) (fun _ => rfl)
    fun _ => rfl
  show " BETWEEN ? AND ?".toList.head?.all isSeparator
  decide

theorem isTerm_nullTest {column : String} (name : IsName column) (isNull : Bool) :
    IsTerm .and (plain (column ++ if isNull then " IS NULL" else " IS NOT NULL"))
      fun σ => σ column (.null isNull) := by
  cases isNull with
  | true =>
    have split : plain (column ++ " IS NULL") = plain column ++ plain " IS NULL" := eq_of_parts rfl rfl
    have tail : (plain " IS NULL").tokens? = some [.key .is, .key .null] := by cbv
    rw [if_pos rfl, split]
    exact isTerm_of_readPredicate (.test column (.null true))
      (tokens?_append (.inr (by decide)) (tokens?_name name) tail) (List.cons_ne_nil _ _)
      (fun _ => rfl) fun _ => rfl
  | false =>
    have split : plain (column ++ " IS NOT NULL") = plain column ++ plain " IS NOT NULL" :=
      eq_of_parts rfl rfl
    have tail : (plain " IS NOT NULL").tokens? = some [.key .is, .key .not, .key .null] := by cbv
    rw [if_neg Bool.false_ne_true, split]
    exact isTerm_of_readPredicate (.test column (.null false))
      (tokens?_append (.inr (by decide)) (tokens?_name name) tail) (List.cons_ne_nil _ _)
      (fun _ => rfl) fun _ => rfl

/-! ## Lists of values -/

theorem isTerm_inList {column : String} (name : IsName column) (v : Value) (values : List Value) :
    IsTerm .and (Condition.inList column (v :: values)) fun σ => σ.member column (v :: values) := by
  have split : Condition.inList column (v :: values) =
      plain column ++ (plain " IN (" ++
        (⟨placeholders (v :: values).length, v :: values⟩ ++ plain ")")) :=
    eq_of_parts (by simp [Condition.inList, String.append_assoc]) (by simp [Condition.inList])
  have opening : (plain " IN (").tokens? = some [.key .isIn, .opening] := by cbv
  have closing : (plain ")").tokens? = some [.closing] := by cbv
  have list := tokens?_append (.inr (by decide)) (tokens?_placeholders (v :: values)) closing
  rw [split]
  refine isTerm_of_readPredicate (.member column (v :: values))
    (tokens?_append_plain_append (by decide) (by decide) (tokens?_name name) opening list)
    (List.cons_ne_nil _ _) ?_ fun _ => rfl
  intro rest
  have := readValues_intersperse v values rest
  simp only [List.cons_append, List.nil_append, List.append_assoc, readPredicate, readTest, this,
    Option.map_some]

theorem isTerm_never : IsTerm .and (plain "1 = 0") fun _ => .no := by
  have found : (plain "1 = 0").tokens? = some [.word "1", .word "=", .word "0"] := by cbv
  exact isTerm_of_readPredicate .never found (List.cons_ne_nil _ _) (fun _ => rfl) fun _ => rfl

theorem member_flatten (σ : Assignment) (column : String) (lists : List (List Value)) :
    σ.member column lists.flatten = Logic.or.join (lists.map (σ.member column)) := by
  rw [Assignment.member, List.map_flatten, Logic.join_flatten, List.map_map]
  rfl

/-- A column is in one of several lists. -/
theorem isTerm_lists {column : String} (name : IsName column) {lists : List (List Value)}
    (some_list : lists ≠ []) (filled : ∀ list ∈ lists, list ≠ []) :
    IsTerm .and (plain "(" ++
        joined (" " ++ Logic.or.sql ++ " ") (lists.map (Condition.inList column)) ++ plain ")")
      fun σ => σ.member column lists.flatten := by
  have hterms : List.Forall₂ (IsTerm .or) (lists.map (Condition.inList column))
      (lists.map fun values σ => σ.member column values) := by
    rw [List.forall₂_map_left_iff, List.forall₂_map_right_iff, List.forall₂_same]
    intro values hvalues
    obtain ⟨v, rest, rfl⟩ := List.exists_cons_of_ne_nil (filled values hvalues)
    exact (isTerm_inList name v rest).isTerm .or
  have hchain := isChain_joined hterms fun h => some_list (List.map_eq_nil_iff.1 h)
  simp only [List.map_map, Function.comp_def] at hchain
  simp only [member_flatten]
  exact hchain.parentheses

/-- A column is in a list of values, in whatever pieces the list is written. -/
theorem isTerm_inPredicate (d : Dialect) {column : String} (name : IsName column)
    (values : List Value) :
    IsTerm .and (Condition.inPredicate d column values) fun σ => σ.member column values := by
  rcases Condition.inPredicate_cases d column values with
    ⟨rfl, h⟩ | ⟨hsome, h⟩ | ⟨lists, some_list, filled, rfl, h⟩
  · rw [h]
    exact isTerm_never
  · obtain ⟨v, rest, rfl⟩ := List.exists_cons_of_ne_nil hsome
    rw [h]
    exact isTerm_inList name v rest
  · rw [h]
    exact isTerm_lists name some_list filled

/-! ## Groups -/

/-- How the reader takes what is written for a condition: as a term if the condition stands in a
group, else as the whole of a filter. -/
def IsFilter (inner : Bool) (part : Sql) (m : Meaning) : Prop :=
  if inner then IsTerm .and part m else IsChain .or part m

theorem IsTerm.isFilter {part : Sql} {m : Meaning} (h : IsTerm .and part m) (inner : Bool) :
    IsFilter inner part m := by
  cases inner with
  | false => exact (h.isTerm .or).isChain
  | true => exact h

theorem IsChain.isChain_or {logic : Logic} {part : Sql} {m : Meaning} (h : IsChain logic part m) :
    IsChain .or part m := by
  cases logic with
  | and => exact h.isTerm.isChain
  | or => exact h

theorem isFilter_grouped {inner : Bool} {logic : Logic} {parts : List Sql} {ms : List Meaning}
    {part : Sql} (h : List.Forall₂ (IsTerm .and) parts ms)
    (hpart : Condition.grouped inner logic parts = some part) :
    IsFilter inner part fun σ => logic.join (ms.map (· σ)) := by
  match parts, h with
  | [], .nil => cases hpart
  | [_], .cons honly .nil =>
    cases hpart
    simpa only [List.map_cons, List.map_nil, Logic.join_singleton] using honly.isFilter inner
  | _ :: _ :: _, .cons hp (.cons hq hrest) =>
    have hterms := (List.Forall₂.cons hp (.cons hq hrest)).imp fun _ _ hterm => hterm.isTerm logic
    have hchain := (isChain_joined hterms (List.cons_ne_nil _ _)).isChain_or
    cases inner with
    | false =>
      cases hpart
      exact hchain
    | true =>
      cases hpart
      exact hchain.parentheses

end Sql

/-! ## Conditions -/

namespace Condition

open Sql

variable {s : Settings} {t : Table}

mutual

theorem render_isFilter (inner : Bool) (part : Sql) :
    (c : Condition) → (∀ operand ∈ c.operands, operand.Named s t) →
      c.render s t inner = .ok (some part) →
        ∃ m, IsFilter inner part m ∧ ∀ σ, c.meaning (Operand.valued s t σ) = some (m σ)
  | .compare operand op value, named, h => by
    obtain ⟨column, hcolumn, hpart⟩ := render_compare_eq_ok.1 h
    cases hpart
    have name := named operand (List.mem_singleton_self _) column hcolumn
    exact ⟨_, (isTerm_compare name op value).isFilter inner, fun σ => by
      rw [meaning, Operand.valued_of_ok hcolumn]⟩
  | .isIn operand values, named, h => by
    obtain ⟨column, hcolumn, hpart⟩ := render_isIn_eq_ok.1 h
    cases hpart
    have name := named operand (List.mem_singleton_self _) column hcolumn
    exact ⟨_, (isTerm_inPredicate s.dialect name values).isFilter inner, fun σ => by
      simp only [meaning, Operand.valued_of_ok hcolumn, Assignment.member]⟩
  | .between operand low high, named, h => by
    obtain ⟨column, hcolumn, hpart⟩ := render_between_eq_ok.1 h
    cases hpart
    have name := named operand (List.mem_singleton_self _) column hcolumn
    exact ⟨_, (isTerm_between name low high).isFilter inner, fun σ => by
      rw [meaning, Operand.valued_of_ok hcolumn]⟩
  | .nullTest operand isNull, named, h => by
    obtain ⟨column, hcolumn, hpart⟩ := render_nullTest_eq_ok.1 h
    cases hpart
    have name := named operand (List.mem_singleton_self _) column hcolumn
    exact ⟨_, (isTerm_nullTest name isNull).isFilter inner, fun σ => by
      rw [meaning, Operand.valued_of_ok hcolumn]⟩
  | .group logic children, named, h => by
    obtain ⟨parts, hparts, hpart⟩ := render_group_eq_ok.1 h
    obtain ⟨ms, hterms, hms⟩ := renderAll_areTerms parts children named hparts
    refine ⟨_, isFilter_grouped hterms hpart.symm, fun σ => ?_⟩
    rw [meaning, hms]
    match hterms with
    | .nil => cases hpart
    | .cons _ _ => rfl

theorem renderAll_areTerms (parts : List Sql) :
    (cs : List Condition) → (∀ operand ∈ allOperands cs, operand.Named s t) →
      renderAll s t cs = .ok parts →
        ∃ ms, List.Forall₂ (IsTerm .and) parts ms ∧
          ∀ σ, meanings (Operand.valued s t σ) cs = ms.map (· σ)
  | [], _, h => by
    rw [renderAll_nil_eq_ok.1 h]
    exact ⟨[], .nil, fun _ => rfl⟩
  | c :: rest, named, h => by
    obtain ⟨part, hpart, others, hothers, rfl⟩ := renderAll_cons_eq_ok.1 h
    obtain ⟨ms, hterms, hms⟩ := renderAll_areTerms others rest
      (fun operand ho => named operand (List.mem_append_right _ ho)) hothers
    cases part with
    | none =>
      refine ⟨ms, hterms, fun σ => ?_⟩
      -- What is not written says nothing, so both sides pass over it.
      have hempty := (render_eq_ok_none_iff true c).1 hpart
      rw [meanings, (meaning_eq_none_iff (Operand.valued s t σ) c).2 hempty, hms]
      rfl
    | some text =>
      obtain ⟨m, hm, hc⟩ := render_isFilter true text c
        (fun operand ho => named operand (List.mem_append_left _ ho)) hpart
      refine ⟨m :: ms, .cons hm hterms, fun σ => ?_⟩
      rw [meanings, hc, hms]
      rfl

end

/-- The parameters of a filter stand behind those bound before, and the text read with them is a
formula that has the truth value of the condition under every assignment. -/
theorem filter_keeps_meaning (s : Settings) (t : Table) (c : Condition) (bound : List Value)
    (filter : Sql) (named : ∀ operand ∈ c.operands, operand.Named s t)
    (h : c.filter? s t bound = .ok (some filter)) :
    ∃ params formula, filter.params = bound ++ params ∧
      Formula.read filter.text params = some formula ∧
      ∀ σ : Assignment, c.meaning (Operand.valued s t σ) = some (formula.truth σ) := by
  obtain ⟨part, hpart, hfilter⟩ := filter?_eq_ok.1 h
  obtain ⟨text, rfl, rfl⟩ := Option.map_eq_some_iff.1 hfilter.symm
  obtain ⟨m, hread, hm⟩ := render_isFilter false text c named hpart
  obtain ⟨formula, hformula, htruth⟩ := IsChain.read hread
  exact ⟨text.params, formula, rfl, hformula, fun σ => by rw [hm, htruth]⟩

/-- Comparisons with both ends of an order, next to groups inside groups and lists of values. -/
theorem filter_keeps_meaning_nested :
    let c : Condition := .all [.compare (.field "qty") .ge (.integer 2),
      .compare (.field "id") .lt (.integer 100), .compare (.column "kind") .ne (.text "x"),
      Sample.condition]
    let text := "qty >= ? AND id < ? AND kind != ? AND " ++
      "((name LIKE ? AND (\"order\" IN (?, ?) OR 1 = 0)) OR qty BETWEEN ? AND ?)"
    let values : List Value := [.integer 2, .integer 100, .text "x", .text "a%", .integer 1, .null,
      .integer 5, .integer 9]
    (∀ operand ∈ c.operands, operand.Named Sample.settings Sample.items) ∧
      c.filter? Sample.settings Sample.items [.boolean true] = .ok (some
        ⟨text, [.boolean true] ++ values⟩) ∧
      ∃ params formula, [.boolean true] ++ values = [.boolean true] ++ params ∧
        Formula.read text params = some formula ∧
        ∀ σ : Assignment,
          c.meaning (Operand.valued Sample.settings Sample.items σ) = some (formula.truth σ) := by
  intro c text values
  have named : ∀ operand ∈ c.operands, operand.Named Sample.settings Sample.items := by
    have h : c.operands = [.field "qty", .field "id", .column "kind", .field "name",
        .column "order", .field "id", .field "qty"] :=
      rfl
    have hid : (Operand.field "id").Named Sample.settings Sample.items :=
      Operand.named_of_ok "id" rfl (by decide)
    have hqty : (Operand.field "qty").Named Sample.settings Sample.items :=
      Operand.named_of_ok "qty" rfl (by decide)
    simp only [h, List.forall_mem_cons]
    exact ⟨hqty, hid, Operand.named_of_ok "kind" rfl (by decide),
      Operand.named_of_ok "name" rfl (by decide), Operand.named_of_ok "\"order\"" rfl (by decide),
      hid, hqty, List.forall_mem_nil _⟩
  have written : c.filter? Sample.settings Sample.items [.boolean true] = .ok (some
      ⟨text, [.boolean true] ++ values⟩) :=
    rfl
  exact ⟨named, written, filter_keeps_meaning _ _ _ _ _ named written⟩

end Condition

end EntitySql
