/-
  The predicates of a condition, and where they stand in its text.

  What is written for a condition can be cut into parentheses, connectives and one piece for each
  predicate, in the order of the condition (`cut_of_render`). Membership in a list of values is one
  piece too, with one or more lists behind `IN`: none of them is empty or longer than the database
  takes, and together they hold the values in order. So the parameters of a filter are the values of
  its predicates, from the first to the last (`params_of_render`).
-/
import EntitySql.Proofs.Condition.Rendering
import EntitySql.Proofs.Condition.Truth
import EntitySql.Proofs.Statement.Token

namespace EntitySql

/-! ## Predicates -/

/-- What a condition asks in one place. -/
inductive Predicate where
  | test (operand : Operand) (what : Test)
  /-- The operand has one of the values. -/
  | member (operand : Operand) (values : List Value)

/-- The values that are bound to a test, in the order of its placeholders. -/
def Test.params : Test → List Value
  | .compare _ value => [value]
  | .between low high => [low, high]
  | .null _ => []

def Predicate.params : Predicate → List Value
  | .test _ what => what.params
  | .member _ values => values

namespace Condition

mutual

/-- The predicates in the condition, from the first to the last. -/
def predicates : Condition → List Predicate
  | .compare operand op value => [.test operand (.compare op value)]
  | .isIn operand values => [.member operand values]
  | .between operand low high => [.test operand (.between low high)]
  | .nullTest operand isNull => [.test operand (.null isNull)]
  | .group _ children => allPredicates children

def allPredicates : List Condition → List Predicate
  | [] => []
  | c :: rest => predicates c ++ allPredicates rest

end

/-- The values in the condition. -/
def params (c : Condition) : List Value := c.predicates.flatMap Predicate.params

mutual

theorem predicates_eq_nil_iff : (c : Condition) → (c.predicates = [] ↔ c.isEmpty)
  | .compare .. | .isIn .. | .between .. | .nullTest .. => by simp [predicates, isEmpty]
  | .group _ children => by rw [predicates, isEmpty, allPredicates_eq_nil_iff children]

theorem allPredicates_eq_nil_iff : (cs : List Condition) → (allPredicates cs = [] ↔ allEmpty cs)
  | [] => by simp [allPredicates, allEmpty]
  | c :: rest => by
    rw [allPredicates, allEmpty, Bool.and_eq_true, List.append_eq_nil_iff, predicates_eq_nil_iff c,
      allPredicates_eq_nil_iff rest]

end

end Condition

/-! ## Pieces -/

/-- A test of a column as it is written. -/
def Test.sql (column : String) : Test → Sql
  | .compare op value => ⟨column ++ " " ++ op.sql ++ " ?", [value]⟩
  | .between low high => ⟨column ++ " BETWEEN ? AND ?", [low, high]⟩
  | .null isNull => .plain (column ++ if isNull then " IS NULL" else " IS NOT NULL")

/-- A piece of the text of a condition. -/
inductive Piece where
  | opening
  | closing
  | connective (logic : Logic)
  | test (column : String) (what : Test)
  /-- The column has a value from one of the lists. -/
  | member (column : String) (lists : List (List Value))

namespace Piece

def sql : Piece → Sql
  | .opening => .plain "("
  | .closing => .plain ")"
  | .connective logic => .plain (" " ++ logic.sql ++ " ")
  | .test column what => what.sql column
  | .member column lists => Condition.inLists column lists

/-- The piece is no parenthesis and no connective. -/
def isPredicate : Piece → Bool
  | .test .. | .member .. => true
  | .opening | .closing | .connective _ => false

end Piece

/-- The pieces one after the other. -/
def Sql.ofPieces (pieces : List Piece) : Sql :=
  pieces.foldr (fun piece rest => piece.sql ++ rest) (.plain "")

variable {s : Settings} {t : Table}

/-- What a predicate looks like under given settings: its test or its values stand with the column of
its operand, and the values may be cut into several lists. -/
inductive Predicate.IsWritten (s : Settings) (t : Table) : Predicate → Piece → Prop
  | test {operand : Operand} {column : String} (h : operand.sql s t = .ok column) (what : Test) :
    IsWritten s t (.test operand what) (.test column what)
  | member {operand : Operand} {column : String} (h : operand.sql s t = .ok column)
    {lists : List (List Value)} {values : List Value} (all : lists.flatten = values)
    (filled : ∀ list ∈ lists, list ≠ [])
    (short : ∀ list ∈ lists, ∀ limit, s.dialect.inListLimit? = some limit → list.length ≤ limit) :
    IsWritten s t (.member operand values) (.member column lists)

/-- The text consists of parentheses, connectives and these predicates, in order. -/
def Sql.Cut (s : Settings) (t : Table) (part : Sql) (predicates : List Predicate) : Prop :=
  ∃ pieces, part = .ofPieces pieces ∧
    List.Forall₂ (Predicate.IsWritten s t) predicates (pieces.filter Piece.isPredicate)

namespace Sql

theorem plain_empty_append (a : Sql) : plain "" ++ a = a :=
  eq_of_parts String.empty_append rfl

theorem append_plain_empty (a : Sql) : a ++ plain "" = a :=
  eq_of_parts String.append_empty (List.append_nil _)

theorem ofPieces_append (a b : List Piece) : ofPieces (a ++ b) = ofPieces a ++ ofPieces b := by
  induction a with
  | nil => exact (plain_empty_append _).symm
  | cons piece rest ih =>
    show piece.sql ++ ofPieces (rest ++ b) = piece.sql ++ ofPieces rest ++ ofPieces b
    rw [ih, append_assoc]

theorem ofPieces_singleton (piece : Piece) : ofPieces [piece] = piece.sql := append_plain_empty _

namespace Cut

variable {a b : Sql} {ps qs : List Predicate}

theorem sign {piece : Piece} (h : piece.isPredicate = false) : Cut s t piece.sql [] := by
  refine ⟨[piece], (ofPieces_singleton piece).symm, ?_⟩
  rw [List.filter_cons, h]
  exact .nil

theorem predicate {p : Predicate} {piece : Piece} (h : p.IsWritten s t piece) :
    Cut s t piece.sql [p] := by
  refine ⟨[piece], (ofPieces_singleton piece).symm, ?_⟩
  cases h with
  | test hcolumn what => exact .cons (.test hcolumn what) .nil
  | member hcolumn all filled short => exact .cons (.member hcolumn all filled short) .nil

theorem append (ha : Cut s t a ps) (hb : Cut s t b qs) : Cut s t (a ++ b) (ps ++ qs) := by
  obtain ⟨pieces, rfl, first⟩ := ha
  obtain ⟨others, rfl, second⟩ := hb
  refine ⟨pieces ++ others, (ofPieces_append pieces others).symm, ?_⟩
  rw [List.filter_append]
  exact List.rel_append first second

theorem joined (logic : Logic) {parts : List Sql} {pss : List (List Predicate)}
    (h : List.Forall₂ (Cut s t) parts pss) (some_part : parts ≠ []) :
    Cut s t (.joined (" " ++ logic.sql ++ " ") parts) pss.flatten := by
  induction h with
  | nil => exact absurd rfl some_part
  | @cons part ps parts pss first rest ih =>
    cases rest with
    | nil =>
      rw [joined_singleton, List.flatten_singleton]
      exact first
    | cons second others =>
      have connective : Cut s t (.plain (" " ++ logic.sql ++ " ")) [] :=
        @sign s t (.connective logic) rfl
      rw [joined_cons_cons, List.flatten_cons]
      exact first.append (connective.append (ih (List.cons_ne_nil _ _)))

theorem parentheses (h : Cut s t a ps) : Cut s t (.plain "(" ++ a ++ .plain ")") ps := by
  have opening : Cut s t (.plain "(") [] := @sign s t .opening rfl
  have closing : Cut s t (.plain ")") [] := @sign s t .closing rfl
  have whole := (opening.append h).append closing
  rwa [List.nil_append, List.append_nil] at whole

theorem grouped {inner : Bool} {logic : Logic} {parts : List Sql} {pss : List (List Predicate)}
    {part : Sql} (h : List.Forall₂ (Cut s t) parts pss)
    (hpart : Condition.grouped inner logic parts = some part) : Cut s t part pss.flatten := by
  match parts, h with
  | [], .nil => cases hpart
  | [_], .cons only .nil =>
    cases hpart
    rw [List.flatten_singleton]
    exact only
  | _ :: _ :: _, .cons first (.cons second rest) =>
    have whole := joined logic (.cons first (.cons second rest)) (List.cons_ne_nil _ _)
    cases inner with
    | false =>
      cases hpart
      exact whole
    | true =>
      cases hpart
      exact whole.parentheses

end Cut

end Sql

/-! ## Cutting -/

namespace Condition

mutual

/-- What is written for a condition holds its predicates, by induction on the condition. -/
theorem cut_of_render (inner : Bool) (part : Sql) :
    (c : Condition) → c.render s t inner = .ok (some part) → part.Cut s t c.predicates
  | .compare operand op value, h => by
    obtain ⟨column, hcolumn, hpart⟩ := render_compare_eq_ok.1 h
    cases hpart
    exact .predicate (.test hcolumn (.compare op value))
  | .isIn operand values, h => by
    obtain ⟨column, hcolumn, hpart⟩ := render_isIn_eq_ok.1 h
    obtain ⟨lists, all, filled, short, hsql⟩ := inPredicate_eq_inLists s.dialect column values
    cases hpart
    rw [hsql]
    exact .predicate (.member hcolumn all filled short)
  | .between operand low high, h => by
    obtain ⟨column, hcolumn, hpart⟩ := render_between_eq_ok.1 h
    cases hpart
    exact .predicate (.test hcolumn (.between low high))
  | .nullTest operand isNull, h => by
    obtain ⟨column, hcolumn, hpart⟩ := render_nullTest_eq_ok.1 h
    cases hpart
    exact .predicate (.test hcolumn (.null isNull))
  | .group logic children, h => by
    obtain ⟨parts, hparts, hpart⟩ := render_group_eq_ok.1 h
    obtain ⟨pss, cuts, all⟩ := cuts_of_renderAll parts children hparts
    rw [predicates, ← all]
    exact .grouped cuts hpart.symm

theorem cuts_of_renderAll (parts : List Sql) :
    (cs : List Condition) → renderAll s t cs = .ok parts →
      ∃ pss, List.Forall₂ (Sql.Cut s t) parts pss ∧ pss.flatten = allPredicates cs
  | [], h => by
    rw [renderAll_nil_eq_ok.1 h]
    exact ⟨[], .nil, rfl⟩
  | c :: rest, h => by
    obtain ⟨found, hfound, others, hothers, rfl⟩ := renderAll_cons_eq_ok.1 h
    obtain ⟨pss, cuts, all⟩ := cuts_of_renderAll others rest hothers
    cases found with
    | none =>
      have nothing := (predicates_eq_nil_iff c).2 ((render_eq_ok_none_iff true c).1 hfound)
      refine ⟨pss, cuts, ?_⟩
      rw [allPredicates, nothing, all, List.nil_append]
    | some part =>
      refine ⟨c.predicates :: pss, .cons (cut_of_render true part c hfound) cuts, ?_⟩
      rw [allPredicates, List.flatten_cons, all]

end

end Condition

/-! ## Parameters -/

theorem Predicate.IsWritten.params {p : Predicate} {piece : Piece} (h : p.IsWritten s t piece) :
    piece.sql.params = p.params := by
  cases h with
  | test _ what => cases what <;> rfl
  | member _ all _ _ => exact (Condition.params_inLists _ _).trans all

theorem Sql.params_ofPieces (pieces : List Piece) :
    (ofPieces pieces).params =
      (pieces.filter Piece.isPredicate).flatMap fun piece => piece.sql.params := by
  induction pieces with
  | nil => rfl
  | cons piece rest ih =>
    show piece.sql.params ++ (ofPieces rest).params = _
    rw [ih, List.filter_cons]
    cases piece <;> rfl

/-- The parameters are those of the predicates. -/
theorem Sql.Cut.params {part : Sql} {predicates : List Predicate} (h : part.Cut s t predicates) :
    part.params = predicates.flatMap Predicate.params := by
  obtain ⟨pieces, rfl, written⟩ := h
  rw [params_ofPieces]
  generalize pieces.filter Piece.isPredicate = shown at written ⊢
  induction written with
  | nil => rfl
  | cons first _ ih => rw [List.flatMap_cons, List.flatMap_cons, first.params, ih]

/-- The values of a condition are bound from the first to the last. -/
theorem Condition.params_of_render {inner : Bool} {c : Condition} {part : Sql}
    (h : c.render s t inner = .ok (some part)) : part.params = c.params :=
  (cut_of_render inner part c h).params

end EntitySql
