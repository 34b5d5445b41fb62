/-
  What conditions say, in the three-valued logic of SQL.

  A test of an operand (a comparison, a range, a test for NULL) is atomic: an assignment gives it a
  truth value of its own, and nothing is assumed about how the values of different tests relate. A
  list of values stands for the disjunction of equalities, and a group joins what its effective
  children say. A condition without any predicate in it says nothing, and then there is no value.
-/
import EntitySql.Query.Condition

namespace EntitySql

/-! ## Truth values -/

inductive Truth where
  | no
  | unknown
  | yes
  deriving DecidableEq

namespace Truth

/-- The lesser of the two, where `no` is least and `yes` greatest. -/
protected def and : Truth → Truth → Truth
  | .no, _ => .no
  | .unknown, .no => .no
  | .unknown, _ => .unknown
  | .yes, b => b

/-- The greater of the two. -/
protected def or : Truth → Truth → Truth
  | .no, b => b
  | .unknown, .yes => .yes
  | .unknown, _ => .unknown
  | .yes, _ => .yes

end Truth

namespace Logic

/-- Joins two truth values. -/
def apply : Logic → Truth → Truth → Truth
  | .and => Truth.and
  | .or => Truth.or

/-- The value that changes nothing when it is joined to another. -/
def neutral : Logic → Truth
  | .and => .yes
  | .or => .no

/-- All the values joined. -/
def join (logic : Logic) (values : List Truth) : Truth := values.foldr logic.apply logic.neutral

@[simp] theorem apply_neutral (logic : Logic) (a : Truth) : logic.apply a logic.neutral = a := by
  cases logic <;> cases a <;> rfl

@[simp] theorem neutral_apply (logic : Logic) (a : Truth) : logic.apply logic.neutral a = a := by
  cases logic <;> cases a <;> rfl

theorem apply_assoc (logic : Logic) (a b c : Truth) :
    logic.apply (logic.apply a b) c = logic.apply a (logic.apply b c) := by
  cases logic <;> cases a <;> cases b <;> cases c <;> rfl

@[simp] theorem join_nil (logic : Logic) : logic.join [] = logic.neutral := rfl

@[simp] theorem join_cons (logic : Logic) (a : Truth) (rest : List Truth) :
    logic.join (a :: rest) = logic.apply a (logic.join rest) := rfl

theorem join_singleton (logic : Logic) (a : Truth) : logic.join [a] = a := by
  rw [join_cons, join_nil, apply_neutral]

theorem join_append (logic : Logic) (xs ys : List Truth) :
    logic.join (xs ++ ys) = logic.apply (logic.join xs) (logic.join ys) := by
  induction xs with
  | nil => rw [List.nil_append, join_nil, neutral_apply]
  | cons a rest ih => rw [List.cons_append, join_cons, ih, join_cons, apply_assoc]

/-- Lists of values may be joined one by one first. -/
theorem join_flatten (logic : Logic) (lists : List (List Truth)) :
    logic.join lists.flatten = logic.join (lists.map logic.join) := by
  induction lists with
  | nil => rfl
  | cons xs rest ih => rw [List.flatten_cons, join_append, ih, List.map_cons, join_cons]

end Logic

/-! ## Conditions -/

/-- What an atomic predicate asks of its operand, with the values bound to it. -/
inductive Test where
  | compare (op : CompareOp) (value : Value)
  | between (low high : Value)
  | null (isNull : Bool)
  deriving DecidableEq

namespace Condition

mutual

/-- What the condition says where each test of an operand has the given value; nothing if there is
no predicate in it. -/
def meaning (value : Operand → Test → Truth) : Condition → Option Truth
  | .compare operand op bound => some (value operand (.compare op bound))
  | .isIn operand values => some (Logic.or.join (values.map fun v => value operand (.compare .eq v)))
  | .between operand low high => some (value operand (.between low high))
  | .nullTest operand isNull => some (value operand (.null isNull))
  | .group logic children =>
    match meanings value children with
    | [] => none
    | values => some (logic.join values)

/-- What those conditions say that have a predicate in them. -/
def meanings (value : Operand → Test → Truth) : List Condition → List Truth
  | [] => []
  | c :: rest => (meaning value c).toList ++ meanings value rest

end

mutual

theorem meaning_eq_none_iff (value : Operand → Test → Truth) :
    (c : Condition) → (meaning value c = none ↔ c.isEmpty)
  | .compare .. => by simp [meaning, isEmpty]
  | .isIn .. => by simp [meaning, isEmpty]
  | .between .. => by simp [meaning, isEmpty]
  | .nullTest .. => by simp [meaning, isEmpty]
  | .group logic children => by
    rw [isEmpty, ← meanings_eq_nil_iff value children, meaning]
    cases meanings value children <;> simp

theorem meanings_eq_nil_iff (value : Operand → Test → Truth) :
    (cs : List Condition) → (meanings value cs = [] ↔ allEmpty cs)
  | [] => by simp [meanings, allEmpty]
  | c :: rest => by
    rw [meanings, allEmpty, Bool.and_eq_true, List.append_eq_nil_iff, Option.toList_eq_nil_iff,
      meaning_eq_none_iff value c, meanings_eq_nil_iff value rest]

end

mutual

/-- The operands of all predicates in the condition, in the order in which they are written. -/
def operands : Condition → List Operand
  | .compare operand _ _ => [operand]
  | .isIn operand _ => [operand]
  | .between operand _ _ => [operand]
  | .nullTest operand _ => [operand]
  | .group _ children => allOperands children

def allOperands : List Condition → List Operand
  | [] => []
  | c :: rest => operands c ++ allOperands rest

end

end Condition

end EntitySql
