/-
  Conditions joined by AND and OR.

  Joining a second condition to a first one may put it into the group that the first one is, change the
  logic of a group without children, or make a new group of the two (`combine_cases`). Whichever it is,
  the whole says what the two say, joined; one that says nothing changes nothing
  (`combination_joins_meanings`). Every predicate may have any truth value here, lists of values
  included; the meaning that texts keep is the case where a list stands for its equalities
  (`meaning_eq_truth`).
-/
import EntitySql.Proofs.Condition.Predicates
import EntitySql.Proofs.Sample
import EntitySql.Query.Basic

namespace EntitySql

/-! ## What conditions say -/

/-- All the values joined, if there are any. -/
def Logic.joinAny? (logic : Logic) : List Truth → Option Truth
  | [] => none
  | values => some (logic.join values)

theorem Logic.joinAny?_append (logic : Logic) (xs ys : List Truth) :
    logic.joinAny? (xs ++ ys) = Option.merge logic.apply (logic.joinAny? xs) (logic.joinAny? ys) := by
  cases xs with
  | nil => cases ys <;> rfl
  | cons x xs =>
    cases ys with
    | nil =>
      rw [List.append_nil]
      rfl
    | cons y ys => exact congrArg some (logic.join_append (x :: xs) (y :: ys))

theorem Logic.joinAny?_toList (logic : Logic) (found : Option Truth) :
    logic.joinAny? found.toList = found := by
  cases found with
  | none => rfl
  | some truth => exact congrArg some (logic.join_singleton truth)

/-- The truth of a predicate where tests have the given values: a list stands for its equalities. -/
def Predicate.truth (value : Operand → Test → Truth) : Predicate → Truth
  | .test operand what => value operand what
  | .member operand values => Logic.or.join (values.map fun v => value operand (.compare .eq v))

namespace Condition

mutual

/-- What the condition says where each predicate has the given value; nothing if there is none. -/
def truth? (value : Predicate → Truth) : Condition → Option Truth
  | .compare operand op bound => some (value (.test operand (.compare op bound)))
  | .isIn operand values => some (value (.member operand values))
  | .between operand low high => some (value (.test operand (.between low high)))
  | .nullTest operand isNull => some (value (.test operand (.null isNull)))
  | .group logic children => logic.joinAny? (truths value children)

/-- What those conditions say that have a predicate in them. -/
def truths (value : Predicate → Truth) : List Condition → List Truth
  | [] => []
  | c :: rest => (truth? value c).toList ++ truths value rest

end

mutual

theorem meaning_eq_truth (value : Operand → Test → Truth) :
    (c : Condition) → c.meaning value = c.truth? (Predicate.truth value)
  | .compare .. | .isIn .. | .between .. | .nullTest .. => rfl
  | .group logic children => by
    rw [meaning, truth?, meanings_eq_truths value children]
    cases truths (Predicate.truth value) children <;> rfl

theorem meanings_eq_truths (value : Operand → Test → Truth) :
    (cs : List Condition) → meanings value cs = truths (Predicate.truth value) cs
  | [] => rfl
  | c :: rest => by
    rw [meanings, truths, meaning_eq_truth value c, meanings_eq_truths value rest]

end

variable {value : Predicate → Truth}

mutual

theorem truth_eq_none_iff : (c : Condition) → (c.truth? value = none ↔ c.isEmpty)
  | .compare .. | .isIn .. | .between .. | .nullTest .. => by simp [truth?, isEmpty]
  | .group logic children => by
    rw [truth?, isEmpty, ← truths_eq_nil_iff children]
    cases truths value children <;> simp [Logic.joinAny?]

theorem truths_eq_nil_iff : (cs : List Condition) → (truths value cs = [] ↔ allEmpty cs)
  | [] => by simp [truths, allEmpty]
  | c :: rest => by
    rw [truths, allEmpty, Bool.and_eq_true, List.append_eq_nil_iff, Option.toList_eq_nil_iff,
      truth_eq_none_iff c, truths_eq_nil_iff rest]

end

theorem truths_append (cs ds : List Condition) :
    truths value (cs ++ ds) = truths value cs ++ truths value ds := by
  induction cs with
  | nil => rfl
  | cons c rest ih => rw [List.cons_append, truths, ih, truths, List.append_assoc]

theorem allPredicates_append (cs ds : List Condition) :
    allPredicates (cs ++ ds) = allPredicates cs ++ allPredicates ds := by
  induction cs with
  | nil => rfl
  | cons c rest ih => rw [List.cons_append, allPredicates, ih, allPredicates, List.append_assoc]

/-! ## Two conditions -/

/-- A first condition that is a group of the logic, or has no children, takes the second one in; any
other is put beside it. -/
theorem combine_cases (logic : Logic) (a b : Condition) :
    combine logic a b = .group logic [a, b] ∨
      ∃ current children, a = .group current children ∧ (current = logic ∨ children = []) ∧
        combine logic a b = .group logic (children ++ [b]) := by
  cases a with
  | group current children =>
    rw [combine]
    split
    · next taken => exact .inr ⟨current, children, rfl, taken, rfl⟩
    · exact .inl rfl
  | compare operand op bound => exact .inl rfl
  | isIn operand values => exact .inl rfl
  | between operand low high => exact .inl rfl
  | nullTest operand isNull => exact .inl rfl

theorem truth_combine (logic : Logic) (a b : Condition) :
    (combine logic a b).truth? value = Option.merge logic.apply (a.truth? value) (b.truth? value) := by
  have single (c : Condition) : logic.joinAny? (truths value [c]) = c.truth? value := by
    rw [truths, truths, List.append_nil, logic.joinAny?_toList]
  rcases combine_cases logic a b with whole | ⟨current, children, rfl, taken, whole⟩
  · rw [whole, truth?, ← List.singleton_append, truths_append, logic.joinAny?_append, single, single]
  · -- The logic of the group is the one it had, unless there was nothing to join.
    have kept : logic.joinAny? (truths value children) = (group current children).truth? value := by
      rcases taken with rfl | rfl <;> rfl
    rw [whole, truth?, truths_append, logic.joinAny?_append, single, kept]

theorem predicates_combine (logic : Logic) (a b : Condition) :
    (combine logic a b).predicates = a.predicates ++ b.predicates := by
  rcases combine_cases logic a b with whole | ⟨current, children, rfl, -, whole⟩
  · simp only [whole, predicates, allPredicates, List.append_nil]
  · simp only [whole, predicates, allPredicates_append, allPredicates, List.append_nil]

theorem isEmpty_combine_iff (logic : Logic) (a b : Condition) :
    (combine logic a b).isEmpty ↔ a.isEmpty ∧ b.isEmpty := by
  rw [← predicates_eq_nil_iff, predicates_combine, List.append_eq_nil_iff, predicates_eq_nil_iff,
    predicates_eq_nil_iff]

theorem params_combine (logic : Logic) (a b : Condition) :
    (combine logic a b).params = a.params ++ b.params := by
  rw [params, predicates_combine, List.flatMap_append]
  rfl

theorem params_of_filter {s : Settings} {t : Table} {c : Condition} {bound : List Value}
    {filter : Sql} (h : c.filter? s t bound = .ok (some filter)) :
    filter.params = bound ++ c.params := by
  obtain ⟨part, hpart, hfilter⟩ := filter?_eq_ok.1 h
  obtain ⟨text, rfl, rfl⟩ := Option.map_eq_some_iff.1 hfilter.symm
  exact congrArg (bound ++ ·) (params_of_render hpart)

/-! ## Filters of a query -/

/-- A row of which the predicates have these values is kept: the condition is true of it, or says
nothing. -/
def Keeps (value : Predicate → Truth) (c : Condition) : Prop :=
  c.truth? value = none ∨ c.truth? value = some .yes

theorem keeps_and_iff (a b : Condition) :
    (a.and b).Keeps value ↔ a.Keeps value ∧ b.Keeps value := by
  rw [Keeps, Keeps, Keeps, Condition.and, truth_combine]
  generalize a.truth? value = first
  generalize b.truth? value = second
  rcases first with _ | _ | _ | _ <;> rcases second with _ | _ | _ | _ <;> decide

end Condition

theorem Query.keeps_foldl_filter_iff {value : Predicate → Truth} (conditions : List Condition)
    (q : Query) :
    (conditions.foldl Query.filter q).condition.Keeps value ↔
      q.condition.Keeps value ∧ ∀ c ∈ conditions, c.Keeps value := by
  induction conditions generalizing q with
  | nil => simp
  | cons c rest ih =>
    have step : (q.filter c).condition.Keeps value ↔ q.condition.Keeps value ∧ c.Keeps value :=
      Condition.keeps_and_iff q.condition c
    rw [List.foldl_cons, ih, step, List.forall_mem_cons, and_assoc]

namespace Condition

/-- **Conditions joined say what they say, joined.** Whatever the truth values of the predicates are,
`and` means the conjunction of two conditions and `or` their disjunction. Those that say nothing are
those without a predicate, and they change nothing. This is the meaning that texts keep, where lists of
values stand for their equalities. The values of the first condition come before those of the second
one, also among the parameters of a filter. So a query with further filters keeps the rows that it kept
before and that each of the filters keeps. -/
theorem combination_joins_meanings (a b : Condition) :
    (∀ value : Predicate → Truth,
      (a.and b).truth? value = Option.merge Truth.and (a.truth? value) (b.truth? value) ∧
      (a.or b).truth? value = Option.merge Truth.or (a.truth? value) (b.truth? value)) ∧
    (∀ (c : Condition) (value : Predicate → Truth), c.truth? value = none ↔ c.isEmpty) ∧
    (∀ (c : Condition) (value : Operand → Test → Truth),
      c.meaning value = c.truth? (Predicate.truth value)) ∧
    ((a.and b).isEmpty ↔ a.isEmpty ∧ b.isEmpty) ∧ ((a.or b).isEmpty ↔ a.isEmpty ∧ b.isEmpty) ∧
    (a.and b).params = a.params ++ b.params ∧ (a.or b).params = a.params ++ b.params ∧
    (∀ (s : Settings) (t : Table) (bound : List Value) (filter : Sql),
      (a.and b).filter? s t bound = .ok (some filter) ∨
        (a.or b).filter? s t bound = .ok (some filter) →
      filter.params = bound ++ (a.params ++ b.params)) ∧
    ∀ (q : Query) (conditions : List Condition) (value : Predicate → Truth),
      (conditions.foldl Query.filter q).condition.Keeps value ↔
        q.condition.Keeps value ∧ ∀ c ∈ conditions, c.Keeps value := by
  refine ⟨fun value => ⟨truth_combine .and a b, truth_combine .or a b⟩,
    fun c value => truth_eq_none_iff c, fun c value => meaning_eq_truth value c,
    isEmpty_combine_iff .and a b, isEmpty_combine_iff .or a b, params_combine .and a b,
    params_combine .or a b, fun s t bound filter written => ?_,
    fun q conditions value => Query.keeps_foldl_filter_iff conditions q⟩
  rcases written with written | written
  · rw [params_of_filter written]
    exact congrArg (bound ++ ·) (params_combine .and a b)
  · rw [params_of_filter written]
    exact congrArg (bound ++ ·) (params_combine .or a b)

theorem combination_joins_meanings_items :
    let a : Condition := .any [.isIn (.field "id") [.integer 1, .integer 2], .all []]
    let b : Condition := .between (.field "qty") (.integer 5) (.integer 9)
    (a.and b).filter? Sample.settings Sample.items [.null] =
        .ok (some ⟨"id IN (?, ?) AND qty BETWEEN ? AND ?",
          [.null, .integer 1, .integer 2, .integer 5, .integer 9]⟩) ∧
      [.null, .integer 1, .integer 2, .integer 5, .integer 9] = [.null] ++ (a.params ++ b.params) ∧
      ∀ value, (((Query.whereOnly a).filter b).filter (.any [.all []])).condition.Keeps value ↔
        a.Keeps value ∧ ∀ c ∈ [b, .any [.all []]], c.Keeps value := by
  intro a b
  have written : (a.and b).filter? Sample.settings Sample.items [.null] =
      .ok (some ⟨"id IN (?, ?) AND qty BETWEEN ? AND ?",
        [.null, .integer 1, .integer 2, .integer 5, .integer 9]⟩) := rfl
  obtain ⟨-, -, -, -, -, -, -, params, kept⟩ := combination_joins_meanings a b
  exact ⟨written, params _ _ _ _ (.inl written), kept (.whereOnly a) [b, .any [.all []]]⟩

end Condition

end EntitySql
