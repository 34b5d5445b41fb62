/-
  A page together with the count of all rows, against the page alone and the count alone.

  Asking for both writes both statements before it sends the first, so nothing is sent unless both can
  be written. Then the count comes first, and the rows are asked for only where there are any. On a
  session whose answers depend on nothing but the statement, and that has no rows where it counts none,
  the outcome is what the two separate operations find (`findCounted_joins_find_and_count`).
-/
import EntitySql.Proofs.Outcome
import EntitySql.Proofs.Sample
import EntitySql.Proofs.Session.Running
import EntitySql.Repository

namespace EntitySql

namespace Access

variable {σ α β : Type}

theorem lift_error_bind (e : Error) (f : α → Access σ β) (link : Link σ) :
    (lift (.error e) >>= f) link = (.error e, link) := rfl

theorem lift_ok_bind (a : α) (f : α → Access σ β) (link : Link σ) :
    (lift (.ok a) >>= f) link = f a link := rfl

/-- A sequence succeeds if both of its steps do. -/
theorem bind_eq_ok_iff {m : Access σ α} {f : α → Access σ β} {b : β} {link final : Link σ} :
    (m >>= f) link = (.ok b, final) ↔
      ∃ a between, m link = (.ok a, between) ∧ f a between = (.ok b, final) := by
  rw [bind_apply]
  constructor
  · intro h
    split at h
    · next a between first => exact ⟨a, between, first, h⟩
    · cases h
  · rintro ⟨a, between, first, h⟩
    rwa [first]

theorem lift_bind_eq_ok_iff {x : Except Error α} {f : α → Access σ β} {b : β}
    {link final : Link σ} :
    (lift x >>= f) link = (.ok b, final) ↔ ∃ a, x = .ok a ∧ f a link = (.ok b, final) := by
  cases x with
  | error e => exact ⟨nofun, fun ⟨_, h, _⟩ => nomatch h⟩
  | ok a => exact ⟨fun h => ⟨a, rfl, h⟩, fun ⟨_, same, h⟩ => Except.ok.inj same ▸ h⟩

end Access

namespace Session

variable {σ : Type} {s : Session σ}

theorem sendQuery_eq_ok_iff {statement : Sql} {link final : Link σ} {answer : ResultSet} :
    s.sendQuery statement link = (.ok answer, final) ↔
      (s.query statement link.state).1 = .ok answer ∧
        final = ⟨(s.query statement link.state).2, link.calls.push (.query statement)⟩ := by
  rw [sendQuery_apply, Prod.mk.injEq]
  cases (s.query statement link.state).1 <;> simp [Except.mapError, eq_comm]

end Session

namespace Repository

variable {σ α : Type} {r : Repository σ α} {q : Query}

/-! ## The two statements -/

/-- The statement that counts the rows of a query. -/
def countStatement (r : Repository σ α) (q : Query) : Except Error Sql :=
  r.table >>= q.countSql r.settings

/-- The statement that reads the rows of a query. -/
def selectStatement (r : Repository σ α) (q : Query) : Except Error Sql :=
  r.table >>= q.selectSql r.settings

theorem statements_of_ok {count select : Sql} (hcount : r.countStatement q = .ok count)
    (hselect : r.selectStatement q = .ok select) :
    ∃ t, r.table = .ok t ∧ q.countSql r.settings t = .ok count ∧
      q.selectSql r.settings t = .ok select := by
  obtain ⟨t, table, hcount⟩ := bind_eq_ok_iff.1 hcount
  obtain ⟨t', table', hselect⟩ := bind_eq_ok_iff.1 hselect
  cases table.symm.trans table'
  exact ⟨t, table, hcount, hselect⟩

/-! ## One operation -/

theorem find_eq_ok {elements : List α} {link final : Link σ}
    (h : r.find q link = (.ok elements, final)) :
    ∃ t select answer, r.table = .ok t ∧ r.selectStatement q = .ok select ∧
      (r.session.query select link.state).1 = .ok answer ∧ elements = answer.elements t r.type := by
  obtain ⟨t, table, h⟩ := Access.lift_bind_eq_ok_iff.1 h
  obtain ⟨select, written, h⟩ := Access.lift_bind_eq_ok_iff.1 h
  obtain ⟨answer, between, sent, h⟩ := Access.bind_eq_ok_iff.1 h
  cases h
  exact ⟨t, select, answer, table, bind_eq_ok_iff.2 ⟨t, table, written⟩,
    (Session.sendQuery_eq_ok_iff.1 sent).1, rfl⟩

theorem count_eq_ok {n : UInt64} {link final : Link σ} (h : r.count q link = (.ok n, final)) :
    ∃ count answer, r.countStatement q = .ok count ∧
      (r.session.query count link.state).1 = .ok answer ∧ answer.count = .ok n := by
  obtain ⟨t, table, h⟩ := Access.lift_bind_eq_ok_iff.1 h
  obtain ⟨count, written, h⟩ := Access.lift_bind_eq_ok_iff.1 h
  obtain ⟨answer, between, sent, h⟩ := Access.bind_eq_ok_iff.1 h
  exact ⟨count, answer, bind_eq_ok_iff.2 ⟨t, table, written⟩,
    (Session.sendQuery_eq_ok_iff.1 sent).1, congrArg Prod.fst h⟩

/-! ## Both in one operation -/

/-- Both statements are written before the first is sent. -/
theorem findCounted_eq_error (link : Link σ) {e : Error}
    (h : r.countStatement q = .error e ∨
      (∃ count, r.countStatement q = .ok count) ∧ r.selectStatement q = .error e) :
    r.findCounted q link = (.error e, link) := by
  unfold countStatement selectStatement at h
  unfold findCounted
  cases table : r.table with
  | error e' =>
    rw [table] at h
    rcases h with h | ⟨⟨_, h⟩, -⟩
    · cases h
      rw [Access.lift_error_bind]
    · cases h
  | ok t =>
    rw [table] at h
    rw [Access.lift_ok_bind]
    rcases h with h | ⟨⟨count, hcount⟩, h⟩
    · have refused : q.countSql r.settings t = .error e := h
      rw [refused, Access.lift_error_bind]
    · have written : q.countSql r.settings t = .ok count := hcount
      have refused : q.selectSql r.settings t = .error e := h
      rw [written, Access.lift_ok_bind, refused, Access.lift_error_bind]

section

variable {t : Table} {count select : Sql} {link between final : Link σ} {answer selected : ResultSet}
  (table : r.table = .ok t) (hcount : q.countSql r.settings t = .ok count)
  (hselect : q.selectSql r.settings t = .ok select)
  (sent : r.session.sendQuery count link = (.ok answer, between))

include table hcount hselect sent

/-- When the count is read, the rows are asked for unless it is zero. -/
theorem findCounted_eq {n : UInt64} (read : answer.count = .ok n) :
    r.findCounted q link =
      (if n = 0 then pure .empty else do return ⟨← r.read t select, n⟩ : Access σ (Counted α))
        between := by
  unfold findCounted
  rw [table, Access.lift_ok_bind, hcount, Access.lift_ok_bind, hselect, Access.lift_ok_bind,
    Access.bind_apply, sent]
  dsimp only
  rw [read, Access.lift_ok_bind]

theorem findCounted_zero (read : answer.count = .ok 0) :
    r.findCounted q link = (.ok .empty, between) := by
  rw [findCounted_eq table hcount hselect sent read, if_pos rfl]
  rfl

theorem findCounted_some {n : UInt64} (read : answer.count = .ok n) (some_row : n ≠ 0)
    (sent' : r.session.sendQuery select between = (.ok selected, final)) :
    r.findCounted q link = (.ok ⟨selected.elements t r.type, n⟩, final) := by
  rw [findCounted_eq table hcount hselect sent read, if_neg some_row, Repository.read,
    Access.bind_apply, Access.bind_apply, sent']
  rfl

end

/-- The answers of the session depend on nothing but the statement, and it has no rows for the query
if it counts none. -/
structure Consistent (r : Repository σ α) (q : Query) (answer : Sql → Except String ResultSet) :
    Prop where
  answered : ∀ statement state, (r.session.query statement state).1 = answer statement
  nothing : ∀ count select counted selected, r.countStatement q = .ok count →
    r.selectStatement q = .ok select → answer count = .ok counted → counted.count = .ok 0 →
    answer select = .ok selected → selected.rows = []

/-- **The page and the count together are the page and the count.** On a session with consistent
answers, both in one operation are the elements and the number that two separate operations find,
whenever these were run. The count is sent first, and the rows are asked for only if it is not zero. If
one of the statements cannot be written then this is the outcome, and nothing is sent. -/
theorem findCounted_joins_find_and_count (r : Repository σ α) (q : Query) :
    (∀ answer, r.Consistent q answer →
      ∀ (elements : List α) (n : UInt64) (link link₁ link₂ after₁ after₂ : Link σ),
        r.find q link₁ = (.ok elements, after₁) → r.count q link₂ = (.ok n, after₂) →
        ∃ count select state, r.countStatement q = .ok count ∧ r.selectStatement q = .ok select ∧
          r.findCounted q link = (.ok ⟨elements, n⟩, ⟨state,
            link.calls ++ if n = 0 then #[.query count] else #[.query count, .query select]⟩)) ∧
    ∀ (link : Link σ) (e : Error),
      r.countStatement q = .error e ∨ r.selectStatement q = .error e →
      ∃ e', (r.countStatement q = .error e' ∨ r.selectStatement q = .error e') ∧
        r.findCounted q link = (.error e', link) := by
  constructor
  · intro answer consistent elements n link link₁ link₂ after₁ after₂ found counted
    obtain ⟨t, select, selected, table, hselect, rows, rfl⟩ := find_eq_ok found
    obtain ⟨count, number, hcount, numbered, read⟩ := count_eq_ok counted
    obtain ⟨t', table', written, written'⟩ := statements_of_ok hcount hselect
    cases table.symm.trans table'
    rw [consistent.answered] at rows numbered
    -- The answers are the same from whatever state the statements are sent.
    have first (link : Link σ) := Session.sendQuery_eq_ok_iff.2
      ⟨(consistent.answered count link.state).trans numbered, rfl⟩
    have second (link : Link σ) := Session.sendQuery_eq_ok_iff.2
      ⟨(consistent.answered select link.state).trans rows, rfl⟩
    by_cases none : n = 0
    · subst none
      have nobody := consistent.nothing count select number selected hcount hselect numbered read rows
      refine ⟨count, select, (r.session.query count link.state).2, hcount, hselect, ?_⟩
      rw [findCounted_zero table written written' (first link) read, if_pos rfl, ResultSet.elements,
        nobody, Array.push_eq_append]
      rfl
    · let between := (r.session.query count link.state).2
      refine ⟨count, select, (r.session.query select between).2, hcount, hselect, ?_⟩
      rw [findCounted_some table written written' (first link) read none (second _), if_neg none,
        Array.push_eq_append, Array.push_eq_append, Array.append_assoc]
      rfl
  · intro link e unwritten
    cases hcount : r.countStatement q with
    | error e' => exact ⟨e', .inl rfl, findCounted_eq_error link (.inl hcount)⟩
    | ok count =>
      have refused : r.selectStatement q = .error e := by
        rcases unwritten with h | h
        · rw [hcount] at h
          cases h
        · exact h
      exact ⟨e, .inr refused, findCounted_eq_error link (.inr ⟨⟨count, hcount⟩, refused⟩)⟩

/-- One item of three pieces or more is counted and read. A page without an order is refused, and
nothing is sent. -/
theorem findCounted_joins_find_and_count_items :
    let counting : Sql := ⟨"SELECT COUNT(*) FROM Item WHERE qty >= ?", [.integer 3]⟩
    let selecting : Sql := ⟨"SELECT id, name, qty FROM Item WHERE qty >= ?", [.integer 3]⟩
    let answer (statement : Sql) : Except String ResultSet :=
      if statement = counting then .ok ⟨["n"], [[.integer 1]]⟩
      else .ok ⟨["id", "name", "qty"], Sample.rows.take 1⟩
    let session : Session Unit := ⟨fun statement state => (answer statement, state),
      fun _ state => (.ok 0, state), none, true⟩
    let r := of (.forDatabase .sqlServer) session (.ofRows Sample.itemDecl)
    let q := Query.whereOnly (.compare (.field "qty") .ge (.integer 3))
    r.Consistent q answer ∧
      r.find q (.start ()) = (.ok (Sample.rows.take 1), ⟨(), #[.query selecting]⟩) ∧
      r.count q (.start ()) = (.ok 1, ⟨(), #[.query counting]⟩) ∧
      r.findCounted q (.start ()) =
        (.ok ⟨Sample.rows.take 1, 1⟩, ⟨(), #[.query counting, .query selecting]⟩) ∧
      r.selectStatement { q with page := some ⟨0, 5⟩ } = .error .unorderedPage ∧
      r.findCounted { q with page := some ⟨0, 5⟩ } (.start ()) =
        (.error .unorderedPage, .start ()) := by
  intro counting selecting answer session r q
  have consistent : r.Consistent q answer := by
    refine ⟨fun _ _ => rfl, fun count select counted selected written _ answered read _ => ?_⟩
    have same : r.countStatement q = .ok counting := rfl
    cases same.symm.trans written
    cases answered
    cases read
  have found : r.find q (.start ()) = (.ok (Sample.rows.take 1), ⟨(), #[.query selecting]⟩) := rfl
  have counted : r.count q (.start ()) = (.ok 1, ⟨(), #[.query counting]⟩) := rfl
  obtain ⟨joined, -⟩ := findCounted_joins_find_and_count r q
  obtain ⟨count, select, state, hcount, hselect, both⟩ :=
    joined answer consistent (Sample.rows.take 1) 1 (.start ()) _ _ _ _ found counted
  cases hcount
  cases hselect
  refine ⟨consistent, found, counted, both, rfl, ?_⟩
  obtain ⟨-, refused⟩ := findCounted_joins_find_and_count r { q with page := some ⟨0, 5⟩ }
  obtain ⟨e, unwritten, failed⟩ := refused (.start ()) .unorderedPage (.inr rfl)
  rcases unwritten with h | h
  · cases h
  · cases h
    exact failed

end Repository

end EntitySql
