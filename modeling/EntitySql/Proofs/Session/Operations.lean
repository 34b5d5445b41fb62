/-
  What the error of an operation tells about the calls that were made.

  An operation is refused before anything is sent; or its calls are made up to the first one that
  fails; or it counts rows, and the answer to the count cannot be read (`outcome_run`). An error of the
  first sort tells that nothing was sent, and one of the second that something was. One of the third
  sort looks like the first, although the count was sent: these are the only errors that tell a wrong
  story (`error_tells_calls`).
-/
import EntitySql.Proofs.Sample
import EntitySql.Proofs.Session.Running
import EntitySql.Proofs.Session.Writing
import EntitySql.Session.Script

namespace EntitySql

/-! ## Operations -/

/-- The operations of a repository, by the type of their results. Conditions on one field or one column
are those on the operand that it is. -/
inductive Operation (α : Type) : Type → Type where
  | find (q : Query) : Operation α (List α)
  | findKeyed (q : Query) : Operation α (List ResultSet.KeyedRow)
  | findById (id : Value) : Operation α (Option α)
  | findByIds (ids : List Value) : Operation α (List α)
  | findBy (operand : Operand) (value : Value) : Operation α (List α)
  | findOneBy (operand : Operand) (value : Value) : Operation α (Option α)
  | count (q : Query) : Operation α UInt64
  | findCounted (q : Query) : Operation α (Counted α)
  | write (op : WriteOperation α) : Operation α UInt64

namespace Operation

variable {σ α β : Type}

def run (r : Repository σ α) : Operation α β → Access σ β
  | .find q => r.find q
  | .findKeyed q => r.findKeyed q
  | .findById id => r.findById id
  | .findByIds ids => r.findByIds ids
  | .findBy operand value => r.findBy operand value
  | .findOneBy operand value => r.findOneBy operand value
  | .count q => r.count q
  | .findCounted q => r.findCounted q
  | .write op => op.run r

/-- The query whose rows are counted. -/
def counted? : Operation α β → Option Query
  | .count q | .findCounted q => some q
  | _ => none

end Operation

/-! ## Refusals -/

/-- The error is no failure of the session and does not come from the answer to a count. -/
def Error.IsRefusal (e : Error) : Prop := e.isCompileError ∧ e.area ≠ .mappingMismatch

theorem Error.isRefusal_of_area {e : Error} {area : Error.Area} (h : e.area = area)
    (sent : area ≠ .execution) (mapped : area ≠ .mappingMismatch) : e.IsRefusal := by
  rw [IsRefusal, isCompileError, h]
  exact ⟨decide_eq_true sent, mapped⟩

theorem Gateway.isRefusal_of_repository_eq_error {σ α : Type} {g : Gateway σ} {type : EntityType α}
    {e : Error} (h : (g.repository type).1.table = .error e) : e.IsRefusal :=
  Error.isRefusal_of_area (area_of_repository_eq_error h) nofun nofun

theorem Query.isRefusal_of_countSql_eq_error {s : Settings} {t : Table} {q : Query} {e : Error}
    (h : q.countSql s t = .error e) : e.IsRefusal :=
  Error.isRefusal_of_area (area_of_countSql_eq_error h) nofun nofun

theorem Query.isRefusal_of_selectSql_eq_error {s : Settings} {t : Table} {q : Query} {e : Error}
    (h : q.selectSql s t = .error e) : e.IsRefusal := by
  rcases area_of_selectSql_eq_error h with h | h
  · exact Error.isRefusal_of_area h nofun nofun
  · exact Error.isRefusal_of_area h nofun nofun

/-- An answer that holds no count is a mismatch. -/
theorem ResultSet.area_of_count_eq_error {answer : ResultSet} {e : Error}
    (h : answer.count = .error e) : e.area = .mappingMismatch := by
  unfold count at h
  split at h
  · cases h
    rfl
  · split at h
    · split at h
      · cases h
      · cases h
        rfl
    · cases h
      rfl

/-! ## Outcomes -/

namespace Repository

variable {σ α β γ : Type} {r : Repository σ α} {t : Table}

/-- What can become of an operation that counts the rows of a query, if of any. -/
inductive Outcome (r : Repository σ α) (counted? : Option Query) (link : Link σ) :
    Except Error β × Link σ → Prop
  /-- Nothing is sent. -/
  | refused {e : Error} (compile : e.isCompileError)
    (other : counted?.isSome → e.area ≠ .mappingMismatch) : Outcome r counted? link (.error e, link)
  /-- Calls are made up to the first one that fails. -/
  | ran {outcome : Except Error β × Link σ} (h : r.session.Ran link outcome) :
    Outcome r counted? link outcome
  /-- The count is sent and answered, and the answer holds no count. -/
  | unreadable {q : Query} {t : Table} {statement : Sql} {answer : ResultSet} {final : σ} {e : Error}
    (counted : counted? = some q) (table : r.table = .ok t)
    (written : q.countSql r.settings t = .ok statement)
    (answered : r.session.query statement link.state = (.ok answer, final))
    (unread : answer.count = .error e) :
    Outcome r counted? link (.error e, ⟨final, link.calls.push (.query statement)⟩)

namespace Outcome

variable {counted? : Option Query} {link : Link σ}

/-- What is worked out first, without the session, is either refused or what comes next is asked
for. -/
theorem lift_bind {x : Except Error γ} {f : γ → Access σ β}
    (refused : ∀ e, x = .error e → e.IsRefusal)
    (next : ∀ a, x = .ok a → Outcome r counted? link (f a link)) :
    Outcome r counted? link ((Access.lift x >>= f) link) := by
  cases h : x with
  | error e =>
    obtain ⟨compile, other⟩ := refused e h
    exact .refused compile fun _ => other
  | ok a => exact next a h

/-- What is done with the result of an operation makes no difference. -/
theorem map {m : Access σ γ} (f : γ → β) (h : Outcome r counted? link (m link)) :
    Outcome r counted? link ((m >>= fun a => pure (f a)) link) := by
  rw [Access.bind_apply]
  generalize m link = outcome at h
  cases h with
  | refused compile other => exact .refused compile other
  | ran h =>
    cases h with
    | completed result all => exact .ran (.completed (f result) all)
    | stopped accepted failed => exact .ran (.stopped accepted failed)
  | unreadable counted table written answered unread =>
    exact .unreadable counted table written answered unread

/-- The answer to a count is read, unless the session fails or there is no count in it. -/
theorem count_bind {q : Query} {statement : Sql} {f : UInt64 → Access σ β}
    (table : r.table = .ok t) (written : q.countSql r.settings t = .ok statement)
    (next : ∀ n link', r.session.Ran link' (f n link')) :
    Outcome r (some q) link
      ((r.session.sendQuery statement >>= fun answer => Access.lift answer.count >>= f) link) := by
  -- Were the count known, only the two calls could fail.
  have ran (n : UInt64) :
      r.session.Ran link ((r.session.sendQuery statement >>= fun _ => f n) link) :=
    (Session.ran_sendQuery statement link).bind fun _ link' => next n link'
  simp only [Access.bind_apply, Session.sendQuery_apply] at ran ⊢
  cases answered : r.session.query statement link.state with
  | mk result final =>
    simp only [answered] at ran ⊢
    cases result with
    | error failure => exact .ran (ran 0)
    | ok answer =>
      cases count : answer.count with
      | error e =>
        simp only [Except.mapError, Access.lift, count]
        exact .unreadable rfl table written answered count
      | ok n =>
        simp only [Except.mapError, Access.lift, count]
        exact .ran (ran n)

end Outcome

/-! ## Reading -/

theorem ran_read (t : Table) (statement : Sql) (link : Link σ) :
    r.session.Ran link (r.read t statement link) :=
  (Session.ran_sendQuery statement link).bind fun _ link' => Session.ran_pure _ link'

theorem ran_readAll (t : Table) (statements : List Sql) (link : Link σ) :
    r.session.Ran link (r.readAll t statements link) := by
  induction statements generalizing link with
  | nil => exact Session.ran_pure _ link
  | cons statement rest ih =>
    exact (ran_read t statement link).bind fun found link' =>
      (ih link').bind fun _ link' => Session.ran_pure _ link'

section

variable (valid : ∀ e, r.table = .error e → e.IsRefusal) (counted? : Option Query) (link : Link σ)

include valid

theorem outcome_find (q : Query) : Outcome r counted? link (r.find q link) :=
  .lift_bind valid fun t _ =>
    .lift_bind (fun _ => Query.isRefusal_of_selectSql_eq_error) fun statement _ =>
      .ran (ran_read t statement link)

theorem outcome_findKeyed (q : Query) : Outcome r counted? link (r.findKeyed q link) :=
  .lift_bind valid fun _ _ =>
    .lift_bind (fun _ => Query.isRefusal_of_selectSql_eq_error) fun statement _ =>
      .map _ (.ran (Session.ran_sendQuery statement link))

theorem outcome_findById (id : Value) : Outcome r counted? link (r.findById id link) := by
  unfold findById
  split
  · exact .ran (Session.ran_pure none link)
  · exact .lift_bind valid fun t _ => .map _ (outcome_find valid counted? link _)

theorem outcome_findByIds (ids : List Value) : Outcome r counted? link (r.findByIds ids link) := by
  unfold findByIds
  split
  · exact .ran (Session.ran_pure [] link)
  · refine .lift_bind valid fun t _ => .lift_bind (fun e h => ?_) fun statements _ =>
      .ran (ran_readAll t statements link)
    obtain ⟨piece, -, h⟩ := mapM_eq_error h
    exact Query.isRefusal_of_selectSql_eq_error h

theorem outcome_count (q : Query) : Outcome r (some q) link (r.count q link) := by
  refine .lift_bind valid fun t table =>
    .lift_bind (fun _ => Query.isRefusal_of_countSql_eq_error) fun statement written => ?_
  have counted : Outcome r (some q) link
      ((r.session.sendQuery statement >>= fun answer => Access.lift answer.count >>= pure) link) :=
    .count_bind table written fun n link' => Session.ran_pure n link'
  simpa only [Access.bind_pure] using counted

theorem outcome_findCounted (q : Query) : Outcome r (some q) link (r.findCounted q link) := by
  refine .lift_bind valid fun t table =>
    .lift_bind (fun _ => Query.isRefusal_of_countSql_eq_error) fun count written =>
      .lift_bind (fun _ => Query.isRefusal_of_selectSql_eq_error) fun select _ =>
        .count_bind table written fun total link' => ?_
  split
  · exact Session.ran_pure Counted.empty link'
  · exact (ran_read t select link').bind fun _ link' => Session.ran_pure _ link'

end

end Repository

namespace WriteOperation

variable {σ α : Type} {g : Gateway σ} {type : EntityType α}

theorem outcome_run (op : WriteOperation α) (link : Link σ) :
    Repository.Outcome (g.repository type).1 none link (op.run (g.repository type).1 link) := by
  rw [run_eq_send]
  cases hplan : op.plan (g.repository type).1 with
  | error e =>
    refine .refused ?_ nofun
    rcases refuses_of_plan_eq_error hplan with h | ⟨t, rows, -, -, h⟩
    · exact (Gateway.isRefusal_of_repository_eq_error h).1
    · exact h.isCompileError
  | ok writes => exact .ran (Session.follows_sendWrites writes link).ran

end WriteOperation

namespace Operation

variable {σ α β : Type}

/-- An operation is refused, makes its calls up to the first one that fails, or gets an answer that
holds no count where it asked for one. -/
theorem outcome_run (g : Gateway σ) (type : EntityType α) (op : Operation α β) (link : Link σ) :
    Repository.Outcome (g.repository type).1 op.counted? link (op.run (g.repository type).1 link) := by
  have valid : ∀ e, (g.repository type).1.table = .error e → e.IsRefusal :=
    fun _ => Gateway.isRefusal_of_repository_eq_error
  cases op with
  | find q => exact Repository.outcome_find valid none link q
  | findKeyed q => exact Repository.outcome_findKeyed valid none link q
  | findById id => exact Repository.outcome_findById valid none link id
  | findByIds ids => exact Repository.outcome_findByIds valid none link ids
  | findBy operand value => exact Repository.outcome_find valid none link _
  | findOneBy operand value => exact .map _ (Repository.outcome_find valid none link _)
  | count q => exact Repository.outcome_count valid link q
  | findCounted q => exact Repository.outcome_findCounted valid link q
  | write op => exact op.outcome_run link

/-- An error of the session comes with the call that failed, which is the last one made, behind calls
that were all carried out. Any other error comes without a call, except from an operation that counts:
when the answer holds no count, its error is a mismatch and the count has been sent. -/
theorem error_tells_calls (g : Gateway σ) (type : EntityType α) (op : Operation α β)
    (link link' : Link σ) (e : Error) (h : op.run (g.repository type).1 link = (.error e, link')) :
    let r := (g.repository type).1
    (e.isCompileError = false → ∃ failure before call state, e = .execution failure ∧
      r.session.Accepts link.state before state ∧
      r.session.Takes call state (.error failure, link'.state) ∧
      link'.calls = link.calls ++ (before ++ [call]).toArray) ∧
    (e.isCompileError → ¬ (op.counted?.isSome ∧ e.area = .mappingMismatch) → link' = link) ∧
    (op.counted?.isSome → e.area = .mappingMismatch →
      ∃ q t statement answer, op.counted? = some q ∧ r.table = .ok t ∧
        q.countSql r.settings t = .ok statement ∧
        r.session.query statement link.state = (.ok answer, link'.state) ∧ answer.count = .error e ∧
        link'.calls = link.calls.push (.query statement)) := by
  intro r
  have outcome := op.outcome_run g type link
  rw [h] at outcome
  cases outcome with
  | refused compile other =>
    refine ⟨fun sent => ?_, fun _ _ => rfl, fun counted mismatch => absurd mismatch (other counted)⟩
    rw [compile] at sent
    cases sent
  | ran ran =>
    cases ran with
    | stopped accepted failed =>
      exact ⟨fun _ => ⟨_, _, _, _, rfl, accepted, failed, rfl⟩, nofun, fun _ => nofun⟩
  | unreadable counted table written answered unread =>
    have mismatch := ResultSet.area_of_count_eq_error unread
    have some_query : op.counted?.isSome := by rw [counted, Option.isSome_some]
    refine ⟨fun sent => ?_, fun _ sound => absurd ⟨some_query, mismatch⟩ sound,
      fun _ _ => ⟨_, _, _, _, counted, table, written, answered, unread, rfl⟩⟩
    rw [Error.isCompileError, mismatch] at sent
    cases sent

/-- The count is read, and the session is lost before the rows are. -/
theorem error_tells_calls_lost :
    let g := Gateway.start (Script.session false true) Sample.settings
    let replies := [.rows ⟨["n"], [[.integer 3]]⟩, .failure "lost"]
    ∃ before call state link,
      run (g.repository Sample.itemType).1 (.findCounted Sample.query) (.start replies) =
        (.error (.execution "lost"), link) ∧
      g.session.Accepts replies before state ∧
      g.session.Takes call state (.error "lost", link.state) ∧
      link.calls = (before ++ [call]).toArray := by
  intro g replies
  obtain ⟨count, select, hrun⟩ : ∃ count select,
      run (g.repository Sample.itemType).1 (.findCounted Sample.query) (.start replies) =
        (.error (.execution "lost"), ⟨[], #[.query count, .query select]⟩) := ⟨_, _, rfl⟩
  obtain ⟨failure, before, call, state, error, accepted, failed, calls⟩ :=
    (error_tells_calls _ _ _ _ _ _ hrun).1 rfl
  cases error
  refine ⟨before, call, state, _, hrun, accepted, failed, ?_⟩
  rw [calls]
  exact Array.empty_append

/-- A count is sent, and its answer has no row. The error tells that nothing was sent. -/
theorem count_sent_and_denied :
    let g := Gateway.start (Script.session false true) (.forDatabase .mySql)
    run (g.repository Sample.itemType).1 (.count .all) (.start []) =
        (.error .countMissing, ⟨[], #[.query ⟨"SELECT COUNT(*) FROM Item", []⟩]⟩) ∧
      Error.isCompileError .countMissing :=
  ⟨rfl, rfl⟩

end Operation

end EntitySql
