/-
  Writes are all or nothing until they are sent, and stop at the first failure of the session.

  An operation that writes stands for mutations, and these for statements in the order of the elements
  (`plan`). If the table or one of the statements cannot be worked out, nothing at all is sent.
  Otherwise the calls for the statements are sent up to the first failure, and the result tells which
  of the two it was (`writes_all_or_nothing`).
-/
import EntitySql.Proofs.Session.Failure
import EntitySql.Proofs.Session.Transcript

namespace EntitySql

/-! ## Operations -/

/-- The operations of a repository that write. Conditions on one field or one column are those on the
operand that it is. -/
inductive WriteOperation (α : Type) where
  | save (element : α)
  | saveAll (elements : List α)
  | update (element : α)
  | updateAll (elements : List α)
  | updateBy (element : α) (operand : Operand) (value : Value)
  | updateWhere (element : α) (condition : Condition)
  | replace (element : α)
  | replaceAll (elements : List α)
  | delete (element : α)
  | deleteAll (elements : List α)
  | deleteById (id : Value)
  | deleteByIds (ids : List Value)
  | deleteBy (operand : Operand) (value : Value)
  | deleteWhere (condition : Condition)

namespace WriteOperation

variable {σ α : Type}

def run (r : Repository σ α) : WriteOperation α → Access σ UInt64
  | .save x => r.save x
  | .saveAll xs => r.saveAll xs
  | .update x => r.update x
  | .updateAll xs => r.updateAll xs
  | .updateBy x operand value => r.updateBy x operand value
  | .updateWhere x condition => r.updateWhere x condition
  | .replace x => r.replace x
  | .replaceAll xs => r.replaceAll xs
  | .delete x => r.delete x
  | .deleteAll xs => r.deleteAll xs
  | .deleteById id => r.deleteById id
  | .deleteByIds ids => r.deleteByIds ids
  | .deleteBy operand value => r.deleteBy operand value
  | .deleteWhere condition => r.deleteWhere condition

/-- There is nothing to insert or to delete, whatever the table is. -/
def asksNothing : WriteOperation α → Bool
  | .saveAll xs | .deleteAll xs => xs.isEmpty
  | .deleteByIds ids => ids.isEmpty
  | _ => false

/-- The mutations that an operation stands for, in the order of its elements. Elements without a key
cannot be deleted together with others. -/
def mutations (type : EntityType α) (t : Table) : WriteOperation α → Except Error (List Mutation)
  | .save x => .ok [.insert [type.toRow x]]
  | .saveAll xs => .ok [.insert (xs.map type.toRow)]
  | .update x => .ok [.update (type.toRow x) (.key (t.keyValue (type.toRow x)))]
  | .updateAll xs =>
    .ok (xs.map fun x => .update (type.toRow x) (.key (t.keyValue (type.toRow x))))
  | .updateBy x operand value => .ok [.update (type.toRow x) (.matching (operand.equals value))]
  | .updateWhere x condition => .ok [.update (type.toRow x) (.matching condition)]
  | .replace x => .ok [.replace (type.toRow x) (.key (t.keyValue (type.toRow x)))]
  | .replaceAll xs =>
    .ok (xs.map fun x => .replace (type.toRow x) (.key (t.keyValue (type.toRow x))))
  | .delete x => .ok [.delete (.key (t.keyValue (type.toRow x)))]
  | .deleteAll xs =>
    let keys := xs.map fun x => t.keyValue (type.toRow x)
    if keys.any Value.isNull then .error (.unconditional .delete t.sql)
    else .ok [.delete (.keys keys)]
  | .deleteById id => .ok [.delete (.key id)]
  | .deleteByIds ids => .ok [.delete (.keys ids)]
  | .deleteBy operand value => .ok [.delete (.matching (operand.equals value))]
  | .deleteWhere condition => .ok [.delete (.matching condition)]

/-- The statements of all mutations, one mutation after the other, or the first error in them. -/
def statements (r : Repository σ α) (mutations : Table → Except Error (List Mutation)) :
    Except Error (List Write) := do
  let t ← r.table
  let writes ← (← mutations t).mapM fun m => m.writes r.settings t r.session.multiRow
  return writes.flatten

/-- What an operation has to send, or why it cannot be written. -/
def plan (r : Repository σ α) (op : WriteOperation α) : Except Error (List Write) :=
  if op.asksNothing then .ok [] else statements r (op.mutations r.type)

/-! ## Sending what is planned -/

/-- Sends the statements of a plan if there is one. -/
def send (s : Session σ) (plan : Except Error (List Write)) : Access σ UInt64 := fun link =>
  match plan with
  | .ok writes => s.sendWrites writes link
  | .error e => (.error e, link)

theorem send_statements (r : Repository σ α) (mutations : Table → Except Error (List Mutation)) :
    send r.session (statements r mutations) =
      Access.lift r.table >>= fun t => Access.lift (mutations t) >>= r.write t := by
  funext link
  unfold statements Repository.write send
  simp only [Access.bind_apply, Access.lift]
  cases r.table with
  | error e => rfl
  | ok t =>
    dsimp only [bind, Except.bind]
    cases mutations t with
    | error e => rfl
    | ok ms =>
      dsimp only
      cases ms.mapM fun m => m.writes r.settings t r.session.multiRow <;> rfl

theorem send_nil (s : Session σ) : send s (.ok []) = (pure 0 : Access σ UInt64) := rfl

theorem plan_eq_statements (r : Repository σ α) {op : WriteOperation α} (h : op.asksNothing = false) :
    op.plan r = statements r fun t => op.mutations r.type t := by
  unfold plan
  rw [h]
  rfl

theorem saveAll_eq_send (r : Repository σ α) (xs : List α) :
    r.saveAll xs = send r.session (plan r (.saveAll xs)) := by
  unfold Repository.saveAll plan asksNothing
  split
  · exact (send_nil r.session).symm
  · rw [send_statements]
    rfl

theorem deleteByIds_eq_send (r : Repository σ α) (ids : List Value) :
    r.deleteByIds ids = send r.session (plan r (.deleteByIds ids)) := by
  unfold Repository.deleteByIds plan asksNothing
  split
  · exact (send_nil r.session).symm
  · rw [send_statements]
    rfl

theorem deleteAll_eq_send (r : Repository σ α) (xs : List α) :
    r.deleteAll xs = send r.session (plan r (.deleteAll xs)) := by
  unfold Repository.deleteAll plan asksNothing
  split
  · exact (send_nil r.session).symm
  · rw [send_statements]
    congr 1
    funext t
    unfold mutations
    -- Keys that are NULL are found before anything is written.
    dsimp only
    split <;> rfl

/-- An operation sends what is planned for it. -/
theorem run_eq_send (r : Repository σ α) (op : WriteOperation α) :
    op.run r = send r.session (op.plan r) := by
  cases op with
  | save x => exact saveAll_eq_send r [x]
  | saveAll xs => exact saveAll_eq_send r xs
  | deleteAll xs => exact deleteAll_eq_send r xs
  | deleteByIds ids => exact deleteByIds_eq_send r ids
  | update | updateAll | updateBy | updateWhere | replace | replaceAll | delete | deleteById
  | deleteBy | deleteWhere =>
    rw [plan_eq_statements r rfl, send_statements]
    rfl

/-! ## What can be wrong with a plan -/

/-- The rows of the mutations are those of elements. -/
theorem exists_toRow_of_mem_mutations {type : EntityType α} {t : Table} {op : WriteOperation α}
    {ms : List Mutation} (h : op.mutations type t = .ok ms) {m : Mutation} (hm : m ∈ ms) {row : Row}
    (hrow : row ∈ m.rows) : ∃ x, type.toRow x = row := by
  cases op with
  | deleteAll xs =>
    unfold mutations at h
    dsimp only at h
    split at h
    · cases h
    · cases h
      cases List.mem_singleton.1 hm
      exact absurd hrow List.not_mem_nil
  | save x =>
    cases h
    cases List.mem_singleton.1 hm
    exact ⟨x, (List.mem_singleton.1 hrow).symm⟩
  | saveAll xs =>
    cases h
    cases List.mem_singleton.1 hm
    obtain ⟨x, -, hx⟩ := List.mem_map.1 hrow
    exact ⟨x, hx⟩
  | updateAll xs | replaceAll xs =>
    cases h
    obtain ⟨x, -, rfl⟩ := List.mem_map.1 hm
    exact ⟨x, (List.mem_singleton.1 hrow).symm⟩
  | update x | updateBy x | updateWhere x | replace x =>
    cases h
    cases List.mem_singleton.1 hm
    exact ⟨x, (List.mem_singleton.1 hrow).symm⟩
  | delete | deleteById | deleteByIds | deleteBy | deleteWhere =>
    cases h
    cases List.mem_singleton.1 hm
    exact absurd hrow List.not_mem_nil

/-- An operation cannot be planned if there is no table, or if something is wrong with one of its
mutations. -/
theorem refuses_of_plan_eq_error {r : Repository σ α} {op : WriteOperation α} {e : Error}
    (h : op.plan r = .error e) :
    r.table = .error e ∨ ∃ t rows, r.table = .ok t ∧ (∀ row ∈ rows, ∃ x, r.type.toRow x = row) ∧
      t.Refuses rows e.area := by
  unfold plan at h
  split at h
  · cases h
  · rcases bind_eq_error_iff.1 h with h | ⟨t, htable, h⟩
    · exact .inl h
    refine .inr ⟨t, ?_⟩
    rcases bind_eq_error_iff.1 h with h | ⟨ms, hms, h⟩
    · refine ⟨[], htable, fun row hrow => absurd hrow List.not_mem_nil, ?_⟩
      cases op with
      | deleteAll xs =>
        unfold mutations at h
        dsimp only at h
        split at h
        · cases h
          exact .inr (.inl rfl)
        · cases h
      | save | saveAll | update | updateAll | updateBy | updateWhere | replace | replaceAll | delete
      | deleteById | deleteByIds | deleteBy | deleteWhere => cases h
    · rcases bind_eq_error_iff.1 h with h | ⟨writes, -, h⟩
      · obtain ⟨m, hm, h⟩ := mapM_eq_error h
        exact ⟨m.rows, htable, fun row hrow => exists_toRow_of_mem_mutations hms hm hrow,
          Mutation.refuses_of_writes_eq_error h⟩
      · exact absurd h pure_ne_error

/-! ## Outcomes -/

/-- No write fails because of its values if every element has one value for each field. -/
theorem area_of_run_eq_error {s : Settings} {session : Session σ} {type : EntityType α} {t : Table}
    (h : s.table type.decl = .ok t) (width : ∀ x, (type.toRow x).length = t.columns.length)
    {op : WriteOperation α} {link : Link σ} {e : Error}
    (failed : (op.run (.of s session type) link).1 = .error e) : e.area ≠ .mappingMismatch := by
  rw [run_eq_send] at failed
  cases hplan : op.plan (.of s session type) with
  | error e' =>
    rw [hplan] at failed
    cases failed
    rcases refuses_of_plan_eq_error hplan with table | ⟨t', rows, table, hrows, refused⟩
    · exact absurd (h.symm.trans table) nofun
    · cases h.symm.trans table
      intro mismatch
      rw [mismatch] at refused
      rcases refused with area | area | area | ⟨-, row, hrow, different⟩
      · cases area
      · cases area
      · cases area
      · obtain ⟨x, rfl⟩ := hrows row hrow
        exact different (width x)
  | ok writes =>
    rw [hplan] at failed
    have follows := session.follows_sendWrites writes link
    have failed : (session.sendWrites writes link).1 = .error e := failed
    generalize session.sendWrites writes link = outcome at follows failed
    cases follows with
    | completed => cases failed
    | stopped =>
      cases failed
      exact nofun

/-- An operation that cannot be planned sends nothing; its error tells that it arose before anything
was sent. An operation that can be planned sends the calls for its statements in order, up to the
first failure. -/
theorem writes_all_or_nothing {σ α : Type} (g : Gateway σ) (type : EntityType α)
    (op : WriteOperation α) (link : Link σ) :
    let r := (g.repository type).1
    (∃ e, op.plan r = .error e ∧ e.isCompileError ∧ op.run r link = (.error e, link)) ∨
      ∃ writes, op.plan r = .ok writes ∧
        r.session.Follows link (writes.flatMap r.session.callsOf) (op.run r link) := by
  intro r
  rw [run_eq_send]
  cases hplan : op.plan r with
  | error e =>
    refine .inl ⟨e, rfl, ?_, rfl⟩
    rcases refuses_of_plan_eq_error hplan with h | ⟨t, rows, -, -, h⟩
    · unfold Error.isCompileError
      rw [Gateway.area_of_repository_eq_error h]
      rfl
    · exact h.isCompileError
  | ok writes => exact .inr ⟨writes, rfl, Session.follows_sendWrites writes link⟩

end WriteOperation

end EntitySql
