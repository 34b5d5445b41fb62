/-
  A deletion of rows by a list of keys does what one statement for all of the keys would do.

  The keys may be spread over several statements, and over several lists in each of them. Run one
  after the other, every statement on what the one before has left, they leave the rows that match
  none of the keys and report as many rows as match some of them (`delete_keys_like_one`). What it
  means for keys to match is left open.
-/
import EntitySql.Proofs.Keys.Lists
import EntitySql.Proofs.Sample
import EntitySql.Sql.Change
import Mathlib.Algebra.GroupWithZero.Nat

namespace EntitySql

/-! ## Writing -/

/-- The parameters of a write, for all runs of it. -/
def Write.params : Write → List Value
  | .single statement => statement.params
  | .batch _ paramSets => paramSets.flatten

namespace Delete

variable {s : Settings} {t : Table}

/-- The statement that deletes the rows with some keys. -/
def keysSql (d : Dialect) (t : Table) (keys : List Value) : Sql :=
  .plain ("DELETE FROM " ++ t.sql ++ " WHERE ") ++ Condition.inPredicate d t.key.sql keys

theorem sql_keys (distinct : (t.columns.map Column.field).Nodup) {keys : List Value}
    (some_key : keys ≠ []) : sql s t (.keys keys) = .ok (keysSql s.dialect t keys) := by
  have looked_for : Target.condition? t (.keys keys) = some (.isIn (.field t.key.field) keys) :=
    if_neg (by rwa [List.isEmpty_iff])
  rw [sql, Target.filter, looked_for]
  simp only [Condition.filter?_isIn_key distinct]
  rfl

/-- A list of keys is deleted piece by piece. -/
theorem writes_keys (distinct : (t.columns.map Column.field).Nodup) {keys : List Value}
    (some_key : keys ≠ []) (multiRow : Bool) :
    (Mutation.delete (.keys keys)).writes s t multiRow =
      .ok ((chunks s.dialect.maxParams keys).map fun piece =>
        .single (keysSql s.dialect t piece)) := by
  have split : targets s.dialect (.keys keys) = (chunks s.dialect.maxParams keys).map .keys :=
    if_neg (by rwa [List.isEmpty_iff])
  have pieces : ((chunks s.dialect.maxParams keys).map Target.keys).mapM (sql s t) =
      pure ((chunks s.dialect.maxParams keys).map fun piece => keysSql s.dialect t piece) := by
    rw [List.mapM_map]
    refine mapM_eq_pure fun piece hpiece => ?_
    exact sql_keys distinct (ne_nil_of_mem_chunks s.dialect.maxParams_pos hpiece)
  rw [Mutation.writes, split, pieces]
  simp only [pure_bind, List.map_map]
  rfl

/-! ## Running -/

/-- One of the keys matches that of the row. -/
def isMeant (t : Table) (matching : Value → Value → Bool) (keys : List Value) (row : Row) : Bool :=
  keys.any (matching (t.keyValue row))

/-- Removes the rows that a statement means, and counts them. -/
def run (t : Table) (matching : Value → Value → Bool) (rows : List Row) :
    Write → Option (List Row × Nat)
  | .single statement =>
    (statement.keys? ("DELETE FROM " ++ t.sql) t.key.sql).map fun keys =>
      (rows.filter fun row => !isMeant t matching keys row, rows.countP (isMeant t matching keys))
  | .batch _ _ => none

/-- Runs statements one after the other on what is left of the rows. -/
def runAll (t : Table) (matching : Value → Value → Bool) :
    List Write → List Row → Option (List Row × List Nat)
  | [], rows => some (rows, [])
  | write :: rest, rows => do
    let (left, count) ← run t matching rows write
    let (left, counts) ← runAll t matching rest left
    return (left, count :: counts)

variable {matching : Value → Value → Bool}

theorem isMeant_append (keys others : List Value) (row : Row) :
    isMeant t matching (keys ++ others) row =
      (isMeant t matching keys row || isMeant t matching others row) := by
  unfold isMeant
  rw [List.any_append]

theorem run_keysSql (d : Dialect) {keys : List Value} (some_key : keys ≠ []) (rows : List Row) :
    run t matching rows (.single (keysSql d t keys)) =
      some (rows.filter fun row => !isMeant t matching keys row,
        rows.countP (isMeant t matching keys)) := by
  have read : (keysSql d t keys).keys? ("DELETE FROM " ++ t.sql) t.key.sql = some keys :=
    Sql.keys?_of_inPredicate d ("DELETE FROM " ++ t.sql) t.key.sql some_key
  rw [run, read]
  rfl

/-- Rows that are meant by the first keys are gone when the others are looked for. -/
theorem countP_isMeant_append (keys others : List Value) (rows : List Row) :
    rows.countP (isMeant t matching (keys ++ others)) =
      rows.countP (isMeant t matching keys) +
        (rows.filter fun row => !isMeant t matching keys row).countP (isMeant t matching others) := by
  induction rows with
  | nil => rfl
  | cons row rest ih =>
    rw [List.countP_cons, List.countP_cons, List.filter_cons, ih, isMeant_append]
    cases isMeant t matching keys row with
    | true => simp; omega
    | false => simp [List.countP_cons]; omega

/-- The keys may be cut in any way: what is left and how much is gone are the same. -/
theorem runAll_pieces (d : Dialect) {pieces : List (List Value)}
    (filled : ∀ piece ∈ pieces, piece ≠ []) (rows : List Row) :
    ∃ counts, runAll t matching (pieces.map fun piece => .single (keysSql d t piece)) rows =
        some (rows.filter fun row => !isMeant t matching pieces.flatten row, counts) ∧
      counts.sum = rows.countP (isMeant t matching pieces.flatten) := by
  induction pieces generalizing rows with
  | nil =>
    have nothing : ∀ row, isMeant t matching [] row = false := fun _ => rfl
    refine ⟨[], ?_, ?_⟩
    · simp [runAll, nothing]
    · simp [List.countP_eq_zero.2, nothing]
  | cons piece rest ih =>
    have some_key := filled piece List.mem_cons_self
    obtain ⟨counts, hrest, hcounts⟩ :=
      ih (fun others hothers => filled others (List.mem_cons_of_mem piece hothers))
        (rows.filter fun row => !isMeant t matching piece row)
    refine ⟨rows.countP (isMeant t matching piece) :: counts, ?_, ?_⟩
    · have left : ((rows.filter fun row => !isMeant t matching piece row).filter fun row =>
            !isMeant t matching rest.flatten row) =
          rows.filter fun row => !isMeant t matching (piece :: rest).flatten row := by
        rw [List.filter_filter]
        refine List.filter_congr fun row _ => ?_
        rw [List.flatten_cons, isMeant_append, Bool.not_or, Bool.and_comm]
      rw [List.map_cons, runAll, run_keysSql d some_key]
      simp only [Option.bind_eq_bind, Option.bind_some, hrest, left]
      rfl
    · rw [List.sum_cons, hcounts, List.flatten_cons, countP_isMeant_append]

/-- A list of keys is deleted as if one statement held all of it: the statements have exactly the
keys as parameters, leave the rows without any of them and count all that they remove. -/
theorem delete_keys_like_one {d : EntityDecl} (h : s.table d = .ok t)
    (matching : Value → Value → Bool) {keys : List Value} (some_key : keys ≠ []) (multiRow : Bool)
    (rows : List Row) :
    ∃ found, (Mutation.delete (.keys keys)).writes s t multiRow = .ok found ∧
      found.flatMap Write.params = keys ∧
      ∃ counts, runAll t matching found rows =
          some (rows.filter fun row => !keys.any (matching (t.keyValue row)), counts) ∧
        counts.sum = rows.countP fun row => keys.any (matching (t.keyValue row)) := by
  have all : (chunks s.dialect.maxParams keys).flatten = keys := flatten_chunks s.dialect.maxParams_pos
  have filled : ∀ piece ∈ chunks s.dialect.maxParams keys, piece ≠ [] := fun piece hpiece =>
    ne_nil_of_mem_chunks s.dialect.maxParams_pos hpiece
  refine ⟨_, writes_keys (Settings.distinct_of_table h) some_key multiRow, ?_, ?_⟩
  · have params : ∀ piece, (Write.single (keysSql s.dialect t piece)).params = piece := fun piece =>
      Condition.params_inPredicate s.dialect t.key.sql piece
    rw [List.flatMap_map]
    simp only [params, List.flatMap_id', all]
  · have run := @runAll_pieces t matching s.dialect _ filled rows
    rwa [all] at run

/-- A list of keys that takes two statements, with one key in both of them. -/
theorem delete_keys_like_one_repeated :
    let s := Settings.forDatabase .sqlServer
    let keys := List.replicate 2100 (Value.integer 7) ++ [.integer 8, .integer 7]
    s.table Sample.itemDecl = .ok Sample.items ∧ s.dialect.maxParams < keys.length ∧ keys ≠ [] ∧
      ∃ found, (Mutation.delete (.keys keys)).writes s Sample.items true = .ok found ∧
        found.flatMap Write.params = keys ∧
        ∃ counts, runAll Sample.items (fun v key => decide (v = key)) found Sample.rows =
            some (Sample.rows.take 2, counts) ∧ counts.sum = 1 := by
  intro s keys
  have table : (Settings.forDatabase .sqlServer).table Sample.itemDecl = .ok Sample.items := rfl
  have long : s.dialect.maxParams < keys.length := by
    rw [List.length_append, List.length_replicate]
    decide
  have some_key : keys ≠ [] := List.append_ne_nil_of_right_ne_nil _ (List.cons_ne_nil _ _)
  obtain ⟨found, written, params, counts, left, sum⟩ :=
    delete_keys_like_one table (fun v key => decide (v = key)) some_key true Sample.rows
  -- As far as matching goes, the list has two keys.
  have short : ∀ v, (keys.any fun key => decide (v = key)) =
      [Value.integer 7, .integer 8].any fun key => decide (v = key) := by
    intro v
    rw [List.any_append, List.any_replicate, if_neg (by decide)]
    simp only [List.any_cons, List.any_nil, Bool.or_false]
    cases decide (v = .integer 7) <;> cases decide (v = .integer 8) <;> rfl
  simp only [short] at left sum
  have rest : (Sample.rows.filter fun row =>
      !List.any [Value.integer 7, .integer 8] fun key => decide (Sample.items.keyValue row = key)) =
        Sample.rows.take 2 := by decide
  have gone : (Sample.rows.countP fun row => [Value.integer 7, .integer 8].any fun key =>
      decide (Sample.items.keyValue row = key)) = 1 := by decide
  rw [rest] at left
  rw [gone] at sum
  exact ⟨table, long, some_key, found, written, params, counts, left, sum⟩

end Delete

end EntitySql
