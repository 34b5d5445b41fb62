/-
  What is found by a list of keys that takes several statements.

  A session that answers each statement with the rows that have one of its keys is asked once for each
  piece of the list. What is found are the rows for one piece after the other, so a row comes as often
  as there are pieces with its key: that is what one statement for the whole list would find exactly
  where no row has its key in two of the pieces (`find_by_ids_once_iff`). A key that is repeated far
  behind in a long list brings its row twice (`find_by_ids_twice`).
-/
import EntitySql.Proofs.Keys.Lists
import EntitySql.Proofs.Sample
import EntitySql.Proofs.Statement.Selection
import EntitySql.Repository
import Mathlib.Data.List.Nodup

namespace EntitySql

variable {σ α : Type}

namespace Table

/-- The rows whose key is in a list. -/
def rowsWith (t : Table) (keys : List Value) (content : List Row) : List Row :=
  content.filter fun row => decide (t.keyValue row ∈ keys)

/-! ## Rows for one piece after the other -/

variable {t : Table} {content : List Row}

/-- The rows for two lists of keys are those for the first one and, of those for the second one, those
that are not for the first one. -/
theorem perm_rowsWith_append (keys others : List Value) :
    (t.rowsWith (keys ++ others) content).Perm
      (t.rowsWith keys content ++
        (t.rowsWith others content).filter fun row => !decide (t.keyValue row ∈ keys)) := by
  -- The rows for either list, split by whether they are for the first one.
  have first : (t.rowsWith (keys ++ others) content).filter
      (fun row => decide (t.keyValue row ∈ keys)) = t.rowsWith keys content := by
    unfold rowsWith
    rw [List.filter_filter]
    refine List.filter_congr fun row _ => ?_
    simp only [List.mem_append, Bool.decide_or, Bool.and_or_distrib_left, Bool.and_self]
    cases decide (t.keyValue row ∈ keys) <;> rfl
  have second : (t.rowsWith (keys ++ others) content).filter
      (fun row => !decide (t.keyValue row ∈ keys)) =
        (t.rowsWith others content).filter fun row => !decide (t.keyValue row ∈ keys) := by
    unfold rowsWith
    rw [List.filter_filter, List.filter_filter]
    refine List.filter_congr fun row _ => ?_
    simp only [List.mem_append, Bool.decide_or]
    cases decide (t.keyValue row ∈ keys) <;> rfl
  have whole := List.filter_append_perm (fun row => decide (t.keyValue row ∈ keys))
    (t.rowsWith (keys ++ others) content)
  rw [first, second] at whole
  exact whole.symm

/-- No row has its key in both of two lists. -/
def Apart (t : Table) (content : List Row) (keys others : List Value) : Prop :=
  ∀ row ∈ content, t.keyValue row ∈ keys → t.keyValue row ∉ others

theorem apart_iff_filter_eq {keys others : List Value} :
    t.Apart content keys others ↔
      (t.rowsWith others content).filter (fun row => !decide (t.keyValue row ∈ keys)) =
        t.rowsWith others content := by
  rw [List.filter_eq_self]
  unfold Apart rowsWith
  constructor
  · intro apart row hrow
    obtain ⟨here, other⟩ := List.mem_filter.1 hrow
    simpa using fun key => apart row here key (by simpa using other)
  · intro kept row here key other
    have := kept row (List.mem_filter.2 ⟨here, by simpa using other⟩)
    simp [key] at this

theorem apart_flatten_iff {keys : List Value} {pieces : List (List Value)} :
    t.Apart content keys pieces.flatten ↔ ∀ piece ∈ pieces, t.Apart content keys piece := by
  unfold Apart
  constructor
  · intro apart piece hpiece row here key other
    exact apart row here key (List.mem_flatten.2 ⟨piece, hpiece, other⟩)
  · intro apart row here key other
    obtain ⟨piece, hpiece, other⟩ := List.mem_flatten.1 other
    exact apart piece hpiece row here key other

/-- How many rows there are for two lists of keys. -/
theorem length_rowsWith_append (keys others : List Value) :
    (t.rowsWith (keys ++ others) content).length =
      (t.rowsWith keys content).length +
        ((t.rowsWith others content).filter fun row => !decide (t.keyValue row ∈ keys)).length := by
  rw [(perm_rowsWith_append keys others).length_eq, List.length_append]

/-- No row is lost when a list is cut into pieces. -/
theorem length_rowsWith_flatten_le (pieces : List (List Value)) :
    (t.rowsWith pieces.flatten content).length ≤
      (pieces.flatMap fun piece => t.rowsWith piece content).length := by
  induction pieces with
  | nil => simp [rowsWith]
  | cons piece rest ih =>
    have fewer := List.length_filter_le (fun row => !decide (t.keyValue row ∈ piece))
      (t.rowsWith rest.flatten content)
    rw [List.flatten_cons, length_rowsWith_append, List.flatMap_cons, List.length_append]
    omega

/-- Pieces that are not apart bring more rows than the whole list. -/
theorem pairwise_apart_of_length_le {pieces : List (List Value)}
    (h : (pieces.flatMap fun piece => t.rowsWith piece content).length ≤
      (t.rowsWith pieces.flatten content).length) : pieces.Pairwise (t.Apart content) := by
  induction pieces with
  | nil => exact .nil
  | cons piece rest ih =>
    have fewer := List.length_filter_le (fun row => !decide (t.keyValue row ∈ piece))
      (t.rowsWith rest.flatten content)
    have most : (t.rowsWith rest.flatten content).length ≤ _ := length_rowsWith_flatten_le rest
    rw [List.flatten_cons, length_rowsWith_append, List.flatMap_cons, List.length_append] at h
    -- A row for the first piece and for another one would be counted twice for the pieces only.
    refine .cons (apart_flatten_iff.1 (apart_iff_filter_eq.2 ?_)) (ih (by omega))
    exact (List.filter_sublist).eq_of_length (by omega)

theorem perm_of_pairwise_apart {pieces : List (List Value)} (h : pieces.Pairwise (t.Apart content)) :
    (pieces.flatMap fun piece => t.rowsWith piece content).Perm
      (t.rowsWith pieces.flatten content) := by
  induction h with
  | nil => simp [rowsWith]
  | @cons piece rest apart _ ih =>
    have whole : (t.rowsWith (piece ++ rest.flatten) content).Perm _ :=
      perm_rowsWith_append piece rest.flatten
    rw [apart_iff_filter_eq.1 (apart_flatten_iff.2 apart)] at whole
    rw [List.flatMap_cons, List.flatten_cons]
    exact (ih.append_left _).trans whole.symm

theorem pairwise_apart_of_nodup {pieces : List (List Value)} (h : pieces.flatten.Nodup) :
    pieces.Pairwise (t.Apart content) :=
  (List.nodup_flatten.1 h).2.imp fun disjoint _ _ key other => disjoint key other

end Table

/-! ## Statements and answers -/

/-- The statement that reads the rows with some keys. -/
def Query.keysSql (d : Dialect) (t : Table) (keys : List Value) : Sql :=
  .plain (t.selectStart ++ " WHERE ") ++ Condition.inPredicate d t.key.sql keys

theorem Query.selectSql_keys {s : Settings} {t : Table}
    (distinct : (t.columns.map Column.field).Nodup) (keys : List Value) :
    (whereOnly (.isIn (Repository.keyOperand t) keys)).selectSql s t =
      .ok (keysSql s.dialect t keys) := by
  have clause : (Condition.isIn (Repository.keyOperand t) keys).whereClause s t =
      .ok (.plain " WHERE " ++ Condition.inPredicate s.dialect t.key.sql keys) := by
    rw [Condition.whereClause, Repository.keyOperand, Condition.filter?_isIn_key distinct]
    rfl
  rw [selectSql_whereOnly clause]
  refine congrArg Except.ok (Sql.eq_of_parts ?_ ?_)
  · simp [keysSql, String.append_assoc]
  · simp [keysSql]

/-- The session answers each statement that reads the rows with some keys with just these rows, in any
order. -/
def Session.AnswersKeys (s : Session σ) (t : Table) (labels : List String) (content : List Row) :
    Prop :=
  ∀ (statement : Sql) (keys : List Value), statement.keys? t.selectStart t.key.sql = some keys →
    ∀ state, ∃ rows next, s.query statement state = (.ok ⟨labels, rows⟩, next) ∧
      rows.Perm (t.rowsWith keys content)

/-- A session whose rows do not change, and that answers nothing else. -/
def Session.ofContent (t : Table) (labels : List String) (content : List Row) : Session Unit where
  query statement _ :=
    match statement.keys? t.selectStart t.key.sql with
    | some keys => (.ok ⟨labels, t.rowsWith keys content⟩, ())
    | none => (.error "not a list of keys", ())
  update _ _ := (.error "read only", ())
  batch? := none
  multiRow := false

theorem Session.answersKeys_ofContent (t : Table) (labels : List String) (content : List Row) :
    (ofContent t labels content).AnswersKeys t labels content := by
  intro statement keys read state
  refine ⟨t.rowsWith keys content, (), ?_, .refl _⟩
  rw [ofContent]
  simp only [read]

theorem ResultSet.perm_elements {labels : List String} {rows rows' : List Row} (t : Table)
    (type : EntityType α) (h : rows.Perm rows') :
    ((⟨labels, rows⟩ : ResultSet).elements t type).Perm
      ((⟨labels, rows'⟩ : ResultSet).elements t type) := by
  unfold elements
  exact h.map _

theorem ResultSet.elements_append (labels : List String) (rows rows' : List Row) (t : Table)
    (type : EntityType α) :
    (⟨labels, rows ++ rows'⟩ : ResultSet).elements t type =
      (⟨labels, rows⟩ : ResultSet).elements t type ++
        (⟨labels, rows'⟩ : ResultSet).elements t type := by
  unfold elements
  exact List.map_append

namespace Repository

variable {r : Repository σ α} {t : Table} {labels : List String} {content : List Row}

theorem read_keys (answers : r.session.AnswersKeys t labels content) (d : Dialect)
    {keys : List Value} (some_key : keys ≠ []) (link : Link σ) :
    ∃ found link', r.read t (Query.keysSql d t keys) link = (.ok found, link') ∧
      found.Perm ((⟨labels, t.rowsWith keys content⟩ : ResultSet).elements t r.type) := by
  have keys_read : (Query.keysSql d t keys).keys? t.selectStart t.key.sql = some keys :=
    Sql.keys?_of_inPredicate d t.selectStart t.key.sql some_key
  obtain ⟨rows, next, answer, perm⟩ := answers _ keys keys_read link.state
  refine ⟨(⟨labels, rows⟩ : ResultSet).elements t r.type,
    ⟨next, link.calls.push (.query (Query.keysSql d t keys))⟩, ?_, ResultSet.perm_elements t r.type perm⟩
  rw [read, Access.bind_apply, Session.sendQuery, Session.send, answer]
  rfl

/-- What is found comes piece by piece. -/
theorem readAll_keys (answers : r.session.AnswersKeys t labels content) (d : Dialect)
    {pieces : List (List Value)} (filled : ∀ piece ∈ pieces, piece ≠ []) (link : Link σ) :
    ∃ found link', r.readAll t (pieces.map (Query.keysSql d t)) link = (.ok found, link') ∧
      found.Perm ((⟨labels, pieces.flatMap fun piece => t.rowsWith piece content⟩ :
        ResultSet).elements t r.type) := by
  induction pieces generalizing link with
  | nil => exact ⟨[], link, rfl, .refl _⟩
  | cons piece rest ih =>
    obtain ⟨found, link', reading, perm⟩ := read_keys answers d (filled piece List.mem_cons_self) link
    obtain ⟨others, final, reading', perm'⟩ :=
      ih (fun keys hkeys => filled keys (List.mem_cons_of_mem piece hkeys)) link'
    refine ⟨found ++ others, final, ?_, ?_⟩
    · rw [List.map_cons, readAll, Access.bind_apply, reading]
      simp only [Access.bind_apply, reading']
      rfl
    · rw [List.flatMap_cons, ResultSet.elements_append]
      exact perm.append perm'

theorem findByIds_eq (h : r.table = .ok t) (distinct : (t.columns.map Column.field).Nodup)
    (ids : List Value) :
    r.findByIds ids = r.readAll t
      ((chunks r.settings.dialect.maxParams ids).map (Query.keysSql r.settings.dialect t)) := by
  unfold findByIds
  split
  · next none =>
    rw [List.isEmpty_iff.1 none]
    rfl
  · rw [h, Access.lift_ok]
    have statements : ((chunks r.settings.dialect.maxParams ids).mapM fun piece =>
        (Query.whereOnly (.isIn (keyOperand t) piece)).selectSql r.settings t) =
          pure ((chunks r.settings.dialect.maxParams ids).map (Query.keysSql r.settings.dialect t)) :=
      mapM_eq_pure fun piece _ => Query.selectSql_keys distinct piece
    funext link
    rw [Access.bind_apply, Access.pure_apply]
    dsimp only
    rw [statements]
    rfl

/-- Rows come once for each piece of the list that has their key. -/
theorem findByIds_keys (h : r.table = .ok t) (distinct : (t.columns.map Column.field).Nodup)
    (answers : r.session.AnswersKeys t labels content) (ids : List Value) (link : Link σ) :
    ∃ found link', r.findByIds ids link = (.ok found, link') ∧
      found.Perm ((⟨labels, (chunks r.settings.dialect.maxParams ids).flatMap fun piece =>
        t.rowsWith piece content⟩ : ResultSet).elements t r.type) := by
  rw [findByIds_eq h distinct]
  have filled : ∀ piece ∈ chunks r.settings.dialect.maxParams ids, piece ≠ [] := fun piece hpiece =>
    ne_nil_of_mem_chunks r.settings.dialect.maxParams_pos hpiece
  exact readAll_keys answers r.settings.dialect filled link

/-! ## The whole list -/

/-- What is found by a list of keys are the rows for its pieces; these are the rows for the whole list,
each of them once, exactly where no row has its key in two pieces, and always when no key is
repeated. -/
theorem find_by_ids_once_iff {s : Settings} {session : Session σ} {type : EntityType α} {t : Table}
    (h : s.table type.decl = .ok t) {labels : List String} {content : List Row}
    (answers : session.AnswersKeys t labels content) (ids : List Value) (link : Link σ) :
    let pieces := chunks s.dialect.maxParams ids
    let once := (⟨labels, t.rowsWith ids content⟩ : ResultSet).elements t type
    ∃ found link', (Repository.of s session type).findByIds ids link = (.ok found, link') ∧
      found.Perm ((⟨labels, pieces.flatMap fun piece => t.rowsWith piece content⟩ :
        ResultSet).elements t type) ∧
      (found.Perm once ↔ pieces.Pairwise (t.Apart content)) ∧
      (ids.Nodup → found.Perm once) := by
  intro pieces once
  obtain ⟨found, link', run, perm⟩ :=
    findByIds_keys (r := Repository.of s session type) h (Settings.distinct_of_table h) answers ids link
  have all : pieces.flatten = ids := flatten_chunks s.dialect.maxParams_pos
  have merged : pieces.Pairwise (t.Apart content) → found.Perm once := by
    intro apart
    have rows := Table.perm_of_pairwise_apart apart
    rw [all] at rows
    exact perm.trans (ResultSet.perm_elements t type rows)
  refine ⟨found, link', run, perm, ⟨fun whole => ?_, merged⟩, fun nodup => merged ?_⟩
  · have same := perm.length_eq.symm.trans whole.length_eq
    simp only [once, ResultSet.elements, List.length_map] at same
    refine Table.pairwise_apart_of_length_le ?_
    rw [all]
    exact Nat.le_of_eq same
  · rw [← all] at nodup
    exact Table.pairwise_apart_of_nodup nodup

/-- Two rows, and a list of keys that takes two statements: what is repeated stays in one of them. -/
theorem find_by_ids_once_iff_items :
    let s := Settings.forDatabase .sqlServer
    let content : List Row := [[.integer 8, .text "ink", .null], [.integer 7, .text "pad", .integer 1]]
    let session := Session.ofContent Sample.items ["id", "name", "qty"] content
    let ids := List.replicate 2100 (Value.integer 7) ++ [.integer 8]
    s.table (EntityType.ofRows Sample.itemDecl).decl = .ok Sample.items ∧
      session.AnswersKeys Sample.items ["id", "name", "qty"] content ∧
      s.dialect.maxParams < ids.length ∧
      ∃ found link', (Repository.of s session (EntityType.ofRows Sample.itemDecl)).findByIds ids
          (.start ()) = (.ok found, link') ∧
        found.Perm content := by
  intro s content session ids
  have table : (Settings.forDatabase .sqlServer).table (EntityType.ofRows Sample.itemDecl).decl =
      .ok Sample.items :=
    rfl
  have answers : session.AnswersKeys Sample.items ["id", "name", "qty"] content :=
    Session.answersKeys_ofContent _ _ _
  have long : s.dialect.maxParams < ids.length := by
    rw [List.length_append, List.length_replicate]
    decide
  obtain ⟨found, link', run, -, once, -⟩ := find_by_ids_once_iff table answers ids (.start ())
  refine ⟨table, answers, long, found, link', run, ?_⟩
  have pieces : chunks s.dialect.maxParams ids =
      [List.replicate 2100 (.integer 7), [.integer 8]] := by
    have full : (List.replicate 2100 (Value.integer 7)).length = 2100 := List.length_replicate
    exact chunks_append (by decide) full [.integer 8]
  have apart : (chunks s.dialect.maxParams ids).Pairwise (Sample.items.Apart content) := by
    rw [pieces, List.pairwise_pair]
    intro row _ key other
    rw [List.eq_of_mem_replicate key] at other
    exact absurd other (by decide)
  have all : Sample.items.rowsWith ids content = content := by
    have seven : Value.integer 7 ∈ ids :=
      List.mem_append_left _ (List.mem_replicate.2 ⟨by decide, rfl⟩)
    have eight : Value.integer 8 ∈ ids := List.mem_append_right _ List.mem_cons_self
    refine List.filter_eq_self.2 (List.forall_mem_cons.2 ⟨decide_eq_true eight, ?_⟩)
    exact List.forall_mem_singleton.2 (decide_eq_true seven)
  have whole := once.2 apart
  rw [all] at whole
  exact whole

/-- One key, 2101 times, brings its row twice from a database that takes 2100 parameters. -/
theorem find_by_ids_twice :
    let s := Settings.forDatabase .sqlServer
    let row : Row := [.integer 7, .text "pad", .integer 1]
    let session := Session.ofContent Sample.items ["id", "name", "qty"] [row]
    let ids := List.replicate 2101 (Value.integer 7)
    s.table Sample.itemDecl = .ok Sample.items ∧
      session.AnswersKeys Sample.items ["id", "name", "qty"] [row] ∧
      (∀ id ∈ ids, id.isNull = false) ∧ (Sample.items.keyValue row).isNull = false ∧
      ∃ found link', (Repository.of s session (EntityType.ofRows Sample.itemDecl)).findByIds ids
          (.start ()) = (.ok found, link') ∧
        found = [row, row] ∧
        ¬ found.Perm ((⟨["id", "name", "qty"], Sample.items.rowsWith ids [row]⟩ : ResultSet).elements
          Sample.items (EntityType.ofRows Sample.itemDecl)) := by
  intro s row session ids
  have table : (Settings.forDatabase .sqlServer).table Sample.itemDecl = .ok Sample.items := rfl
  have answers : session.AnswersKeys Sample.items ["id", "name", "qty"] [row] :=
    Session.answersKeys_ofContent _ _ _
  obtain ⟨found, link', run, perm⟩ :=
    findByIds_keys (r := Repository.of s session (EntityType.ofRows Sample.itemDecl)) table
      (Settings.distinct_of_table table) answers ids (.start ())
  have pieces : chunks s.dialect.maxParams ids = [List.replicate 2100 (.integer 7), [.integer 7]] := by
    have last : ids = List.replicate 2100 (.integer 7) ++ [.integer 7] := List.replicate_succ'
    have full : (List.replicate 2100 (Value.integer 7)).length = 2100 := List.length_replicate
    rw [last]
    exact chunks_append (by decide) full [.integer 7]
  have here : ∀ keys, Value.integer 7 ∈ keys → Sample.items.rowsWith keys [row] = [row] := by
    intro keys hkeys
    have key : Sample.items.keyValue row = .integer 7 := rfl
    simp [Table.rowsWith, key, hkeys]
  have long : Value.integer 7 ∈ List.replicate 2100 (Value.integer 7) :=
    List.mem_replicate.2 ⟨by decide, rfl⟩
  have longer : Value.integer 7 ∈ ids := List.mem_replicate.2 ⟨by decide, rfl⟩
  have rows : (chunks s.dialect.maxParams ids).flatMap
      (fun piece => Sample.items.rowsWith piece [row]) = [row, row] := by
    rw [pieces, List.flatMap_cons, List.flatMap_cons, List.flatMap_nil, here _ long,
      here _ List.mem_cons_self]
    rfl
  have twice : found.Perm (List.replicate 2 row) := by
    show found.Perm ((⟨["id", "name", "qty"], [row, row]⟩ : ResultSet).elements Sample.items
      (EntityType.ofRows Sample.itemDecl))
    rw [← rows]
    exact perm
  have both : found = [row, row] := List.perm_replicate.1 twice
  refine ⟨table, answers, ?_, rfl, found, link', run, both, ?_⟩
  · intro id hid
    rw [List.eq_of_mem_replicate hid]
    rfl
  · intro once
    rw [here ids longer, both] at once
    have lengths : 2 = 1 := once.length_eq
    omega

end Repository

end EntitySql
