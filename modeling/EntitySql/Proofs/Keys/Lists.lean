/-
  The reader of statements that name rows by their keys.

  Such a statement asks behind WHERE whether the key is in a list of values, or in one of several lists
  that stand in parentheses with OR between them. What is in front of WHERE and how the key column is
  written are known, so they may be any texts; behind them the reader takes one parameter for each
  placeholder. In whatever pieces a list of keys is written, all of it is read
  (`keys?_of_inPredicate`).
-/
import EntitySql.Proofs.Condition.Rendering
import EntitySql.Proofs.Entity.Validity
import EntitySql.Proofs.Statement.Token
import EntitySql.Proofs.Text.Characters

namespace EntitySql

namespace Keys

/-! ## Reading -/

/-- What has been read, and the characters and the parameters that are left. -/
abbrev Found := List Value × List Char × List Value

/-- Placeholders with commas between them up to the closing parenthesis, with their parameters. -/
def readMarks : List Char → List Value → Option Found
  | '?' :: ')' :: rest, v :: params => some ([v], rest, params)
  | '?' :: ',' :: ' ' :: rest, v :: params =>
    (readMarks rest params).map fun (values, rest) => (v :: values, rest)
  | _, _ => none

/-- One list of values that the column is compared with. -/
def readList (column text : List Char) (params : List Value) : Option Found := do
  let rest ← (column ++ " IN (".toList).isPrefixOf? text
  readMarks rest params

/-- Lists with OR between them up to the closing parenthesis. The first argument bounds their
number. -/
def readLists (column : List Char) : Nat → List Char → List Value → Option Found
  | 0, _, _ => none
  | fuel + 1, text, params =>
    match readList column text params with
    | some (values, ')' :: rest, params) => some (values, rest, params)
    | some (values, text, params) => do
      let rest ← " OR ".toList.isPrefixOf? text
      let (others, rest) ← readLists column fuel rest params
      return (values ++ others, rest)
    | none => none

/-- The values of a list, or of several lists in parentheses, if nothing else is there. -/
def readPredicate (column text : List Char) (params : List Value) : Option (List Value) :=
  match readList column text params with
  | some (values, [], []) => some values
  | _ =>
    match text with
    | '(' :: rest =>
      match readLists column params.length rest params with
      | some (values, [], []) => some values
      | _ => none
    | _ => none

end Keys

/-- The values that a statement compares the column with, behind `start` and WHERE. -/
def Sql.keys? (start column : String) (statement : Sql) : Option (List Value) := do
  let rest ← (start ++ " WHERE ").toList.isPrefixOf? statement.text.toList
  Keys.readPredicate column.toList rest statement.params

namespace Keys

/-! ## What is read from a list -/

theorem readMarks_placeholders (v : Value) (values : List Value) (rest : List Char)
    (params : List Value) :
    readMarks ((placeholders (values.length + 1)).toList ++ ')' :: rest) (v :: (values ++ params)) =
      some (v :: values, rest, params) := by
  induction values generalizing v with
  | nil =>
    have one : (placeholders 1).toList = ['?'] := by decide
    rw [List.length_nil, one]
    rfl
  | cons w values ih =>
    have marks : (placeholders (values.length + 2)).toList =
        '?' :: ',' :: ' ' :: (placeholders (values.length + 1)).toList := by
      rw [Sql.placeholders_succ_succ]
      simp [String.toList_append]
    rw [List.length_cons, marks, List.cons_append, List.cons_append, List.cons_append, readMarks,
      List.cons_append, ih]
    rfl

/-- The text of a list, character by character. -/
theorem text_inList (column : String) (values : List Value) :
    (Condition.inList column values).text.toList =
      (column.toList ++ " IN (".toList) ++ ((placeholders values.length).toList ++ [')']) := by
  simp [Condition.inList, String.toList_append]

theorem readList_inList (column : String) {values : List Value} (some_value : values ≠ [])
    (rest : List Char) (params : List Value) :
    readList column.toList ((Condition.inList column values).text.toList ++ rest)
      (values ++ params) = some (values, rest, params) := by
  obtain ⟨v, values, rfl⟩ := List.exists_cons_of_ne_nil some_value
  unfold readList
  rw [text_inList, List.append_assoc, isPrefixOf?_append]
  simp only [Option.bind_eq_bind, Option.bind_some, List.append_assoc, List.length_cons,
    List.cons_append]
  exact readMarks_placeholders v values rest params

/-- A list does not start with a parenthesis in front of its column, whatever the column is. -/
theorem readList_parenthesis (column rest : List Char) (params : List Value) :
    readList column ('(' :: (column ++ ' ' :: rest)) params = none := by
  have other : (column ++ " IN (".toList).isPrefixOf? ('(' :: (column ++ ' ' :: rest)) = none := by
    cases h : (column ++ " IN (".toList).isPrefixOf? ('(' :: (column ++ ' ' :: rest)) with
    | none => rfl
    | some behind =>
      -- Cut at one place behind the column, the two texts differ in how many blanks they have.
      have same := List.isPrefixOf?_eq_some_iff_append_eq.1 h
      have front := congrArg (List.take (column.length + 1)) same
      have left : (column ++ " IN (".toList ++ behind).take (column.length + 1) = column ++ [' '] := by
        simp [List.take_append, List.take_of_length_le]
      have right : ('(' :: (column ++ ' ' :: rest)).take (column.length + 1) = '(' :: column := by
        simp
      rw [left, right] at front
      have blanks := congrArg (List.count ' ') front
      simp at blanks
  unfold readList
  rw [other]
  rfl

/-! ## What is read from several lists -/

theorem readLists_last (column : String) {values : List Value} (some_value : values ≠ [])
    (fuel : Nat) (rest : List Char) (params : List Value) :
    readLists column.toList (fuel + 1) ((Condition.inList column values).text.toList ++ ')' :: rest)
      (values ++ params) = some (values, rest, params) := by
  rw [readLists, readList_inList column some_value]
  rfl

theorem readLists_next (column : String) {values others : List Value} (some_value : values ≠ [])
    {fuel : Nat} {text rest : List Char} {params params' : List Value}
    (h : readLists column.toList fuel text params = some (others, rest, params')) :
    readLists column.toList (fuel + 1)
      ((Condition.inList column values).text.toList ++ (" OR ".toList ++ text)) (values ++ params) =
        some (values ++ others, rest, params') := by
  have behind := isPrefixOf?_append " OR ".toList text
  rw [readLists, readList_inList column some_value]
  show ((" OR ".toList.isPrefixOf? (" OR ".toList ++ text)).bind fun rest =>
    (readLists column.toList fuel rest params).bind fun (others, rest) =>
      some (values ++ others, rest)) = _
  rw [behind, Option.bind_some, h]
  rfl

/-- The lists are read one after the other, whatever may follow the parenthesis behind them. -/
theorem readLists_joined (column : String) {list : List Value} {lists : List (List Value)}
    (filled : ∀ values ∈ list :: lists, values ≠ []) (rest : List Char) (params : List Value)
    (fuel : Nat) (enough : (list :: lists).flatten.length ≤ fuel) :
    readLists column.toList fuel
      ((Sql.joined " OR " ((list :: lists).map (Condition.inList column))).text.toList ++ ')' :: rest)
      ((list :: lists).flatten ++ params) = some ((list :: lists).flatten, rest, params) := by
  induction lists generalizing list fuel with
  | nil =>
    have some_value := filled list List.mem_cons_self
    have := List.length_pos_iff.2 some_value
    rw [List.flatten_singleton] at enough ⊢
    obtain ⟨n, rfl⟩ : ∃ n, fuel = n + 1 := ⟨fuel - 1, by omega⟩
    rw [List.map_singleton, Sql.joined_singleton]
    exact readLists_last column some_value n rest params
  | cons next lists ih =>
    have some_value := filled list List.mem_cons_self
    have := List.length_pos_iff.2 some_value
    rw [List.flatten_cons, List.length_append] at enough
    -- Each list takes at least one of the values, and these bound the number of lists.
    obtain ⟨n, rfl⟩ : ∃ n, fuel = n + 1 := ⟨fuel - 1, by omega⟩
    have others := ih (fun values hvalues => filled values (List.mem_cons_of_mem list hvalues)) n
      (by omega)
    have whole := readLists_next column some_value others
    rw [List.map_cons, List.map_cons, Sql.joined_cons_cons, Sql.text_append, Sql.text_append,
      Sql.text_plain, String.toList_append, String.toList_append, List.append_assoc,
      List.append_assoc, List.flatten_cons, List.append_assoc]
    exact whole

/-! ## What is read from a predicate -/

/-- The first of several lists starts with the column. -/
theorem exists_text_joined (column : String) (list : List Value) (lists : List (List Value)) :
    ∃ more, (Sql.joined " OR " ((list :: lists).map (Condition.inList column))).text.toList =
      column.toList ++ ' ' :: more := by
  have first : ∃ more, (Condition.inList column list).text.toList = column.toList ++ ' ' :: more :=
    ⟨_, by rw [text_inList, List.append_assoc]; rfl⟩
  cases lists with
  | nil =>
    rw [List.map_singleton, Sql.joined_singleton]
    exact first
  | cons next lists =>
    obtain ⟨more, hmore⟩ := first
    rw [List.map_cons, List.map_cons, Sql.joined_cons_cons, Sql.text_append, String.toList_append,
      hmore, List.append_assoc, List.cons_append]
    exact ⟨_, rfl⟩

theorem readPredicate_inPredicate (d : Dialect) (column : String) {values : List Value}
    (some_value : values ≠ []) :
    readPredicate column.toList (Condition.inPredicate d column values).text.toList values =
      some values := by
  unfold readPredicate
  rcases Condition.inPredicate_cases d column values with
    ⟨rfl, -⟩ | ⟨-, h⟩ | ⟨lists, some_list, filled, rfl, h⟩
  · exact absurd rfl some_value
  · have single := readList_inList column some_value [] []
    rw [List.append_nil, List.append_nil] at single
    rw [h, single]
  · obtain ⟨list, lists, rfl⟩ := List.exists_cons_of_ne_nil some_list
    have several := readLists_joined column filled [] [] _ (Nat.le_refl _)
    obtain ⟨more, hmore⟩ := exists_text_joined column list lists
    have text : (Condition.inPredicate d column (list :: lists).flatten).text.toList =
        '(' :: ((Sql.joined " OR " ((list :: lists).map (Condition.inList column))).text.toList ++
          [')']) := by
      rw [h, Sql.text_append, Sql.text_append, String.toList_append, String.toList_append]
      rfl
    have outside : readList column.toList
        ('(' :: ((Sql.joined " OR " ((list :: lists).map (Condition.inList column))).text.toList ++
          [')'])) (list :: lists).flatten = none := by
      rw [hmore, List.append_assoc, List.cons_append]
      exact readList_parenthesis _ _ _
    rw [List.append_nil] at several
    rw [text, outside]
    simp only [several]

end Keys

/-! ## Conditions on the key -/

namespace Condition

theorem params_inPredicate (d : Dialect) (column : String) (values : List Value) :
    (inPredicate d column values).params = values := by
  obtain ⟨lists, all, -, -, written⟩ := inPredicate_eq_inLists d column values
  rw [written, params_inLists, all]

variable {s : Settings} {t : Table}

/-- The filter for the rows with one of several keys. -/
theorem filter?_isIn_key (distinct : (t.columns.map Column.field).Nodup) (keys : List Value) :
    (isIn (.field t.key.field) keys).filter? s t [] =
      .ok (some (inPredicate s.dialect t.key.sql keys)) := by
  have key : Operand.sql s t (.field t.key.field) = .ok t.key.sql := by
    rw [Operand.sql, Table.field_key distinct]
    rfl
  exact filter?_eq_ok.2 ⟨_, render_isIn_eq_ok.2 ⟨t.key.sql, key, rfl⟩, rfl⟩

end Condition

/-- However a list of keys is written, all of it is read, in order. -/
theorem Sql.keys?_of_inPredicate (d : Dialect) (start column : String) {values : List Value}
    (some_value : values ≠ []) :
    (Sql.plain (start ++ " WHERE ") ++ Condition.inPredicate d column values).keys? start column =
      some values := by
  unfold Sql.keys?
  rw [Sql.text_append, Sql.text_plain, isPrefixOf?_toList_append, Sql.params_append,
    Sql.params_plain, List.nil_append, Condition.params_inPredicate]
  exact Keys.readPredicate_inPredicate d column some_value

example : Sql.keys? "DELETE FROM Item" "id"
    ⟨"DELETE FROM Item WHERE (id IN (?, ?) OR id IN (?))", [.integer 1, .integer 2, .integer 1]⟩ =
      some [.integer 1, .integer 2, .integer 1] := by decide

end EntitySql
