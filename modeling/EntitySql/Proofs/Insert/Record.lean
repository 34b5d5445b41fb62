/-
  The reader of inserts: which rows a statement writes, and into which columns.

  The text is `INSERT INTO <table> (<columns>) VALUES <tuples>`. The table ends at the first
  parenthesis and the columns end at the next one, with commas between their names; the tuples are
  read token by token. Each tuple with its parameters is a record of the table, where the first column
  gets the first value, and so on. A text that is run with several lists of parameters is read once
  with each of them.
-/
import EntitySql.Proofs.Outcome
import EntitySql.Proofs.Statement.Token
import EntitySql.Proofs.Text.Characters

namespace EntitySql

/-- A row as a statement writes it, by the names of the columns that it gets values for. -/
structure Record where
  table : String
  cells : List (String × Value)
  deriving DecidableEq

namespace Record

/-- What is written into a column. -/
def value? (r : Record) (column : String) : Option Value := r.cells.lookup column

theorem value?_eq_none_iff {r : Record} {column : String} :
    r.value? column = none ↔ column ∉ r.cells.map Prod.fst := by
  rw [value?, List.lookup_eq_none_iff, List.mem_map, not_exists]
  refine forall_congr' fun cell => ?_
  rw [not_and, bne_iff_ne, ne_eq, eq_comm]

/-- The value in a cell is the value of its column if no two cells have the same one. -/
theorem value?_of_mem {r : Record} {column : String} {value : Value}
    (distinct : (r.cells.map Prod.fst).Nodup) (h : (column, value) ∈ r.cells) :
    r.value? column = some value := by
  obtain ⟨before, behind, hcells⟩ := List.append_of_mem h
  rw [hcells, List.map_append, List.map_cons, List.nodup_append] at distinct
  refine List.lookup_eq_some_iff.2 ⟨before, behind, hcells, fun cell hcell => ?_⟩
  rw [bne_iff_ne]
  exact (distinct.2.2 cell.1 (List.mem_map_of_mem hcell) column List.mem_cons_self).symm

end Record

/-- The name can be found in the text of an insert. -/
def IsPlain (name : String) : Prop :=
  ∀ c ∈ name.toList, c ≠ ',' ∧ c ≠ '(' ∧ c ≠ ')' ∧ c ≠ '?'

instance (name : String) : Decidable (IsPlain name) :=
  List.decidableBAll (fun c => c ≠ ',' ∧ c ≠ '(' ∧ c ≠ ')' ∧ c ≠ '?') name.toList

namespace Record

/-! ## Reading -/

/-- The characters before the first `c` and those behind it. -/
def cutAt (c : Char) : List Char → Option (List Char × List Char)
  | [] => none
  | d :: rest =>
    if d = c then some ([], rest)
    else (cutAt c rest).map fun (before, after) => (d :: before, after)

/-- The names of so many columns. There is a comma and a blank between any two of them. -/
def readNames (count : Nat) (columns : List Char) : Option (List String) :=
  if count = 0 then if columns = [] then some [] else none
  else
    match columns.splitOn ',' with
    | [] => none
    | first :: others =>
      if others.length + 1 = count ∧ ∀ name ∈ others, name.head? = some ' ' then
        some ((first :: others.map List.tail).map String.ofList)
      else none

/-- The values of a tuple behind its opening parenthesis. -/
def readTuple : List Token → Option (List Value × List Token)
  | .closing :: rest => some ([], rest)
  | tokens => readValues tokens

/-- Tuples with commas between them. The first argument bounds their number. -/
def readTuples : Nat → List Token → Option (List (List Value))
  | 0, _ => none
  | fuel + 1, .opening :: rest =>
    match readTuple rest with
    | some (values, []) => some [values]
    | some (values, .comma :: rest) => (readTuples fuel rest).map (values :: ·)
    | _ => none
  | _ + 1, _ => none

/-- The table, the list of columns and the text behind it. Placeholders stand only behind it. -/
def readHead (text : String) : Option (String × List Char × String) := do
  let rest ← "INSERT INTO ".toList.isPrefixOf? text.toList
  let (table, rest) ← cutAt '(' rest
  let (columns, rest) ← cutAt ')' rest
  if table.getLast? = some ' ' ∧ '?' ∉ table ∧ '?' ∉ columns then
    some (String.ofList table.dropLast, columns, String.ofList rest)
  else none

/-- The records that a statement writes, in order. -/
def ofStatement? (statement : Sql) : Option (List Record) := do
  let (table, columns, rest) ← readHead statement.text
  match (⟨rest, statement.params⟩ : Sql).tokens? with
  | some (.word word :: tokens) =>
    if word = "VALUES" then
      let tuples ← readTuples tokens.length tokens
      tuples.mapM fun values => (readNames values.length columns).map fun names =>
        ⟨table, names.zip values⟩
    else none
  | _ => none

def ofWrite? : Write → Option (List Record)
  | .single statement => ofStatement? statement
  | .batch text paramSets =>
    (paramSets.mapM fun params => ofStatement? ⟨text, params⟩).map List.flatten

/-- The records that several writes store one after the other. -/
def ofWrites? (writes : List Write) : Option (List Record) :=
  (writes.mapM ofWrite?).map List.flatten

/-! ## What is read from the parts of an insert -/

theorem cutAt_append {c : Char} {before : List Char} (h : c ∉ before) (behind : List Char) :
    cutAt c (before ++ c :: behind) = some (before, behind) := by
  induction before with
  | nil => rw [List.nil_append, cutAt, if_pos rfl]
  | cons d rest ih =>
    rw [List.mem_cons, not_or] at h
    rw [List.cons_append, cutAt, if_neg fun hd => h.1 hd.symm, ih h.2]
    rfl

/-- An insert up to its tuples. -/
def head (table : String) (names : List String) : String :=
  "INSERT INTO " ++ table ++ " (" ++ ", ".intercalate names ++ ") VALUES "

theorem not_mem_names {names : List String} (plain : ∀ name ∈ names, IsPlain name) {c : Char}
    (hc : c = ')' ∨ c = '?') : c ∉ (", ".intercalate names).toList := by
  intro h
  rcases mem_of_mem_intercalate h with h | ⟨name, hname, h⟩
  · rcases hc with rfl | rfl <;> exact absurd h (by decide)
  · have := plain name hname c h
    rcases hc with rfl | rfl
    · exact this.2.2.1 rfl
    · exact this.2.2.2 rfl

theorem readHead_head {table : String} {names : List String} (plain_table : IsPlain table)
    (plain_names : ∀ name ∈ names, IsPlain name) (rest : String) :
    readHead (head table names ++ rest) =
      some (table, (", ".intercalate names).toList, " VALUES " ++ rest) := by
  have chars : (head table names ++ rest).toList = "INSERT INTO ".toList ++
      ((table.toList ++ [' ']) ++ '(' ::
        ((", ".intercalate names).toList ++ ')' :: (" VALUES " ++ rest).toList)) := by
    show ("INSERT INTO " ++ table ++ " (" ++ ", ".intercalate names ++ ") VALUES " ++ rest).toList = _
    simp [String.toList_append]
  have hprefix := List.isPrefixOf?_eq_some_iff_append_eq.2 chars.symm
  have htable : '(' ∉ table.toList ++ [' '] := by
    rw [List.mem_append, List.mem_singleton, not_or]
    exact ⟨fun h => (plain_table _ h).2.1 rfl, by decide⟩
  have hmark : '?' ∉ table.toList ++ [' '] := by
    rw [List.mem_append, List.mem_singleton, not_or]
    exact ⟨fun h => (plain_table _ h).2.2.2 rfl, by decide⟩
  rw [readHead, hprefix]
  simp only [Option.bind_eq_bind, Option.bind_some, cutAt_append htable,
    cutAt_append (not_mem_names plain_names (.inl rfl)), List.getLast?_concat, List.dropLast_concat,
    String.ofList_toList]
  rw [if_pos ⟨trivial, hmark, not_mem_names plain_names (.inr rfl)⟩]

theorem intercalate_comma_blank (first : List Char) (others : List (List Char)) :
    [',', ' '].intercalate (first :: others) = [','].intercalate (first :: others.map (' ' :: ·)) := by
  induction others generalizing first with
  | nil => rfl
  | cons second others ih =>
    rw [List.intercalate_cons_cons, ih, List.map_cons, List.intercalate_cons_cons]
    cases others <;> simp [List.intercalate_cons_cons]

theorem readNames_intercalate {names : List String} (plain : ∀ name ∈ names, IsPlain name) :
    readNames names.length (", ".intercalate names).toList = some names := by
  cases names with
  | nil => rfl
  | cons first others =>
    have text : (", ".intercalate (first :: others)).toList =
        [','].intercalate (first.toList :: (others.map String.toList).map (' ' :: ·)) := by
      rw [String.toList_intercalate, List.map_cons]
      exact intercalate_comma_blank _ _
    have nocomma : ∀ name ∈ first.toList :: (others.map String.toList).map (' ' :: ·), ',' ∉ name := by
      intro name hname hcomma
      rcases List.mem_cons.1 hname with rfl | hname
      · exact (plain first List.mem_cons_self _ hcomma).1 rfl
      · rw [List.map_map, List.mem_map] at hname
        obtain ⟨other, hother, rfl⟩ := hname
        rcases List.mem_cons.1 hcomma with h | h
        · exact absurd h (by decide)
        · exact (plain other (List.mem_cons_of_mem first hother) _ h).1 rfl
    rw [readNames, List.length_cons, if_neg (Nat.succ_ne_zero _), text,
      List.splitOn_intercalate ',' nocomma (List.cons_ne_nil _ _)]
    dsimp only
    rw [if_pos ⟨by simp, by simp⟩]
    simp [Function.comp_def]

/-! ## Tuples -/

/-- The placeholders of a tuple with their values. -/
def tuple (values : List Value) : Sql :=
  .plain "(" ++ (⟨placeholders values.length, values⟩ ++ .plain ")")

def tuples (rows : List (List Value)) : Sql := .joined ", " (rows.map tuple)

theorem readTuple_tuple (values : List Value) (rest : List Token) :
    readTuple ((values.map Token.value).intersperse .comma ++ .closing :: rest) =
      some (values, rest) := by
  match values with
  | [] => rfl
  | [v] => rfl
  | v :: w :: values => exact readValues_intersperse v (w :: values) rest

theorem tokens?_tuple (values : List Value) :
    (tuple values).tokens? =
      some (.opening :: ((values.map Token.value).intersperse .comma ++ [.closing])) := by
  have opening : (Sql.plain "(").tokens? = some [.opening] := by cbv
  have closing : (Sql.plain ")").tokens? = some [.closing] := by cbv
  exact Sql.tokens?_append (.inl (by decide)) opening
    (Sql.tokens?_append (.inr (by decide)) (Sql.tokens?_placeholders values) closing)

/-- Tuples are read back, one after the other. -/
theorem readTuples_tuples (values : List Value) (rows : List (List Value)) :
    ∃ found, (tuples (values :: rows)).tokens? = some found ∧ rows.length < found.length ∧
      ∀ fuel, rows.length < fuel → readTuples fuel found = some (values :: rows) := by
  induction rows generalizing values with
  | nil =>
    have single : tuples [values] = tuple values := Sql.joined_singleton ", " _
    refine ⟨_, (congrArg Sql.tokens? single).trans (tokens?_tuple values), Nat.succ_pos _, ?_⟩
    intro fuel hfuel
    obtain ⟨n, rfl⟩ : ∃ n, fuel = n + 1 := ⟨fuel - 1, (Nat.sub_add_cancel hfuel).symm⟩
    rw [readTuples, readTuple_tuple]
  | cons next rows ih =>
    obtain ⟨found, htokens, hlength, hread⟩ := ih next
    have comma : (Sql.plain ", ").tokens? = some [.comma] := by cbv
    have joined : tuples (values :: next :: rows) =
        tuple values ++ (.plain ", " ++ tuples (next :: rows)) :=
      Sql.joined_cons_cons ", " _ _ _
    refine ⟨_, joined ▸ Sql.tokens?_append_plain_append (by decide) (by decide)
      (tokens?_tuple values) comma htokens, ?_, ?_⟩
    · simp only [List.length_append, List.length_cons]
      omega
    · intro fuel hfuel
      obtain ⟨n, rfl⟩ : ∃ n, fuel = n + 1 := ⟨fuel - 1, by omega⟩
      have hothers := hread n (by rw [List.length_cons] at hfuel; omega)
      rw [List.cons_append, List.append_assoc, List.singleton_append, readTuples, readTuple_tuple,
        List.singleton_append]
      simp only [hothers, Option.map_some]

/-- An insert is read as one record for each tuple. -/
theorem ofStatement?_head_tuples {table : String} {names : List String} {rows : List (List Value)}
    (plain_table : IsPlain table) (plain_names : ∀ name ∈ names, IsPlain name) (some_row : rows ≠ [])
    (width : ∀ values ∈ rows, values.length = names.length) :
    ofStatement? (.plain (head table names) ++ tuples rows) =
      some (rows.map fun values => ⟨table, names.zip values⟩) := by
  obtain ⟨values, others, rfl⟩ := List.exists_cons_of_ne_nil some_row
  obtain ⟨found, htokens, hlength, hread⟩ := readTuples_tuples values others
  have keyword : (Sql.plain " VALUES ").tokens? = some [.word "VALUES"] := by cbv
  have split : (⟨" VALUES " ++ (tuples (values :: others)).text,
      (tuples (values :: others)).params⟩ : Sql) = .plain " VALUES " ++ tuples (values :: others) :=
    Sql.eq_of_parts rfl rfl
  have tail := Sql.tokens?_append (.inl (by decide)) keyword htokens
  rw [← split] at tail
  rw [ofStatement?, Sql.text_append, Sql.text_plain, readHead_head plain_table plain_names]
  simp only [Option.bind_eq_bind, Option.bind_some, Sql.params_append, Sql.params_plain,
    List.nil_append, tail, List.singleton_append, if_true, hread _ hlength]
  refine mapM_eq_pure fun row hrow => ?_
  rw [width row hrow, readNames_intercalate plain_names]
  rfl

end Record

/-! ## Tuples behind a given text -/

/-- The values of every tuple behind `start`. -/
def Sql.tuples? (start : String) (statement : Sql) : Option (List (List Value)) := do
  let rest ← start.toList.isPrefixOf? statement.text.toList
  let tokens ← (⟨String.ofList rest, statement.params⟩ : Sql).tokens?
  Record.readTuples tokens.length tokens

def Write.tuples? (start : String) : Write → Option (List (List Value))
  | .single statement => statement.tuples? start
  | .batch text paramSets =>
    (paramSets.mapM fun params => (⟨text, params⟩ : Sql).tuples? start).map List.flatten

/-- Whatever text stands in front of tuples, they are read behind it. -/
theorem Sql.tuples?_tuples (start : String) {rows : List (List Value)} (some_row : rows ≠ []) :
    (.plain start ++ Record.tuples rows : Sql).tuples? start = some rows := by
  obtain ⟨values, others, rfl⟩ := List.exists_cons_of_ne_nil some_row
  obtain ⟨found, htokens, hlength, hread⟩ := Record.readTuples_tuples values others
  have behind : (⟨String.ofList (Record.tuples (values :: others)).text.toList,
      (Record.tuples (values :: others)).params⟩ : Sql).tokens? = some found := by
    rwa [String.ofList_toList]
  rw [tuples?, text_append, text_plain, isPrefixOf?_toList_append, params_append, params_plain,
    List.nil_append]
  simp only [Option.bind_eq_bind, Option.bind_some, behind, hread _ hlength]

end EntitySql
