/-
  Camel case loses nothing of regular names.

  A regular name has parts of small letters and digits, which start with a letter and have single
  underscores between them. In camel case every part but the first becomes a word with a capital, and
  if these parts have at least two characters, then snake case finds the words again. So different
  labels of a result never become the same key, and a row has all its cells in the map that it is read
  as (`camel_keeps_columns`).

  Parts of a single letter have to be left out: `a_b_c` is `aBC` in camel case and `a_bc` in snake case.
-/
import EntitySql.Proofs.Naming.Snake
import EntitySql.Result.Mapping

namespace EntitySql.Naming

open Text

/-! ## Regular names -/

/-- The parts of a name between its underscores. -/
def nameParts (name : String) : List (List Char) := name.toList.splitOn '_'

/-- A name in small letters from which camel case can be undone. -/
def IsRegular (name : String) : Prop :=
  (∀ part ∈ nameParts name, isSmall part = true) ∧ ∀ part ∈ (nameParts name).tail, 2 ≤ part.length

instance (name : String) : Decidable (IsRegular name) :=
  inferInstanceAs (Decidable (_ ∧ _))

/-- The part as a word behind another one. -/
def capitalized : List Char → List Char
  | [] => []
  | c :: tail => c.toUpper :: tail

/-- A regular name is its first part and the others with an underscore in front of each. -/
theorem IsRegular.exists_parts {name : String} (h : IsRegular name) :
    ∃ (first : List Char) (others : List (List Char)),
      name.toList = first ++ others.flatMap (['_'] ++ ·) ∧ isSmall first = true ∧
        ∀ part ∈ others, isSmall part = true ∧ 2 ≤ part.length := by
  have joined : ['_'].intercalate (nameParts name) = name.toList := List.intercalate_splitOn '_'
  have some_part : nameParts name ≠ [] := List.splitOn_ne_nil '_' name.toList
  obtain ⟨small, long⟩ := h
  generalize nameParts name = parts at joined some_part small long
  cases parts with
  | nil => exact absurd rfl some_part
  | cons first others =>
    rw [intercalate_cons_eq_flatMap] at joined
    exact ⟨first, others, joined.symm, small first List.mem_cons_self, fun part hpart =>
      ⟨small part (List.mem_cons_of_mem first hpart), long part hpart⟩⟩

/-! ## Camel case -/

variable {tail part : List Char}

theorem ne_underscore_of_isTail {c : Char} (h : isTail c = true) : c ≠ '_' := by
  rintro rfl
  exact absurd h (by decide)

theorem camelFrom_tail (tails : tail.all isTail = true) (rest : List Char) :
    camelFrom true false (tail ++ rest) = tail ++ camelFrom true false rest := by
  induction tail with
  | nil => rfl
  | cons c tail ih =>
    rw [List.all_cons, Bool.and_eq_true] at tails
    rw [List.cons_append, camelFrom, if_neg (ne_underscore_of_isTail tails.1), ih tails.2,
      lowerChar_of_isTail tails.1]
    rfl

/-- The first part stays as it is. -/
theorem camelFrom_first (small : isSmall part = true) (rest : List Char) :
    camelFrom false false (part ++ rest) = part ++ camelFrom true false rest := by
  obtain ⟨c, tail, rfl, letter, tails⟩ := exists_of_isSmall small
  have start := isTail_of_small letter
  rw [List.cons_append, camelFrom, if_neg (ne_underscore_of_isTail start), camelFrom_tail tails,
    lowerChar_of_isTail start]
  rfl

/-- A part behind an underscore gets a capital. -/
theorem camelFrom_next (small : isSmall part = true) (rest : List Char) :
    camelFrom true false ('_' :: (part ++ rest)) = capitalized part ++ camelFrom true false rest := by
  obtain ⟨c, tail, rfl, letter, tails⟩ := exists_of_isSmall small
  have start := isTail_of_small letter
  rw [camelFrom, if_pos rfl, List.cons_append, camelFrom, if_neg (ne_underscore_of_isTail start),
    camelFrom_tail tails, if_pos rfl, upperChar_of_isAscii (isAscii_of_isTail start)]
  rfl

theorem camelFrom_others {others : List (List Char)} (small : ∀ part ∈ others, isSmall part = true) :
    camelFrom true false (others.flatMap (['_'] ++ ·)) = (others.map capitalized).flatten := by
  induction others with
  | nil => rfl
  | cons part others ih =>
    obtain ⟨first, rest⟩ := List.forall_mem_cons.1 small
    rw [List.flatMap_cons, List.append_assoc, List.singleton_append, camelFrom_next first, ih rest,
      List.map_cons, List.flatten_cons]

/-- A regular name has no capitals, so it is never taken for a name in camel case. -/
theorem IsRegular.not_isCamel {name : String} (h : IsRegular name) : isCamel name.toList = false := by
  obtain ⟨first, others, chars, small, smalls⟩ := h.exists_parts
  have no_capital : name.toList.any isUpper = false := by
    rw [List.any_eq_false]
    intro c hc
    rw [chars, List.mem_append, List.mem_flatMap] at hc
    rcases hc with hc | ⟨part, hpart, hc⟩
    · exact Bool.not_eq_true _ ▸ isUpper_eq_false_of_isTail (isTail_of_isSmall small hc)
    · rcases List.mem_cons.1 hc with rfl | hc
      · decide
      · exact Bool.not_eq_true _ ▸
          isUpper_eq_false_of_isTail (isTail_of_isSmall (smalls part hpart).1 hc)
  rw [isCamel, no_capital, Bool.and_false]

/-- In camel case every part but the first is a word with a capital. -/
theorem IsRegular.camel_eq {name : String} (h : IsRegular name) {first : List Char}
    {others : List (List Char)} (chars : name.toList = first ++ others.flatMap (['_'] ++ ·))
    (small : isSmall first = true) (smalls : ∀ part ∈ others, isSmall part = true) :
    camel name = String.ofList (first ++ (others.map capitalized).flatten) := by
  rw [camel, h.not_isCamel, chars, camelFrom_first small, camelFrom_others smalls]
  rfl

/-! ## Back to snake case -/

theorem isHump_capitalized (small : isSmall part = true) (long : 2 ≤ part.length) :
    isHump (capitalized part) = true := by
  obtain ⟨c, tail, rfl, letter, tails⟩ := exists_of_isSmall small
  have capital : c.toUpper.isUpper = true := by simp [Char.isAlpha, letter]
  have some_tail : tail ≠ [] := by
    rintro rfl
    exact Nat.not_succ_le_self 1 long
  rw [capitalized, isHump, capital, tails, List.isEmpty_eq_false_iff.2 some_tail]
  rfl

theorem map_toLower_of_isSmall (small : isSmall part = true) : part.map Char.toLower = part :=
  (List.map_congr_left fun _ hc => Char.toLower_eq_of_not_isUpper
    (not_isUpper_of_isTail (isTail_of_isSmall small hc))).trans part.map_id

theorem map_toLower_capitalized (small : isSmall part = true) :
    (capitalized part).map Char.toLower = part := by
  have same := map_toLower_of_isSmall small
  obtain ⟨c, tail, rfl, letter, tails⟩ := exists_of_isSmall small
  rw [capitalized, List.map_cons, Char.toLower_toUpper_eq_toLower, ← List.map_cons, same]

/-- Words with small letters or digits in them are no acronyms, so they are apart from any other. -/
theorem apart_of_isTail {v w : List Char} {c : Char} (hc : c ∈ v) (h : isTail c = true) :
    Apart v w := by
  intro acronym
  rw [isAcronym, Bool.and_eq_true] at acronym
  exact absurd (List.all_eq_true.1 acronym.2 c hc) (not_isUpper_of_isTail h)

theorem apart_of_isSmall (small : isSmall part = true) (w : List Char) : Apart part w := by
  obtain ⟨c, tail, rfl, letter, -⟩ := exists_of_isSmall small
  exact apart_of_isTail List.mem_cons_self (isTail_of_small letter)

theorem apart_of_isHump {v : List Char} (hump : isHump v = true) (w : List Char) : Apart v w := by
  match v, hump with
  | [c], hump => simp [isHump] at hump
  | c :: d :: tail, hump =>
    rw [isHump, Bool.and_eq_true] at hump
    exact apart_of_isTail (List.mem_cons_of_mem c List.mem_cons_self)
      (List.all_eq_true.1 hump.2 d List.mem_cons_self)

/-- Snake case undoes camel case. -/
theorem IsRegular.snake_camel {name : String} (h : IsRegular name) : snake (camel name) = name := by
  obtain ⟨first, others, chars, small, smalls⟩ := h.exists_parts
  have humps : ∀ w ∈ others.map capitalized, isHump w = true := by
    intro w hw
    obtain ⟨part, hpart, rfl⟩ := List.mem_map.1 hw
    exact isHump_capitalized (smalls part hpart).1 (smalls part hpart).2
  have apart : (first :: others.map capitalized).IsChain Apart := by
    refine (List.pairwise_of_forall_mem_list fun v hv w _ => ?_).isChain
    rcases List.mem_cons.1 hv with rfl | hv
    · exact apart_of_isSmall small w
    · exact apart_of_isHump (humps v hv) w
  have lowered : (first :: others.map capitalized).map (List.map Char.toLower) = first :: others := by
    rw [List.map_cons, map_toLower_of_isSmall small, List.map_map]
    refine congrArg (first :: ·) ((List.map_congr_left fun part hpart => ?_).trans others.map_id)
    exact map_toLower_capitalized (smalls part hpart).1
  rw [snake, h.camel_eq chars small fun part hpart => (smalls part hpart).1, String.toList_ofList,
    snakeFrom_flatten (.inl small) (fun w hw => .inl (humps w hw)) apart, lowered,
    intercalate_cons_eq_flatMap, ← chars, String.ofList_toList]

end EntitySql.Naming

namespace EntitySql.ResultSet

open Naming

/-! ## Maps with renamed keys -/

theorem insertKey_of_not_mem {key : String} (value : Value) {row : KeyedRow}
    (h : key ∉ row.map Prod.fst) : insertKey key value row = row ++ [(key, value)] := by
  induction row with
  | nil => rfl
  | cons entry rest ih =>
    obtain ⟨other, held⟩ := entry
    rw [List.map_cons, List.mem_cons, not_or] at h
    rw [insertKey, if_neg (Ne.symm h.1), ih h.2]
    rfl

theorem foldl_insertKey (row : KeyedRow) {entries : KeyedRow}
    (distinct : ((row ++ entries).map Prod.fst).Nodup) :
    entries.foldl (fun found (key, value) => insertKey key value found) row = row ++ entries := by
  induction entries generalizing row with
  | nil => simp
  | cons entry entries ih =>
    obtain ⟨key, value⟩ := entry
    have fresh : key ∉ row.map Prod.fst := by
      rw [List.map_append, List.map_cons, List.nodup_append] at distinct
      exact fun h => distinct.2.2 _ h _ List.mem_cons_self rfl
    rw [List.append_cons] at distinct ⊢
    show entries.foldl _ (insertKey key value row) = _
    rw [insertKey_of_not_mem value fresh, ih (row ++ [(key, value)]) distinct]

/-- Distinct keys are put into the map one behind the other. -/
theorem keyedRow_of_nodup {keys : List String} (distinct : keys.Nodup) {row : Row}
    (width : row.length = keys.length) : keyedRow keys row = keys.zip row := by
  have keys_eq : (keys.zip row).map Prod.fst = keys := List.map_fst_zip (Nat.le_of_eq width.symm)
  exact foldl_insertKey [] (by rwa [List.nil_append, keys_eq])

theorem lookup_zip {keys : List String} (distinct : keys.Nodup) (row : Row) {i : Nat}
    (h : i < keys.length) : (keys.zip row).lookup keys[i] = row[i]? := by
  induction keys generalizing row i with
  | nil => exact absurd h (Nat.not_lt_zero i)
  | cons key keys ih =>
    obtain ⟨fresh, distinct⟩ := List.nodup_cons.1 distinct
    cases row with
    | nil => rw [List.zip_nil_right]; rfl
    | cons cell row =>
      cases i with
      | zero => simp
      | succ i =>
        have inside : i < keys.length := Nat.lt_of_succ_lt_succ h
        have other : (keys[i] == key) = false :=
          beq_eq_false_iff_ne.2 fun same => fresh (same ▸ List.getElem_mem inside)
        rw [List.zip_cons_cons, List.getElem_cons_succ, List.lookup_cons, other, ih distinct row inside,
          List.getElem?_cons_succ]

/-- The map has the renamed labels as its keys, once each and in order, and under each of them the cell
of its own label. -/
structure KeepsCells (rename : String → String) (labels : List String) (row : Row)
    (entries : KeyedRow) : Prop where
  keys : entries.map Prod.fst = labels.map rename
  distinct : (entries.map Prod.fst).Nodup
  cells : ∀ (i : Nat) (h : i < labels.length), entries.lookup (rename labels[i]) = row[i]?

theorem keepsCells_keyedRow {rename : String → String} {labels : List String}
    (distinct : (labels.map rename).Nodup) {row : Row} (width : row.length = labels.length) :
    KeepsCells rename labels row (keyedRow (labels.map rename) row) := by
  have width' : row.length = (labels.map rename).length := by rw [width, List.length_map]
  have keys : ((labels.map rename).zip row).map Prod.fst = labels.map rename :=
    List.map_fst_zip (Nat.le_of_eq width'.symm)
  rw [keyedRow_of_nodup distinct width']
  refine ⟨keys, by rwa [keys], fun i h => ?_⟩
  have inside : i < (labels.map rename).length := by rwa [List.length_map]
  have key : rename labels[i] = (labels.map rename)[i] := (List.getElem_map rename).symm
  rw [key, lookup_zip distinct row]

/-- **Camel case loses no column.** Snake case undoes it on regular names. So if the labels of a result
are different regular names, and its rows have a cell for each of them, then every row is read as a map
that holds just these cells, each under its own label in camel case and in the order of the labels. -/
theorem camel_keeps_columns :
    (∀ name, IsRegular name →
      NamingPattern.lowerSnake.apply (NamingPattern.camel.apply name) = name) ∧
    ∀ r : ResultSet, (∀ label ∈ r.labels, IsRegular label) → r.labels.Nodup →
      (∀ row ∈ r.rows, row.length = r.labels.length) →
      List.Forall₂ (KeepsCells NamingPattern.camel.apply r.labels) r.rows (r.keyedRows .camel) := by
  have undone : ∀ name, IsRegular name →
      NamingPattern.lowerSnake.apply (NamingPattern.camel.apply name) = name := fun name h =>
    h.snake_camel
  refine ⟨undone, fun r regular distinct width => ?_⟩
  have keys : (r.labels.map NamingPattern.camel.apply).Nodup := by
    refine distinct.map_on fun label hlabel other hother same => ?_
    rw [← undone label (regular label hlabel), same, undone other (regular other hother)]
  rw [keyedRows, List.forall₂_map_right_iff, List.forall₂_same]
  exact fun row hrow => keepsCells_keyedRow keys (width row hrow)

theorem camel_keeps_columns_users :
    let r : ResultSet := ⟨["user_name", "at2_v10", "a_b1"], [[.text "pen", .null, .integer 3]]⟩
    (∀ label ∈ r.labels, IsRegular label) ∧ r.labels.Nodup ∧
      (∀ row ∈ r.rows, row.length = r.labels.length) ∧
      r.labels.map NamingPattern.camel.apply = ["userName", "at2V10", "aB1"] ∧
      NamingPattern.lowerSnake.apply "aB1" = "a_b1" ∧
      List.Forall₂ (KeepsCells NamingPattern.camel.apply r.labels) r.rows (r.keyedRows .camel) := by
  intro r
  have regular : ∀ label ∈ r.labels, IsRegular label := by decide
  have distinct : r.labels.Nodup := by decide
  have width : ∀ row ∈ r.rows, row.length = r.labels.length := by decide
  obtain ⟨undone, kept⟩ := camel_keeps_columns
  have last : NamingPattern.lowerSnake.apply (NamingPattern.camel.apply "a_b1") = "a_b1" :=
    undone "a_b1" (regular "a_b1" (by decide))
  exact ⟨regular, distinct, width, rfl, last, kept r regular distinct width⟩

end EntitySql.ResultSet
