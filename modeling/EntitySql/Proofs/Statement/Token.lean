/-
  Tokens of SQL text, with the parameters in the places of their placeholders.

  A blank ends a word. Parentheses, commas and `?` end a word too, and each of them is a token of its
  own. Every other run of characters is a word, which is a key if SQL gives it a meaning. The texts of
  statements are put together from pieces; `tokens_append` says that the tokens are put together in
  the same way wherever two pieces are kept apart by one of these characters.
-/
import EntitySql.Sql.Basic

namespace EntitySql

/-- The words that SQL gives a meaning in filters. -/
inductive Key where
  | and
  | or
  | isIn
  | between
  | is
  | not
  | null
  | like
  deriving DecidableEq

namespace Key

def text : Key → String
  | .and => "AND"
  | .or => "OR"
  | .isIn => "IN"
  | .between => "BETWEEN"
  | .is => "IS"
  | .not => "NOT"
  | .null => "NULL"
  | .like => "LIKE"

/-- The key that a word is. -/
def ofText? (word : String) : Option Key :=
  [.and, .or, .isIn, .between, .is, .not, .null, .like].find? fun key => key.text = word

end Key

inductive Token where
  | word (text : String)
  | key (k : Key)
  /-- A placeholder with its parameter. -/
  | value (v : Value)
  | comma
  | opening
  | closing
  deriving DecidableEq

def Token.ofWord (word : String) : Token :=
  match Key.ofText? word with
  | some k => .key k
  | none => .word word

/-! ## Texts -/

/-- What a character that ends a word stands for; `none` is a placeholder without its parameter. -/
def separator? : Char → Option (List (Option Token))
  | ' ' => some []
  | ',' => some [some .comma]
  | '(' => some [some .opening]
  | ')' => some [some .closing]
  | '?' => some [none]
  | _ => none

/-- The token of a word, which is no token at all if the word is empty. -/
def finishWord (word : List Char) : List (Option Token) :=
  if word.isEmpty then [] else [some (.ofWord (String.ofList word))]

/-- The tokens of what follows the beginning of a word. -/
def scan (word : List Char) : List Char → List (Option Token)
  | [] => finishWord word
  | c :: rest =>
    match separator? c with
    | some found => finishWord word ++ (found ++ scan [] rest)
    | none => scan (word ++ [c]) rest

/-- The tokens of a text, with gaps for its parameters. -/
def tokens (text : String) : List (Option Token) := scan [] text.toList

/-- The character ends a word. -/
def isSeparator (c : Char) : Bool := (separator? c).isSome

/-- The two texts do not meet in the middle of a word. -/
def Apart (a b : String) : Prop :=
  a.toList.getLast?.any isSeparator ∨ b.toList.head?.all isSeparator

instance (a b : String) : Decidable (Apart a b) :=
  inferInstanceAs (Decidable (_ ∨ _))

/-- The text can stand for one name: it is not empty, nothing in it ends a word, and SQL does not
give it a meaning. -/
def IsName (text : String) : Prop :=
  text ≠ "" ∧ (∀ c ∈ text.toList, c ≠ ' ' ∧ c ≠ '(' ∧ c ≠ ')' ∧ c ≠ ',' ∧ c ≠ '?') ∧
    Key.ofText? text = none

instance (text : String) : Decidable (IsName text) :=
  -- The characters of the text are tried out, not all characters there are.
  letI := List.decidableBAll (fun c => c ≠ ' ' ∧ c ≠ '(' ∧ c ≠ ')' ∧ c ≠ ',' ∧ c ≠ '?') text.toList
  inferInstanceAs (Decidable (_ ∧ _ ∧ _))

theorem scan_nil (word : List Char) : scan word [] = finishWord word := rfl

theorem scan_separator (word : List Char) {c : Char} {found : List (Option Token)}
    (h : separator? c = some found) (rest : List Char) :
    scan word (c :: rest) = finishWord word ++ (found ++ scan [] rest) := by
  rw [scan, h]

theorem scan_letter (word : List Char) {c : Char} (h : separator? c = none) (rest : List Char) :
    scan word (c :: rest) = scan (word ++ [c]) rest := by
  rw [scan, h]

/-- What ends a word in front of `b` does not change how `b` is read. -/
theorem scan_eq_finishWord_append (word : List Char) {b : List Char}
    (h : b.head?.all isSeparator) : scan word b = finishWord word ++ scan [] b := by
  cases b with
  | nil => rw [scan_nil, scan_nil]; simp [finishWord]
  | cons c rest =>
    obtain ⟨found, hfound⟩ := Option.isSome_iff_exists.1 h
    rw [scan_separator word hfound, scan_separator [] hfound]
    simp [finishWord]

theorem scan_append_of_head (word a : List Char) {b : List Char}
    (h : b.head?.all isSeparator) : scan word (a ++ b) = scan word a ++ scan [] b := by
  induction a generalizing word with
  | nil => exact scan_eq_finishWord_append word h
  | cons c rest ih =>
    rw [List.cons_append]
    cases hc : separator? c with
    | none => rw [scan_letter word hc, scan_letter word hc, ih]
    | some found =>
      rw [scan_separator word hc, scan_separator word hc, ih, List.append_assoc, List.append_assoc]

theorem scan_append_of_getLast (word a b : List Char)
    (h : a.getLast?.any isSeparator) :
    scan word (a ++ b) = scan word a ++ scan [] b := by
  obtain ⟨c, hlast, hc⟩ := (Option.any_eq_true ..).1 h
  obtain ⟨front, rfl⟩ := List.getLast?_eq_some_iff.1 hlast
  obtain ⟨found, hfound⟩ := Option.isSome_iff_exists.1 hc
  have head (rest : List Char) : (c :: rest).head?.all isSeparator := hc
  rw [List.append_assoc, List.singleton_append, scan_append_of_head word front (head b),
    scan_append_of_head word front (head []), scan_separator [] hfound, scan_separator [] hfound,
    scan_nil]
  simp [finishWord]

/-- Texts that are kept apart are read one after the other. -/
theorem tokens_append {a b : String} (h : Apart a b) : tokens (a ++ b) = tokens a ++ tokens b := by
  rw [tokens, String.toList_append]
  rcases h with h | h
  · exact scan_append_of_getLast [] a.toList b.toList h
  · exact scan_append_of_head [] a.toList h

theorem separator?_eq_none {c : Char} (h : c ≠ ' ' ∧ c ≠ '(' ∧ c ≠ ')' ∧ c ≠ ',' ∧ c ≠ '?') :
    separator? c = none := by
  unfold separator?
  split <;> simp_all

theorem scan_letters (word : List Char) {a : List Char} (h : ∀ c ∈ a, separator? c = none) :
    scan word a = finishWord (word ++ a) := by
  induction a generalizing word with
  | nil => rw [scan_nil, List.append_nil]
  | cons c rest ih =>
    rw [scan_letter word (h c List.mem_cons_self), ih _ fun d hd => h d (List.mem_cons_of_mem c hd),
      List.append_assoc, List.singleton_append]

theorem Token.ofWord_of_isName {text : String} (h : IsName text) : ofWord text = .word text := by
  rw [ofWord, h.2.2]

/-- A name is read as one word. -/
theorem tokens_of_isName {text : String} (h : IsName text) : tokens text = [some (.word text)] := by
  have letters : ∀ c ∈ text.toList, separator? c = none := fun c hc => separator?_eq_none (h.2.1 c hc)
  have filled : text.toList.isEmpty = false := by
    rw [List.isEmpty_eq_false_iff, ne_eq, String.toList_eq_nil_iff]
    exact h.1
  rw [tokens, scan_letters [] letters, finishWord, List.nil_append, filled, String.ofList_toList,
    Token.ofWord_of_isName h]
  rfl

/-! ## Parameters -/

/-- Puts the parameters into the gaps, of which there must be as many. -/
def fill : List (Option Token) → List Value → Option (List Token)
  | [], [] => some []
  | some token :: rest, params => (fill rest params).map (token :: ·)
  | none :: rest, v :: params => (fill rest params).map (.value v :: ·)
  | _, _ => none

theorem fill_append {gaps gaps' : List (Option Token)} {params params' : List Value}
    {found found' : List Token} (h : fill gaps params = some found)
    (h' : fill gaps' params' = some found') :
    fill (gaps ++ gaps') (params ++ params') = some (found ++ found') := by
  induction gaps, params using fill.induct generalizing found with
  | case1 =>
    rw [fill, Option.some_inj] at h
    rw [← h]
    exact h'
  | case2 token rest params ih =>
    rw [fill, Option.map_eq_some_iff] at h
    obtain ⟨later, hlater, rfl⟩ := h
    rw [List.cons_append, fill, ih hlater]
    rfl
  | case3 rest v params ih =>
    rw [fill, Option.map_eq_some_iff] at h
    obtain ⟨later, hlater, rfl⟩ := h
    rw [List.cons_append, List.cons_append, fill, ih hlater]
    rfl
  | case4 gaps params => simp_all [fill]

namespace Sql

theorem eq_of_parts {a b : Sql} (text : a.text = b.text) (params : a.params = b.params) : a = b := by
  cases a
  cases b
  rw [mk.injEq]
  exact ⟨text, params⟩

theorem append_assoc (a b c : Sql) : a ++ b ++ c = a ++ (b ++ c) :=
  eq_of_parts (String.append_assoc ..) (List.append_assoc ..)

theorem joined_singleton (separator : String) (part : Sql) : joined separator [part] = part := by
  simp [joined]

theorem joined_cons_cons (separator : String) (part next : Sql) (rest : List Sql) :
    joined separator (part :: next :: rest) =
      part ++ (plain separator ++ joined separator (next :: rest)) := by
  refine eq_of_parts ?_ ?_
  · simp only [joined, text_append, text_plain, List.map_cons, String.intercalate_cons_cons,
      String.append_assoc]
  · simp only [joined, params_append, params_plain, List.flatMap_cons, List.nil_append]

/-- The tokens of a statement or of a part of one. -/
def tokens? (s : Sql) : Option (List Token) := fill (tokens s.text) s.params

theorem tokens?_append {a b : Sql} {found found' : List Token} (apart : Apart a.text b.text)
    (ha : a.tokens? = some found) (hb : b.tokens? = some found') :
    (a ++ b).tokens? = some (found ++ found') := by
  rw [tokens?, text_append, params_append, tokens_append apart]
  exact fill_append ha hb

theorem tokens?_name {column : String} (name : IsName column) :
    (plain column).tokens? = some [.word column] := by
  rw [tokens?, text_plain, tokens_of_isName name]
  rfl

/-- A separator stands between two parts. -/
theorem tokens?_append_plain_append {a b : Sql} {separator : String} {found inner found' : List Token}
    (starts : separator.toList.head?.any isSeparator)
    (ends : separator.toList.getLast?.any isSeparator)
    (ha : a.tokens? = some found) (hs : (plain separator).tokens? = some inner)
    (hb : b.tokens? = some found') :
    (a ++ (plain separator ++ b)).tokens? = some (found ++ (inner ++ found')) := by
  refine tokens?_append (.inr ?_) ha (tokens?_append (.inl ends) hs hb)
  obtain ⟨c, hc, hsep⟩ := (Option.any_eq_true ..).1 starts
  rw [text_append, text_plain, String.toList_append, List.head?_append, hc, Option.some_or,
    Option.all_some]
  exact hsep

/-! ## Lists of values -/

theorem placeholders_succ_succ (n : Nat) :
    placeholders (n + 2) = "?" ++ (", " ++ placeholders (n + 1)) := by
  rw [placeholders, List.replicate_succ, List.replicate_succ, String.intercalate_cons_cons,
    ← List.replicate_succ, String.append_assoc]
  rfl

theorem tokens?_placeholders (values : List Value) :
    (⟨placeholders values.length, values⟩ : Sql).tokens? =
      some ((values.map Token.value).intersperse .comma) := by
  match values with
  | [] => cbv
  | [v] => cbv
  | v :: w :: rest =>
    have split : (⟨placeholders (v :: w :: rest).length, v :: w :: rest⟩ : Sql) =
        ⟨"?", [v]⟩ ++ (plain ", " ++ ⟨placeholders (w :: rest).length, w :: rest⟩) :=
      eq_of_parts (placeholders_succ_succ rest.length) rfl
    have first : (⟨"?", [v]⟩ : Sql).tokens? = some [.value v] := by cbv
    have comma : (plain ", ").tokens? = some [.comma] := by cbv
    rw [split, tokens?_append_plain_append (by decide) (by decide) first comma
      (tokens?_placeholders (w :: rest))]
    rfl

end Sql

/-- The values of a list up to its closing parenthesis. The list must not be empty. -/
def readValues : List Token → Option (List Value × List Token)
  | .value v :: .closing :: rest => some ([v], rest)
  | .value v :: .comma :: rest => (readValues rest).map fun (values, rest) => (v :: values, rest)
  | _ => none

theorem readValues_intersperse (v : Value) (values : List Value) (rest : List Token) :
    readValues (((v :: values).map Token.value).intersperse .comma ++ .closing :: rest) =
      some (v :: values, rest) := by
  induction values generalizing v with
  | nil => rfl
  | cons w values ih =>
    rw [List.map_cons, List.map_cons, List.intersperse_cons_cons, ← List.map_cons, List.cons_append,
      List.cons_append, readValues, ih]
    rfl

end EntitySql
