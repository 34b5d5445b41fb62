/-
  Snake case finds the words of a name.

  A word is a capital and a small letter with small letters and digits behind them, or an acronym of
  capitals only; the first word may be in small letters throughout. The words of a name are told apart
  by their first letters alone, unless two acronyms meet, which no rule could keep apart. Where none
  meet, a name in snake case is its words with an underscore between any two of them
  (`snake_joins_words`).

  Whether a capital starts a word depends on the character before it and on the one behind it. So the
  rest of a word is read together with the start of what follows (`snakeFrom_tail`), and the words are
  added one by one behind a word that ends in a known character (`snakeFrom_words`).
-/
import EntitySql.Naming.Pattern
import EntitySql.Proofs.Text.Characters
import Mathlib

namespace EntitySql.Naming

open Text

/-! ## Letters -/

section Letters

variable {c : Char}

theorem isAscii_of_capital (h : c.isUpper = true) : isAscii c = true :=
  isAscii_of_isAlphanum (by simp [Char.isAlphanum, Char.isAlpha, h])

theorem isUpper_of_capital (h : c.isUpper = true) : isUpper c = true := by
  rw [isUpper, if_pos (isAscii_of_capital h), h]

theorem isLower_eq_false_of_capital (h : c.isUpper = true) : isLower c = false := by
  rw [isLower, if_pos (isAscii_of_capital h)]
  exact Bool.eq_false_iff.2 (Char.not_isLower_of_isUpper h)

theorem lowerChar_of_capital (h : c.isUpper = true) : lowerChar c = [c.toLower] :=
  lowerChar_of_isAscii (isAscii_of_capital h)

/-- Small letters and digits go on with the word before them. -/
def isTail (c : Char) : Bool := c.isLower || c.isDigit

theorem isAscii_of_isTail (h : isTail c = true) : isAscii c = true := by
  refine isAscii_of_isAlphanum ?_
  rw [isTail, Bool.or_eq_true] at h
  rcases h with h | h <;> simp [Char.isAlphanum, Char.isAlpha, h]

theorem not_isUpper_of_isTail (h : isTail c = true) : ¬ c.isUpper = true := by
  rw [isTail, Bool.or_eq_true] at h
  rcases h with h | h
  · exact Char.not_isUpper_of_isLower h
  · intro capital
    simp only [Char.isUpper, Char.isDigit, ge_iff_le, Bool.and_eq_true, decide_eq_true_eq,
      UInt32.le_iff_toNat_le] at h capital
    exact absurd (Nat.le_trans capital.1 h.2) (by decide)

theorem isUpper_eq_false_of_isTail (h : isTail c = true) : isUpper c = false := by
  rw [isUpper, if_pos (isAscii_of_isTail h)]
  exact Bool.eq_false_iff.2 (not_isUpper_of_isTail h)

theorem lowerChar_of_isTail (h : isTail c = true) : lowerChar c = [c] := by
  rw [lowerChar_of_isAscii (isAscii_of_isTail h),
    Char.toLower_eq_of_not_isUpper (not_isUpper_of_isTail h)]

theorem isTail_of_small (h : c.isLower = true) : isTail c = true := by
  rw [isTail, h, Bool.true_or]

theorem isLower_of_small (h : c.isLower = true) : isLower c = true := by
  rw [isLower, if_pos (isAscii_of_isTail (isTail_of_small h)), h]

end Letters

/-! ## Words -/

/-- Small letters and digits, starting with a letter. -/
def isSmall : List Char → Bool
  | [] => false
  | c :: tail => c.isLower && tail.all isTail

/-- A capital and a small letter, with small letters and digits behind them. -/
def isCapitalized : List Char → Bool
  | c :: second :: tail => c.isUpper && second.isLower && tail.all isTail
  | _ => false

/-- Nothing but capitals. -/
def isAcronym (word : List Char) : Bool := !word.isEmpty && word.all Char.isUpper

/-- The words of a name, in order. Only the first one may be in small letters throughout, and no two
acronyms meet. -/
structure AreWords (words : List String) : Prop where
  first : ∀ word ∈ words.head?, isSmall word.toList ∨ isCapitalized word.toList ∨ isAcronym word.toList
  others : ∀ word ∈ words.tail, isCapitalized word.toList ∨ isAcronym word.toList
  apart : words.IsChain fun v w => ¬ (isAcronym v.toList ∧ isAcronym w.toList)

/-- A capital with small letters and digits behind it, at least one of them. -/
def isHump : List Char → Bool
  | [] => false
  | c :: tail => c.isUpper && !tail.isEmpty && tail.all isTail

/-- What can stand behind another word. -/
def IsNext (word : List Char) : Prop := isHump word = true ∨ isAcronym word = true

/-- The second letter is small, so that the first one starts a word behind any other. -/
def hasSmallSecond : List Char → Bool
  | _ :: second :: _ => second.isLower
  | _ => false

/-- The start of the second word can be told behind the first one. -/
def Apart (v w : List Char) : Prop := isAcronym v → hasSmallSecond w

theorem isHump_of_isCapitalized {word : List Char} (h : isCapitalized word = true) :
    isHump word = true ∧ hasSmallSecond word = true := by
  match word, h with
  | c :: second :: tail, h =>
    rw [isCapitalized, Bool.and_eq_true, Bool.and_eq_true] at h
    obtain ⟨⟨capital, small⟩, tails⟩ := h
    refine ⟨?_, small⟩
    rw [isHump, capital, List.all_cons, isTail_of_small small, tails]
    rfl

theorem exists_of_isSmall {part : List Char} (h : isSmall part = true) :
    ∃ c tail, part = c :: tail ∧ c.isLower = true ∧ tail.all isTail = true := by
  match part, h with
  | c :: tail, h =>
    rw [isSmall, Bool.and_eq_true] at h
    exact ⟨c, tail, rfl, h.1, h.2⟩

theorem isTail_of_isSmall {part : List Char} (h : isSmall part = true) {c : Char} (hc : c ∈ part) :
    isTail c = true := by
  obtain ⟨d, tail, rfl, letter, tails⟩ := exists_of_isSmall h
  rcases List.mem_cons.1 hc with rfl | hc
  · exact isTail_of_small letter
  · exact List.all_eq_true.1 tails c hc

theorem IsNext.exists_capital {word : List Char} (h : IsNext word) :
    ∃ c tail, word = c :: tail ∧ c.isUpper = true := by
  match word, h with
  | c :: tail, .inl hump =>
    rw [isHump, Bool.and_eq_true, Bool.and_eq_true] at hump
    exact ⟨c, tail, rfl, hump.1.1⟩
  | c :: tail, .inr acronym =>
    rw [isAcronym, List.all_cons, Bool.and_eq_true, Bool.and_eq_true] at acronym
    exact ⟨c, tail, rfl, acronym.2.1⟩

/-! ## The rest of a word -/

variable {p c : Char} {tail rest : List Char}

/-- Small letters and digits start no word. -/
theorem snakeFrom_tail (tails : tail.all isTail = true) (p : Char) (rest : List Char) :
    snakeFrom (some p) (tail ++ rest) =
      tail.map Char.toLower ++ snakeFrom (some (tail.getLastD p)) rest := by
  induction tail generalizing p with
  | nil => rfl
  | cons c tail ih =>
    rw [List.all_cons, Bool.and_eq_true] at tails
    have stays : ∀ next, startsWord (some p) c next = false := fun next => by
      rw [startsWord, isUpper_eq_false_of_isTail tails.1, Bool.false_and]
    rw [List.cons_append, snakeFrom, stays, ih tails.2, List.getLastD_cons, List.map_cons,
      lowerChar_of_isTail tails.1, Char.toLower_eq_of_not_isUpper (not_isUpper_of_isTail tails.1)]
    rfl

/-- Behind a small letter or a digit, every capital starts a word. -/
theorem startsWord_tail (h : isTail p = true) (capital : c.isUpper = true) (next : Option Char) :
    startsWord (some p) c next = true := by
  rw [isTail, Bool.or_eq_true] at h
  rcases h with small | digit
  · simp [startsWord, isUpper_of_capital capital, isLower_of_small small]
  · simp [startsWord, isUpper_of_capital capital, digit]

/-- Behind a capital, another one starts a word only in front of a small letter. -/
theorem startsWord_capital (capital : p.isUpper = true) (c : Char) (next : Option Char) :
    startsWord (some p) c next = (isUpper c && next.any isLower) := by
  have no_digit : p.isDigit = false := by
    refine Bool.eq_false_iff.2 fun digit => not_isUpper_of_isTail (c := p) ?_ capital
    rw [isTail, digit, Bool.or_true]
  rw [startsWord, isLower_eq_false_of_capital capital, isUpper_of_capital capital, no_digit]
  rfl

/-- Capitals start no word behind a capital if no small letter follows. -/
theorem snakeFrom_capitals (capitals : tail.all Char.isUpper = true) (capital : p.isUpper = true)
    (next : rest.head?.any isLower = false) :
    snakeFrom (some p) (tail ++ rest) =
      tail.map Char.toLower ++ snakeFrom (some (tail.getLastD p)) rest := by
  induction tail generalizing p with
  | nil => rfl
  | cons c tail ih =>
    rw [List.all_cons, Bool.and_eq_true] at capitals
    have next' : (tail ++ rest).head?.any isLower = false := by
      cases tail with
      | nil => exact next
      | cons d tail =>
        have capitals' := capitals.2
        rw [List.all_cons, Bool.and_eq_true] at capitals'
        exact isLower_eq_false_of_capital capitals'.1
    rw [List.cons_append, snakeFrom, startsWord_capital capital, next', ih capitals.2 capitals.1,
      List.getLastD_cons, List.map_cons, lowerChar_of_capital capitals.1, Bool.and_false]
    rfl

/-- Behind its first letter a word goes on up to the next one. -/
theorem snakeFrom_rest (word : isSmall (c :: tail) = true ∨ IsNext (c :: tail))
    (next : rest.head?.any isLower = false) :
    snakeFrom (some c) (tail ++ rest) =
      tail.map Char.toLower ++ snakeFrom (some (tail.getLastD c)) rest := by
  rcases word with small | hump | acronym
  · rw [isSmall, Bool.and_eq_true] at small
    exact snakeFrom_tail small.2 c rest
  · rw [isHump, Bool.and_eq_true] at hump
    exact snakeFrom_tail hump.2 c rest
  · rw [isAcronym, List.all_cons, Bool.and_eq_true, Bool.and_eq_true] at acronym
    exact snakeFrom_capitals acronym.2.2 acronym.2.1 next

/-! ## The next words -/

/-- A word ends with a small letter or a digit unless it is an acronym. -/
theorem last_of_word (word : isSmall (c :: tail) = true ∨ IsNext (c :: tail)) :
    isTail (tail.getLastD c) = true ∨
      isAcronym (c :: tail) = true ∧ (tail.getLastD c).isUpper = true := by
  have last : tail.getLastD c ∈ c :: tail := List.getLastD_mem_cons
  rcases word with small | hump | acronym
  · exact .inl (isTail_of_isSmall small last)
  · rw [isHump, Bool.and_eq_true, Bool.and_eq_true] at hump
    cases tail with
    | nil => exact absurd hump.1.2 (by decide)
    | cons d tail =>
      rw [List.getLastD_cons]
      exact .inl (List.all_eq_true.1 hump.2 _ List.getLastD_mem_cons)
  · refine .inr ⟨acronym, ?_⟩
    rw [isAcronym, Bool.and_eq_true] at acronym
    exact List.all_eq_true.1 acronym.2 _ last

/-- The capital of a word starts it, whatever the word before it ends with. -/
theorem startsWord_of_apart (word : isSmall (c :: tail) = true ∨ IsNext (c :: tail)) {d : Char}
    {tail' : List Char} (apart : Apart (c :: tail) (d :: tail')) (capital : d.isUpper = true)
    (rest : List Char) : startsWord (some (tail.getLastD c)) d (tail' ++ rest).head? = true := by
  rcases last_of_word word with last | ⟨acronym, last⟩
  · exact startsWord_tail last capital _
  · rw [startsWord_capital last, isUpper_of_capital capital, Bool.true_and]
    have second := apart acronym
    cases tail' with
    | nil => cases second
    | cons e tail' => exact isLower_of_small second

/-- Words behind a word get an underscore in front of each. -/
theorem snakeFrom_words {words : List (List Char)}
    (word : isSmall (c :: tail) = true ∨ IsNext (c :: tail)) (others : ∀ w ∈ words, IsNext w)
    (apart : ((c :: tail) :: words).IsChain Apart) :
    snakeFrom (some c) (tail ++ words.flatten) =
      tail.map Char.toLower ++ words.flatMap fun w => '_' :: w.map Char.toLower := by
  induction words generalizing c tail with
  | nil =>
    rw [List.flatten_nil, snakeFrom_rest word rfl]
    rfl
  | cons w words ih =>
    obtain ⟨next, rest⟩ := List.forall_mem_cons.1 others
    obtain ⟨d, tail', rfl, capital⟩ := next.exists_capital
    rw [List.isChain_cons_cons] at apart
    have start : ((d :: tail') ++ words.flatten).head?.any isLower = false :=
      isLower_eq_false_of_capital capital
    rw [List.flatten_cons, snakeFrom_rest word start, List.cons_append, snakeFrom,
      startsWord_of_apart word apart.1 capital, lowerChar_of_capital capital,
      ih (.inr next) rest apart.2]
    rfl

theorem intercalate_cons_eq_flatMap {α : Type} (separator first : List α) (others : List (List α)) :
    separator.intercalate (first :: others) = first ++ others.flatMap (separator ++ ·) := by
  induction others generalizing first with
  | nil => simp
  | cons second others ih =>
    rw [List.intercalate_cons_cons, ih, List.flatMap_cons, List.append_assoc, List.append_assoc]

/-- The words of a name in snake case have underscores between them. -/
theorem snakeFrom_flatten {word : List Char} {words : List (List Char)}
    (first : isSmall word = true ∨ IsNext word) (others : ∀ w ∈ words, IsNext w)
    (apart : (word :: words).IsChain Apart) :
    snakeFrom none (word ++ words.flatten) =
      ['_'].intercalate ((word :: words).map (List.map Char.toLower)) := by
  obtain ⟨c, tail, rfl, ascii⟩ : ∃ c tail, word = c :: tail ∧ lowerChar c = [c.toLower] := by
    rcases first with small | next
    · obtain ⟨c, tail, rfl, letter, -⟩ := exists_of_isSmall small
      exact ⟨c, tail, rfl, lowerChar_of_isAscii (isAscii_of_isTail (isTail_of_small letter))⟩
    · obtain ⟨c, tail, rfl, capital⟩ := next.exists_capital
      exact ⟨c, tail, rfl, lowerChar_of_capital capital⟩
  have no_start : ∀ next, startsWord none c next = false := fun _ => Bool.and_false _
  rw [List.cons_append, snakeFrom, no_start, ascii, snakeFrom_words first others apart, List.map_cons,
    intercalate_cons_eq_flatMap, List.flatMap_map]
  rfl

/-- What a word is made of is a small letter or a digit in lower case. -/
theorem isTail_toLower {word : List Char} (h : isSmall word = true ∨ IsNext word) {c : Char}
    (hc : c ∈ word) : isTail c.toLower = true := by
  have of_capital : ∀ {d : Char}, d.isUpper = true → isTail d.toLower = true := fun capital =>
    isTail_of_small (by simp [Char.isAlpha, capital])
  have of_tail : ∀ {d : Char}, isTail d = true → isTail d.toLower = true := fun h => by
    rwa [Char.toLower_eq_of_not_isUpper (not_isUpper_of_isTail h)]
  match word, h with
  | word, .inl small => exact of_tail (isTail_of_isSmall small hc)
  | d :: tail, .inr (.inl hump) =>
    rw [isHump, Bool.and_eq_true, Bool.and_eq_true] at hump
    rcases List.mem_cons.1 hc with rfl | hc
    · exact of_capital hump.1.1
    · exact of_tail (List.all_eq_true.1 hump.2 c hc)
  | word, .inr (.inr acronym) =>
    rw [isAcronym, Bool.and_eq_true] at acronym
    exact of_capital (List.all_eq_true.1 acronym.2 c hc)

/-! ## Main result -/

/-- Words as lists of characters. -/
theorem AreWords.lists {word : String} {words : List String} (h : AreWords (word :: words)) :
    (isSmall word.toList = true ∨ IsNext word.toList) ∧
      (∀ w ∈ words.map String.toList, IsNext w) ∧
      (word.toList :: words.map String.toList).IsChain Apart := by
  have others : ∀ w ∈ words, IsNext w.toList := fun w hw =>
    (h.others w hw).imp (fun capitalized => (isHump_of_isCapitalized capitalized).1) id
  refine ⟨?_, ?_, ?_⟩
  · rcases h.first word rfl with small | capitalized | acronym
    · exact .inl small
    · exact .inr (.inl (isHump_of_isCapitalized capitalized).1)
    · exact .inr (.inr acronym)
  · intro w hw
    obtain ⟨name, hname, rfl⟩ := List.mem_map.1 hw
    exact others name hname
  · rw [← List.map_cons, List.isChain_map]
    refine h.apart.imp_of_mem_tail_imp fun v w _ hw apart acronym => ?_
    rcases h.others w hw with capitalized | acronym'
    · exact (isHump_of_isCapitalized capitalized).2
    · exact absurd ⟨acronym, acronym'⟩ apart

/-- Snake case as a text. -/
theorem AreWords.snake_eq {words : List String} (h : AreWords words) :
    snake (String.join words) = "_".intercalate (words.map asciiLower) := by
  cases words with
  | nil => rfl
  | cons word words =>
    obtain ⟨first, others, apart⟩ := h.lists
    have name : (String.join (word :: words)).toList =
        word.toList ++ (words.map String.toList).flatten := by
      rw [String.toList_join, List.flatMap_cons, List.flatMap_def]
    have texts : ((word :: words).map asciiLower).map String.toList =
        (word.toList :: words.map String.toList).map (List.map Char.toLower) := by
      simp [asciiLower, Function.comp_def]
    rw [snake, name, snakeFrom_flatten first others apart, ← texts, ← String.toList_inj,
      String.toList_ofList, String.toList_intercalate]
    rfl

theorem AreWords.isTail_toLower {words : List String} (h : AreWords words) {word : String}
    (hword : word ∈ words) {c : Char} (hc : c ∈ word.toList) : isTail c.toLower = true := by
  cases words with
  | nil => exact absurd hword List.not_mem_nil
  | cons first others =>
    obtain ⟨spelled, next, -⟩ := h.lists
    rcases List.mem_cons.1 hword with rfl | hword
    · exact Naming.isTail_toLower spelled hc
    · exact Naming.isTail_toLower (.inr (next _ (List.mem_map_of_mem hword))) hc

theorem map_intercalate {α β : Type} (f : α → β) (separator : List α) (parts : List (List α)) :
    (separator.intercalate parts).map f = (separator.map f).intercalate (parts.map (List.map f)) := by
  cases parts with
  | nil => rfl
  | cons first others =>
    rw [intercalate_cons_eq_flatMap, List.map_append, List.map_flatMap, List.map_cons,
      intercalate_cons_eq_flatMap, List.flatMap_map]
    simp only [List.map_append]

theorem AreWords.upper_snake_eq {words : List String} (h : AreWords words) :
    upper (snake (String.join words)) = "_".intercalate (words.map asciiUpper) := by
  have ascii : ∀ c ∈ ("_".intercalate (words.map asciiLower)).toList, isAscii c = true := by
    intro c hc
    rcases mem_of_mem_intercalate hc with hc | ⟨part, hpart, hc⟩
    · rw [List.mem_singleton.1 hc]
      rfl
    · obtain ⟨word, hword, rfl⟩ := List.mem_map.1 hpart
      rw [asciiLower, String.toList_ofList] at hc
      obtain ⟨d, hd, rfl⟩ := List.mem_map.1 hc
      exact isAscii_of_isTail (h.isTail_toLower hword hd)
  rw [h.snake_eq, upper_of_isAscii ascii, ← String.toList_inj, String.toList_ofList,
    String.toList_intercalate, map_intercalate, String.toList_intercalate]
  simp [asciiLower, asciiUpper, Function.comp_def]

end EntitySql.Naming

namespace EntitySql.NamingPattern

open Naming Text

/-- **Snake case splits names at their words.** A name put together from words, of which no two acronyms
meet, is in snake case these words with an underscore between any two of them. -/
theorem snake_joins_words {words : List String} (h : AreWords words) :
    lowerSnake.apply (String.join words) = "_".intercalate (words.map asciiLower) ∧
      upperSnake.apply (String.join words) = "_".intercalate (words.map asciiUpper) :=
  ⟨h.snake_eq, h.upper_snake_eq⟩

theorem snake_joins_words_digits_and_acronyms :
    AreWords ["v2", "HTTP", "Server9", "X", "Ab", "ID"] ∧
      lowerSnake.apply "v2HTTPServer9XAbID" = "v2_http_server9_x_ab_id" ∧
      upperSnake.apply "v2HTTPServer9XAbID" = "V2_HTTP_SERVER9_X_AB_ID" := by
  have words : AreWords ["v2", "HTTP", "Server9", "X", "Ab", "ID"] :=
    ⟨by decide, by decide, by decide⟩
  obtain ⟨lower, upper⟩ := snake_joins_words words
  exact ⟨words, lower, upper⟩

end EntitySql.NamingPattern
