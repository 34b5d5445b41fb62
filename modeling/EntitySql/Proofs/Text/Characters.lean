/-
  Which characters the pieces of a statement are made of.

  What is put in front of a text or behind it can be taken off again. A joined text has only
  characters of its parts and of the separator. An identifier gets at most dots and the quotes of the
  database from being escaped, and a column name given by a caller has no characters but letters,
  numbers, `_`, `$` and dots to begin with (`isNameChar_of_rawColumn`).
-/
import EntitySql.Entity.Table
import Mathlib.Data.List.Basic

namespace EntitySql

/-- Letters and digits of ASCII. -/
theorem Text.isAscii_of_isAlphanum {c : Char} (h : c.isAlphanum = true) : isAscii c = true := by
  have codes : (decide (65 ≤ c.val ∧ c.val ≤ 90) || decide (97 ≤ c.val) && decide (c.val ≤ 122) ||
      decide (48 ≤ c.val) && decide (c.val ≤ 57)) = true := h
  simp only [Bool.or_eq_true, Bool.and_eq_true, decide_eq_true_eq, UInt32.le_iff_toNat_le,
    UInt32.reduceToNat] at codes
  have value : c.toNat = c.val.toNat := rfl
  rw [isAscii, decide_eq_true_eq, value]
  omega

theorem append_ne_empty {a b : String} (h : b ≠ "") : a ++ b ≠ "" := fun hab =>
  h (String.append_eq_empty_iff.1 hab).2

theorem isPrefixOf?_append (a b : List Char) : a.isPrefixOf? (a ++ b) = some b :=
  List.isPrefixOf?_eq_some_iff_append_eq.2 rfl

theorem isPrefixOf?_toList_append (a b : String) :
    a.toList.isPrefixOf? (a ++ b).toList = some b.toList :=
  List.isPrefixOf?_eq_some_iff_append_eq.2 String.toList_append.symm

theorem isSuffixOf?_toList_append (a b : String) :
    b.toList.isSuffixOf? (a ++ b).toList = some a.toList :=
  List.isSuffixOf?_eq_some_iff_append_eq.2 String.toList_append.symm

theorem mem_of_mem_intercalate {separator : String} {parts : List String} {c : Char}
    (h : c ∈ (separator.intercalate parts).toList) :
    c ∈ separator.toList ∨ ∃ part ∈ parts, c ∈ part.toList := by
  induction parts with
  | nil =>
    rw [String.intercalate_nil, String.toList_empty] at h
    exact absurd h List.not_mem_nil
  | cons part rest ih =>
    cases rest with
    | nil =>
      rw [String.intercalate_singleton] at h
      exact .inr ⟨part, List.mem_singleton_self _, h⟩
    | cons next rest =>
      rw [String.intercalate_cons_cons, String.toList_append, String.toList_append, List.mem_append,
        List.mem_append] at h
      rcases h with (h | h) | h
      · exact .inr ⟨part, List.mem_cons_self, h⟩
      · exact .inl h
      · rcases ih h with h | ⟨other, hother, h⟩
        · exact .inl h
        · exact .inr ⟨other, List.mem_cons_of_mem part hother, h⟩

theorem mem_intercalate_of_mem {α : Type} (separator : List α) {part : List α}
    {parts : List (List α)} {a : α} (hpart : part ∈ parts) (h : a ∈ part) :
    a ∈ separator.intercalate parts := by
  induction parts with
  | nil => exact absurd hpart List.not_mem_nil
  | cons first rest ih =>
    cases rest with
    | nil =>
      rw [List.mem_singleton] at hpart
      rwa [List.intercalate_singleton, ← hpart]
    | cons next rest =>
      rw [List.intercalate_cons_cons, List.mem_append]
      rcases List.mem_cons.1 hpart with rfl | hpart
      · exact .inl (List.mem_append_left _ h)
      · exact .inr (ih hpart)

namespace Settings

theorem mem_of_mem_escapePart {s : Settings} {part : String} {c : Char}
    (h : c ∈ (s.escapePart part).toList) :
    c ∈ part.toList ∨ c = s.dialect.quotes.1 ∨ c = s.dialect.quotes.2 := by
  rw [escapePart] at h
  split at h
  · rw [Dialect.quote, String.toList_append, String.toList_append, String.toList_singleton,
      String.toList_singleton, List.mem_append, List.mem_append, List.mem_singleton,
      List.mem_singleton] at h
    rcases h with (h | h) | h
    · exact .inr (.inl h)
    · exact .inl h
    · exact .inr (.inr h)
  · exact .inl h

/-- The parts of an identifier have no characters of their own. -/
theorem mem_of_mem_identifierParts {identifier part : String} {c : Char}
    (hpart : part ∈ identifierParts identifier) (h : c ∈ part.toList) : c ∈ identifier.toList := by
  obtain ⟨chars, hchars, rfl⟩ := List.mem_map.1 hpart
  rw [String.toList_ofList] at h
  have joined := mem_intercalate_of_mem ['.'] hchars h
  rwa [List.intercalate_splitOn] at joined

theorem mem_of_mem_escape {s : Settings} {identifier : String} {c : Char}
    (h : c ∈ (s.escape identifier).toList) :
    c ∈ identifier.toList ∨ c = '.' ∨ c = s.dialect.quotes.1 ∨ c = s.dialect.quotes.2 := by
  rw [escape] at h
  split at h
  · rcases mem_of_mem_intercalate h with h | ⟨part, hpart, h⟩
    · exact .inr (.inl (List.mem_singleton.1 h))
    · obtain ⟨original, horiginal, rfl⟩ := List.mem_map.1 hpart
      rcases mem_of_mem_escapePart h with h | h
      · exact .inl (mem_of_mem_identifierParts horiginal h)
      · exact .inr (.inr h)
  · exact .inl h

theorem mem_of_isColumnName {name : String} (h : isColumnName name = true) {c : Char}
    (hc : c ∈ name.toList) : Text.isAlphanumeric c = true ∨ c = '_' ∨ c = '$' ∨ c = '.' := by
  rw [isColumnName] at h
  simp only [Bool.and_eq_true, List.all_eq_true, Bool.or_eq_true, decide_eq_true_eq] at h
  simpa only [or_assoc] using h.2 c hc

/-- Letters and numbers of any script, `_`, `$` and dots. -/
def isPlainNameChar (c : Char) : Bool := Text.isAlphanumeric c || ['_', '$', '.'].contains c

/-- The characters of names in statements, among them the quotes of the database. -/
def IsNameChar (s : Settings) (c : Char) : Prop :=
  isPlainNameChar c = true ∨ c = s.dialect.quotes.1 ∨ c = s.dialect.quotes.2

theorem isNameChar_of_all (s : Settings) {text : String} (h : text.toList.all isPlainNameChar = true) :
    ∀ c ∈ text.toList, s.IsNameChar c :=
  fun c hc => .inl (List.all_eq_true.1 h c hc)

/-- A column that a caller names has no other characters, in quotes or not. -/
theorem isNameChar_of_rawColumn {s : Settings} {entity name column : String}
    (h : s.rawColumn entity name = .ok column) {c : Char} (hc : c ∈ column.toList) :
    s.IsNameChar c := by
  rw [rawColumn] at h
  split at h
  · next hname =>
    cases h
    rcases mem_of_mem_escape hc with hc | rfl | hc
    · left
      rcases mem_of_isColumnName hname hc with hc | rfl | rfl | rfl
      · rw [isPlainNameChar, hc, Bool.true_or]
      · decide
      · decide
      · decide
    · exact .inl (by decide)
    · exact .inr hc
  · cases h

end Settings

end EntitySql
