/-
  The characters of statements.

  Whatever names and values callers give, nothing but constant texts, names of the table and accepted
  column names gets into a statement. So a statement has no quote but those of the database, nothing
  that ends it, hides a part of it or starts a new line, if only the names of the table have none
  (`statements_harmless`).
-/
import EntitySql.Proofs.Sample
import EntitySql.Proofs.Statement.Pieces

namespace EntitySql

/-! ## Characters -/

theorem Text.isAlphanumeric_of_isAlphanum {c : Char} (h : c.isAlphanum = true) :
    isAlphanumeric c = true := by
  rwa [isAlphanumeric, if_pos (isAscii_of_isAlphanum h)]

namespace Settings

variable {s : Settings} {c : Char}

/-- Blanks, commas, parentheses, placeholders, stars and the characters of comparisons. -/
def isMark (c : Char) : Bool := [' ', ',', '(', ')', '?', '=', '!', '<', '>', '*'].contains c

/-- The characters of statements: those of names and marks. -/
def IsStatementChar (s : Settings) (c : Char) : Prop := s.IsNameChar c ∨ isMark c = true

theorem isStatementChar_of_isConstantChar (h : isConstantChar c = true) : s.IsStatementChar c := by
  rw [isConstantChar, Bool.or_eq_true] at h
  rcases h with h | h
  · refine .inl (.inl ?_)
    rw [isPlainNameChar, Text.isAlphanumeric_of_isAlphanum h, Bool.true_or]
  · rw [List.contains_cons, List.contains_cons, Bool.or_eq_true, Bool.or_eq_true, beq_iff_eq,
      beq_iff_eq] at h
    rcases h with rfl | rfl | h
    · exact .inl (.inl (by decide))
    · exact .inl (.inl (by decide))
    · exact .inr h

/-- The characters that a database may take for quotes. -/
def quoteChars : List Char := ['\x27', '"', '\x60', '[', ']']

/-- The characters that end a statement, start a comment, take away the meaning of the next character
or end the line. -/
def breakingChars : List Char := [';', '-', '/', '#', '\x5c', '\n', '\r']

theorem special_chars :
    (quoteChars ++ breakingChars).all fun c => !isPlainNameChar c && !isMark c := by
  decide

/-- Of these characters, statements have none but the quotes of the database. -/
theorem IsStatementChar.eq_quote (h : s.IsStatementChar c) (special : c ∈ quoteChars ++ breakingChars) :
    c = s.dialect.quotes.1 ∨ c = s.dialect.quotes.2 := by
  have other := List.all_eq_true.1 special_chars c special
  rw [Bool.and_eq_true, Bool.not_eq_true', Bool.not_eq_true'] at other
  rcases h with (h | h) | h
  · rw [other.1] at h
    cases h
  · exact h
  · rw [other.2] at h
    cases h

theorem IsStatementChar.not_breaking (h : s.IsStatementChar c) : c ∉ breakingChars := by
  intro breaking
  have apart : s.dialect.quotes.1 ∉ breakingChars ∧ s.dialect.quotes.2 ∉ breakingChars := by
    rw [Dialect.quotes]
    split <;> decide
  rcases h.eq_quote (List.mem_append_right _ breaking) with rfl | rfl
  · exact apart.1 breaking
  · exact apart.2 breaking

/-- The text has no quote but those of the database, and no character that breaks a statement. -/
structure Harmless (s : Settings) (text : String) : Prop where
  chars : ∀ c ∈ text.toList, s.IsStatementChar c
  quotes : ∀ c ∈ quoteChars, c ∈ text.toList → c = s.dialect.quotes.1 ∨ c = s.dialect.quotes.2
  unbroken : ∀ c ∈ breakingChars, c ∉ text.toList

theorem harmless_of_chars {text : String} (h : ∀ c ∈ text.toList, s.IsStatementChar c) :
    s.Harmless text where
  chars := h
  quotes c quote hc := (h c hc).eq_quote (List.mem_append_left _ quote)
  unbroken c breaking hc := (h c hc).not_breaking breaking

end Settings

/-! ## Statements -/

variable {s : Settings} {t : Table}

/-- The names of the table have no characters but those of names. -/
structure Table.Spelled (s : Settings) (t : Table) : Prop where
  table : ∀ c ∈ t.sql.toList, s.IsNameChar c
  columns : ∀ column ∈ t.columns, ∀ c ∈ column.sql.toList, s.IsNameChar c

theorem NameOf.isNameChar (spelled : t.Spelled s) {text : String} (h : NameOf s t text) :
    ∀ c ∈ text.toList, s.IsNameChar c := by
  cases h with
  | table => exact spelled.table
  | column h => exact spelled.columns _ h
  | given h => exact fun c hc => Settings.isNameChar_of_rawColumn h hc

theorem Sql.Built.isStatementChar (spelled : t.Spelled s) {piece : Sql} (h : piece.Built s t) :
    ∀ c ∈ piece.text.toList, s.IsStatementChar c := by
  induction h with
  | constant n h length =>
    intro c hc
    exact Settings.isStatementChar_of_isConstantChar (List.all_eq_true.1 h.1 c hc)
  | name h => exact fun c hc => .inl (h.isNameChar spelled c hc)
  | append first second ih ih' =>
    intro c hc
    rw [text_append, String.toList_append, List.mem_append] at hc
    exact hc.elim (ih c) (ih' c)

theorem Sql.Built.harmless (spelled : t.Spelled s) {piece : Sql} (h : piece.Built s t) :
    s.Harmless piece.text :=
  Settings.harmless_of_chars (h.isStatementChar spelled)

theorem Write.Built.harmless (spelled : t.Spelled s) {write : Write} (h : write.Built s t) :
    s.Harmless write.text := by
  cases write with
  | single statement => exact Sql.Built.harmless spelled h
  | batch text paramSets =>
    obtain ⟨params, hparams⟩ := List.exists_mem_of_ne_nil _ h.1
    exact (h.2 params hparams).harmless spelled

/-- However queries and mutations are put together, their statements have no character that could make
anything else of them than is meant. -/
theorem statements_harmless (s : Settings) (t : Table) (spelled : t.Spelled s) :
    (∀ (q : Query) (statement : Sql), q.selectSql s t = .ok statement → s.Harmless statement.text) ∧
      (∀ (q : Query) (statement : Sql), q.countSql s t = .ok statement →
        s.Harmless statement.text) ∧
      ∀ (m : Mutation) (multiRow : Bool) (found : List Write),
        m.writes s t multiRow = .ok found → ∀ write ∈ found, s.Harmless write.text :=
  ⟨fun _ _ h => (Query.built_selectSql h).harmless spelled,
    fun _ _ h => (Query.built_countSql h).harmless spelled,
    fun _ _ _ h _ hwrite => (Mutation.built_writes h hwrite).harmless spelled⟩

theorem statements_harmless_items :
    Sample.items.Spelled Sample.settings ∧
      (∀ (q : Query) (statement : Sql), q.selectSql Sample.settings Sample.items = .ok statement →
        Sample.settings.Harmless statement.text) ∧
      (∀ (q : Query) (statement : Sql), q.countSql Sample.settings Sample.items = .ok statement →
        Sample.settings.Harmless statement.text) ∧
      ∀ (m : Mutation) (multiRow : Bool) (found : List Write),
        m.writes Sample.settings Sample.items multiRow = .ok found →
          ∀ write ∈ found, Sample.settings.Harmless write.text := by
  have names : ∀ column ∈ Sample.items.columns,
      column.sql.toList.all Settings.isPlainNameChar = true := by decide
  have spelled : Sample.items.Spelled Sample.settings :=
    ⟨Settings.isNameChar_of_all _ (by decide),
      fun column hcolumn => Settings.isNameChar_of_all _ (names column hcolumn)⟩
  exact ⟨spelled, statements_harmless Sample.settings Sample.items spelled⟩

end EntitySql
