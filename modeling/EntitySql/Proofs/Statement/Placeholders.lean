/-
  Placeholders match parameters in everything that is written.

  A piece of SQL is balanced if it has as many `?` as parameters. Statements are put together from
  constant texts, which are balanced with the parameters they stand with, and from names. Names of
  columns that callers give never hold a `?`; those of the table must not hold one
  (`queries_and_writes_balanced`).
-/
import EntitySql.Proofs.Sample
import EntitySql.Proofs.Statement.Pieces

namespace EntitySql

/-! ## Names without a placeholder -/

/-- There is no placeholder in the text. -/
def Unmarked (text : String) : Prop := '?' ∉ text.toList

instance (text : String) : Decidable (Unmarked text) :=
  inferInstanceAs (Decidable (¬ _))

/-- There is no placeholder in any name of the table. -/
structure Table.Unmarked (t : Table) : Prop where
  table : EntitySql.Unmarked t.sql
  columns : ∀ column ∈ t.columns, EntitySql.Unmarked column.sql

variable {s : Settings} {t : Table}

theorem Settings.not_isNameChar_placeholder (s : Settings) : ¬ s.IsNameChar '?' := by
  have quotes : '?' ≠ s.dialect.quotes.1 ∧ '?' ≠ s.dialect.quotes.2 := by
    rw [Dialect.quotes]
    split <;> decide
  rintro (h | h | h)
  · exact absurd h (by decide)
  · exact quotes.1 h
  · exact quotes.2 h

theorem NameOf.unmarked (h : t.Unmarked) {text : String} (name : NameOf s t text) : Unmarked text := by
  cases name with
  | table => exact h.table
  | column hcolumn => exact h.columns _ hcolumn
  | given hname => exact fun mark =>
      s.not_isNameChar_placeholder (Settings.isNameChar_of_rawColumn hname mark)

/-! ## Balanced pieces -/

namespace Sql

/-- There is one parameter for each placeholder. -/
def Balanced (piece : Sql) : Prop := piece.placeholderCount = piece.params.length

theorem balanced_plain {text : String} (h : Unmarked text) : (plain text).Balanced :=
  List.count_eq_zero.2 h

theorem Balanced.append {a b : Sql} (ha : a.Balanced) (hb : b.Balanced) : (a ++ b).Balanced := by
  rw [Balanced, placeholderCount_append, params_append, List.length_append, ha, hb]

theorem Built.balanced (h : t.Unmarked) {piece : Sql} (built : piece.Built s t) : piece.Balanced := by
  induction built with
  | constant n constant length => exact constant.2.trans length.symm
  | name name => exact balanced_plain (name.unmarked h)
  | append _ _ first second => exact first.append second

end Sql

/-- There is one parameter for each placeholder, whenever the text is run. -/
def Write.Balanced : Write → Prop
  | .single statement => statement.Balanced
  | .batch text paramSets => ∀ params ∈ paramSets, (⟨text, params⟩ : Sql).Balanced

/-! ## Statements -/

namespace Query

variable {q : Query} {statement : Sql}

theorem balanced_selectSql (h : t.Unmarked) (hstatement : q.selectSql s t = .ok statement) :
    statement.Balanced :=
  (built_selectSql hstatement).balanced h

theorem balanced_countSql (h : t.Unmarked) (hstatement : q.countSql s t = .ok statement) :
    statement.Balanced :=
  (built_countSql hstatement).balanced h

end Query

theorem Mutation.balanced_writes (h : t.Unmarked) {m : Mutation} {multiRow : Bool} {found : List Write}
    (hfound : m.writes s t multiRow = .ok found) {write : Write} (hwrite : write ∈ found) :
    write.Balanced := by
  have built := built_writes hfound hwrite
  cases write with
  | single statement => exact Sql.Built.balanced h built
  | batch text paramSets => exact fun params hparams => (built.2 params hparams).balanced h

/-- In every statement for the table there are as many placeholders as parameters. -/
theorem queries_and_writes_balanced (s : Settings) (t : Table) (h : t.Unmarked) :
    (∀ (q : Query) (statement : Sql), q.selectSql s t = .ok statement → statement.Balanced) ∧
      (∀ (q : Query) (statement : Sql), q.countSql s t = .ok statement → statement.Balanced) ∧
      ∀ (m : Mutation) (multiRow : Bool) (found : List Write),
        m.writes s t multiRow = .ok found → ∀ write ∈ found, write.Balanced :=
  ⟨fun _ _ hstatement => Query.balanced_selectSql h hstatement,
    fun _ _ hstatement => Query.balanced_countSql h hstatement,
    fun _ _ _ hfound _ hwrite => Mutation.balanced_writes h hfound hwrite⟩

theorem queries_and_writes_balanced_items :
    Sample.items.Unmarked ∧
      (∀ (q : Query) (statement : Sql),
        q.selectSql Sample.settings Sample.items = .ok statement → statement.Balanced) ∧
      (∀ (q : Query) (statement : Sql),
        q.countSql Sample.settings Sample.items = .ok statement → statement.Balanced) ∧
      ∀ (m : Mutation) (multiRow : Bool) (found : List Write),
        m.writes Sample.settings Sample.items multiRow = .ok found →
          ∀ write ∈ found, write.Balanced := by
  have unmarked : Sample.items.Unmarked := ⟨by decide, by decide⟩
  exact ⟨unmarked, queries_and_writes_balanced Sample.settings Sample.items unmarked⟩

end EntitySql
