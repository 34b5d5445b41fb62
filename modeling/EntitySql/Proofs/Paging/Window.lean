/-
  Which rows a page selects.

  A page is attached to a statement in one of three forms, and each form says with two numbers of its
  own which rows are left. The form and the numbers are read back from the paged statement
  (`Sql.window?`). The numbers are cut off at the largest integer of values, and the end of a page at
  the largest 64-bit count; no list of fewer than `2 ^ 63` rows notices either. So every form leaves
  the same rows, those behind the offset up to the limit (`Dialect.page_selects_window`).
-/
import EntitySql.Dialect
import EntitySql.Proofs.Statement.Token
import Mathlib.Algebra.GroupWithZero.Nat
import Mathlib.Data.List.Basic

namespace EntitySql

variable {α : Type}

/-! ## The meaning of the three forms -/

namespace Paging

/-- The text that stands in front of a paged statement. -/
def opening : Paging → String
  | .limitOffset | .offsetFetch => ""
  | .rowNumber => "SELECT * FROM (SELECT ez_t.*, ROWNUM ez_rn FROM ("

/-- The text that stands behind a paged statement. -/
def closing : Paging → String
  | .limitOffset => " LIMIT ? OFFSET ?"
  | .offsetFetch => " OFFSET ? ROWS FETCH NEXT ? ROWS ONLY"
  | .rowNumber => ") ez_t WHERE ROWNUM <= ?) WHERE ez_rn > ?"

/-- The rows with their numbers, counted from one, up to the number `last`. -/
def numberedUpTo (last : Nat) (rows : List α) : List (α × Nat) :=
  (rows.zipIdx 1).filter fun entry => entry.2 ≤ last

/-- The rows that a form leaves, given its two numbers in the order of their placeholders. -/
def window (form : Paging) (first second : Nat) (rows : List α) : List α :=
  match form with
  | .limitOffset => (rows.drop second).take first
  | .offsetFetch => (rows.drop first).take second
  | .rowNumber => ((numberedUpTo first rows).filter fun entry => second < entry.2).map Prod.fst

def all : List Paging := [.limitOffset, .offsetFetch, .rowNumber]

theorem mem_all (form : Paging) : form ∈ all := by
  cases form <;> decide

/-- The text of a statement that is paged in a form. -/
def frame (form : Paging) (text : String) : String := form.opening ++ text ++ form.closing

/-- The forms add different numbers of characters, so no text is paged in two of them. -/
theorem eq_of_frame_eq {form other : Paging} {text : String} (h : form.frame text = other.frame text) :
    form = other := by
  have lengths : form.opening.length + form.closing.length =
      other.opening.length + other.closing.length := by
    have h := congrArg String.length h
    simp only [frame, String.length_append] at h
    omega
  revert lengths
  cases form <;> cases other <;> decide

end Paging

/-- The number of rows that a parameter stands for. -/
def Value.rowCount? : Value → Option Nat
  | .integer i => if 0 ≤ i.toInt then some i.toInt.toNat else none
  | _ => none

/-- The rows that are left of those of a statement when it is paged, as far as the paged statement has
one of the three forms and binds two numbers behind the parameters of the statement. -/
def Sql.window? (statement paged : Sql) (rows : List α) : Option (List α) := do
  let form ← Paging.all.find? fun form => paged.text = form.frame statement.text
  if paged.params.take statement.params.length = statement.params then
    match paged.params.drop statement.params.length with
    | [first, second] => return form.window (← first.rowCount?) (← second.rowCount?) rows
    | _ => none
  else none

theorem Sql.window?_frame (form : Paging) (statement : Sql) {first second : Value} {m n : Nat}
    (hfirst : first.rowCount? = some m) (hsecond : second.rowCount? = some n) (rows : List α) :
    statement.window? ⟨form.frame statement.text, statement.params ++ [first, second]⟩ rows =
      some (form.window m n rows) := by
  have found : Paging.all.find? (fun other =>
      decide (form.frame statement.text = other.frame statement.text)) = some form := by
    cases h : Paging.all.find? fun other =>
        decide (form.frame statement.text = other.frame statement.text) with
    | none => exact absurd (decide_eq_true rfl) (List.find?_eq_none.1 h form (Paging.mem_all form))
    | some other =>
      have same : form.frame statement.text = other.frame statement.text := by
        simpa using List.find?_some h
      rw [Paging.eq_of_frame_eq same]
  unfold window?
  rw [found]
  simp [hfirst, hsecond]

/-! ## The window -/

/-- The rows numbered from `start + 1` on that come after `skip` and not after `last`. -/
theorem Paging.map_fst_filter_zipIdx (rows : List α) (start skip last : Nat) :
    (((rows.zipIdx (start + 1)).filter fun entry => entry.2 ≤ last).filter
      fun entry => skip < entry.2).map Prod.fst =
      (rows.take (last - start)).drop (skip - start) := by
  induction rows generalizing start with
  | nil => simp
  | cons row rest ih =>
    have further := ih (start + 1)
    rw [List.zipIdx_cons]
    by_cases hlast : start + 1 ≤ last
    · have one_more : last - start = (last - (start + 1)) + 1 := by omega
      rw [List.filter_cons_of_pos (by simpa using hlast), one_more, List.take_succ_cons]
      by_cases hskip : skip < start + 1
      · have none_skipped : skip - start = 0 := by omega
        have none_skipped' : skip - (start + 1) = 0 := by omega
        rw [none_skipped', List.drop_zero] at further
        rw [List.filter_cons_of_pos (by simpa using hskip), List.map_cons, further, none_skipped,
          List.drop_zero]
      · have one_skipped : skip - start = (skip - (start + 1)) + 1 := by omega
        rw [List.filter_cons_of_neg (by simpa using hskip), further, one_skipped,
          List.drop_succ_cons]
    · -- From here on every number is too large.
      have none_left : last - start = 0 := by omega
      have none_left' : last - (start + 1) = 0 := by omega
      rw [none_left', List.take_zero, List.drop_nil] at further
      rw [List.filter_cons_of_neg (by simpa using hlast), further, none_left, List.take_zero,
        List.drop_nil]

theorem Paging.window_rowNumber (first second : Nat) (rows : List α) :
    window .rowNumber first second rows = (rows.take first).drop second := by
  have numbered := map_fst_filter_zipIdx rows 0 second first
  simpa only [window, numberedUpTo, Nat.sub_zero, Nat.zero_add] using numbered

/-- Nothing is lost by dropping no more rows than there can be. -/
theorem drop_min {rows : List α} {most : Nat} (few : rows.length ≤ most) (n : Nat) :
    rows.drop (min n most) = rows.drop n := by
  rcases Nat.le_total n most with h | h
  · rw [Nat.min_eq_left h]
  · rw [Nat.min_eq_right h, List.drop_eq_nil_of_le few, List.drop_eq_nil_of_le (by omega)]

/-- Nothing is lost by taking no more rows than there can be. -/
theorem take_min {rows : List α} {most : Nat} (few : rows.length ≤ most) (n : Nat) :
    rows.take (min n most) = rows.take n := by
  rcases Nat.le_total n most with h | h
  · rw [Nat.min_eq_left h]
  · rw [Nat.min_eq_right h, List.take_of_length_le few, List.take_of_length_le (by omega)]

namespace Dialect

/-- The largest integer of values, as a count. -/
def largestParameter : Nat := Int64.maxValue.toInt.toNat

theorem rowCount?_countParameter (n : UInt64) :
    (countParameter n).rowCount? = some (min n.toNat largestParameter) := by
  have bound : Int64.maxValue.toInt = 9223372036854775807 := by decide
  have most : largestParameter = 9223372036854775807 := by decide
  have number : (Int64.ofInt (min (n.toNat : Int) Int64.maxValue.toInt)).toInt =
      min (n.toNat : Int) Int64.maxValue.toInt :=
    Int64.toInt_ofInt_of_le (by omega) (by omega)
  have positive : 0 ≤ min (n.toNat : Int) Int64.maxValue.toInt := by omega
  unfold countParameter Value.rowCount?
  dsimp only
  rw [number, if_pos positive]
  congr 1
  omega

/-- The two numbers that a form binds for a page. -/
def pageParameters (form : Paging) (page : Page) : List Value :=
  match form with
  | .limitOffset => [countParameter page.limit, countParameter page.offset]
  | .offsetFetch => [countParameter page.offset, countParameter page.limit]
  | .rowNumber => [countParameter page.finish, countParameter page.offset]

/-- A page is refused only where rows without an order cannot be paged; else the statement is framed by
the form of the dialect. -/
theorem paginate_eq (d : Dialect) (statement : Sql) (page : Page) (ordered : Bool) :
    d.paginate statement page ordered =
      if d.database = .sqlServer ∧ ordered = false then .error .unorderedPage
      else .ok ⟨d.paging.frame statement.text,
        statement.params ++ pageParameters d.paging page⟩ := by
  have accepted {form : Paging} (h : d.paging = form) (hform : form ≠ .offsetFetch) :
      ¬ (d.database = .sqlServer ∧ ordered = false) := by
    rintro ⟨sqlServer, -⟩
    rw [paging, sqlServer] at h
    exact hform h.symm
  unfold paginate
  cases h : d.paging with
  | limitOffset =>
    dsimp only
    rw [if_neg (accepted h nofun)]
    refine congrArg Except.ok (Sql.eq_of_parts ?_ rfl)
    simp only [Paging.frame, Paging.opening, Paging.closing, Sql.text_append, String.empty_append]
  | offsetFetch =>
    dsimp only
    split
    · rfl
    · refine congrArg Except.ok (Sql.eq_of_parts ?_ rfl)
      simp only [Paging.frame, Paging.opening, Paging.closing, Sql.text_append, String.empty_append]
  | rowNumber =>
    dsimp only
    rw [if_neg (accepted h nofun)]
    refine congrArg Except.ok (Sql.eq_of_parts rfl ?_)
    simp [pageParameters]

/-- The numbers of a page leave the rows behind its offset, up to its limit, in every form. -/
theorem window_pageParameters (form : Paging) (statement : Sql) (page : Page) {rows : List α}
    (few : rows.length < 2 ^ 63) :
    statement.window? ⟨form.frame statement.text, statement.params ++ pageParameters form page⟩ rows =
      some ((rows.drop page.offset.toNat).take page.limit.toNat) := by
  have bound : largestParameter = 2 ^ 63 - 1 := by decide
  have bound' : largestCount = 2 ^ 64 - 1 := by decide
  have few : rows.length ≤ largestParameter := by omega
  have fewer : (rows.drop page.offset.toNat).length ≤ largestParameter := by
    rw [List.length_drop]
    omega
  have limit := rowCount?_countParameter page.limit
  have offset := rowCount?_countParameter page.offset
  cases form with
  | limitOffset =>
    rw [pageParameters, Sql.window?_frame .limitOffset statement limit offset]
    show some ((rows.drop _).take _) = _
    rw [drop_min few, take_min fewer]
  | offsetFetch =>
    rw [pageParameters, Sql.window?_frame .offsetFetch statement offset limit]
    show some ((rows.drop _).take _) = _
    rw [drop_min few, take_min fewer]
  | rowNumber =>
    have finish := rowCount?_countParameter page.finish
    have first : (rows.take (page.offset.toNat + page.limit.toNat)).length ≤ largestParameter :=
      Nat.le_trans (List.length_take_le' _ _) few
    rw [pageParameters, Sql.window?_frame .rowNumber statement finish offset, Paging.window_rowNumber,
      take_min few, Page.finish, toNat_saturate, take_min (by omega), drop_min first, List.drop_take,
      Nat.add_sub_cancel_left]

/-- A page is accepted by every dialect, except one without an order by SQL Server, and whichever form
the statement is given, the same rows are left: those behind the offset, up to the limit. -/
theorem page_selects_window (d : Dialect) (statement : Sql) (page : Page) (ordered : Bool)
    (rows : List α) (few : rows.length < 2 ^ 63) :
    if d.database = .sqlServer ∧ ordered = false then
      d.paginate statement page ordered = .error .unorderedPage
    else ∃ paged, d.paginate statement page ordered = .ok paged ∧
      statement.window? paged rows = some ((rows.drop page.offset.toNat).take page.limit.toNat) := by
  have framed := paginate_eq d statement page ordered
  split
  · next refused =>
    rw [framed, if_pos refused]
  · next accepted =>
    rw [if_neg accepted] at framed
    exact ⟨_, framed, window_pageParameters d.paging statement page few⟩

/-- The limit of this page is larger than the integers of values, and its end larger than any count. -/
theorem page_selects_window_past_limits :
    let d : Dialect := ⟨.oracle, false⟩
    let statement : Sql := ⟨"SELECT id FROM t WHERE id > ?", [.integer 4]⟩
    let rows := ["a", "b", "c"]
    rows.length < 2 ^ 63 ∧ ¬ (d.database = .sqlServer ∧ false = false) ∧
      ∃ paged, d.paginate statement ⟨1, 18446744073709551615⟩ false = .ok paged ∧
        statement.window? paged rows = some ["b", "c"] := by
  intro d statement rows
  have few : rows.length < 2 ^ 63 := by decide
  have accepted : ¬ (d.database = .sqlServer ∧ false = false) := by decide
  have window := page_selects_window d statement ⟨1, 18446744073709551615⟩ false rows few
  rw [if_neg accepted] at window
  exact ⟨few, accepted, window⟩

end Dialect

end EntitySql
