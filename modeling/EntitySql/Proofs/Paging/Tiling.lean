/-
  Numbered pages lie side by side.

  The offset of a page and its end are cut off at the largest count, each for itself. They are cut off
  in step: the end of a page is the offset of the page with the next number, before the limit, across
  it and behind it (`Page.finish_numbered`). What lies side by side leaves the rows in one piece
  (`Page.Tiles.take_append_windows`), and no list with a 64-bit length notices the limit. So the rows
  of the pages up to a number are the first rows, each once and in order
  (`Page.numbered_pages_tile`).
-/
import EntitySql.Proofs.Paging.Window

namespace EntitySql.Page

variable {α : Type}

/-- The rows that a page shows. -/
def window (p : Page) (rows : List α) : List α := (rows.drop p.offset.toNat).take p.limit.toNat

/-- The pages with the numbers from one to `last`. -/
def pagesTo (last : Nat) (size : UInt64) : List Page :=
  (List.range last).map fun i => numbered (UInt64.ofNat (i + 1)) size

/-- The pages start at `start`, each of them where the one before it ends, and the last one ends at
`stop`. -/
def Tiles (start : UInt64) : List Page → UInt64 → Prop
  | [], stop => start = stop
  | p :: rest, stop => p.offset = start ∧ Tiles p.finish rest stop

/-! ## Pages side by side -/

theorem Tiles.concat {start : UInt64} {pages : List Page} {p : Page}
    (h : Tiles start pages p.offset) : Tiles start (pages ++ [p]) p.finish := by
  induction pages generalizing start with
  | nil => exact ⟨h.symm, rfl⟩
  | cons first rest ih => exact ⟨h.1, ih h.2⟩

/-- The rows of a page are those that its end has more than its offset. -/
theorem take_append_window (p : Page) {rows : List α} (few : rows.length < 2 ^ 64) :
    rows.take p.offset.toNat ++ p.window rows = rows.take p.finish.toNat := by
  have few : rows.length ≤ largestCount := Nat.le_of_lt_succ few
  rw [finish, toNat_saturate, take_min few, List.take_add, window]

/-- Pages that lie side by side leave out nothing and show nothing twice. -/
theorem Tiles.take_append_windows {start stop : UInt64} {pages : List Page}
    (h : Tiles start pages stop) {rows : List α} (few : rows.length < 2 ^ 64) :
    rows.take start.toNat ++ pages.flatMap (window · rows) = rows.take stop.toNat := by
  induction pages generalizing start with
  | nil => rw [List.flatMap_nil, List.append_nil, show start = stop from h]
  | cons p rest ih =>
    obtain ⟨rfl, further⟩ := h
    rw [List.flatMap_cons, ← List.append_assoc, take_append_window p few, ih further]

/-! ## Numbered pages -/

/-- To cut off a number before something is added to it makes no difference once the sum is cut off. -/
theorem saturate_add (m n : Nat) : saturate ((saturate m).toNat + n) = saturate (m + n) := by
  rw [toNat_saturate, saturate, saturate]
  congr 1
  omega

theorem offset_numbered (number size : UInt64) :
    (numbered number size).offset = saturate ((number.toNat - 1) * size.toNat) := rfl

theorem finish_numbered_eq_saturate {number : UInt64} (first : 0 < number.toNat) (size : UInt64) :
    (numbered number size).finish = saturate (number.toNat * size.toNat) := by
  have rows : (number.toNat - 1) * size.toNat + size.toNat = number.toNat * size.toNat := by
    rw [← Nat.succ_mul, Nat.succ_eq_add_one, Nat.sub_add_cancel first]
  rw [finish, offset_numbered, saturate_add]
  exact congrArg saturate rows

/-- A page ends where the page with the next number starts. -/
theorem finish_numbered {number : UInt64} (first : 0 < number.toNat)
    (next : number.toNat < 2 ^ 64 - 1) (size : UInt64) :
    (numbered number size).finish = (numbered (number + 1) size).offset := by
  have behind : (number + 1).toNat - 1 = number.toNat := by
    rw [UInt64.toNat_add, UInt64.toNat_one, Nat.mod_eq_of_lt (by omega), Nat.add_sub_cancel]
  rw [finish_numbered_eq_saturate first, offset_numbered, behind]

/-- The pages up to a number go from the first row to as many rows as they have room for. -/
theorem tiles_pagesTo {last : Nat} (counted : last < 2 ^ 64) (size : UInt64) :
    Tiles 0 (pagesTo last size) (saturate (last * size.toNat)) := by
  induction last with
  | zero =>
    rw [Nat.zero_mul]
    exact (by decide : (0 : UInt64) = saturate 0)
  | succ last ih =>
    have number : (UInt64.ofNat (last + 1)).toNat = last + 1 := UInt64.toNat_ofNat_of_lt' counted
    have start : (numbered (UInt64.ofNat (last + 1)) size).offset = saturate (last * size.toNat) := by
      rw [offset_numbered, number, Nat.add_sub_cancel]
    have stop : (numbered (UInt64.ofNat (last + 1)) size).finish =
        saturate ((last + 1) * size.toNat) := by
      rw [finish_numbered_eq_saturate (by omega), number]
    have pages : pagesTo (last + 1) size =
        pagesTo last size ++ [numbered (UInt64.ofNat (last + 1)) size] := by
      rw [pagesTo, List.range_succ, List.map_append, List.map_singleton, pagesTo]
    have further := ih (Nat.lt_of_succ_lt counted)
    rw [← start] at further
    rw [pages, ← stop]
    exact further.concat

/-- **Numbered pages tile the rows.** The end of every page but the last possible one is the offset of
the page with the next number, also where the offset or the end is cut off. So the windows of the pages
up to any number show just as many of the first rows as the pages have room for, each once and in
order. -/
theorem numbered_pages_tile (size : UInt64) :
    (∀ number : UInt64, 1 ≤ number.toNat → number.toNat < 2 ^ 64 - 1 →
      (numbered number size).finish = (numbered (number + 1) size).offset) ∧
    ∀ (α : Type) (rows : List α), rows.length < 2 ^ 64 → ∀ last : UInt64,
      (pagesTo last.toNat size).flatMap (window · rows) = rows.take (last.toNat * size.toNat) := by
  refine ⟨fun number first next => finish_numbered first next size, fun α rows few last => ?_⟩
  have most : rows.length ≤ largestCount := Nat.le_of_lt_succ few
  have tiles := (tiles_pagesTo last.toNat_lt size).take_append_windows few
  rwa [toNat_saturate, take_min most, UInt64.toNat_zero, List.take_zero, List.nil_append] at tiles

/-- Of pages of `2 ^ 63` rows the third would start at `2 ^ 64`. The second of two pages of two rows is
not full. -/
theorem numbered_pages_tile_past_limits :
    let large : UInt64 := 9223372036854775808
    let rows := ["a", "b", "c"]
    1 ≤ (2 : UInt64).toNat ∧ (2 : UInt64).toNat < 2 ^ 64 - 1 ∧
      (numbered 2 large).finish = (numbered 3 large).offset ∧
      rows.length < 2 ^ 64 ∧
      (pagesTo 2 2).flatMap (window · rows) = rows ∧
      (pagesTo 3 large).flatMap (window · rows) = rows := by
  intro large rows
  have first : 1 ≤ (2 : UInt64).toNat := by decide
  have next : (2 : UInt64).toNat < 2 ^ 64 - 1 := by decide
  have few : rows.length < 2 ^ 64 := by decide
  exact ⟨first, next, (numbered_pages_tile large).1 2 first next, few,
    (numbered_pages_tile 2).2 String rows few 2, (numbered_pages_tile large).2 String rows few 3⟩

end EntitySql.Page
