/-
  Lists cut into pieces of a given size, of which only the last may be shorter.
-/

namespace EntitySql

/-- The first `pieces` pieces of the list. -/
def chunksUpTo {α : Type} (size : Nat) : Nat → List α → List (List α)
  | 0, _ => []
  | pieces + 1, xs =>
    if xs.isEmpty then [] else xs.take size :: chunksUpTo size pieces (xs.drop size)

/-- All pieces of the list. There are never more of them than elements. -/
def chunks {α : Type} (size : Nat) (xs : List α) : List (List α) := chunksUpTo size xs.length xs

theorem flatten_chunksUpTo {α : Type} {size pieces : Nat} {xs : List α} (hsize : 0 < size)
    (h : xs.length ≤ pieces) : (chunksUpTo size pieces xs).flatten = xs := by
  induction pieces generalizing xs with
  | zero => simp_all [chunksUpTo]
  | succ n ih =>
    cases xs with
    | nil => simp [chunksUpTo]
    | cons x rest =>
      have := ih (show ((x :: rest).drop size).length ≤ n by
        simp only [List.length_drop, List.length_cons] at h ⊢; omega)
      simp only [chunksUpTo, List.isEmpty_cons, Bool.false_eq_true, ↓reduceIte, List.flatten_cons,
        this, List.take_append_drop]

/-- The pieces put together again are the list. -/
theorem flatten_chunks {α : Type} {size : Nat} {xs : List α} (h : 0 < size) :
    (chunks size xs).flatten = xs := flatten_chunksUpTo h (Nat.le_refl _)

theorem mem_chunksUpTo {α : Type} {size pieces : Nat} {xs c : List α} (hsize : 0 < size)
    (h : c ∈ chunksUpTo size pieces xs) : 0 < c.length ∧ c.length ≤ size := by
  induction pieces generalizing xs with
  | zero => simp [chunksUpTo] at h
  | succ n ih =>
    cases xs with
    | nil => simp [chunksUpTo] at h
    | cons x rest =>
      simp only [chunksUpTo, List.isEmpty_cons, Bool.false_eq_true, ↓reduceIte, List.mem_cons] at h
      rcases h with rfl | h
      · simp only [List.length_take, List.length_cons]; omega
      · exact ih h

/-- No piece is empty or longer than asked for. -/
theorem length_of_mem_chunks {α : Type} {size : Nat} {xs c : List α} (hsize : 0 < size)
    (h : c ∈ chunks size xs) : 0 < c.length ∧ c.length ≤ size := mem_chunksUpTo hsize h

theorem ne_nil_of_mem_chunks {α : Type} {size : Nat} {xs c : List α} (hsize : 0 < size)
    (h : c ∈ chunks size xs) : c ≠ [] := List.length_pos_iff.1 (length_of_mem_chunks hsize h).1

theorem chunks_ne_nil {α : Type} {size : Nat} {xs : List α} (hsize : 0 < size) (h : xs ≠ []) :
    chunks size xs ≠ [] := by
  intro hnil
  have hall : (chunks size xs).flatten = xs := flatten_chunks hsize
  rw [hnil] at hall
  exact h hall.symm

/-- The number of pieces does not matter where it is enough for all of the list. -/
theorem chunksUpTo_congr {α : Type} {size pieces others : Nat} {xs : List α} (hsize : 0 < size)
    (h : xs.length ≤ pieces) (h' : xs.length ≤ others) :
    chunksUpTo size pieces xs = chunksUpTo size others xs := by
  induction pieces generalizing others xs with
  | zero =>
    obtain rfl := List.length_eq_zero_iff.1 (Nat.le_zero.1 h)
    cases others <;> rfl
  | succ n ih =>
    match xs, others with
    | [], 0 | [], _ + 1 => rfl
    | x :: rest, m + 1 =>
      have fewer : ((x :: rest).drop size).length ≤ rest.length := by
        rw [List.length_drop, List.length_cons]
        omega
      rw [List.length_cons, Nat.succ_le_succ_iff] at h h'
      rw [chunksUpTo, chunksUpTo, ih (Nat.le_trans fewer h) (Nat.le_trans fewer h')]

/-- A list that fills a piece is the first piece of any list that starts with it. -/
theorem chunks_append {α : Type} {size : Nat} {first : List α} (hsize : 0 < size)
    (full : first.length = size) (rest : List α) :
    chunks size (first ++ rest) = first :: chunks size rest := by
  obtain ⟨n, hn⟩ : ∃ n, (first ++ rest).length = n + 1 :=
    ⟨size - 1 + rest.length, by rw [List.length_append]; omega⟩
  have filled : ¬(first ++ rest).isEmpty := fun h => by
    rw [List.isEmpty_iff.1 h] at hn
    cases hn
  have short : rest.length ≤ n := by
    rw [List.length_append] at hn
    omega
  rw [chunks, hn, chunksUpTo, if_neg filled, List.take_left' full, List.drop_left' full,
    chunksUpTo_congr hsize short (Nat.le_refl _)]
  rfl

/-- Every piece is a stretch of the list. -/
theorem infix_of_mem_chunks {α : Type} {size : Nat} {xs c : List α} (hsize : 0 < size)
    (h : c ∈ chunks size xs) : c <:+: xs := by
  have stretch := List.infix_of_mem_flatten h
  rwa [flatten_chunks hsize] at stretch

end EntitySql
