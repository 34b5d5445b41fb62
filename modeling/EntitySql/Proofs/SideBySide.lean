/-
  Two runs side by side.

  Computations that may fail are matched if they give related results or the same error; a sequence of
  computations is matched if its steps are. Lists of related elements are cut into pieces and split
  into runs at the same places.
-/
import EntitySql.Proofs.Outcome
import EntitySql.Sql.Chunks
import Mathlib.Data.List.SplitBy

namespace EntitySql

universe u v

/-! ## Computations -/

section Computations

variable {ε : Type u} {α : Type v} {β : Type v}

/-- Either both computations succeed, with related results, or they fail with the same error. -/
inductive Matched {α' : Type v} (R : α → α' → Prop) : Except ε α → Except ε α' → Prop
  | ok {a : α} {b : α'} (h : R a b) : Matched R (.ok a) (.ok b)
  | error (e : ε) : Matched R (.error e) (.error e)

namespace Matched

variable {α' β' : Type v} {R : α → α' → Prop} {S : β → β' → Prop}

theorem pure {a : α} {b : α'} (h : R a b) :
    Matched R (pure a : Except ε α) (pure b : Except ε α') := .ok h

theorem bind {x : Except ε α} {y : Except ε α'} {f : α → Except ε β} {g : α' → Except ε β'}
    (h : Matched R x y) (next : ∀ a b, R a b → Matched S (f a) (g b)) :
    Matched S (x >>= f) (y >>= g) := by
  cases h with
  | ok h => exact next _ _ h
  | error e => exact .error e

/-- Computations with the same outcome need to be related at equal results only. -/
theorem bind_same {x : Except ε α} {f : α → Except ε β} {g : α → Except ε β'}
    (next : ∀ a, Matched S (f a) (g a)) : Matched S (x >>= f) (x >>= g) := by
  cases x with
  | ok a => exact next a
  | error e => exact .error e

theorem mapM {f : α → Except ε β} {g : α' → Except ε β'} {xs : List α} {ys : List α'}
    (h : List.Forall₂ R xs ys) (each : ∀ x y, R x y → Matched S (f x) (g y)) :
    Matched (List.Forall₂ S) (xs.mapM f) (ys.mapM g) := by
  induction h with
  | nil => exact .pure .nil
  | cons head _ ih =>
    rw [List.mapM_cons, List.mapM_cons]
    exact (each _ _ head).bind fun _ _ first => ih.bind fun _ _ rest => .pure (.cons first rest)

end Matched

end Computations

/-! ## Lists -/

section Lists

variable {α β : Type} {R : α → β → Prop}

theorem forall₂_chunksUpTo (size pieces : Nat) {xs : List α} {ys : List β}
    (h : List.Forall₂ R xs ys) :
    List.Forall₂ (List.Forall₂ R) (chunksUpTo size pieces xs) (chunksUpTo size pieces ys) := by
  induction pieces generalizing xs ys with
  | zero => exact .nil
  | succ n ih =>
    cases h with
    | nil => exact .nil
    | cons head tail =>
      have whole := List.Forall₂.cons head tail
      exact .cons (List.forall₂_take size whole) (ih (List.forall₂_drop size whole))

theorem forall₂_chunks (size : Nat) {xs : List α} {ys : List β} (h : List.Forall₂ R xs ys) :
    List.Forall₂ (List.Forall₂ R) (chunks size xs) (chunks size ys) := by
  rw [chunks, chunks, h.length_eq]
  exact forall₂_chunksUpTo size _ h

/-- Lists are split at the same places if their elements are compared with the same results. -/
theorem forall₂_splitBy {r : α → α → Bool} {r' : β → β → Bool} {xs : List α} {ys : List β}
    (same : ∀ a a' b b', R a b → R a' b' → r a a' = r' b b') (h : List.Forall₂ R xs ys) :
    List.Forall₂ (List.Forall₂ R) (xs.splitBy r) (ys.splitBy r') := by
  -- The induction is over the elements that are left, for any run and any runs found so far.
  have loop {xs : List α} {ys : List β} (h : List.Forall₂ R xs ys) :
      ∀ {a : α} {b : β} {run : List α} {run' : List β} {runs : List (List α)} {runs' : List (List β)},
        R a b → List.Forall₂ R run run' → List.Forall₂ (List.Forall₂ R) runs runs' →
          List.Forall₂ (List.Forall₂ R) (List.splitBy.loop r xs a run runs)
            (List.splitBy.loop r' ys b run' runs') := by
    induction h with
    | nil =>
      intro a b run run' runs runs' hab hrun hruns
      exact List.rel_reverse (.cons (List.rel_reverse (.cons hab hrun)) hruns)
    | @cons x y xs ys hxy _ ih =>
      intro a b run run' runs runs' hab hrun hruns
      rw [List.splitBy.loop, List.splitBy.loop, same a x b y hab hxy]
      cases r' b y with
      | true => exact ih hxy (.cons hab hrun) hruns
      | false => exact ih hxy .nil (.cons (List.rel_reverse (.cons hab hrun)) hruns)
  cases h with
  | nil => exact .nil
  | cons head tail => exact loop tail head .nil .nil

/-- Lists of one length correspond, with no matter what to what. -/
theorem forall₂_of_length_eq {xs : List α} {ys : List β} (h : xs.length = ys.length) :
    List.Forall₂ (fun _ _ => True) xs ys :=
  List.forall₂_of_length_eq_of_get h fun _ _ _ => trivial

theorem isEmpty_eq_of_length_eq {xs ys : List α} (h : xs.length = ys.length) :
    xs.isEmpty = ys.isEmpty := by
  rw [Bool.eq_iff_iff, List.isEmpty_iff_length_eq_zero, List.isEmpty_iff_length_eq_zero, h]

theorem length_flatMap_of_forall₂ {α' β' : Type} {f : α → List α'} {g : β → List β'} {xs : List α}
    {ys : List β} (h : List.Forall₂ (fun x y => (f x).length = (g y).length) xs ys) :
    (xs.flatMap f).length = (ys.flatMap g).length := by
  induction h with
  | nil => rfl
  | cons head _ ih =>
    rw [List.flatMap_cons, List.flatMap_cons, List.length_append, List.length_append, head, ih]

end Lists

end EntitySql
