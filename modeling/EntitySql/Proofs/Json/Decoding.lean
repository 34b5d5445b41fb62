/-
  Decoding of documents that were written by this library: objects with the members of a record in
  their order, lists of parts, and parts that are checked as a whole before they are looked at.

  A document that can be written passes the check as soon as it nests no deeper than allowed
  (`Json.check_eq_ok`).
-/
import EntitySql.Json.Decode
import EntitySql.Proofs.Json.Reading
import EntitySql.Proofs.Outcome
import Mathlib.Data.List.Nodup

namespace EntitySql.Json

/-! ## Nesting -/

mutual

/-- How many lists and objects lie around the innermost part. -/
def depth : Json → Nat
  | .array items => itemsDepth items + 1
  | .object members => membersDepth members + 1
  | _ => 0

def itemsDepth : List Json → Nat
  | [] => 0
  | j :: rest => max j.depth (itemsDepth rest)

def membersDepth : List (Option String × Json) → Nat
  | [] => 0
  | (_, value) :: rest => max value.depth (membersDepth rest)

end

mutual

/-- A document that can be written is found sound up to its depth. -/
theorem check_eq_ok (j : Json) (h : j.IsWritten) {levels : Nat} (shallow : j.depth ≤ levels) :
    j.check levels = .ok () := by
  match j with
  | .null => rfl
  | .bool b => rfl
  | .number n => exact if_pos h.2
  | .string s => exact if_pos h
  | .array items =>
    rw [depth] at shallow
    obtain ⟨levels, rfl⟩ := Nat.exists_eq_add_of_le' (Nat.le_of_add_left_le shallow)
    exact checkItems_eq_ok items h (Nat.le_of_add_le_add_right shallow)
  | .object members =>
    rw [depth] at shallow
    obtain ⟨levels, rfl⟩ := Nat.exists_eq_add_of_le' (Nat.le_of_add_left_le shallow)
    exact checkMembers_eq_ok members h (Nat.le_of_add_le_add_right shallow)

theorem checkItems_eq_ok (items : List Json) (h : ItemsWritten items) {levels : Nat}
    (shallow : itemsDepth items ≤ levels) : checkItems levels items = .ok () := by
  match items with
  | [] => rfl
  | j :: rest =>
    rw [itemsDepth, Nat.max_le] at shallow
    rw [checkItems, check_eq_ok j h.1 shallow.1]
    exact checkItems_eq_ok rest h.2 shallow.2

theorem checkMembers_eq_ok (members : List (Option String × Json)) (h : MembersWritten members)
    {levels : Nat} (shallow : membersDepth members ≤ levels) :
    checkMembers levels members = .ok () := by
  match members with
  | [] => rfl
  | (key, value) :: rest =>
    rw [membersDepth, Nat.max_le] at shallow
    obtain ⟨name, rfl⟩ := Option.isSome_iff_exists.1 h.1
    rw [checkMembers, check_eq_ok value h.2.1 shallow.1]
    exact checkMembers_eq_ok rest h.2.2 shallow.2

end

/-! ## Records -/

variable {α β : Type}

theorem isWritten_array {items : List Json} :
    (Json.array items).IsWritten ↔ ∀ j ∈ items, j.IsWritten := by
  rw [IsWritten]
  induction items with
  | nil => exact iff_of_true trivial fun _ h => absurd h List.not_mem_nil
  | cons j items ih => rw [ItemsWritten, ih, List.forall_mem_cons]

theorem isWritten_ofMembers {ms : List (String × Json)} :
    (ofMembers ms).IsWritten ↔ ∀ m ∈ ms, m.2.IsWritten := by
  rw [ofMembers, IsWritten]
  induction ms with
  | nil => exact iff_of_true trivial fun _ h => absurd h List.not_mem_nil
  | cons m ms ih =>
    rw [List.map_cons, MembersWritten, ih, List.forall_mem_cons]
    exact and_iff_right rfl

theorem depth_ofMembers_le {ms : List (String × Json)} {n : Nat} :
    (ofMembers ms).depth ≤ n + 1 ↔ ∀ m ∈ ms, m.2.depth ≤ n := by
  rw [ofMembers, depth, Nat.add_le_add_iff_right]
  induction ms with
  | nil => exact iff_of_true (Nat.zero_le n) fun _ h => absurd h List.not_mem_nil
  | cons m ms ih => rw [List.map_cons, membersDepth, Nat.max_le, ih, List.forall_mem_cons]

/-- The members of a record with their names as keys. -/
def keyed (ms : List (String × Json)) : List (Option String × Json) :=
  ms.map fun m => (some m.1, m.2)

theorem ofMembers_eq_object (ms : List (String × Json)) : ofMembers ms = .object (keyed ms) := rfl

theorem any_key_isNone (ms : List (String × Json)) :
    (keyed ms).any (fun m => m.1.isNone) = false := by
  simp [keyed]

/-- A key that is not there picks no member. -/
theorem filter_keyed_eq_nil {ms : List (String × Json)} {name : String}
    (h : name ∉ ms.map Prod.fst) : (keyed ms).filter (fun m => m.1 = some name) = [] := by
  rw [List.filter_eq_nil_iff]
  intro m hm named
  obtain ⟨member, hmember, rfl⟩ := List.mem_map.1 hm
  rw [decide_eq_true_eq, Option.some.injEq] at named
  exact h (List.mem_map.2 ⟨member, hmember, named⟩)

/-- The name of a member picks this member alone. -/
theorem filter_keyed_eq_singleton {ms : List (String × Json)} (distinct : (ms.map Prod.fst).Nodup)
    {m : String × Json} (h : m ∈ ms) :
    (keyed ms).filter (fun n => n.1 = some m.1) = [(some m.1, m.2)] := by
  induction ms with
  | nil => exact absurd h List.not_mem_nil
  | cons first ms ih =>
    rw [List.map_cons, List.nodup_cons] at distinct
    rw [keyed, List.map_cons, ← keyed]
    rcases List.mem_cons.1 h with rfl | h
    · rw [List.filter_cons_of_pos (by simp), filter_keyed_eq_nil distinct.1]
    · have other : first.1 ≠ m.1 := by
        intro same
        exact distinct.1 (same ▸ List.mem_map_of_mem h)
      rw [List.filter_cons_of_neg (by simpa using other), ih distinct.2 h]

theorem member?_keyed {ms : List (String × Json)} (distinct : (ms.map Prod.fst).Nodup)
    {m : String × Json} (h : m ∈ ms) : member? (keyed ms) m.1 = .ok (some m.2) := by
  have alone := filter_keyed_eq_singleton distinct h
  rw [member?]
  split
  · next none => cases alone.symm.trans none
  · next value one =>
    cases alone.symm.trans one
    rfl
  · next _ other => exact absurd alone (other _ _)

/-- The members of a record that was written with them are all there. -/
theorem members_ofMembers {r inner : Reading} {names : List String} {ms : List (String × Json)}
    (enter : r.enter = .ok inner) (named : ms.map Prod.fst = names) (distinct : names.Nodup) :
    members r names (ofMembers ms) = .ok (inner, ms.map fun m => some m.2) := by
  subst named
  have found : (ms.map Prod.fst).mapM (member? (keyed ms)) = .ok (ms.map fun m => some m.2) := by
    rw [mapM_eq_ok_iff, List.forall₂_map_left_iff, List.forall₂_map_right_iff, List.forall₂_same]
    exact fun m hm => member?_keyed distinct hm
  rw [ofMembers_eq_object, members, enter]
  show (do
    if (keyed ms).any (fun m => m.1.isNone) then throw DecodeError.brokenText
    return (inner, ← (ms.map Prod.fst).mapM (member? (keyed ms)))) = _
  rw [any_key_isNone, found]
  rfl

/-- A list reads back if each of its parts does. -/
theorem asList_map {r inner : Reading} (enter : r.enter = .ok inner)
    {decode : Reading → Json → Decoded α} {encode : α → Json} {xs : List α}
    (h : ∀ x ∈ xs, decode inner (encode x) = .ok x) :
    asList r decode (.array (xs.map encode)) = .ok xs := by
  rw [asList, enter]
  show (xs.map encode).mapM (decode inner) = _
  rw [mapM_eq_ok_iff, List.forall₂_map_left_iff, List.forall₂_same]
  exact h

/-- What is decoded from the text of a document is decoded from the document. -/
theorem decodeText_render {decode : Reading → Json → Decoded α} {j : Json} (h : j.IsWritten) :
    decodeText decode (render j) = decode .start j := by
  rw [decodeText, read?_render h]

end EntitySql.Json
