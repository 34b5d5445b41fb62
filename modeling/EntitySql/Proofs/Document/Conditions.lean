/-
  Conditions written to a document and read from it again.

  A condition is written as an object with its kind as the tag `type`. Reading checks the object as a
  whole, takes the tag out, and reads the members that are left, each condition of a group in the
  same way (`Condition.ofJson_toJson`). Each condition nests its children two levels deeper, so a
  reader that goes as deep as the document nests goes deep enough.
-/
import EntitySql.Document.Condition
import EntitySql.Proofs.Document.Values

namespace EntitySql

open Json

/-! ## Operands and names -/

namespace Operand

theorem isWritten_toJson (o : Operand) : o.toJson.IsWritten := by
  cases o <;> exact isWritten_ofMembers.2 (by simp [text, IsWritten])

theorem ofJson_toJson {r inner : Reading} (enter : r.enter = .ok inner) (o : Operand) :
    Operand.ofJson r o.toJson = .ok o := by
  cases o with
  | field name => exact bind_eq_ok_iff.2 ⟨inner, enter, rfl⟩
  | column name => exact bind_eq_ok_iff.2 ⟨inner, enter, rfl⟩

end Operand

theorem CompareOp.ofName_name (r : Reading) (op : CompareOp) :
    asChoice "comparison" CompareOp.names r (.text op.name) = .ok op := by cases op <;> rfl

theorem Logic.ofName_name (r : Reading) (logic : Logic) :
    asChoice "logic" Logic.names r (.text logic.name) = .ok logic := by cases logic <;> rfl

namespace Condition

/-! ## The values of a condition -/

mutual

/-- The values of a condition, from left to right. -/
def values : Condition → List Value
  | .compare _ _ value => [value]
  | .isIn _ values => values
  | .between _ low high => [low, high]
  | .nullTest .. => []
  | .group _ children => allValues children

def allValues : List Condition → List Value
  | [] => []
  | c :: rest => c.values ++ allValues rest

end

/-! ## The document of a condition -/

theorem isWritten_values (values : List Value) :
    (Json.array (values.map Value.toJson)).IsWritten := by
  rw [isWritten_array]
  intro j hj
  obtain ⟨v, -, rfl⟩ := List.mem_map.1 hj
  exact v.isWritten_toJson

mutual

theorem isWritten_toJson : (c : Condition) → c.toJson.IsWritten
  | .compare operand op value => by
    rw [toJson, isWritten_ofMembers]
    simp only [List.forall_mem_cons]
    exact ⟨rfl, operand.isWritten_toJson, rfl, value.isWritten_toJson, List.forall_mem_nil _⟩
  | .isIn operand values => by
    rw [toJson, isWritten_ofMembers]
    simp only [List.forall_mem_cons]
    exact ⟨rfl, operand.isWritten_toJson, isWritten_values values, List.forall_mem_nil _⟩
  | .between operand low high => by
    rw [toJson, isWritten_ofMembers]
    simp only [List.forall_mem_cons]
    exact ⟨rfl, operand.isWritten_toJson, low.isWritten_toJson, high.isWritten_toJson, List.forall_mem_nil _⟩
  | .nullTest operand isNull => by
    rw [toJson, isWritten_ofMembers]
    simp only [List.forall_mem_cons]
    exact ⟨rfl, operand.isWritten_toJson, trivial, List.forall_mem_nil _⟩
  | .group logic children => by
    rw [toJson, isWritten_ofMembers]
    simp only [List.forall_mem_cons]
    exact ⟨rfl, rfl, isWritten_allToJson children, List.forall_mem_nil _⟩

theorem isWritten_allToJson : (cs : List Condition) → ItemsWritten (allToJson cs)
  | [] => trivial
  | c :: rest => ⟨isWritten_toJson c, isWritten_allToJson rest⟩

end

/-- The children of a group nest two levels deeper than the group. -/
theorem depth_group (logic : Logic) (children : List Condition) :
    (group logic children).toJson.depth = itemsDepth (allToJson children) + 2 := by
  simp [toJson, ofMembers, depth, membersDepth, text]

/-! ## Reading a condition -/

/-- The first member of a record that has a tag is the tag. -/
theorem splitTag_ofMembers (tag : Json) {ms : List (String × Json)}
    (untagged : "type" ∉ ms.map Prod.fst) :
    splitTag (.ofMembers (("type", tag) :: ms)) = .ok (tag, .ofMembers ms) := by
  have tagged : (keyed (("type", tag) :: ms)).filter (fun m => m.1 = some "type") =
      [(some "type", tag)] := by
    rw [keyed, List.map_cons, ← keyed, List.filter_cons_of_pos (by simp),
      filter_keyed_eq_nil untagged]
  have others : (keyed (("type", tag) :: ms)).filter (not ∘ fun m => decide (m.1 = some "type")) =
      keyed ms := by
    rw [keyed, List.map_cons, ← keyed, List.filter_cons_of_neg (by simp), List.filter_eq_self]
    intro m hm
    obtain ⟨member, hmember, rfl⟩ := List.mem_map.1 hm
    have other : member.1 ≠ "type" := fun same => untagged (same ▸ List.mem_map_of_mem hmember)
    simpa using other
  have parts : (keyed (("type", tag) :: ms)).partition (fun m => decide (m.1 = some "type")) =
      ([(some "type", tag)], keyed ms) := by
    rw [List.partition_eq_filter_filter, tagged, others]
  rw [ofMembers_eq_object, splitTag]
  split
  · next found =>
    cases parts.symm.trans found
    rfl
  · next found => cases parts.symm.trans found
  · next other _ => exact (other _ _ _ parts).elim

mutual

/-- A condition reads back if the reader goes deeper than its document nests. -/
theorem ofChecked_toJson (nested : Bool) :
    (c : Condition) → (∀ v ∈ c.values, v.IsKept) → (depth : Nat) → c.toJson.depth < depth →
      ofChecked depth nested c.toJson = .ok c
  | .compare operand op value, kept, depth + 1, _ => by
    have read : Value.ofJson .held value.toJson = .ok value :=
      Value.ofJson_toJson .held (kept value (List.mem_singleton_self value))
    refine bind_eq_ok_iff.2 ⟨_, splitTag_ofMembers _ (by simp), ?_⟩
    refine bind_eq_ok_iff.2 ⟨.compare, rfl, ?_⟩
    refine bind_eq_ok_iff.2 ⟨_, members_ofMembers rfl rfl (by decide), ?_⟩
    refine bind_eq_ok_iff.2 ⟨operand, Operand.ofJson_toJson rfl operand, ?_⟩
    refine bind_eq_ok_iff.2 ⟨op, CompareOp.ofName_name .held op, ?_⟩
    exact bind_eq_ok_iff.2 ⟨value, read, rfl⟩
  | .isIn operand values, kept, depth + 1, _ => by
    have read : asList .held Value.ofJson (.array (values.map Value.toJson)) = .ok values :=
      asList_map rfl fun v hv => Value.ofJson_toJson .held (kept v hv)
    refine bind_eq_ok_iff.2 ⟨_, splitTag_ofMembers _ (by simp), ?_⟩
    refine bind_eq_ok_iff.2 ⟨.isIn, rfl, ?_⟩
    refine bind_eq_ok_iff.2 ⟨_, members_ofMembers rfl rfl (by decide), ?_⟩
    refine bind_eq_ok_iff.2 ⟨operand, Operand.ofJson_toJson rfl operand, ?_⟩
    exact bind_eq_ok_iff.2 ⟨values, read, rfl⟩
  | .between operand low high, kept, depth + 1, _ => by
    have read_low : Value.ofJson .held low.toJson = .ok low :=
      Value.ofJson_toJson .held (kept low List.mem_cons_self)
    have read_high : Value.ofJson .held high.toJson = .ok high :=
      Value.ofJson_toJson .held (kept high (List.mem_cons_of_mem low (List.mem_singleton_self high)))
    refine bind_eq_ok_iff.2 ⟨_, splitTag_ofMembers _ (by simp), ?_⟩
    refine bind_eq_ok_iff.2 ⟨.between, rfl, ?_⟩
    refine bind_eq_ok_iff.2 ⟨_, members_ofMembers rfl rfl (by decide), ?_⟩
    refine bind_eq_ok_iff.2 ⟨operand, Operand.ofJson_toJson rfl operand, ?_⟩
    refine bind_eq_ok_iff.2 ⟨low, read_low, ?_⟩
    exact bind_eq_ok_iff.2 ⟨high, read_high, rfl⟩
  | .nullTest operand isNull, _, depth + 1, _ => by
    refine bind_eq_ok_iff.2 ⟨_, splitTag_ofMembers _ (by simp), ?_⟩
    refine bind_eq_ok_iff.2 ⟨.nullTest, rfl, ?_⟩
    refine bind_eq_ok_iff.2 ⟨_, members_ofMembers rfl rfl (by decide), ?_⟩
    refine bind_eq_ok_iff.2 ⟨operand, Operand.ofJson_toJson rfl operand, ?_⟩
    exact bind_eq_ok_iff.2 ⟨isNull, rfl, rfl⟩
  | .group logic children, kept, depth + 1, deep => by
    have inner : itemsDepth (allToJson children) < depth := by
      rw [depth_group] at deep
      omega
    have read : asList .held (fun _ => ofChecked depth true) (.array (allToJson children)) =
        .ok children := mapM_eq_ok_iff.2 (allOfChecked_toJson children kept depth inner)
    refine bind_eq_ok_iff.2 ⟨_, splitTag_ofMembers _ (by simp), ?_⟩
    refine bind_eq_ok_iff.2 ⟨.group, rfl, ?_⟩
    refine bind_eq_ok_iff.2 ⟨_, members_ofMembers rfl rfl (by decide), ?_⟩
    refine bind_eq_ok_iff.2 ⟨logic, Logic.ofName_name .held logic, ?_⟩
    exact bind_eq_ok_iff.2 ⟨children, read, rfl⟩

theorem allOfChecked_toJson :
    (cs : List Condition) → (∀ v ∈ allValues cs, v.IsKept) → (depth : Nat) →
      itemsDepth (allToJson cs) < depth →
      List.Forall₂ (fun j c => ofChecked depth true j = .ok c) (allToJson cs) cs
  | [], _, _, _ => .nil
  | c :: rest, kept, depth, deep => by
    rw [allValues, List.forall_mem_append] at kept
    rw [allToJson, itemsDepth, Nat.max_lt] at deep
    exact .cons (ofChecked_toJson true c kept.1 depth deep.1)
      (allOfChecked_toJson rest kept.2 depth deep.2)

end

theorem ofJson_toJson {c : Condition} (kept : ∀ v ∈ c.values, v.IsKept) {levels : Nat}
    (shallow : c.toJson.depth ≤ levels) (few : levels < 128) :
    Condition.ofJson (.direct levels) c.toJson = .ok c := by
  have held : hold (.direct levels) c.toJson = .ok () :=
    check_eq_ok c.toJson c.isWritten_toJson shallow
  exact bind_eq_ok_iff.2
    ⟨(), held, ofChecked_toJson false c kept 128 (Nat.lt_of_le_of_lt shallow few)⟩

end Condition

end EntitySql
