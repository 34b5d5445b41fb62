/-
  Declarations of entities: their fields, and which of them is the primary key.
-/
import EntitySql.Error

namespace EntitySql

structure FieldDecl where
  /-- The name by which conditions, orders and projections know the field. -/
  name : String
  /-- The column, where the naming pattern is not to choose it. -/
  column : Option String
  primaryKey : Bool
  /-- A key that the database assigns when it is inserted as NULL. -/
  generated : Bool
  deriving DecidableEq

structure EntityDecl where
  name : String
  /-- The table, where the naming pattern is not to choose it. -/
  table : Option String
  fields : List FieldDecl
  deriving DecidableEq

/-- What a type of elements is known by. A type has one declaration, but several types may have the
same one. -/
structure TypeKey where
  typeName : String
  decl : EntityDecl
  deriving DecidableEq

namespace EntityDecl

/-- The place of the first field with a name. -/
def fieldIndex? (d : EntityDecl) (name : String) : Option Nat :=
  d.fields.findIdx? fun f => f.name = name

/-- The places of the primary-key fields. -/
def keyIndices (d : EntityDecl) : List (Fin d.fields.length) :=
  (List.finRange d.fields.length).filter fun i => d.fields[i].primaryKey

/-- The place of the primary key, of which there has to be exactly one. -/
def keyIndex (d : EntityDecl) : Except Error (Fin d.fields.length) :=
  match d.keyIndices with
  | [] => .error (.noKey d.name)
  | [i] => .ok i
  | _ :: _ :: _ => .error (.severalKeys d.name)

/-- The first name in a list that has occurred before. -/
def firstRepeated? (seen : List String) : List String → Option String
  | [] => none
  | name :: rest => if seen.contains name then some name else firstRepeated? (name :: seen) rest

/-- An entity needs a field, one primary key and a name of its own for each field. -/
def validate (d : EntityDecl) : Except Error Unit := do
  if d.fields.isEmpty then throw (.noFields d.name)
  let _ ← d.keyIndex
  match firstRepeated? [] (d.fields.map FieldDecl.name) with
  | some field => throw (.repeatedField d.name field)
  | none => pure ()

theorem firstRepeated?_eq_none_iff {seen names : List String} :
    firstRepeated? seen names = none ↔ names.Nodup ∧ ∀ n ∈ names, n ∉ seen := by
  induction names generalizing seen with
  | nil => simp [firstRepeated?]
  | cons n rest ih =>
    by_cases h : n ∈ seen
    · simp [firstRepeated?, h]
    · simp only [firstRepeated?, List.contains_eq_mem, h, decide_false, Bool.false_eq_true,
        ↓reduceIte, ih, List.nodup_cons, List.mem_cons, not_or, forall_eq_or_imp, not_false_eq_true,
        true_and]
      constructor
      · rintro ⟨hnodup, hrest⟩
        exact ⟨⟨fun hn => (hrest n hn).1 rfl, hnodup⟩, fun m hm => (hrest m hm).2⟩
      · rintro ⟨⟨hn, hnodup⟩, hrest⟩
        exact ⟨hnodup, fun m hm => ⟨fun e => hn (e ▸ hm), hrest m hm⟩⟩

end EntityDecl

end EntitySql
