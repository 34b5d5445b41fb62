/-
  Conditions in documents: objects with a member `type` that names the kind of predicate, or lists
  that start with that name.
-/
import EntitySql.Document.Value
import EntitySql.Query.Condition

namespace EntitySql

open Json

namespace Operand

def toJson : Operand → Json
  | .field name => .ofMembers [("field", .text name)]
  | .column name => .ofMembers [("column", .text name)]

def ofJson (r : Reading) : Json → Decoded Operand
  | .object [(some key, value)] => do
    let _ ← r.enter
    let make ← choiceOf "operand" [("field", Operand.field), ("column", Operand.column)] key
    return make (← asText value)
  | _ => .error (.expected "an operand")

end Operand

def CompareOp.names : List (String × CompareOp) :=
  [("eq", .eq), ("ne", .ne), ("gt", .gt), ("ge", .ge), ("lt", .lt), ("le", .le), ("like", .like)]

def CompareOp.name : CompareOp → String
  | .eq => "eq"
  | .ne => "ne"
  | .gt => "gt"
  | .ge => "ge"
  | .lt => "lt"
  | .le => "le"
  | .like => "like"

def Logic.names : List (String × Logic) := [("and", .and), ("or", .or)]

def Logic.name : Logic → String
  | .and => "and"
  | .or => "or"

namespace Condition

/-! ## Writing -/

mutual

def toJson : Condition → Json
  | .compare operand op value =>
    .ofMembers [("type", .text "compare"), ("operand", operand.toJson), ("op", .text op.name),
      ("value", value.toJson)]
  | .isIn operand values =>
    .ofMembers [("type", .text "in"), ("operand", operand.toJson),
      ("values", .array (values.map Value.toJson))]
  | .between operand low high =>
    .ofMembers [("type", .text "between"), ("operand", operand.toJson), ("low", low.toJson),
      ("high", high.toJson)]
  | .nullTest operand isNull =>
    .ofMembers [("type", .text "null"), ("operand", operand.toJson), ("is_null", .bool isNull)]
  | .group logic children =>
    .ofMembers [("type", .text "group"), ("logic", .text logic.name),
      ("children", .array (allToJson children))]

def allToJson : List Condition → List Json
  | [] => []
  | c :: rest => c.toJson :: allToJson rest

end

/-! ## Reading -/

/-- Kinds of conditions, in the order in which they are numbered. -/
inductive Kind where
  | compare | isIn | between | nullTest | group

def Kind.names : List (String × Kind) :=
  [("compare", .compare), ("in", .isIn), ("between", .between), ("null", .nullTest),
    ("group", .group)]

/-- The kind that the tag of a condition names. Inside another condition the kind's number will do
as well. -/
def kindOf (nested : Bool) : Json → Decoded Kind
  | .string (some name) => choiceOf "condition" Kind.names name
  | .number n =>
    match nested, n.number? with
    | true, some (.natural n) =>
      match Kind.names[n.toNat]? with
      | some (_, kind) => .ok kind
      | none => .error (.unknown "condition" (toString n.toNat))
    | _, _ => .error (.expected "the kind of a condition")
  | _ => .error (.expected "the kind of a condition")

/-- The tag of a condition and the rest of it. -/
def splitTag : Json → Decoded (Json × Json)
  | .object members =>
    match members.partition fun (key, _) => key = some "type" with
    | ([(_, tag)], rest) => .ok (tag, .object rest)
    | ([], _) => .error (.missing "type")
    | _ => .error (.repeated "type")
  | .array (tag :: rest) => .ok (tag, .array rest)
  | _ => .error (.expected "a condition")

/-- A condition in a part that has been checked as a whole. Such a part nests fewer than `depth`
levels. -/
def ofChecked (depth : Nat) (nested : Bool) (j : Json) : Decoded Condition :=
  match depth with
  | 0 => .error .tooDeep
  | depth + 1 => do
    let (tag, body) ← splitTag j
    match ← kindOf nested tag with
    | .compare =>
      match ← members .held ["operand", "op", "value"] body with
      | (r, [operand, op, value]) =>
        return .compare (← required "operand" (Operand.ofJson r) operand)
          (← required "op" (asChoice "comparison" CompareOp.names r) op)
          (← required "value" (Value.ofJson r) value)
      | _ => throw .malformed
    | .isIn =>
      match ← members .held ["operand", "values"] body with
      | (r, [operand, values]) =>
        return .isIn (← required "operand" (Operand.ofJson r) operand)
          (← required "values" (asList r Value.ofJson) values)
      | _ => throw .malformed
    | .between =>
      match ← members .held ["operand", "low", "high"] body with
      | (r, [operand, low, high]) =>
        return .between (← required "operand" (Operand.ofJson r) operand)
          (← required "low" (Value.ofJson r) low) (← required "high" (Value.ofJson r) high)
      | _ => throw .malformed
    | .nullTest =>
      match ← members .held ["operand", "is_null"] body with
      | (r, [operand, isNull]) =>
        return .nullTest (← required "operand" (Operand.ofJson r) operand)
          (← required "is_null" asBool isNull)
      | _ => throw .malformed
    | .group =>
      match ← members .held ["logic", "children"] body with
      | (r, [logic, children]) =>
        return .group (← required "logic" (asChoice "logic" Logic.names r) logic)
          (← required "children" (asList r fun _ => ofChecked depth true) children)
      | _ => throw .malformed

def ofJson (r : Reading) (j : Json) : Decoded Condition := do
  hold r j
  ofChecked 128 false j

end Condition

end EntitySql
