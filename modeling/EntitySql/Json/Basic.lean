/-
  JSON documents as trees. Numbers keep their digits, and members of objects their order and
  repetitions, so that every rule about them can be stated on the tree.
-/

namespace EntitySql

/-- A number as it is written. -/
structure NumberText where
  negative : Bool
  /-- The digits before the point; a first zero stands alone. -/
  whole : List Char
  /-- The digits after the point, none if there is no point. -/
  fraction : List Char
  /-- The exponent, if there is one: whether it is negative, and its digits. -/
  exponent : Option (Bool × List Char)
  deriving DecidableEq

/-- A document. A string is `none` when its escapes name half of a surrogate pair, which no text
contains; documents may hold such strings where nobody looks at them. -/
inductive Json where
  | null
  | bool (b : Bool)
  | number (n : NumberText)
  | string (s : Option String)
  | array (items : List Json)
  | object (members : List (Option String × Json))

namespace Json

instance : Inhabited Json := ⟨.null⟩

def text (s : String) : Json := .string (some s)

/-- An object whose keys are texts. -/
def ofMembers (members : List (String × Json)) : Json :=
  .object (members.map fun (key, value) => (some key, value))

/-- An integer in decimal digits. -/
def int (i : Int) : Json := .number ⟨i < 0, Nat.toDigits 10 i.natAbs, [], none⟩

def nat (n : Nat) : Json := int n

/-- The value of the last member with a key. -/
def get? (key : String) : Json → Option Json
  | .object members => (members.reverse.find? fun (k, _) => k = some key).map Prod.snd
  | _ => none

end Json

end EntitySql
