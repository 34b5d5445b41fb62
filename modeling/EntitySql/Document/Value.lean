/-
  Values in documents. A value does not say its kind: it is the first of NULL, truth value, integer,
  float, timestamp and text that its JSON can be.
-/
import EntitySql.Calendar.Reader
import EntitySql.Calendar.Writer
import EntitySql.Decimal.Shortest
import EntitySql.Json.Decode
import EntitySql.Value.Basic

namespace EntitySql

/-- The shortest digits of a float, a tie going to the even digit: in positional notation with a
fraction from 0.00001 up to but not including ten to the 16th, else with an exponent. -/
def NumberText.ofUnits (negative : Bool) (units : Nat) : NumberText :=
  if units = 0 then ⟨negative, ['0'], ['0'], none⟩
  else
    let (digits, point) := (Decimal.shortest .even units).significant
    if -4 ≤ point ∧ point ≤ 16 then
      let (whole, fraction) := Decimal.positional digits point
      ⟨negative, whole, if fraction = [] then ['0'] else fraction, none⟩
    else
      let exponent := point - 1
      ⟨negative, digits.take 1, digits.drop 1, some (exponent < 0, Nat.toDigits 10 exponent.natAbs)⟩

namespace Value

/-- A float as JSON. There is none for NaN and the infinities. -/
def floatToJson (x : Binary64) : Json :=
  match x.datum with
  | .finite negative units => .number (.ofUnits negative units)
  | _ => .null

def toJson : Value → Json
  | .null => .null
  | .boolean b => .bool b
  | .integer i => .int i.toInt
  | .float x => floatToJson x
  | .timestamp t => .text (t.text 'T')
  | .text s => .text s

/-- A number as a value: an integer if it is one that values have, else a float. -/
def ofNumber : Number → Value
  | .natural n =>
    if n.toNat ≤ Int64.maxValue.toInt then .integer n.toInt64 else .float (.ofInt n.toNat)
  | .negative i => .integer i
  | .float x => .float x

/-- A text as a value: a timestamp if it reads as one. -/
def ofDocumentText (s : String) : Value :=
  match Timestamp.read? .document s with
  | some t => .timestamp t
  | none => .text s

open Json in
def ofJson (r : Reading) (j : Json) : Decoded Value := do
  hold r j
  match j with
  | .null => return .null
  | .bool b => return .boolean b
  | .number n =>
    match n.number? with
    | some n => return ofNumber n
    | none => throw .numberOutOfRange
  | .string (some s) => return ofDocumentText s
  | .string none => throw .brokenText
  | .array _ | .object _ => throw (.expected "a value")

end Value

end EntitySql
