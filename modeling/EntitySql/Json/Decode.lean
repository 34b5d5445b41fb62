/-
  Decoding: how the parts of a document are taken for data. Parts that are decoded may nest 127
  levels deep; parts that nobody looks at need only be well formed.
-/
import EntitySql.Json.Number
import EntitySql.Json.Reader

namespace EntitySql

/-- Why a document does not say what it should. -/
inductive DecodeError where
  | malformed
  | expected (what : String)
  | missing (member : String)
  | repeated (member : String)
  | unknown (what name : String)
  | tooManyItems (limit : Nat)
  | tooDeep
  | numberOutOfRange
  | brokenText
  deriving DecidableEq

def DecodeError.message : DecodeError → String
  | .malformed => "the text is not a document"
  | .expected what => "expected " ++ what
  | .missing member => "missing member '" ++ member ++ "'"
  | .repeated member => "member '" ++ member ++ "' occurs more than once"
  | .unknown what name => "unknown " ++ what ++ " '" ++ name ++ "'"
  | .tooManyItems limit => "expected at most " ++ toString limit ++ " items"
  | .tooDeep => "the document is nested too deeply"
  | .numberOutOfRange => "a number is out of range"
  | .brokenText => "a string is not a text"

abbrev Decoded := Except DecodeError

namespace Json

/-- How a part is read: straight from the text, with some levels of nesting left, or from a part
that has been checked as a whole. -/
inductive Reading where
  | direct (levels : Nat)
  | held

/-- A document from its outermost level. -/
def Reading.start : Reading := .direct 127

/-- One level further in. -/
def Reading.enter : Reading → Decoded Reading
  | .direct 0 => .error .tooDeep
  | .direct (levels + 1) => .ok (.direct levels)
  | .held => .ok .held

/-! ## Parts that are checked as a whole -/

mutual

/-- Every string is a text, every number in range, and the part nests no deeper than allowed. -/
def check (levels : Nat) : Json → Decoded Unit
  | .null | .bool _ => .ok ()
  | .number n => if n.number?.isSome then .ok () else .error .numberOutOfRange
  | .string s => if s.isSome then .ok () else .error .brokenText
  | .array items =>
    match levels with
    | 0 => .error .tooDeep
    | levels + 1 => checkItems levels items
  | .object members =>
    match levels with
    | 0 => .error .tooDeep
    | levels + 1 => checkMembers levels members

def checkItems (levels : Nat) : List Json → Decoded Unit
  | [] => .ok ()
  | j :: rest => do
    check levels j
    checkItems levels rest

def checkMembers (levels : Nat) : List (Option String × Json) → Decoded Unit
  | [] => .ok ()
  | (key, value) :: rest => do
    if key.isNone then throw .brokenText
    check levels value
    checkMembers levels rest

end

/-- Checks a part as a whole, unless it has been checked. -/
def hold : Reading → Json → Decoded Unit
  | .direct levels, j => j.check levels
  | .held, _ => .ok ()

/-! ## Simple parts -/

def asBool : Json → Decoded Bool
  | .bool b => .ok b
  | _ => .error (.expected "true or false")

def asText : Json → Decoded String
  | .string (some s) => .ok s
  | .string none => .error .brokenText
  | _ => .error (.expected "a string")

/-- A number that is a natural number of 64 bits and written as one. -/
def asNatural : Json → Decoded UInt64
  | .number n =>
    match n.number? with
    | some (.natural n) => .ok n
    | some _ => .error (.expected "a natural number")
    | none => .error .numberOutOfRange
  | _ => .error (.expected "a natural number")

/-- A part that may be null. -/
def asOptional {α : Type} (decode : Json → Decoded α) : Json → Decoded (Option α)
  | .null => .ok none
  | j => (decode j).map some

/-! ## Lists and records -/

def asList {α : Type} (r : Reading) (decode : Reading → Json → Decoded α) : Json → Decoded (List α)
  | .array items => do
    let r ← r.enter
    items.mapM (decode r)
  | _ => .error (.expected "a list")

/-- The value of a member that may occur once. -/
def member? (members : List (Option String × Json)) (name : String) : Decoded (Option Json) :=
  match members.filter fun (key, _) => key = some name with
  | [] => .ok none
  | [(_, value)] => .ok (some value)
  | _ => .error (.repeated name)

/-- The members of a record, in the order of their names. A record is an object, whose other
members are passed over, or the list of its values, from which the last ones may be missing. -/
def members (r : Reading) (names : List String) : Json → Decoded (Reading × List (Option Json))
  | .object members => do
    let r ← r.enter
    if members.any fun (key, _) => key.isNone then throw .brokenText
    return (r, ← names.mapM (member? members))
  | .array items => do
    let r ← r.enter
    if names.length < items.length then throw (.tooManyItems names.length)
    return (r, items.map some ++ List.replicate (names.length - items.length) none)
  | _ => .error (.expected "an object")

/-- A member that must be there. -/
def required {α : Type} (name : String) (decode : Json → Decoded α) : Option Json → Decoded α
  | some j => decode j
  | none => .error (.missing name)

/-- A member that stands for some value when it is not there. -/
def optionalOr {α : Type} (otherwise : α) (decode : Json → Decoded α) : Option Json → Decoded α
  | some j => decode j
  | none => .ok otherwise

/-! ## Choices -/

/-- The name of a choice without content: a string, or an object with this one key and nothing
under it. -/
def choiceName (r : Reading) : Json → Decoded String
  | .string (some s) => .ok s
  | .object [(some key, value)] => do
    let r ← r.enter
    match r, value with
    | _, .null => return key
    | .held, .object [] => return key
    | _, _ => throw (.expected "null")
  | _ => .error (.expected "the name of a choice")

/-- The choice with a name. -/
def choiceOf {α : Type} (what : String) (choices : List (String × α)) (name : String) :
    Decoded α :=
  match choices.lookup name with
  | some a => .ok a
  | none => .error (.unknown what name)

/-- A choice without content. -/
def asChoice {α : Type} (what : String) (choices : List (String × α)) (r : Reading) (j : Json) :
    Decoded α := do
  choiceOf what choices (← choiceName r j)

/-- Decodes a text as a document of some kind. -/
def decodeText {α : Type} (decode : Reading → Json → Decoded α) (s : String) : Decoded α :=
  match read? s with
  | some j => decode .start j
  | none => .error .malformed

end Json

end EntitySql
