/-
  Single-precision numbers as 32-bit words, and the way to double precision and back.
-/
import EntitySql.Binary.Binary64

namespace EntitySql

open Binary

/-- A single-precision number, known by its word. -/
structure Binary32 where
  word : UInt32
  deriving DecidableEq, Inhabited

namespace Binary32

def datum (x : Binary32) : Datum := single.decode x.word.toNat

def ofDatum (d : Datum) : Binary32 := ⟨UInt32.ofNat (single.encode d)⟩

/-- The unit of single precision in units of double precision. -/
def unit : Nat := Nat.pow 2 (double.unitPlaces - single.unitPlaces)

/-- The same number in double precision. -/
def widen (x : Binary32) : Binary64 :=
  match x.datum with
  | .finite negative units => .ofDatum (.finite negative (units * unit))
  | d => .ofDatum d

/-- The single-precision number nearest to a double-precision one. -/
def ofBinary64 (x : Binary64) : Binary32 :=
  match x.datum with
  | .finite negative units => ofDatum (.finite negative (single.roundUnits units unit))
  | d => ofDatum d

end Binary32

end EntitySql
