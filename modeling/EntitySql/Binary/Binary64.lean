/-
  Double-precision numbers as 64-bit words, with the operations that values need: conversion from
  integers and quotients, truncation, nearness and correctly rounded arithmetic.
-/
import EntitySql.Binary.Format

namespace EntitySql

open Binary

/-- A double-precision number, known by its word. Two words are the same number exactly when they
are the same word, so NaN equals itself and the two zeros differ. -/
structure Binary64 where
  word : UInt64
  deriving DecidableEq, Inhabited

namespace Binary64

/-- What the word stands for. -/
def datum (x : Binary64) : Datum := double.decode x.word.toNat

/-- The number of a datum whose units are a number of the format. -/
def ofDatum (d : Datum) : Binary64 := ⟨UInt64.ofNat (double.encode d)⟩

/-- One as a count of units. -/
def one : Nat := Nat.pow 2 double.unitPlaces

def nan : Binary64 := ofDatum .nan

def infinity (negative : Bool) : Binary64 := ofDatum (.infinite negative)

def zero (negative : Bool) : Binary64 := ofDatum (.finite negative 0)

def isNaN (x : Binary64) : Bool := x.datum = .nan

def isInfinite (x : Binary64) : Bool :=
  match x.datum with
  | .infinite _ => true
  | _ => false

/-- The exact number as a count of units of `2 ^ -1074`, unless it is NaN or infinite. -/
def units? (x : Binary64) : Option Int := x.datum.units?

/-- The number nearest to `num / den`. -/
def ofQuotient (negative : Bool) (num den : Nat) : Binary64 :=
  ofDatum (.finite negative (double.roundUnits (num * one) den))

/-- The number nearest to an integer. -/
def ofInt (i : Int) : Binary64 := ofQuotient (i < 0) i.natAbs 1

/-! ## Arithmetic -/

/-- The other sign. -/
def neg (x : Binary64) : Binary64 :=
  match x.datum with
  | .nan => nan
  | .infinite negative => infinity !negative
  | .finite negative units => ofDatum (.finite (!negative) units)

/-- The difference, rounded to nearest. -/
def sub (x y : Binary64) : Binary64 :=
  match x.datum, y.datum with
  | .nan, _ | _, .nan => nan
  | .infinite a, .infinite b => if a = b then nan else infinity a
  | .infinite a, .finite _ _ => infinity a
  | .finite _ _, .infinite b => infinity !b
  | .finite a m, .finite b n =>
    let difference := (if a then -(m : Int) else m) - (if b then -(n : Int) else n)
    ofDatum (.finite (difference < 0) (double.roundUnits difference.natAbs 1))

/-- The product of two finite numbers of which none is negative, rounded to nearest. -/
def mulMagnitude (x y : Nat) : Binary64 := ofQuotient false (x * y) (one * one)

/-- The quotient of two finite numbers of which none is negative, rounded to nearest. -/
def divMagnitude (x y : Nat) : Binary64 := ofQuotient false x y

/-- `2 ^ -52`, the distance from one to the next number, as a count of units. -/
def epsilonUnits : Nat := Nat.pow 2 (double.unitPlaces - double.fractionBits)

/-- The numbers differ by less than `2 ^ -52` after rounding. -/
def isNear (x y : Binary64) : Bool :=
  match (x.sub y).datum with
  | .finite _ units => units < epsilonUnits
  | _ => false

end Binary64

end EntitySql
