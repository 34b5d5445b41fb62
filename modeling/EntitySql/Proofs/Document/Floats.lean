/-
  Floats in documents: the texts that they are written as, and what those texts mean.

  A float is written with the shortest digits that round to it, in one of four layouts. In each of them
  the digits, read as one whole number, times the power of ten that the layout implies are nearest to
  the float (`NumberText.spellsFloat_ofUnits`). Such a text is read as a float, never as an integer and
  never as a number out of range. It is the same float if its digits and its power of ten are numbers of
  double precision themselves, and a close one in any case (`NumberText.exists_float`).
-/
import EntitySql.Document.Value
import EntitySql.Proofs.Json.Numbers
import EntitySql.Proofs.Json.Nearness

namespace EntitySql

open Text

namespace NumberText

/-- All digits as one whole number, without the point. -/
def digits (n : NumberText) : Nat := digitsValue (n.whole ++ n.fraction)

/-- The value of an exponent, zero if there is none. -/
def exponentValue : Option (Bool × List Char) → Int
  | none => 0
  | some (negative, digits) => if negative then -(digitsValue digits : Int) else digitsValue digits

/-- The power of ten that the digits are multiplied with. -/
def power (n : NumberText) : Int := exponentValue n.exponent - n.fraction.length

/-- Neither the digits nor the power of ten are rounded when the text is read as a float. -/
def IsExact (n : NumberText) : Prop := Number.IsExact n.digits ∧ Number.IsExact (10 ^ n.power.natAbs)

/-- What is known of the text that a float of so many units is written as. -/
structure SpellsFloat (n : NumberText) (units : Nat) : Prop where
  written : n.IsWritten
  not_integer : n.fraction ≠ [] ∨ n.exponent ≠ none
  fits : n.digits < UInt64.size
  exponent_le : ∀ e ∈ n.exponent, (digitsValue e.2 : Int) ≤ Int32.maxValue.toInt
  few : 0 ≤ n.power → 0 < n.digits ∧ n.digits ≤ 10 ^ 17
  power_ge : -616 ≤ n.power
  units_eq : Decimal.unitsOf n.digits n.power = units

/-! ## The meaning of a text -/

theorem float?_eq_scale? (leading : Nat) (shift : Int) {exponent : Option (Bool × List Char)}
    (h : ∀ e ∈ exponent, (digitsValue e.2 : Int) ≤ Int32.maxValue.toInt) :
    Number.float? leading shift exponent =
      Number.scale? 3 (.ofInt leading) (exponentValue exponent + shift) := by
  rcases exponent with _ | ⟨negative, digits⟩
  · rw [exponentValue, Int.zero_add]
    rfl
  · unfold Number.float?
    dsimp only
    rw [if_pos (h _ rfl), exponentValue]
    cases negative
    · exact congrArg _ (Int.add_comm shift _)
    · exact congrArg _ ((Int.sub_eq_add_neg).trans (Int.add_comm shift _))

/-- A number with point or exponent whose digits fit in 64 bits is those digits scaled. -/
theorem number?_eq_scale? {n : NumberText} {units : Nat} (h : n.SpellsFloat units) :
    n.number? = (Number.scale? 3 (.ofInt n.digits) n.power).map fun x =>
      .float (if n.negative then x.neg else x) := by
  have value : n.digits = digitsValue n.whole * 10 ^ n.fraction.length + digitsValue n.fraction :=
    digitsValue_append _ _
  have fits := h.fits
  have grows := Nat.le_mul_of_pos_right (digitsValue n.whole)
    (Nat.pow_pos (n := n.fraction.length) (show 0 < 10 by decide))
  have whole : Number.takeDigits 0 n.whole = (digitsValue n.whole, []) := by
    rw [Number.takeDigits_eq (by omega), Nat.zero_mul, Nat.zero_add]
  have fraction : Number.takeDigits (digitsValue n.whole) n.fraction = (n.digits, []) := by
    rw [Number.takeDigits_eq (by omega), value]
  have no_integer : ¬ (n.fraction = [] ∧ n.exponent = none ∧ ([] : List Char) = []) := by
    rintro ⟨no_fraction, no_exponent, -⟩
    exact h.not_integer.elim (absurd no_fraction) (absurd no_exponent)
  unfold number?
  rw [whole]
  dsimp only
  rw [fraction]
  dsimp only
  rw [if_neg no_integer, float?_eq_scale? _ _ h.exponent_le]
  have shift : exponentValue n.exponent +
      (([] : List Char).length - (n.fraction.length - ([] : List Char).length : Nat) : Int) =
      n.power := by
    simp only [power, List.length_nil]
    omega
  rw [shift]
  rfl

/-! ## The four layouts -/

section Layouts

variable {digits : List Char} {point : Int} {units : Nat}

/-- With an exponent, the point stands behind the first digit. -/
theorem spellsFloat_exponent (h : Decimal.Spells digits point units) (negative : Bool) :
    SpellsFloat ⟨negative, digits.take 1, digits.drop 1,
      some (decide (point - 1 < 0), Nat.toDigits 10 (point - 1).natAbs)⟩ units := by
  obtain ⟨c, rest, rfl⟩ := List.exists_cons_of_ne_nil h.some_digit
  have all : NumberText.digits ⟨negative, [c], rest,
      some (decide (point - 1 < 0), Nat.toDigits 10 (point - 1).natAbs)⟩ = digitsValue (c :: rest) := rfl
  have scale : power ⟨negative, [c], rest,
      some (decide (point - 1 < 0), Nat.toDigits 10 (point - 1).natAbs)⟩ =
      point - (c :: rest).length := by
    simp only [power, exponentValue, digitsValue_toDigits, List.length_cons, decide_eq_true_eq]
    split <;> omega
  have most := h.value_le
  have point_mem := h.point_mem
  have length := h.length_le
  show SpellsFloat ⟨negative, [c], rest, _⟩ units
  refine ⟨⟨.inr ⟨List.cons_ne_nil c [], h.head, ?_⟩, ?_, ?_⟩, .inr nofun, ?_, ?_, ?_, ?_, ?_⟩
  · exact fun d hd => h.all_digits d (List.mem_cons.2 (.inl (List.mem_singleton.1 hd)))
  · exact fun d hd => h.all_digits d (List.mem_cons_of_mem c hd)
  · intro e he
    cases he
    exact ⟨Nat.toDigits_ne_nil, isDigits_toDigits _⟩
  · rw [all]
    exact Nat.lt_of_le_of_lt most (by decide)
  · intro e he
    cases he
    have largest : Int32.maxValue.toInt = 2147483647 := rfl
    rw [digitsValue_toDigits, largest]
    omega
  · intro _
    rw [all]
    exact ⟨h.value_pos, most⟩
  · rw [scale]
    omega
  · rw [all, scale]
    exact h.units_eq

/-- Without an exponent, there is a digit behind the point. -/
theorem spellsFloat_of_point (negative : Bool) {whole fraction : List Char}
    (hwhole : whole = ['0'] ∨ whole ≠ [] ∧ whole.head? ≠ some '0' ∧ IsDigits whole)
    (hfraction : IsDigits fraction) (some_digit : fraction ≠ []) (few : fraction.length ≤ 616)
    (fits : digitsValue (whole ++ fraction) < UInt64.size)
    (units_eq : Decimal.unitsOf (digitsValue (whole ++ fraction)) (-fraction.length) = units) :
    SpellsFloat ⟨negative, whole, fraction, none⟩ units := by
  have scale : power ⟨negative, whole, fraction, none⟩ = -fraction.length := Int.zero_sub _
  have length : 0 < fraction.length := List.length_pos_iff.2 some_digit
  refine ⟨⟨hwhole, hfraction, nofun⟩, .inl some_digit, fits, nofun, fun up => ?_, ?_, ?_⟩
  · omega
  · omega
  · rw [scale]
    exact units_eq

/-- A number below one has its digits behind the point, after some zeros. -/
theorem spellsFloat_below_one (h : Decimal.Spells digits point units) (negative : Bool)
    (small : point ≤ 0) :
    SpellsFloat ⟨negative, ['0'], List.replicate (-point).toNat '0' ++ digits, none⟩ units := by
  have most := h.value_le
  have point_mem := h.point_mem
  have length := h.length_le
  have value : digitsValue (['0'] ++ (List.replicate (-point).toNat '0' ++ digits)) =
      digitsValue digits := by
    rw [← List.append_assoc, digitsValue_append, digitsValue_append, digitsValue_replicate_zero]
    have zero : digitsValue ['0'] = 0 := rfl
    rw [zero, Nat.zero_mul, Nat.zero_add, Nat.zero_mul, Nat.zero_add]
  have scale : (-(List.replicate (-point).toNat '0' ++ digits).length : Int) =
      point - digits.length := by
    rw [List.length_append, List.length_replicate]
    omega
  apply spellsFloat_of_point negative (.inl rfl)
  · exact (isDigits_replicate_zero _).append h.all_digits
  · exact List.append_ne_nil_of_right_ne_nil _ h.some_digit
  · rw [List.length_append, List.length_replicate]
    omega
  · rw [value]
    exact Nat.lt_of_le_of_lt most (by decide)
  · rw [value, scale]
    exact h.units_eq

/-- The point may stand among the digits. -/
theorem spellsFloat_among (h : Decimal.Spells digits point units) (negative : Bool)
    (positive : 0 < point) (inside : point < digits.length) :
    SpellsFloat ⟨negative, digits.take point.toNat, digits.drop point.toNat, none⟩ units := by
  have most := h.value_le
  obtain ⟨places, hplaces⟩ := Nat.exists_eq_add_of_le' (show 1 ≤ point.toNat by omega)
  obtain ⟨c, rest, hdigits⟩ := List.exists_cons_of_ne_nil h.some_digit
  have scale : (-(digits.drop point.toNat).length : Int) = point - digits.length := by
    rw [List.length_drop]
    omega
  apply spellsFloat_of_point negative
  · right
    have head := h.head
    refine ⟨?_, ?_, fun d hd => h.all_digits d (List.mem_of_mem_take hd)⟩
    · rw [hplaces, hdigits, List.take_succ_cons]
      exact List.cons_ne_nil c _
    · rwa [hplaces, hdigits, List.take_succ_cons, List.head?_cons, ← List.head?_cons, ← hdigits]
  · exact fun d hd => h.all_digits d (List.mem_of_mem_drop hd)
  · intro none
    have length := List.drop_eq_nil_iff.1 none
    omega
  · have length := h.length_le
    rw [List.length_drop]
    omega
  · rw [List.take_append_drop]
    exact Nat.lt_of_le_of_lt most (by decide)
  · rw [List.take_append_drop, scale]
    exact h.units_eq

/-- A whole number has zeros behind its digits and one behind the point. -/
theorem spellsFloat_whole (h : Decimal.Spells digits point units) (negative : Bool)
    (small : point ≤ 16) (behind : digits.length ≤ point) :
    SpellsFloat ⟨negative, digits ++ List.replicate (point.toNat - digits.length) '0', ['0'], none⟩
      units := by
  have all : IsDigits (digits ++ List.replicate (point.toNat - digits.length) '0' ++ ['0']) :=
    (h.all_digits.append (isDigits_replicate_zero _)).append (isDigits_replicate_zero 1)
  have value : digitsValue (digits ++ List.replicate (point.toNat - digits.length) '0' ++ ['0']) =
      digitsValue digits * 10 ^ (point.toNat - digits.length + 1) := by
    have zero : digitsValue ['0'] = 0 := rfl
    rw [digitsValue_append, digitsValue_append, digitsValue_replicate_zero, zero,
      List.length_replicate, List.length_singleton, Nat.add_zero, Nat.add_zero, Nat.pow_one,
      Nat.mul_assoc, ← Nat.pow_succ]
  apply spellsFloat_of_point negative
  · right
    refine ⟨List.append_ne_nil_of_left_ne_nil h.some_digit _, ?_,
      h.all_digits.append (isDigits_replicate_zero _)⟩
    rw [List.head?_append_of_ne_nil _ h.some_digit]
    exact h.head
  · exact isDigits_replicate_zero 1
  · exact List.cons_ne_nil _ _
  · decide
  · have bound := digitsValue_lt all
    have length : (digits ++ List.replicate (point.toNat - digits.length) '0' ++ ['0']).length ≤ 17 := by
      simp only [List.length_append, List.length_replicate, List.length_singleton]
      omega
    have power : 10 ^ (digits ++ List.replicate (point.toNat - digits.length) '0' ++ ['0']).length ≤
        10 ^ 17 := Nat.pow_le_pow_right (by decide) length
    have size : 10 ^ 17 < UInt64.size := by decide
    omega
  · have scale : (-(['0'] : List Char).length : Int) + (point.toNat - digits.length + 1 : Nat) =
        point - digits.length := by
      rw [List.length_singleton]
      omega
    rw [value, Decimal.unitsOf_mul_pow, scale]
    exact h.units_eq

end Layouts

theorem spellsFloat_zero (negative : Bool) :
    SpellsFloat ⟨negative, ['0'], ['0'], none⟩ 0 := by
  apply spellsFloat_of_point negative (.inl rfl) (isDigits_replicate_zero 1) (List.cons_ne_nil _ _)
  · decide
  · decide
  · exact Decimal.unitsOf_zero _

/-- A float is written with digits that round to it. -/
theorem spellsFloat_ofUnits (negative : Bool) {units : Nat} (h : Binary.IsDouble units) :
    (ofUnits negative units).negative = negative ∧ (ofUnits negative units).SpellsFloat units := by
  unfold ofUnits
  split
  · next zero =>
    rw [zero]
    exact ⟨rfl, spellsFloat_zero negative⟩
  · next some_unit =>
    have spells := Decimal.significant_shortest .even (Nat.pos_of_ne_zero some_unit) h
    generalize (Decimal.shortest .even units).significant = written at *
    obtain ⟨digits, point⟩ := written
    dsimp only at spells ⊢
    split
    · next plain =>
      refine ⟨rfl, ?_⟩
      unfold Decimal.positional
      by_cases below : point ≤ 0
      · have some_digit : List.replicate (-point).toNat '0' ++ digits ≠ [] :=
          List.append_ne_nil_of_right_ne_nil _ spells.some_digit
        rw [if_pos below]
        dsimp only
        rw [if_neg some_digit]
        exact spellsFloat_below_one spells negative below
      · rw [if_neg below]
        dsimp only
        by_cases inside : point < digits.length
        · have no_zeros : point.toNat - digits.length = 0 := by omega
          have some_digit : digits.drop point.toNat ≠ [] := by
            intro none
            have length := List.drop_eq_nil_iff.1 none
            omega
          rw [no_zeros, List.replicate_zero, List.append_nil, if_neg some_digit]
          exact spellsFloat_among spells negative (by omega) inside
        · have no_digit : digits.drop point.toNat = [] := List.drop_eq_nil_iff.2 (by omega)
          rw [if_pos no_digit, List.take_of_length_le (by omega)]
          exact spellsFloat_whole spells negative plain.2 (by omega)
    · exact ⟨rfl, spellsFloat_exponent spells negative⟩

/-! ## Reading a float -/

theorem ofUnits_greatest (negative : Bool) :
    (ofUnits negative Number.greatest).digits = 17976931348623157 ∧
    (ofUnits negative Number.greatest).power = 292 := by
  cases negative <;> decide +kernel

theorem isSome_scale?_ofUnits (negative : Bool) {units : Nat} (h : Binary.IsDouble units) :
    (Number.scale? 3 (.ofInt (ofUnits negative units).digits)
      (ofUnits negative units).power).isSome := by
  obtain ⟨-, spells⟩ := spellsFloat_ofUnits negative h
  by_cases same : units = Number.greatest
  · obtain ⟨digits, power⟩ := ofUnits_greatest negative
    rw [same, digits, power]
    exact Number.limits.isSome_greatest
  · have less := Nat.lt_of_le_of_ne (Number.le_greatest h) same
    exact Number.isSome_scale?_of_lt 3 spells.few (lt_of_eq_of_lt spells.units_eq less)

/-- The text of a float is read as a float of the same sign that is off by at most a share of `2 ^ -50`
and two units, and as the same float if nothing is rounded before the last step. -/
theorem exists_float (negative : Bool) {units : Nat} (h : Binary.IsDouble units) :
    ∃ (y : Binary64) (v : Nat), (ofUnits negative units).number? = some (.float y) ∧
      y.datum = .finite negative v ∧ ((v : Int) - units).natAbs * 2 ^ 50 ≤ units + 2 ^ 51 ∧
      ((ofUnits negative units).IsExact → y = .ofDatum (.finite negative units)) := by
  obtain ⟨sign, spells⟩ := spellsFloat_ofUnits negative h
  obtain ⟨x, hx⟩ := Option.isSome_iff_exists.1 (isSome_scale?_ofUnits negative h)
  obtain ⟨v, rfl, double_v, close⟩ := Number.scale?_near spells.fits spells.power_ge hx
  have read : (ofUnits negative units).number? =
      some (.float (.ofDatum (.finite negative v))) := by
    rw [number?_eq_scale? spells, hx, sign]
    cases negative with
    | false => rfl
    | true =>
      have negated : Binary64.neg (.ofDatum (.finite false v)) = .ofDatum (.finite true v) := by
        rw [Binary64.neg, Binary64.datum_ofDatum false double_v]
        rfl
      rw [← negated]
      rfl
  rw [spells.units_eq] at close
  refine ⟨_, v, read, Binary64.datum_ofDatum negative double_v, close, fun precise => ?_⟩
  have same := spells.units_eq
  have result := Number.scale?_of_isExact 3 precise.1 precise.2 (same.symm ▸ h)
  rw [hx, same] at result
  have datum := congrArg Binary64.datum (Option.some.inj result)
  rw [Binary64.datum_ofDatum false double_v, Binary64.datum_ofDatum false h] at datum
  injection datum with _ equal
  rw [equal]

end NumberText

end EntitySql
