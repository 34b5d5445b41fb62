/-
  Labels mean the same field however their letters are written.

  A label is looked up three times, each time with another notion of case: among the columns by the
  Unicode rules, among the fields as it stands, and among the fields up to the case of ASCII letters.
  The Unicode rules make no difference between texts that differ in the case of ASCII letters only, not
  even next to a sigma (`Text.lower_eq_of_eqIgnoreCase`). Where no two field names differ in that way
  only, a field found as it stands is the one found up to case, so that the second look-up adds nothing
  (`Table.position?_eq`), and the other two do not tell such labels apart
  (`Table.labels_ignore_case`).
-/
import EntitySql.Proofs.Entity.Validity
import EntitySql.Proofs.Result.Placement
import EntitySql.Proofs.Sample
import EntitySql.Proofs.Text.Characters
import EntitySql.Text.Ascii
import Mathlib

namespace EntitySql

/-! ## Lower case by the Unicode rules -/

namespace Text

section Letters

variable {c : Char}

theorem isAscii_of_isAlpha (h : c.isAlpha = true) : isAscii c = true :=
  isAscii_of_isAlphanum (by rw [Char.isAlphanum, h, Bool.true_or])

theorem isCased_of_isAlpha (h : c.isAlpha = true) : isCased c = true := by
  rw [isCased, isLower, isUpper, if_pos (isAscii_of_isAlpha h), if_pos (isAscii_of_isAlpha h),
    Bool.or_comm c.isLower]
  rw [Char.isAlpha] at h
  rw [h, Bool.true_or]

theorem isCaseIgnorable_of_isAlpha (h : c.isAlpha = true) : isCaseIgnorable c = false := by
  rw [isCaseIgnorable, if_pos (isAscii_of_isAlpha h)]
  have other : ∀ mark : Char, mark.isAlpha = false → c ≠ mark := by
    rintro mark no_letter rfl
    rw [no_letter] at h
    cases h
  simp [other]

/-- Putting a character in lower case changes it only from one ASCII letter to another. -/
theorem toLower_cases (c : Char) : c.toLower = c ∨ c.isAlpha = true ∧ c.toLower.isAlpha = true := by
  by_cases capital : c.isUpper = true
  · have letter : c.isAlpha = true := by rw [Char.isAlpha, capital, Bool.true_or]
    exact .inr ⟨letter, (Char.isAlpha_toLower_eq_isAlpha c).trans letter⟩
  · exact .inl (Char.toLower_eq_of_not_isUpper capital)

theorem isCased_toLower (c : Char) : isCased c.toLower = isCased c := by
  rcases toLower_cases c with same | ⟨letter, lowered⟩
  · rw [same]
  · rw [isCased_of_isAlpha letter, isCased_of_isAlpha lowered]

theorem isCaseIgnorable_toLower (c : Char) : isCaseIgnorable c.toLower = isCaseIgnorable c := by
  rcases toLower_cases c with same | ⟨letter, lowered⟩
  · rw [same]
  · rw [isCaseIgnorable_of_isAlpha letter, isCaseIgnorable_of_isAlpha lowered]

theorem lowerChar_toLower (c : Char) : lowerChar c.toLower = lowerChar c := by
  rcases toLower_cases c with same | ⟨letter, lowered⟩
  · rw [same]
  · rw [lowerChar_of_isAscii (isAscii_of_isAlpha letter),
      lowerChar_of_isAscii (isAscii_of_isAlpha lowered), Char.toLower_toLower_eq_toLower]

theorem toLower_eq_sigma_iff (c : Char) : c.toLower = 'Σ' ↔ c = 'Σ' := by
  have no_letter : ∀ {d : Char}, d.isAlpha = true → d ≠ 'Σ' := by
    rintro d letter rfl
    exact absurd letter (by decide)
  rcases toLower_cases c with same | ⟨letter, lowered⟩
  · rw [same]
  · exact iff_of_false (no_letter lowered) (no_letter letter)

end Letters

theorem startsCased_map_toLower (s : List Char) : startsCased (s.map Char.toLower) = startsCased s := by
  have ignorable : isCaseIgnorable ∘ Char.toLower = isCaseIgnorable := funext isCaseIgnorable_toLower
  simp only [startsCased, List.dropWhile_map, ignorable, List.head?_map, Option.any_map,
    isCased_toLower]

/-- The case of ASCII letters is lost in lower case, and it does not tell where a word ends. -/
theorem lowerFrom_map_toLower (before s : List Char) :
    lowerFrom (before.map Char.toLower) (s.map Char.toLower) = lowerFrom before s := by
  induction s generalizing before with
  | nil => rfl
  | cons c rest ih =>
    rw [List.map_cons, lowerFrom, lowerFrom, ← List.map_cons, ih (c :: before), startsCased_map_toLower,
      startsCased_map_toLower, lowerChar_toLower]
    simp only [toLower_eq_sigma_iff]

theorem lower_asciiLower (s : String) : lower (asciiLower s) = lower s := by
  rw [lower, asciiLower, String.toList_ofList, lower]
  exact congrArg String.ofList (lowerFrom_map_toLower [] s.toList)

theorem lower_eq_of_eqIgnoreCase {s t : String} (h : eqIgnoreCase s t = true) : lower s = lower t := by
  rw [eqIgnoreCase, decide_eq_true_eq] at h
  rw [← lower_asciiLower s, h, lower_asciiLower]

end Text

namespace Table

variable {t : Table}

/-! ## The three look-ups -/

theorem lastIndex?_eq_none {α : Type} {p : α → Bool} {xs : List α}
    (nowhere : ∀ (j : Nat) (hj : j < xs.length), ¬ p xs[j]) : lastIndex? p xs = none := by
  rw [lastIndex?, Option.map_eq_none_iff, List.findIdx?_eq_none_iff]
  intro x hx
  obtain ⟨j, hj, rfl⟩ := List.mem_iff_getElem.1 (List.mem_reverse.1 hx)
  exact Bool.eq_false_iff.2 (nowhere j hj)

/-- No two fields have names that differ in the case of ASCII letters only. -/
def FieldsApart (t : Table) : Prop :=
  ∀ i j : Fin t.columns.length,
    Text.eqIgnoreCase (t.columns.get i).field (t.columns.get j).field = true → i = j

/-- The field whose name is the label up to the case of ASCII letters is the first one. -/
theorem findIdx?_field (apart : t.FieldsApart) (i : Fin t.columns.length) {label : String}
    (same : Text.eqIgnoreCase (t.columns.get i).field label = true) :
    t.columns.findIdx? (fun c => Text.eqIgnoreCase c.field label) = some i.val := by
  rw [List.findIdx?_eq_some_iff_getElem]
  refine ⟨i.isLt, same, fun j hj found => ?_⟩
  have here : i = ⟨j, Nat.lt_trans hj i.isLt⟩ :=
    apart _ _ (Text.eqIgnoreCase_trans same ((Text.eqIgnoreCase_comm _ _).trans found))
  exact absurd (congrArg Fin.val here) (Nat.ne_of_gt hj)

/-- A field with exactly the label as its name is found up to case as well. -/
theorem position?_eq (apart : t.FieldsApart) (label : String) :
    t.position? label =
      (lastIndex? (fun c => decide (Text.lower c.name = Text.lower label)) t.columns).or
        (t.columns.findIdx? fun c => Text.eqIgnoreCase c.field label) := by
  unfold position?
  simp only [Option.orElse_eq_orElse, Option.orElse_eq_or]
  congr 1
  -- The columns come first either way. Of the fields, none but the exact one can be found up to case.
  cases exact_name : t.columns.findIdx? fun c => decide (c.field = label) with
  | none => rw [Option.none_or]
  | some i =>
    obtain ⟨hi, named, -⟩ := List.findIdx?_eq_some_iff_getElem.1 exact_name
    have named : (t.columns.get ⟨i, hi⟩).field = label := of_decide_eq_true named
    have same : Text.eqIgnoreCase (t.columns.get ⟨i, hi⟩).field label = true := by
      rw [named]
      exact Text.eqIgnoreCase_refl label
    rw [Option.some_or, findIdx?_field apart ⟨i, hi⟩ same]

theorem position?_eq_of_eqIgnoreCase (apart : t.FieldsApart) {label other : String}
    (same : Text.eqIgnoreCase label other = true) : t.position? label = t.position? other := by
  have fields : (fun c : Column => Text.eqIgnoreCase c.field label) =
      fun c => Text.eqIgnoreCase c.field other := by
    funext c
    simp only [Text.eqIgnoreCase, decide_eq_true_eq] at same ⊢
    rw [same]
  rw [position?_eq apart, position?_eq apart, Text.lower_eq_of_eqIgnoreCase same, fields]

/-- The name of a field leads to it unless it is the name of another field's column. -/
theorem position?_field (apart : t.FieldsApart) (i : Fin t.columns.length)
    (only : ∀ j : Fin t.columns.length,
      Text.lower (t.columns.get j).name = Text.lower (t.columns.get i).field → j = i) :
    t.position? (t.columns.get i).field = some i.val := by
  rw [position?_eq apart, findIdx?_field apart i (Text.eqIgnoreCase_refl _)]
  by_cases own : Text.lower (t.columns.get i).name = Text.lower (t.columns.get i).field
  · have found : lastIndex? (fun c : Column =>
        decide (Text.lower c.name = Text.lower (t.columns.get i).field)) t.columns = some i.val := by
      refine lastIndex?_eq_some i.isLt (decide_eq_true own) fun j hj named => ?_
      exact congrArg Fin.val (only ⟨j, hj⟩ (of_decide_eq_true named))
    rw [found, Option.some_or]
  · -- The name is no column's, and the label goes on to the fields.
    rw [lastIndex?_eq_none, Option.none_or]
    intro j hj named
    have here : ⟨j, hj⟩ = i := only ⟨j, hj⟩ (of_decide_eq_true named)
    subst here
    exact own (of_decide_eq_true named)

/-! ## Labels of a resolved entity -/

section Resolved

variable {s : Settings} {d : EntityDecl}

theorem get_columns (h : s.table d = .ok t) (i : Fin t.columns.length) :
    t.columns.get i = s.column (d.fields.get (i.cast (Settings.length_of_table h))) := by
  simp [(Settings.table_eq_ok h).2]

theorem fieldsApart_of_table (h : s.table d = .ok t)
    (apart : d.fields.Pairwise fun f g => ¬ Text.eqIgnoreCase f.name g.name = true) :
    t.FieldsApart := by
  intro i j same
  rw [get_columns h, get_columns h] at same
  have never := List.pairwise_iff_getElem.1 apart
  rcases Nat.lt_trichotomy i.val j.val with before | here | after
  · exact absurd same (never _ _ _ _ before)
  · exact Fin.ext here
  · exact absurd ((Text.eqIgnoreCase_comm _ _).trans same) (never _ _ _ _ after)

/-- **Labels ignore the case of ASCII letters.** Where no two field names of a declaration differ in it
only, labels that do lead to the same field or to none; and the name of a field leads to it in any
such spelling, unless another field's column has this name. -/
theorem labels_ignore_case (h : s.table d = .ok t)
    (apart : d.fields.Pairwise fun f g => ¬ Text.eqIgnoreCase f.name g.name = true) :
    (∀ label other, Text.eqIgnoreCase label other = true →
      t.position? label = t.position? other) ∧
    ∀ i : Fin d.fields.length,
      (∀ j : Fin d.fields.length, j ≠ i →
        Text.lower (s.columnName (d.fields.get j)) ≠ Text.lower (d.fields.get i).name) →
      ∀ label, Text.eqIgnoreCase label (d.fields.get i).name = true →
        t.position? label = some i.val := by
  have fields := fieldsApart_of_table h apart
  refine ⟨fun _ _ => position?_eq_of_eqIgnoreCase fields, fun i unclaimed label same => ?_⟩
  obtain ⟨k, rfl⟩ : ∃ k : Fin t.columns.length, k.cast (Settings.length_of_table h) = i :=
    ⟨i.cast (Settings.length_of_table h).symm, rfl⟩
  have field : (t.columns.get k).field =
      (d.fields.get (k.cast (Settings.length_of_table h))).name := by
    rw [get_columns h]
    rfl
  have only : ∀ j : Fin t.columns.length,
      Text.lower (t.columns.get j).name = Text.lower (t.columns.get k).field → j = k := by
    intro j named
    rw [get_columns h j, field] at named
    by_contra elsewhere
    exact unclaimed (j.cast (Settings.length_of_table h))
      (fun here => elsewhere (Fin.cast_injective _ here)) named
  rw [← field] at same
  rw [position?_eq_of_eqIgnoreCase fields same, position?_field fields k only]
  rfl

end Resolved

/-- The label of the second field is found among the columns, as it stands or up to case. The name of
the third one ends with a sigma, which is small at the end of a word. -/
theorem labels_ignore_case_orders :
    let d : EntityDecl := ⟨"Order", none, [⟨"id", none, true, true⟩,
      ⟨"createdBy", some "creator", false, false⟩, ⟨"sumΣ", some "sum", false, false⟩]⟩
    ∃ t, Sample.settings.table d = .ok t ∧
      (d.fields.Pairwise fun f g => ¬ Text.eqIgnoreCase f.name g.name = true) ∧
      t.position? "CREATOR" = t.position? "creator" ∧
      (∀ i j : Fin d.fields.length, j ≠ i →
        Text.lower (Sample.settings.columnName (d.fields.get j)) ≠ Text.lower (d.fields.get i).name) ∧
      t.position? "CREATEDBY" = some 1 ∧ t.position? "createdBy" = some 1 ∧
      t.position? "SumΣ" = some 2 := by
  intro d
  obtain ⟨t, table⟩ : ∃ t, Sample.settings.table d = .ok t := ⟨_, rfl⟩
  have apart : d.fields.Pairwise fun f g => ¬ Text.eqIgnoreCase f.name g.name = true := by decide
  have unclaimed : ∀ i j : Fin d.fields.length, j ≠ i →
      Text.lower (Sample.settings.columnName (d.fields.get j)) ≠ Text.lower (d.fields.get i).name := by
    decide
  obtain ⟨alike, own⟩ := labels_ignore_case table apart
  exact ⟨t, table, apart, alike _ _ (by decide), unclaimed, own 1 (unclaimed 1) _ (by decide),
    own 1 (unclaimed 1) _ (by decide), own 2 (unclaimed 2) _ (by decide)⟩

end Table

end EntitySql
