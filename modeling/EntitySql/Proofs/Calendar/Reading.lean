/-
  Timestamps read back from their text in every layout (`Timestamp.read?_text`): years of four digits and
  years with a sign, and fractions of a second of three, six or nine digits or none. Nothing is lost,
  since the fraction is written with as many digits as it needs. A text in quotes is read in no layout
  (`Timestamp.read?_quote`).
-/
import EntitySql.Calendar.Reader
import EntitySql.Proofs.Text.Digits

namespace EntitySql

namespace Calendar

open Text

theorem skipBlanks_digits {digits : List Char} (h : IsDigits digits) (some_digit : digits ≠ [])
    (rest : List Char) : skipBlanks (digits ++ rest) = digits ++ rest := by
  obtain ⟨c, cs, rfl⟩ := List.exists_cons_of_ne_nil some_digit
  exact skipBlanks_cons_of_not_blank (isBlank_of_isDigit (h c List.mem_cons_self))

/-! ## Numbers and marks -/

theorem readNumber?_append {width : Nat} {digits rest : List Char} (h : IsDigits digits)
    (some_digit : digits ≠ []) (fits : digits.length ≤ width) (ends : EndsDigits rest) :
    readNumber? width (digits ++ rest) = some (digitsValue digits, rest) := by
  have stop : EndsDigits (rest.take (width - digits.length)) := by
    intro c hc
    rw [List.head?_take] at hc
    split at hc
    · cases hc
    · exact ends c hc
  unfold readNumber?
  rw [List.take_append, List.take_of_length_le fits, takeWhile_isDigit_append h stop]
  rw [if_neg some_digit, List.drop_left]

theorem padded_ne_nil (width n : Nat) : padded width n ≠ [] := by
  intro none
  exact Nat.toDigits_ne_nil (List.append_eq_nil_iff.1 none).2

theorem readField?_padded {n : Nat} (h : n < 100) {rest : List Char} (ends : EndsDigits rest) :
    readField? (padded 2 n ++ rest) = some (n, rest) := by
  have length : (padded 2 n).length = 2 := length_padded (by decide) h
  have digits := isDigits_padded 2 n
  rw [readField?, skipBlanks_digits digits (padded_ne_nil 2 n),
    readNumber?_append digits (padded_ne_nil 2 n) length.le ends, digitsValue_padded]

theorem readMark?_cons (loose : Bool) {c : Char} (visible : isBlank c = false) (s : List Char) :
    readMark? loose c (c :: s) = some s := by
  unfold readMark?
  rw [skipBlanks_cons_of_not_blank visible, ite_self]
  exact if_pos rfl

/-! ## Dates -/

theorem readYear?_digits {digits rest : List Char} (h : IsDigits digits) (some_digit : digits ≠ []) :
    readYear? (digits ++ rest) =
      (readNumber? 4 (digits ++ rest)).map fun (n, rest) => ((n : Int), rest) := by
  obtain ⟨c, cs, rfl⟩ := List.exists_cons_of_ne_nil some_digit
  have digit := h c List.mem_cons_self
  unfold readYear?
  split
  · next sign =>
    cases sign
    exact absurd digit (by decide)
  · next sign =>
    cases sign
    exact absurd digit (by decide)
  · rfl

theorem readNumber?_year {n : Nat} {rest : List Char} (ends : EndsDigits rest) :
    readNumber? (padded 4 n ++ rest).length (padded 4 n ++ rest) = some (n, rest) := by
  have fits : (padded 4 n).length ≤ (padded 4 n ++ rest).length := by
    rw [List.length_append]
    exact Nat.le_add_right _ _
  rw [readNumber?_append (isDigits_padded 4 n) (padded_ne_nil 4 n) fits ends, digitsValue_padded]

theorem readYear?_yearText (year : Int) {rest : List Char} (ends : EndsDigits rest) :
    readYear? (Date.yearText year ++ rest) = some (year, rest) := by
  unfold Date.yearText
  split
  · next four =>
    have length : (padded 4 year.toNat).length = 4 := length_padded (by decide) (by omega)
    have back : (year.toNat : Int) = year := Int.toNat_of_nonneg four.1
    rw [readYear?_digits (isDigits_padded 4 _) (padded_ne_nil 4 _),
      readNumber?_append (isDigits_padded 4 _) (padded_ne_nil 4 _) length.le ends,
      digitsValue_padded, Option.map_some]
    exact congrArg (fun y => some (y, rest)) back
  · next far =>
    split
    · next past =>
      show (readNumber? (padded 4 year.natAbs ++ rest).length (padded 4 year.natAbs ++ rest)).map
        (fun (n, rest) => (-(n : Int), rest)) = _
      rw [readNumber?_year ends, Option.map_some]
      simp only [Option.some.injEq, Prod.mk.injEq, and_true]
      omega
    · next future =>
      show (readNumber? (padded 4 year.natAbs ++ rest).length (padded 4 year.natAbs ++ rest)).map
        (fun (n, rest) => ((n : Int), rest)) = _
      rw [readNumber?_year ends, Option.map_some]
      simp only [Option.some.injEq, Prod.mk.injEq, and_true]
      omega

theorem skipBlanks_yearText (year : Int) (rest : List Char) :
    skipBlanks (Date.yearText year ++ rest) = Date.yearText year ++ rest := by
  unfold Date.yearText
  split
  · exact skipBlanks_digits (isDigits_padded 4 _) (padded_ne_nil 4 _) rest
  · split
    · exact skipBlanks_cons_of_not_blank (by decide)
    · exact skipBlanks_cons_of_not_blank (by decide)

theorem daysInMonth_le (year : Int) (month : Nat) : daysInMonth year month ≤ 31 := by
  unfold daysInMonth
  split <;> (try split) <;> omega

theorem month_le_of_day {year : Int} {month : Nat} (h : 0 < daysInMonth year month) :
    month ≤ 12 := by
  by_contra late
  unfold daysInMonth at h
  split at h <;> omega

theorem month_day_lt (d : Date) : d.month < 100 ∧ d.day < 100 := by
  obtain ⟨least, most⟩ := d.day_mem
  have month := month_le_of_day (Nat.lt_of_lt_of_le least most)
  have day := daysInMonth_le d.year d.month
  omega

theorem readDate?_text (loose : Bool) (d : Date) {rest : List Char} (ends : EndsDigits rest) :
    readDate? loose (d.text ++ rest) = some (d, rest) := by
  obtain ⟨month, day⟩ := month_day_lt d
  have dash : ∀ s, EndsDigits ('-' :: s) := endsDigits_cons (by decide)
  have mark : ∀ s, readMark? loose '-' ('-' :: s) = some s := readMark?_cons loose (by decide)
  have text : d.text ++ rest =
      Date.yearText d.year ++ '-' :: (padded 2 d.month ++ '-' :: (padded 2 d.day ++ rest)) := by
    simp [Date.text]
  rw [text]
  unfold readDate?
  simp only [skipBlanks_yearText, readYear?_yearText d.year (dash _), mark,
    readField?_padded month (dash _), readField?_padded day ends, Option.bind_eq_bind,
    Option.bind_some, Date.of?_self]
  rfl

/-! ## Times -/

theorem readFraction?_padded {places nano : Nat} (some_place : 0 < places) (most : places ≤ 9)
    (small : nano < 10 ^ 9) (exact_places : 10 ^ (9 - places) ∣ nano) :
    readFraction? ('.' :: padded places (nano / 10 ^ (9 - places))) = some (nano, []) := by
  have power : 10 ^ 9 = 10 ^ places * 10 ^ (9 - places) := by rw [← Nat.pow_add]; congr 1; omega
  have fits : nano / 10 ^ (9 - places) < 10 ^ places :=
    Nat.div_lt_of_lt_mul (by rwa [Nat.mul_comm, ← power])
  have length := length_padded some_place fits
  have digits := isDigits_padded places (nano / 10 ^ (9 - places))
  have taken : ((padded places (nano / 10 ^ (9 - places))).take 9).takeWhile Char.isDigit =
      padded places (nano / 10 ^ (9 - places)) := by
    have whole := takeWhile_isDigit_append digits endsDigits_nil
    rw [List.append_nil] at whole
    rw [List.take_of_length_le (by omega), whole]
  have dropped := dropWhile_isDigit_append digits endsDigits_nil
  rw [List.append_nil] at dropped
  unfold readFraction?
  simp only [taken, dropped, if_neg (padded_ne_nil places _), length, digitsValue_padded]
  exact congrArg (fun n => some (n, [])) (Nat.div_mul_cancel exact_places)

theorem readFraction?_fractionText (t : Time) :
    readFraction? (t.fractionText t.places) = some (t.nano.val, []) := by
  have small : t.nano.val < 10 ^ 9 := t.nano.isLt
  unfold Time.fractionText Time.places
  split
  · next none =>
    rw [none]
    rfl
  split
  · next milli => exact readFraction?_padded (by decide) (by decide) small (Nat.dvd_of_mod_eq_zero milli)
  split
  · next micro => exact readFraction?_padded (by decide) (by decide) small (Nat.dvd_of_mod_eq_zero micro)
  · exact readFraction?_padded (by decide) (by decide) small (Nat.one_dvd _)

theorem endsDigits_fractionText (t : Time) (places : Nat) : EndsDigits (t.fractionText places) := by
  unfold Time.fractionText
  split
  · exact endsDigits_nil
  · exact endsDigits_cons (by decide) _

theorem readTime?_text (loose : Bool) (t : Time) :
    readTime? loose (t.text t.places) = some (t, []) := by
  have colon : ∀ s, EndsDigits (':' :: s) := endsDigits_cons (by decide)
  have mark : ∀ s, readMark? loose ':' (':' :: s) = some s := readMark?_cons loose (by decide)
  have text : t.text t.places = padded 2 t.hour ++ ':' :: (padded 2 t.minute ++ ':' ::
      (padded 2 t.second ++ t.fractionText t.places)) := by
    simp [Time.text]
  have hour : t.hour.val < 100 := by omega
  have minute : t.minute.val < 100 := by omega
  have second : t.second.val < 100 := by omega
  rw [text]
  unfold readTime?
  simp only [readField?_padded hour (colon _), readField?_padded minute (colon _),
    readField?_padded second (endsDigits_fractionText t _), mark, readFraction?_fractionText,
    Option.bind_eq_bind, Option.bind_some, Time.of?_self]
  rfl

theorem skipBlanks_timeText (t : Time) (places : Nat) : skipBlanks (t.text places) = t.text places := by
  simp only [Time.text, List.append_assoc]
  exact skipBlanks_digits (isDigits_padded 2 _) (padded_ne_nil 2 _) _

/-- What stands between date and time. -/
def Separator.mark : Separator → Char
  | .blanks => ' '
  | .letterT => 'T'

theorem readSeparator?_mark (layout : Layout) {s : List Char} (visible : skipBlanks s = s) :
    readSeparator? layout (layout.separator.mark :: s) = some s := by
  unfold readSeparator?
  split
  · next blanks =>
    rw [blanks]
    exact congrArg some visible
  · next letter =>
    rw [letter]
    exact readMark?_cons layout.loose (by decide) s

end Calendar

/-- A timestamp is read back from its text. -/
theorem Timestamp.read?_text (layout : Calendar.Layout) (t : Timestamp) :
    Timestamp.read? layout (t.text layout.separator.mark) = some t := by
  have text : (t.text layout.separator.mark).toList =
      t.date.text ++ layout.separator.mark :: t.time.text t.time.places := by
    rw [Timestamp.text, textWith, String.toList_ofList]
  have mark : ∀ s, Text.EndsDigits (layout.separator.mark :: s) :=
    Text.endsDigits_cons (by cases layout.separator <;> decide)
  have visible := Calendar.skipBlanks_timeText t.time t.time.places
  have ended : (if layout.loose then Text.skipBlanks [] else []).isEmpty = true := by
    rw [show Text.skipBlanks [] = [] from rfl, ite_self]
    rfl
  unfold Timestamp.read?
  simp only [text, Calendar.readDate?_text layout.loose t.date (mark _),
    Calendar.readSeparator?_mark layout visible, Calendar.readTime?_text layout.loose t.time,
    Option.bind_eq_bind, Option.bind_some]
  exact if_pos ended

theorem Timestamp.read?_document_text (t : Timestamp) :
    Timestamp.read? .document (t.text 'T') = some t := read?_text .document t

/-- A date starts with a digit or a sign. -/
theorem Timestamp.read?_quote (layout : Calendar.Layout) (s : String) :
    Timestamp.read? layout ("'" ++ s) = none := by
  have text : ("'" ++ s).toList = '\'' :: s.toList := String.toList_append
  have date : Calendar.readDate? layout.loose ('\'' :: s.toList) = none := rfl
  unfold Timestamp.read?
  rw [text, date]
  rfl

end EntitySql
