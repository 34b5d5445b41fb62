/-
  Strings and numbers of JSON read back.

  Every string is read back from its escapes, whatever characters it has (`Json.readString?_escaped`).
  A number is read back if it was written by the rules, that is if its parts are digits without a zero
  too many in front (`NumberText.IsWritten`), and if what follows cannot be taken for a part of it.
-/
import EntitySql.Json.Reader
import EntitySql.Json.Writer
import EntitySql.Proofs.Text.Digits

namespace EntitySql

namespace Json

open Text

/-! ## Strings -/

theorem hexDigit?_hexDigit (n : Nat) : hexDigit? (hexDigit n) = some (n % 16) := by
  have all : ∀ m < 16, hexDigit? (Nat.digitChar m) = some m := by decide
  exact all (n % 16) (Nat.mod_lt n (by decide))

/-- The characters that have an escape of their own. -/
def shortEscapes : List (Char × Char) :=
  [('"', '"'), ('\\', '\\'), ('\n', 'n'), ('\r', 'r'), ('\t', 't'), ('\x08', 'b'), ('\x0c', 'f')]

/-- A character is escaped in a short form, or by its number, or stands for itself. -/
theorem escapeChar_cases (c : Char) :
    (∃ name, (c, name) ∈ shortEscapes ∧ escapeChar c = ['\\', name]) ∨
    (c.toNat < 0x20 ∧ escapeChar c =
      ['\\', 'u', '0', '0', hexDigit (c.toNat / 16), hexDigit c.toNat]) ∨
    (c ≠ '"' ∧ c ≠ '\\' ∧ ¬ c.toNat < 0x20 ∧ escapeChar c = [c]) := by
  unfold escapeChar
  split
  · next h => exact .inl ⟨'"', by rw [h]; decide, rfl⟩
  split
  · next h => exact .inl ⟨'\\', by rw [h]; decide, rfl⟩
  split
  · next h => exact .inl ⟨'n', by rw [h]; decide, rfl⟩
  split
  · next h => exact .inl ⟨'r', by rw [h]; decide, rfl⟩
  split
  · next h => exact .inl ⟨'t', by rw [h]; decide, rfl⟩
  split
  · next h => exact .inl ⟨'b', by rw [h]; decide, rfl⟩
  split
  · next h => exact .inl ⟨'f', by rw [h]; decide, rfl⟩
  split
  · next h => exact .inr (.inl ⟨h, rfl⟩)
  · next quote backslash _ _ _ _ _ visible => exact .inr (.inr ⟨quote, backslash, visible, rfl⟩)

theorem unescape?_of_mem {c name : Char} (h : (c, name) ∈ shortEscapes) :
    unescape? name = some c ∧ name ≠ 'u' := by
  have all : ∀ entry ∈ shortEscapes, unescape? entry.2 = some entry.1 ∧ entry.2 ≠ 'u' := by decide
  exact all _ h

/-- What is read behind a character of the string. -/
def consUnit (c : Char) : List StringUnit × List Char → List StringUnit × List Char
  | (units, rest) => (.char c :: units, rest)

theorem readUnits?_shortEscape {c name : Char} (known : (c, name) ∈ shortEscapes) (s : List Char) :
    readUnits? ('\\' :: name :: s) = (readUnits? s).map (consUnit c) := by
  obtain ⟨meant, no_number⟩ := unescape?_of_mem known
  conv_lhs => unfold readUnits?
  split
  · next h => cases h
  · next h =>
    cases h
    exact absurd rfl no_number
  · next h =>
    cases h
    rw [meant]
    cases readUnits? s <;> rfl
  · next c rest _ _ no_escape h =>
    cases h
    exact absurd rfl (no_escape _ _ rfl)
  · next h => cases h

/-- Four digits name a control character. -/
theorem unitOfHex?_control {c : Char} (control : c.toNat < 0x20) :
    unitOfHex? '0' '0' (hexDigit (c.toNat / 16)) (hexDigit c.toNat) = some (.char c) := by
  have zero : hexDigit? '0' = some 0 := by decide
  have number : (0 * 16 + 0) * 256 + c.toNat / 16 % 16 * 16 + c.toNat % 16 = c.toNat := by omega
  unfold unitOfHex?
  rw [zero, hexDigit?_hexDigit, hexDigit?_hexDigit]
  show some (if 0xD800 ≤ (0 * 16 + 0) * 256 + c.toNat / 16 % 16 * 16 + c.toNat % 16 ∧
    (0 * 16 + 0) * 256 + c.toNat / 16 % 16 * 16 + c.toNat % 16 ≤ 0xDFFF then _ else _) = _
  rw [number, if_neg (by omega), Char.ofNat_toNat]

theorem readUnits?_visible {c : Char} (quote : c ≠ '"') (backslash : c ≠ '\\')
    (visible : ¬ c.toNat < 0x20) (s : List Char) :
    readUnits? (c :: s) = (readUnits? s).map (consUnit c) := by
  conv_lhs => unfold readUnits?
  split
  · next h =>
    cases h
    exact absurd rfl quote
  · next h =>
    cases h
    exact absurd rfl backslash
  · next h =>
    cases h
    exact absurd rfl backslash
  · next h =>
    cases h
    rw [if_neg (by simpa [backslash] using visible)]
    cases readUnits? s <;> rfl
  · next h => cases h

theorem readUnits?_escapeChar (c : Char) (s : List Char) :
    readUnits? (escapeChar c ++ s) = (readUnits? s).map (consUnit c) := by
  rcases escapeChar_cases c with ⟨name, known, written⟩ | ⟨control, written⟩ |
    ⟨quote, backslash, visible, written⟩
  · rw [written]
    exact readUnits?_shortEscape known s
  · rw [written]
    show readUnits? ('\\' :: 'u' :: '0' :: '0' :: hexDigit (c.toNat / 16) :: hexDigit c.toNat :: s) = _
    rw [readUnits?, unitOfHex?_control control]
    cases readUnits? s <;> rfl
  · rw [written]
    exact readUnits?_visible quote backslash visible s

theorem readUnits?_escaped (s rest : List Char) :
    readUnits? (s.flatMap escapeChar ++ '"' :: rest) = some (s.map .char, rest) := by
  induction s with
  | nil => rfl
  | cons c s ih =>
    rw [List.flatMap_cons, List.append_assoc, readUnits?_escapeChar, ih]
    rfl

theorem joinUnits?_chars (s : List Char) : joinUnits? (s.map .char) = some s := by
  induction s with
  | nil => rfl
  | cons c s ih =>
    rw [List.map_cons, joinUnits?, ih]
    rfl

/-- A string reads back from its escapes. -/
theorem readString?_escaped (s : String) (rest : List Char) :
    readString? (s.toList.flatMap escapeChar ++ '"' :: rest) = some (some s, rest) := by
  unfold readString?
  rw [readUnits?_escaped]
  show some ((joinUnits? (s.toList.map .char)).map String.ofList, rest) = _
  rw [joinUnits?_chars, Option.map_some, String.ofList_toList]

theorem toList_stringText (s : String) :
    (stringText s).toList = '"' :: (s.toList.flatMap escapeChar ++ ['"']) := by
  rw [stringText, String.toList_ofList, List.cons_append]

end Json

/-! ## Numbers -/

open Text in
/-- The parts of a number are digits, of which the whole ones start with a zero only if that stands
alone. -/
structure NumberText.IsWritten (n : NumberText) : Prop where
  whole : n.whole = ['0'] ∨ n.whole ≠ [] ∧ n.whole.head? ≠ some '0' ∧ IsDigits n.whole
  fraction : IsDigits n.fraction
  exponent : ∀ e ∈ n.exponent, e.2 ≠ [] ∧ IsDigits e.2

namespace Json

open Text

/-- What follows a part of a document: the end, or a mark that ends an item or a member. -/
def EndsPart (s : List Char) : Prop := s = [] ∨ ∃ c rest, s = c :: rest ∧ c ∈ [',', ']', '\x7d']

/-- What follows a number is no digit and does not start a fraction or an exponent. -/
theorem EndsPart.not_numeric {s : List Char} (h : EndsPart s) {c : Char} (hc : c ∈ s.head?) :
    c.isDigit = false ∧ c ≠ '.' ∧ c ≠ 'e' ∧ c ≠ 'E' := by
  rcases h with rfl | ⟨d, rest, rfl, hd⟩
  · cases hc
  · cases hc
    have all : ∀ c ∈ [',', ']', '\x7d'], c.isDigit = false ∧ c ≠ '.' ∧ c ≠ 'e' ∧ c ≠ 'E' := by simp
    exact all c hd

theorem readDigits?_append {digits rest : List Char} (some_digit : digits ≠ [])
    (h : IsDigits digits) (ends : EndsDigits rest) :
    readDigits? (digits ++ rest) = some (digits, rest) := by
  unfold readDigits?
  rw [takeWhile_isDigit_append h ends, dropWhile_isDigit_append h ends]
  simp [some_digit]

theorem readWhole?_append {n : NumberText} (h : n.IsWritten) {rest : List Char}
    (ends : EndsDigits rest) : readWhole? (n.whole ++ rest) = some (n.whole, rest) := by
  rcases h.whole with zero | ⟨some_digit, no_zero, digits⟩
  · rw [zero]
    rfl
  · unfold readWhole?
    split
    · next t ht =>
      obtain ⟨c, cs, hwhole⟩ := List.exists_cons_of_ne_nil some_digit
      rw [hwhole] at ht no_zero
      cases ht
      exact absurd rfl no_zero
    · exact readDigits?_append some_digit digits ends

/-- The digits behind the point, with the point. -/
def fractionText (n : NumberText) : List Char :=
  if n.fraction = [] then [] else '.' :: n.fraction

/-- The exponent with its mark. -/
def exponentText (n : NumberText) : List Char :=
  match n.exponent with
  | none => []
  | some (negative, digits) => 'e' :: (if negative then '-' else '+') :: digits

theorem toList_numberText (n : NumberText) :
    (numberText n).toList =
      (if n.negative then ['-'] else []) ++ (n.whole ++ (fractionText n ++ exponentText n)) := by
  obtain ⟨negative, whole, fraction, exponent⟩ := n
  unfold numberText fractionText exponentText
  have sign : (if negative then "-" else "").toList = if negative then ['-'] else [] := by
    cases negative <;> rfl
  have point : (if fraction.isEmpty then "" else "." ++ String.ofList fraction).toList =
      if fraction = [] then [] else '.' :: fraction := by
    cases fraction <;> simp
  simp only [String.toList_append, String.toList_ofList, sign, point, List.append_assoc]
  rcases exponent with _ | ⟨_ | _, digits⟩ <;> simp

theorem readFraction?_append {n : NumberText} (h : n.IsWritten) {rest : List Char}
    (ends : EndsDigits rest) (no_point : '.' ∉ rest.head?) :
    readFraction? (fractionText n ++ rest) = some (n.fraction, rest) := by
  unfold fractionText
  split
  · next none =>
    rw [none, List.nil_append]
    unfold readFraction?
    split
    · exact absurd rfl no_point
    · rfl
  · next some_digit => exact readDigits?_append some_digit h.fraction ends

theorem readExponent?_append {n : NumberText} (h : n.IsWritten) {rest : List Char}
    (ends : EndsPart rest) : readExponent? (exponentText n ++ rest) = some (n.exponent, rest) := by
  unfold exponentText
  split
  · next none =>
    rw [none, List.nil_append]
    unfold readExponent?
    split
    · next c t =>
      obtain ⟨-, -, small, capital⟩ := ends.not_numeric rfl
      rw [if_neg (by simp [small, capital])]
    · rfl
  · next negative digits hexponent =>
    obtain ⟨some_digit, digits⟩ := h.exponent _ hexponent
    have stop : EndsDigits rest := fun c hc => (ends.not_numeric hc).1
    have read := readDigits?_append some_digit digits stop
    rw [hexponent]
    cases negative <;> simp [readExponent?, read]

theorem endsDigits_exponentText (n : NumberText) {rest : List Char} (ends : EndsPart rest) :
    EndsDigits (exponentText n ++ rest) ∧ '.' ∉ (exponentText n ++ rest).head? := by
  unfold exponentText
  split
  · refine ⟨fun c hc => (ends.not_numeric hc).1, fun point => ?_⟩
    exact (ends.not_numeric point).2.1 rfl
  · exact ⟨endsDigits_cons (by decide) _, by simp⟩

theorem endsDigits_fractionText (n : NumberText) {rest : List Char} (ends : EndsDigits rest) :
    EndsDigits (fractionText n ++ rest) := by
  unfold fractionText
  split
  · exact ends
  · exact endsDigits_cons (by decide) _

theorem head_whole {n : NumberText} (h : n.IsWritten) :
    ∃ c cs, n.whole = c :: cs ∧ c.isDigit = true := by
  rcases h.whole with zero | ⟨some_digit, -, digits⟩
  · exact ⟨'0', [], zero, rfl⟩
  · obtain ⟨c, cs, hwhole⟩ := List.exists_cons_of_ne_nil some_digit
    exact ⟨c, cs, hwhole, digits c (by rw [hwhole]; exact List.mem_cons_self)⟩

theorem readNumber?_of_not_minus {c : Char} {s : List Char} (h : c ≠ '-') :
    readNumber? (c :: s) = (do
      let (whole, s) ← readWhole? (c :: s)
      let (fraction, s) ← readFraction? s
      let (exponent, s) ← readExponent? s
      return (⟨false, whole, fraction, exponent⟩, s)) := by
  unfold readNumber?
  split
  next negative rest hsplit =>
    split at hsplit
    · next minus =>
      cases minus
      exact absurd rfl h
    · cases hsplit
      rfl

/-- A number that was written by the rules is read back. -/
theorem readNumber?_numberText {n : NumberText} (h : n.IsWritten) {rest : List Char}
    (ends : EndsPart rest) : readNumber? ((numberText n).toList ++ rest) = some (n, rest) := by
  obtain ⟨stop, no_point⟩ := endsDigits_exponentText n ends
  have whole := readWhole?_append h (endsDigits_fractionText n stop)
  have fraction := readFraction?_append h stop no_point
  have exponent := readExponent?_append h ends
  rw [toList_numberText, List.append_assoc, List.append_assoc, List.append_assoc]
  cases hn : n.negative with
  | true =>
    show (do
      let (whole, s) ← readWhole? (n.whole ++ (fractionText n ++ (exponentText n ++ rest)))
      let (fraction, s) ← readFraction? s
      let (exponent, s) ← readExponent? s
      return ((⟨true, whole, fraction, exponent⟩ : NumberText), s)) = _
    simp only [whole, fraction, exponent, Option.bind_eq_bind, Option.bind_some]
    rw [← hn]
    rfl
  | false =>
    obtain ⟨c, cs, hwhole, digit⟩ := head_whole h
    have no_minus : c ≠ '-' := fun minus => absurd (minus ▸ digit) (by decide)
    rw [hwhole, List.cons_append] at whole ⊢
    rw [if_neg (by decide), List.nil_append, readNumber?_of_not_minus no_minus, whole]
    simp only [fraction, exponent, Option.bind_eq_bind, Option.bind_some]
    rw [← hn, ← hwhole]
    rfl

end Json

end EntitySql
