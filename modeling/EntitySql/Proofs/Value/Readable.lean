/-
  Cells read as texts, and these texts read as what the cells held.

  An integer is shown as its decimal digits, which every integer type reads as it reads the integer
  itself. A timestamp is shown between quotes, as it is in explanations of statements; no timestamp is
  read from this text, although one is read from the text between the quotes (`readsBack_iff`).
-/
import EntitySql.Proofs.Calendar.Reading
import EntitySql.Proofs.Decimal.Integers
import EntitySql.Proofs.Value.Integers

namespace EntitySql.CellType

variable {t : CellType} {low high : Int}

/-! ## Integers -/

theorem asInt64?_text (i : Int64) : (Value.text (toString i.toInt)).asInt64? = some i := by
  have bounds : Int64.minValue.toInt ≤ i.toInt ∧ i.toInt ≤ Int64.maxValue.toInt :=
    ⟨Int64.minValue_le_toInt i, Int64.toInt_le i⟩
  show (Decimal.readInteger? (Text.trim (toString i.toInt).toList)).bind int64OfInt? = some i
  rw [Decimal.readInteger?_text, Option.bind_some, int64OfInt?, if_pos bounds, Int64.ofInt_toInt]

theorem asNatural?_text_integer (i : Int64) :
    (Value.text (toString i.toInt)).asNatural? = (Value.integer i).asNatural? := by
  show (Decimal.readNatural? (Text.trim (toString i.toInt).toList)).bind uint64OfNat? =
    if 0 ≤ i.toInt then some i.toUInt64 else none
  rw [Decimal.readNatural?_integer]
  split
  · next natural =>
    have word := toNat_toUInt64 natural
    rw [Option.bind_some, ← word, Int.toNat_natCast, uint64OfNat?, if_pos i.toUInt64.toNat_lt,
      UInt64.ofNat_toNat]
  · rfl

theorem ofValue?_text_integer (h : t.range? = some (low, high)) (i : Int64) :
    t.ofValue? (.text (toString i.toInt)) = t.ofValue? (.integer i) := by
  have word : (Value.text (toString i.toInt)).asInt64? = (Value.integer i).asInt64? := asInt64?_text i
  cases t <;> cases h
  case uint64 => exact asNatural?_text_integer i
  case size => exact asNatural?_text_integer i
  all_goals simp only [ofValue?, integerWithin?, word]

/-! ## Timestamps -/

theorem timestampOfText?_text (x : Timestamp) : timestampOfText? (x.text ' ') = some x := by
  rw [timestampOfText?, show Timestamp.read? .spaced (x.text ' ') = some x from
    Timestamp.read?_text .spaced x]
  rfl

theorem timestampOfText?_quote (s : String) : timestampOfText? ("'" ++ s) = none := by
  rw [timestampOfText?, Timestamp.read?_quote, Timestamp.read?_quote]
  rfl

/-! ## Main result -/

/-- The type of what integers and timestamps hold. -/
def heldBy? : Value → Option CellType
  | .integer _ => some .int64
  | .timestamp _ => some .timestamp
  | _ => none

/-- The value is read as a text, and what it holds is read from this text. -/
def ReadsBack (t : CellType) (v : Value) : Prop :=
  ∃ s x, text.ofValue? v = some s ∧ t.ofValue? v = some x ∧ t.ofValue? (.text s) = some x

theorem readsBack_integer (i : Int64) : ReadsBack .int64 (.integer i) :=
  ⟨toString i.toInt, i, rfl, rfl, asInt64?_text i⟩

theorem not_readsBack_timestamp (x : Timestamp) : ¬ReadsBack .timestamp (.timestamp x) := by
  rintro ⟨s, y, shown, -, read⟩
  have quoted : timestampOfText? ("'" ++ x.text ' ' ++ "'") = none := by
    rw [String.append_assoc]
    exact timestampOfText?_quote _
  cases shown
  cases quoted.symm.trans read

/-- What an integer or a timestamp holds is read from its text exactly if it is an integer, whose text
every integer type reads as the integer itself. The text of a timestamp is in quotes, and it would be read
without these. -/
theorem readsBack_iff {v : Value} {t : CellType} (held : heldBy? v = some t) :
    (ReadsBack t v ↔ t = .int64) ∧
    (∀ i, v = .integer i → text.ofValue? v = some (toString i.toInt) ∧
      ∀ (u : CellType) (low high : Int), u.range? = some (low, high) →
        u.ofValue? (.text (toString i.toInt)) = u.ofValue? v) ∧
    (∀ x, v = .timestamp x → text.ofValue? v = some ("'" ++ x.text ' ' ++ "'") ∧
      timestamp.ofValue? (.text (x.text ' ')) = some x) := by
  cases v
  case integer i =>
    cases held
    refine ⟨⟨fun _ => rfl, fun _ => readsBack_integer i⟩, ?_, ?_⟩
    · intro _ same
      cases same
      exact ⟨rfl, fun u low high range => ofValue?_text_integer range i⟩
    · intro _ other
      cases other
  case timestamp x =>
    cases held
    refine ⟨⟨fun back => absurd back (not_readsBack_timestamp x), nofun⟩, ?_, ?_⟩
    · intro _ other
      cases other
    · intro _ same
      cases same
      exact ⟨rfl, timestampOfText?_text x⟩
  all_goals cases held

/-- The least integer of 16 bits, and how this type reads its text. -/
theorem readsBack_iff_least :
    heldBy? (.integer (-32768)) = some .int64 ∧ ReadsBack .int64 (.integer (-32768)) ∧
      CellType.range? .int16 = some (-2 ^ 15, 2 ^ 15 - 1) ∧
      int16.ofValue? (.text "-32768") = some (-32768) := by
  have shown : toString (-32768 : Int64).toInt = "-32768" := by decide
  obtain ⟨back, alike, -⟩ := readsBack_iff (v := .integer (-32768)) rfl
  have read := (alike _ rfl).2 .int16 _ _ rfl
  rw [shown] at read
  exact ⟨rfl, back.2 rfl, rfl, read.trans (by decide)⟩

/-- The text of a timestamp is in quotes and no timestamp. -/
theorem timestamp_text_not_read_back :
    let moment : Timestamp := ⟨⟨2024, 3, 1, by decide, by decide⟩, ⟨10, 20, 30, 0⟩⟩
    text.ofValue? (.timestamp moment) = some "'2024-03-01 10:20:30'" ∧
      timestamp.ofValue? (.text "'2024-03-01 10:20:30'") = none ∧
      timestamp.ofValue? (.text "2024-03-01 10:20:30") = some moment := by
  decide +kernel

end EntitySql.CellType
