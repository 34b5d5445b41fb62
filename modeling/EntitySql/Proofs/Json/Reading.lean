/-
  Documents read back from the text that was written for them (`Json.read?_render`), whatever they
  hold, if their strings are texts and their numbers are written by the rules and in range
  (`Json.IsWritten`).

  Each part is read with any text behind it that cannot be taken for more of the part, and with any
  fuel that is not less than the length of the part's own text.
-/
import EntitySql.Json.Number
import EntitySql.Proofs.Json.Tokens

namespace EntitySql.Json

/-! ## Documents that can be written -/

mutual

/-- Every string is a text, and every number is written by the rules and in range. -/
def IsWritten : Json → Prop
  | .null | .bool _ => True
  | .number n => n.IsWritten ∧ n.number?.isSome
  | .string s => s.isSome
  | .array items => ItemsWritten items
  | .object members => MembersWritten members

def ItemsWritten : List Json → Prop
  | [] => True
  | j :: rest => j.IsWritten ∧ ItemsWritten rest

def MembersWritten : List (Option String × Json) → Prop
  | [] => True
  | (key, value) :: rest => key.isSome ∧ value.IsWritten ∧ MembersWritten rest

end

/-! ## The text of the parts -/

/-- The items of an array with the closing bracket. -/
def itemsText (items : List Json) : List Char :=
  (",".intercalate (renderItems items)).toList ++ [']']

/-- The members of an object with the closing brace. -/
def membersText (members : List (Option String × Json)) : List Char :=
  (",".intercalate (renderMembers members)).toList ++ ['\x7d']

/-- A member of an object. -/
def memberText (key : String) (value : Json) : List Char :=
  '"' :: (key.toList.flatMap escapeChar ++ '"' :: ':' :: (render value).toList)

theorem toList_render_array (items : List Json) :
    (render (.array items)).toList = '[' :: itemsText items := by
  simp [render, itemsText]

theorem toList_render_object (members : List (Option String × Json)) :
    (render (.object members)).toList = '\x7b' :: membersText members := by
  simp [render, membersText]

theorem itemsText_nil : itemsText [] = [']'] := rfl

theorem membersText_nil : membersText [] = ['\x7d'] := rfl

theorem itemsText_singleton (j : Json) : itemsText [j] = (render j).toList ++ [']'] := by
  rw [itemsText, renderItems, renderItems, String.intercalate_singleton]

theorem itemsText_cons_cons (j k : Json) (rest : List Json) :
    itemsText (j :: k :: rest) = (render j).toList ++ ',' :: itemsText (k :: rest) := by
  simp [itemsText, renderItems, String.intercalate_cons_cons]

theorem membersText_singleton (key : String) (value : Json) :
    membersText [(some key, value)] = memberText key value ++ ['\x7d'] := by
  simp [membersText, renderMembers, memberText, stringText?, toList_stringText]

theorem membersText_cons_cons (key : String) (value : Json) (member : Option String × Json)
    (rest : List (Option String × Json)) :
    membersText ((some key, value) :: member :: rest) =
      memberText key value ++ ',' :: membersText (member :: rest) := by
  simp [membersText, renderMembers, memberText, stringText?, toList_stringText,
    String.intercalate_cons_cons]

theorem memberText_append (key : String) (value : Json) (rest : List Char) :
    memberText key value ++ rest =
      '"' :: (key.toList.flatMap escapeChar ++ '"' :: ':' :: ((render value).toList ++ rest)) := by
  simp [memberText]

theorem length_memberText (key : String) (value : Json) :
    (render value).toList.length + 3 ≤ (memberText key value).length := by
  simp only [memberText, List.length_cons, List.length_append]
  omega

/-! ## How a document begins -/

/-- A character that is no blank and closes nothing. -/
def Opens (c : Char) : Prop := isSpace c = false ∧ c ≠ ']' ∧ c ≠ '\x7d'

theorem head_numberText {n : NumberText} (h : n.IsWritten) :
    ∃ c cs, (numberText n).toList = c :: cs ∧ (c.isDigit = true ∨ c = '-') := by
  rw [toList_numberText]
  cases n.negative with
  | true => exact ⟨'-', _, rfl, .inr rfl⟩
  | false =>
    obtain ⟨c, cs, hwhole, digit⟩ := head_whole h
    rw [hwhole]
    exact ⟨c, _, rfl, .inl digit⟩

/-- The blanks and the characters with which documents that are not numbers begin or end. -/
def marks : List Char :=
  [' ', '\n', '\t', '\r', ']', '\x7d', 'n', 't', 'f', '"', '[', '\x7b']

theorem not_mark {c d : Char} (numeric : c.isDigit = true ∨ c = '-') (hd : d ∈ marks) : c ≠ d := by
  have all : ∀ d ∈ marks, d.isDigit = false ∧ d ≠ '-' := by simp [marks]
  obtain ⟨no_digit, no_sign⟩ := all d hd
  rintro rfl
  rcases numeric with digit | sign
  · exact absurd digit (by rw [no_digit]; decide)
  · exact no_sign sign

theorem opens_of_numeric {c : Char} (numeric : c.isDigit = true ∨ c = '-') : Opens c := by
  have others : ∀ d ∈ marks, c ≠ d := fun d hd => not_mark numeric hd
  simp only [marks, List.forall_mem_cons] at others
  simp [Opens, isSpace, others]

theorem head_render {j : Json} (h : j.IsWritten) :
    ∃ c cs, (render j).toList = c :: cs ∧ Opens c := by
  unfold Opens
  cases j with
  | null => exact ⟨'n', _, rfl, by decide⟩
  | bool b => cases b <;> exact ⟨_, _, rfl, by decide⟩
  | number n =>
    obtain ⟨c, cs, text, numeric⟩ := head_numberText h.1
    exact ⟨c, cs, text, opens_of_numeric numeric⟩
  | string s => exact ⟨'"', _, toList_stringText _, by decide⟩
  | array items => exact ⟨'[', _, toList_render_array items, by decide⟩
  | object members => exact ⟨'\x7b', _, toList_render_object members, by decide⟩

theorem skipSpaces_of_opens {c : Char} (h : Opens c) (s : List Char) :
    skipSpaces (c :: s) = c :: s := by
  rw [skipSpaces, List.dropWhile_cons_of_neg (by rw [h.1]; decide)]

theorem head_itemsText {j : Json} (items : List Json) (h : j.IsWritten) :
    ∃ c cs, itemsText (j :: items) = c :: cs ∧ Opens c := by
  obtain ⟨c, cs, text, opens⟩ := head_render h
  cases items with
  | nil => exact ⟨c, _, by rw [itemsText_singleton, text, List.cons_append], opens⟩
  | cons k items => exact ⟨c, _, by rw [itemsText_cons_cons, text, List.cons_append], opens⟩

theorem head_membersText (key : String) (value : Json) (members : List (Option String × Json)) :
    ∃ cs, membersText ((some key, value) :: members) = '"' :: cs := by
  cases members with
  | nil => exact ⟨_, membersText_singleton key value⟩
  | cons m members => exact ⟨_, membersText_cons_cons key value m members⟩

theorem length_render_pos {j : Json} (h : j.IsWritten) : 0 < (render j).toList.length := by
  obtain ⟨c, cs, text, -⟩ := head_render h
  rw [text]
  exact Nat.succ_pos _

/-! ## One step of reading -/

theorem readValue?_number {c : Char} {s : List Char} (numeric : c.isDigit = true ∨ c = '-')
    (fuel : Nat) :
    readValue? (fuel + 1) (c :: s) = (do
      let (n, rest) ← readNumber? (c :: s)
      return (.number n, rest)) := by
  rw [readValue?, skipSpaces_of_opens (opens_of_numeric numeric)]
  split
  case h_7 => rfl
  all_goals
    next h =>
      cases h
      exact absurd rfl (not_mark numeric (by decide))

theorem readValue?_string (fuel : Nat) (s : String) (rest : List Char) :
    readValue? (fuel + 1) ('"' :: (s.toList.flatMap escapeChar ++ '"' :: rest)) =
      some (.text s, rest) := by
  rw [readValue?]
  exact Option.bind_eq_some_iff.2 ⟨(some s, rest), readString?_escaped s rest, rfl⟩

theorem readValue?_null (fuel : Nat) (rest : List Char) :
    readValue? (fuel + 1) ("null".toList ++ rest) = some (.null, rest) := by
  rw [readValue?]
  rfl

theorem readValue?_bool (fuel : Nat) (b : Bool) (rest : List Char) :
    readValue? (fuel + 1) ((if b then "true" else "false").toList ++ rest) = some (.bool b, rest) := by
  rw [readValue?]
  cases b <;> rfl

theorem readValue?_emptyArray (fuel : Nat) (rest : List Char) :
    readValue? (fuel + 1) ('[' :: ']' :: rest) = some (.array [], rest) := by
  rw [readValue?]
  rfl

theorem readValue?_emptyObject (fuel : Nat) (rest : List Char) :
    readValue? (fuel + 1) ('\x7b' :: '\x7d' :: rest) = some (.object [], rest) := by
  rw [readValue?]
  rfl

theorem readItems?_last {fuel : Nat} {s rest : List Char} {j : Json}
    (h : readValue? fuel s = some (j, ']' :: rest)) :
    readItems? (fuel + 1) s = some ([j], rest) := by
  rw [readItems?, h]
  rfl

theorem readItems?_cons {fuel : Nat} {s t rest : List Char} {j : Json} {items : List Json}
    (h : readValue? fuel s = some (j, ',' :: t)) (others : readItems? fuel t = some (items, rest)) :
    readItems? (fuel + 1) s = some (j :: items, rest) := by
  rw [readItems?]
  refine Option.bind_eq_some_iff.2 ⟨(j, ',' :: t), h, ?_⟩
  exact Option.bind_eq_some_iff.2 ⟨(items, rest), others, rfl⟩

theorem readValue?_array {fuel : Nat} {c : Char} {s rest : List Char} {items : List Json}
    (opens : Opens c) (h : readItems? fuel (c :: s) = some (items, rest)) :
    readValue? (fuel + 1) ('[' :: c :: s) = some (.array items, rest) := by
  rw [readValue?]
  have bracket : skipSpaces ('[' :: c :: s) = '[' :: c :: s := rfl
  rw [bracket]
  split
  case h_5 whole =>
    cases whole
    rw [skipSpaces_of_opens opens]
    split
    · next closed =>
      cases closed
      exact absurd rfl opens.2.1
    · exact Option.bind_eq_some_iff.2 ⟨(items, rest), h, rfl⟩
  case h_7 no_list _ => exact (no_list _ rfl).elim
  all_goals
    next whole => cases whole

theorem readValue?_object {fuel : Nat} {s rest : List Char} {members : List (Option String × Json)}
    (h : readMembers? fuel ('"' :: s) = some (members, rest)) :
    readValue? (fuel + 1) ('\x7b' :: '"' :: s) = some (.object members, rest) := by
  rw [readValue?]
  exact Option.bind_eq_some_iff.2 ⟨(members, rest), h, rfl⟩

theorem readMembers?_key (fuel : Nat) (key : String) (s : List Char) :
    readMembers? (fuel + 1) ('"' :: (key.toList.flatMap escapeChar ++ '"' :: ':' :: s)) = (do
      let (value, rest) ← readValue? fuel s
      match skipSpaces rest with
      | '\x7d' :: rest => return ([(some key, value)], rest)
      | ',' :: rest => do
        let (members, rest) ← readMembers? fuel rest
        return ((some key, value) :: members, rest)
      | _ => none) := by
  rw [readMembers?]
  exact congrArg (Option.bind · _) (readString?_escaped key (':' :: s))

theorem readMembers?_last {fuel : Nat} {key : String} {value : Json} {s rest : List Char}
    (h : readValue? fuel s = some (value, '\x7d' :: rest)) :
    readMembers? (fuel + 1) ('"' :: (key.toList.flatMap escapeChar ++ '"' :: ':' :: s)) =
      some ([(some key, value)], rest) := by
  rw [readMembers?_key, h]
  rfl

theorem readMembers?_cons {fuel : Nat} {key : String} {value : Json} {s t rest : List Char}
    {members : List (Option String × Json)} (h : readValue? fuel s = some (value, ',' :: t))
    (others : readMembers? fuel t = some (members, rest)) :
    readMembers? (fuel + 1) ('"' :: (key.toList.flatMap escapeChar ++ '"' :: ':' :: s)) =
      some ((some key, value) :: members, rest) := by
  rw [readMembers?_key, h]
  show (do
    let (members, rest) ← readMembers? fuel t
    return ((some key, value) :: members, rest)) = _
  rw [others]
  rfl

/-! ## Whole documents -/

/-- What a document closes with ends the part before. -/
theorem endsPart_of_mem {c : Char} (h : c ∈ [',', ']', '\x7d']) (s : List Char) : EndsPart (c :: s) :=
  .inr ⟨c, s, rfl, h⟩

/-- The document is read back from its text, with enough fuel and whatever follows. -/
def ReadsBack (j : Json) : Prop := ∀ (rest : List Char) (fuel : Nat), EndsPart rest →
  (render j).toList.length ≤ fuel + 1 →
  readValue? (fuel + 1) ((render j).toList ++ rest) = some (j, rest)

theorem readItems?_itemsText {j : Json} {items : List Json}
    (h : ∀ k ∈ j :: items, k.IsWritten ∧ k.ReadsBack) (rest : List Char) (fuel : Nat)
    (enough : (itemsText (j :: items)).length ≤ fuel) :
    readItems? fuel (itemsText (j :: items) ++ rest) = some (j :: items, rest) := by
  induction items generalizing j fuel with
  | nil =>
    obtain ⟨written, reads⟩ := h j List.mem_cons_self
    have some_text := length_render_pos written
    rw [itemsText_singleton, List.append_assoc] at *
    rw [List.length_append, List.length_singleton] at enough
    obtain ⟨fuel, rfl⟩ := Nat.exists_eq_add_of_le' (show 2 ≤ fuel by omega)
    exact readItems?_last (reads _ fuel (endsPart_of_mem (by decide) rest) (by omega))
  | cons k items ih =>
    obtain ⟨written, reads⟩ := h j List.mem_cons_self
    have some_text := length_render_pos written
    rw [itemsText_cons_cons, List.append_assoc] at *
    rw [List.length_append, List.length_cons] at enough
    obtain ⟨fuel, rfl⟩ := Nat.exists_eq_add_of_le' (show 2 ≤ fuel by omega)
    have others := ih (fun k hk => h k (List.mem_cons_of_mem j hk)) (fuel + 1) (by omega)
    exact readItems?_cons (reads _ fuel (endsPart_of_mem (by decide) _) (by omega)) others

theorem readMembers?_membersText {key : String} {value : Json}
    {members : List (Option String × Json)}
    (h : ∀ m ∈ (some key, value) :: members, m.1.isSome ∧ m.2.IsWritten ∧ m.2.ReadsBack)
    (rest : List Char) (fuel : Nat)
    (enough : (membersText ((some key, value) :: members)).length ≤ fuel) :
    readMembers? fuel (membersText ((some key, value) :: members) ++ rest) =
      some ((some key, value) :: members, rest) := by
  induction members generalizing key value fuel with
  | nil =>
    obtain ⟨-, -, reads⟩ : _ ∧ value.IsWritten ∧ value.ReadsBack := h _ List.mem_cons_self
    have length := length_memberText key value
    rw [membersText_singleton, List.append_assoc] at *
    rw [List.length_append, List.length_singleton] at enough
    obtain ⟨fuel, rfl⟩ := Nat.exists_eq_add_of_le' (show 2 ≤ fuel by omega)
    rw [memberText_append]
    exact readMembers?_last (reads _ fuel (endsPart_of_mem (by decide) rest) (by omega))
  | cons m members ih =>
    obtain ⟨k, v⟩ := m
    obtain ⟨-, -, reads⟩ : _ ∧ value.IsWritten ∧ value.ReadsBack := h _ List.mem_cons_self
    have some_key := (h _ (List.mem_cons_of_mem _ List.mem_cons_self)).1
    obtain ⟨k, rfl⟩ := Option.isSome_iff_exists.1 some_key
    have length := length_memberText key value
    rw [membersText_cons_cons, List.append_assoc] at *
    rw [List.length_append, List.length_cons] at enough
    obtain ⟨fuel, rfl⟩ := Nat.exists_eq_add_of_le' (show 2 ≤ fuel by omega)
    have others := ih (fun m hm => h m (List.mem_cons_of_mem _ hm)) (fuel + 1) (by omega)
    rw [memberText_append]
    exact readMembers?_cons (reads _ fuel (endsPart_of_mem (by decide) _) (by omega)) others

theorem readsBack_null : ReadsBack .null := by
  intro rest fuel _ _
  rw [render, readValue?_null]

theorem readsBack_bool (b : Bool) : ReadsBack (.bool b) := by
  intro rest fuel _ _
  rw [render, readValue?_bool]

theorem readsBack_number {n : NumberText} (h : n.IsWritten) : ReadsBack (.number n) := by
  intro rest fuel ends _
  have read := readNumber?_numberText h ends
  obtain ⟨c, cs, text, numeric⟩ := head_numberText h
  rw [text, List.cons_append] at read
  rw [render, text, List.cons_append, readValue?_number numeric, read]
  rfl

theorem readsBack_text (s : String) : ReadsBack (.text s) := by
  intro rest fuel _ _
  rw [text, render, stringText?, Option.getD_some, toList_stringText, List.cons_append,
    List.append_assoc, List.singleton_append, readValue?_string]
  rfl

theorem readsBack_array {items : List Json} (h : ∀ j ∈ items, j.IsWritten ∧ j.ReadsBack) :
    ReadsBack (.array items) := by
  intro rest fuel _ enough
  rw [toList_render_array] at enough ⊢
  cases items with
  | nil => rw [itemsText_nil, List.cons_append, List.singleton_append, readValue?_emptyArray]
  | cons j items =>
    rw [List.length_cons] at enough
    have read := readItems?_itemsText h rest fuel (by omega)
    obtain ⟨c, cs, text, opens⟩ := head_itemsText items (h j List.mem_cons_self).1
    rw [text, List.cons_append] at read
    rw [text, List.cons_append, List.cons_append, readValue?_array opens read]

theorem readsBack_object {members : List (Option String × Json)}
    (h : ∀ m ∈ members, m.1.isSome ∧ m.2.IsWritten ∧ m.2.ReadsBack) :
    ReadsBack (.object members) := by
  intro rest fuel _ enough
  rw [toList_render_object] at enough ⊢
  cases members with
  | nil => rw [membersText_nil, List.cons_append, List.singleton_append, readValue?_emptyObject]
  | cons m members =>
    obtain ⟨key, value⟩ := m
    obtain ⟨key, rfl⟩ := Option.isSome_iff_exists.1 (h _ List.mem_cons_self).1
    rw [List.length_cons] at enough
    have read := readMembers?_membersText h rest fuel (by omega)
    obtain ⟨cs, text⟩ := head_membersText key value members
    rw [text, List.cons_append] at read
    rw [text, List.cons_append, List.cons_append, readValue?_object read]

mutual

theorem readsBack (j : Json) (h : j.IsWritten) : j.ReadsBack := by
  match j with
  | .null => exact readsBack_null
  | .bool b => exact readsBack_bool b
  | .number n => exact readsBack_number h.1
  | .string none => cases h
  | .string (some s) => exact readsBack_text s
  | .array items => exact readsBack_array (items_readBack items h)
  | .object members => exact readsBack_object (members_readBack members h)

theorem items_readBack (items : List Json) (h : ItemsWritten items) :
    ∀ j ∈ items, j.IsWritten ∧ j.ReadsBack := by
  match items with
  | [] => exact fun _ hj => absurd hj List.not_mem_nil
  | j :: items =>
    exact List.forall_mem_cons.2 ⟨⟨h.1, readsBack j h.1⟩, items_readBack items h.2⟩

theorem members_readBack (members : List (Option String × Json)) (h : MembersWritten members) :
    ∀ m ∈ members, m.1.isSome ∧ m.2.IsWritten ∧ m.2.ReadsBack := by
  match members with
  | [] => exact fun _ hm => absurd hm List.not_mem_nil
  | (key, value) :: members =>
    exact List.forall_mem_cons.2 ⟨⟨h.1, h.2.1, readsBack value h.2.1⟩, members_readBack members h.2.2⟩

end

/-- A document that can be written is read back from its text. -/
theorem read?_render {j : Json} (h : j.IsWritten) : read? (render j) = some j := by
  have reads := readsBack j h [] (render j).toList.length (.inl rfl) (Nat.le_succ _)
  rw [List.append_nil] at reads
  unfold read?
  simp only [reads, Option.bind_eq_bind, Option.bind_some]
  rfl

end EntitySql.Json
