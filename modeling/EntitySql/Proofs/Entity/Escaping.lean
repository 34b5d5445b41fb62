/-
  Escaping puts reserved words in quotes and changes nothing else.

  An identifier is its parts with dots between them. No quote is a dot, so an escaped identifier has the
  parts of the identifier again, some of them in quotes: those that are reserved words in whatever case,
  if the settings ask for it. Every reserved word starts with a capital and no quote is a letter, so a
  word in quotes is not reserved: escaping twice is escaping once.

  Taking the added quotes off gives the identifier back (`escape_quotes_reserved_parts`). A reader that
  has only the escaped identifier takes quotes off wherever a reserved word stands between them; that is
  the identifier unless it had such a part from the start.
-/
import EntitySql.Proofs.Text.Characters
import Mathlib

namespace EntitySql

/-! ## Reserved words -/

section Case

open Text

theorem Text.asciiUpper_asciiLower (s : String) : asciiUpper (asciiLower s) = asciiUpper s := by
  simp [asciiUpper, asciiLower, Function.comp_def]

theorem Text.asciiLower_asciiUpper (s : String) : asciiLower (asciiUpper s) = asciiLower s := by
  simp [asciiUpper, asciiLower, Function.comp_def]

/-- Capitals serve as well as small letters to compare texts. -/
theorem Text.eqIgnoreCase_iff_asciiUpper {s t : String} :
    eqIgnoreCase s t = true ↔ asciiUpper s = asciiUpper t := by
  rw [eqIgnoreCase, decide_eq_true_eq]
  constructor
  · intro h
    rw [← asciiUpper_asciiLower s, h, asciiUpper_asciiLower]
  · intro h
    rw [← asciiLower_asciiUpper s, h, asciiLower_asciiUpper]

end Case

theorem mem_eraseReps_loop {α : Type} [BEq α] [LawfulBEq α] {a b : α} {rest seen : List α} :
    a ∈ List.eraseRepsBy.loop (· == ·) b rest seen ↔ a ∈ seen ∨ a ∈ b :: rest := by
  induction rest generalizing b seen with
  | nil => simp [List.eraseRepsBy.loop]
  | cons c rest ih =>
    rw [List.eraseRepsBy.loop]
    split
    · next same =>
      rw [ih, eq_of_beq same]
      simp
    · rw [ih, List.mem_cons, List.mem_cons (a := a) (b := b), or_assoc, or_left_comm]

theorem mem_eraseReps {α : Type} [BEq α] [LawfulBEq α] {a : α} {xs : List α} :
    a ∈ xs.eraseReps ↔ a ∈ xs := by
  cases xs with
  | nil => exact Iff.rfl
  | cons b rest =>
    rw [List.eraseReps, List.eraseRepsBy, mem_eraseReps_loop]
    simp

namespace Database

theorem mem_reservedWords {db : Database} {word : String} :
    word ∈ db.reservedWords ↔ ∃ words ∈ db.reservedLists, word ∈ words := by
  rw [reservedWords, mem_eraseReps, List.mem_mergeSort, List.mem_flatten]

/-- No product reserves more than one without rules of its own. -/
theorem reservedLists_subset (db : Database) : db.reservedLists ⊆ reservedLists (.other "") := by
  cases db <;> simp [reservedLists]

/-- A capital with no small letters behind it. -/
def isWord : List Char → Bool
  | [] => false
  | c :: rest => c.isUpper && rest.all fun d => !d.isLower

theorem isWord_of_reserved {db : Database} {word : String} (h : word ∈ db.reservedWords) :
    isWord word.toList = true := by
  have spelled : ∀ words ∈ reservedLists (.other ""), ∀ word ∈ words,
      isWord word.toList = true := by
    decide +kernel
  obtain ⟨words, hwords, hword⟩ := mem_reservedWords.1 h
  exact spelled words (db.reservedLists_subset hwords) word hword

theorem asciiUpper_of_reserved {db : Database} {word : String} (h : word ∈ db.reservedWords) :
    Text.asciiUpper word = word := by
  have spelled := isWord_of_reserved h
  rw [Text.asciiUpper, ← String.toList_inj, String.toList_ofList]
  generalize word.toList = chars at spelled
  match chars, spelled with
  | c :: rest, spelled =>
    rw [isWord, Bool.and_eq_true, List.all_eq_true] at spelled
    obtain ⟨capital, rest_capital⟩ := spelled
    rw [List.map_cons, Char.toUpper_eq_of_not_isLower (Char.not_isLower_of_isUpper capital)]
    refine congrArg (c :: ·) ((List.map_congr_left fun d hd => ?_).trans (List.map_id rest))
    exact Char.toUpper_eq_of_not_isLower (by simpa using rest_capital d hd)

/-- An identifier is reserved if it is a reserved word up to the case of its letters. -/
theorem isReserved_eq_any (db : Database) (identifier : String) :
    db.isReserved identifier = db.reservedWords.any (Text.eqIgnoreCase identifier) := by
  rw [Bool.eq_iff_iff, isReserved_iff, ← mem_reservedWords, List.any_eq_true]
  constructor
  · intro h
    exact ⟨_, h, Text.eqIgnoreCase_iff_asciiUpper.2 (asciiUpper_of_reserved h).symm⟩
  · rintro ⟨word, hword, same⟩
    rwa [Text.eqIgnoreCase_iff_asciiUpper.1 same, asciiUpper_of_reserved hword]

end Database

/-! ## Quotes -/

namespace Dialect

/-- No quote is a dot, and the opening one is no letter. -/
theorem quotes_apart (d : Dialect) :
    d.quotes.1 ≠ '.' ∧ d.quotes.2 ≠ '.' ∧ d.quotes.1.toUpper.isUpper = false := by
  rw [quotes]
  split <;> decide

/-- What stands between the quotes of identifiers. -/
def unquote? (d : Dialect) (text : String) : Option String :=
  (([d.quotes.1].isPrefixOf? text.toList).bind ([d.quotes.2].isSuffixOf? ·)).map String.ofList

theorem toList_quote (d : Dialect) (word : String) :
    (d.quote word).toList = [d.quotes.1] ++ (word.toList ++ [d.quotes.2]) := by
  rw [quote, String.toList_append, String.toList_append, String.toList_singleton,
    String.toList_singleton, List.append_assoc]

theorem unquote?_eq_some {d : Dialect} {text word : String} :
    d.unquote? text = some word ↔ text = d.quote word := by
  rw [unquote?, Option.map_eq_some_iff, ← String.toList_inj, toList_quote]
  constructor
  · rintro ⟨inside, taken, rfl⟩
    obtain ⟨rest, front, back⟩ := Option.bind_eq_some_iff.1 taken
    rw [← List.isPrefixOf?_eq_some_iff_append_eq.1 front,
      ← List.isSuffixOf?_eq_some_iff_append_eq.1 back, String.toList_ofList]
  · intro h
    refine ⟨word.toList, ?_, String.ofList_toList⟩
    rw [h, isPrefixOf?_append, Option.bind_some]
    exact List.isSuffixOf?_eq_some_iff_append_eq.2 rfl

theorem unquote?_quote (d : Dialect) (word : String) : d.unquote? (d.quote word) = some word :=
  unquote?_eq_some.2 rfl

theorem quote_ne (d : Dialect) (word : String) : d.quote word ≠ word := by
  intro h
  have length := congrArg List.length (congrArg String.toList h)
  rw [toList_quote, List.length_append, List.length_append, List.length_singleton,
    List.length_singleton] at length
  omega

/-- No word in quotes is reserved. -/
theorem not_isReserved_quote (d : Dialect) (db : Database) (word : String) :
    db.isReserved (d.quote word) = false := by
  refine Bool.eq_false_iff.2 fun reserved => ?_
  have spelled := Database.isWord_of_reserved
    (Database.mem_reservedWords.2 (Database.isReserved_iff.1 reserved))
  rw [Text.asciiUpper, String.toList_ofList, toList_quote, List.map_append, List.map_singleton,
    List.singleton_append, Database.isWord, d.quotes_apart.2.2] at spelled
  cases spelled

theorem dot_not_mem_quote (d : Dialect) {word : String} (h : '.' ∉ word.toList) :
    '.' ∉ (d.quote word).toList := by
  rw [toList_quote, List.mem_append, List.mem_append, List.mem_singleton, List.mem_singleton]
  rintro (opening | inside | closing)
  · exact d.quotes_apart.1 opening.symm
  · exact h inside
  · exact d.quotes_apart.2.1 closing.symm

end Dialect

/-! ## Parts of identifiers -/

theorem not_mem_of_mem_splitOn {α : Type} [BEq α] [LawfulBEq α] {a : α} {xs part : List α}
    (h : part ∈ xs.splitOn a) : a ∉ part := by
  induction xs generalizing part with
  | nil =>
    rw [List.splitOn_nil, List.mem_singleton] at h
    rw [h]
    exact List.not_mem_nil
  | cons x xs ih =>
    rw [List.splitOn_cons_eq_if_modifyHead] at h
    split at h
    · rcases List.mem_cons.1 h with rfl | h
      · exact List.not_mem_nil
      · exact ih h
    · next other =>
      have some_part := List.splitOn_ne_nil a xs
      generalize xs.splitOn a = parts at h ih some_part
      cases parts with
      | nil => exact absurd rfl some_part
      | cons first rest =>
        rcases List.mem_cons.1 h with rfl | h
        · rw [List.mem_cons, not_or]
          exact ⟨fun same => other (beq_iff_eq.2 same.symm), ih List.mem_cons_self⟩
        · exact ih (List.mem_cons_of_mem first h)

namespace Settings

theorem intercalate_identifierParts (identifier : String) :
    ".".intercalate (identifierParts identifier) = identifier := by
  have texts : (identifierParts identifier).map String.toList = identifier.toList.splitOn '.' := by
    simp [identifierParts, Function.comp_def]
  rw [← String.toList_inj, String.toList_intercalate, texts]
  exact List.intercalate_splitOn '.'

theorem identifierParts_ne_nil (identifier : String) : identifierParts identifier ≠ [] := by
  rw [identifierParts, ne_eq, List.map_eq_nil_iff]
  exact List.splitOn_ne_nil '.' identifier.toList

theorem dot_not_mem_of_mem_identifierParts {identifier part : String}
    (h : part ∈ identifierParts identifier) : '.' ∉ part.toList := by
  obtain ⟨chars, hchars, rfl⟩ := List.mem_map.1 h
  rw [String.toList_ofList]
  exact not_mem_of_mem_splitOn hchars

/-- Texts without dots are the parts of the identifier that they make. -/
theorem identifierParts_intercalate {parts : List String} (some_part : parts ≠ [])
    (dotless : ∀ part ∈ parts, '.' ∉ part.toList) :
    identifierParts (".".intercalate parts) = parts := by
  have split : (['.'].intercalate (parts.map String.toList)).splitOn '.' = parts.map String.toList := by
    refine List.splitOn_intercalate '.' (fun chars hchars => ?_) (by simpa using some_part)
    obtain ⟨part, hpart, rfl⟩ := List.mem_map.1 hchars
    exact dotless part hpart
  rw [identifierParts, String.toList_intercalate]
  refine (congrArg (List.map String.ofList) split).trans ?_
  simp [Function.comp_def]

/-! ## What escaping does -/

/-- The part is put in quotes: escaping is on, and it is a reserved word in some case. -/
def quotesPart (s : Settings) (part : String) : Bool :=
  s.escapeKeywords && s.database.reservedWords.any (Text.eqIgnoreCase part)

/-- The part as it is escaped. -/
def escapedPart (s : Settings) (part : String) : String :=
  if s.quotesPart part then s.dialect.quote part else part

theorem quotesPart_quote (s : Settings) (word : String) :
    s.quotesPart (s.dialect.quote word) = false := by
  rw [quotesPart, ← Database.isReserved_eq_any, Dialect.not_isReserved_quote, Bool.and_false]

theorem escape_eq_intercalate (s : Settings) (identifier : String) :
    s.escape identifier = ".".intercalate ((identifierParts identifier).map s.escapedPart) := by
  rw [escape]
  split
  · next on =>
    refine congrArg (".".intercalate ·) (List.map_congr_left fun part _ => ?_)
    rw [escapePart, escapedPart, quotesPart, ← Database.isReserved_eq_any, on, Bool.true_and]
  · next off =>
    have unchanged : s.escapedPart = id := by
      funext part
      simp [escapedPart, quotesPart, off]
    rw [unchanged, List.map_id, intercalate_identifierParts]

theorem identifierParts_escape (s : Settings) (identifier : String) :
    identifierParts (s.escape identifier) = (identifierParts identifier).map s.escapedPart := by
  rw [escape_eq_intercalate]
  refine identifierParts_intercalate ?_ fun part hpart => ?_
  · rw [ne_eq, List.map_eq_nil_iff]
    exact identifierParts_ne_nil identifier
  · obtain ⟨original, horiginal, rfl⟩ := List.mem_map.1 hpart
    have dotless := dot_not_mem_of_mem_identifierParts horiginal
    rw [escapedPart]
    split
    · exact s.dialect.dot_not_mem_quote dotless
    · exact dotless

theorem escapedPart_escapedPart (s : Settings) (part : String) :
    s.escapedPart (s.escapedPart part) = s.escapedPart part := by
  by_cases quoted : s.quotesPart part = true
  · have once : s.escapedPart part = s.dialect.quote part := if_pos quoted
    rw [once, escapedPart, quotesPart_quote]
    rfl
  · have unchanged : s.escapedPart part = part := if_neg quoted
    rw [unchanged, unchanged]

theorem escape_escape (s : Settings) (identifier : String) :
    s.escape (s.escape identifier) = s.escape identifier := by
  rw [escape_eq_intercalate s (s.escape identifier), identifierParts_escape, List.map_map,
    escape_eq_intercalate]
  exact congrArg (".".intercalate ·)
    (List.map_congr_left fun part _ => s.escapedPart_escapedPart part)

/-! ## Taking quotes off -/

/-- The text without the quotes of its marked parts. -/
def unquoteParts (s : Settings) (marks : List Bool) (text : String) : String :=
  ".".intercalate (List.zipWith
    (fun marked part => if marked then (s.dialect.unquote? part).getD part else part)
    marks (identifierParts text))

theorem unquoteParts_escape (s : Settings) (identifier : String) :
    s.unquoteParts ((identifierParts identifier).map s.quotesPart) (s.escape identifier) =
      identifier := by
  have part_back : ∀ part, (if s.quotesPart part then
      (s.dialect.unquote? (s.escapedPart part)).getD (s.escapedPart part) else s.escapedPart part) =
        part := fun part => by
    rw [escapedPart]
    split
    · rw [Dialect.unquote?_quote, Option.getD_some]
    · rfl
  rw [unquoteParts, identifierParts_escape, List.zipWith_map, List.zipWith_self]
  simp only [part_back, List.map_id']
  exact intercalate_identifierParts identifier

/-- The part without quotes if a word stands between them that would get them. -/
def unescapedPart (s : Settings) (part : String) : String :=
  match s.dialect.unquote? part with
  | some word => if s.quotesPart word then word else part
  | none => part

/-- The text as it was escaped, as far as the text tells. -/
def unescape (s : Settings) (text : String) : String :=
  ".".intercalate ((identifierParts text).map s.unescapedPart)

theorem unescapedPart_quote {s : Settings} {word : String} (h : s.quotesPart word = true) :
    s.unescapedPart (s.dialect.quote word) = word := by
  rw [unescapedPart, Dialect.unquote?_quote]
  exact if_pos h

/-- Any other part stays as it is. -/
theorem unescapedPart_of_forall_ne {s : Settings} {part : String}
    (h : ∀ word, s.quotesPart word = true → s.dialect.quote word ≠ part) :
    s.unescapedPart part = part := by
  rw [unescapedPart]
  split
  · next word inside =>
    exact if_neg fun quoted => h word quoted (Dialect.unquote?_eq_some.1 inside).symm
  · rfl

theorem unescapedPart_escapedPart_eq_self_iff {s : Settings} {part : String} :
    s.unescapedPart (s.escapedPart part) = part ↔
      ∀ word, s.quotesPart word = true → s.dialect.quote word ≠ part := by
  by_cases quoted : s.quotesPart part = true
  · have escaped : s.escapedPart part = s.dialect.quote part := if_pos quoted
    rw [escaped, unescapedPart_quote quoted]
    refine iff_of_true rfl fun word _ same => ?_
    rw [← same, quotesPart_quote] at quoted
    cases quoted
  · have escaped : s.escapedPart part = part := if_neg quoted
    rw [escaped]
    refine ⟨?_, unescapedPart_of_forall_ne⟩
    rintro back word reserved rfl
    rw [unescapedPart_quote reserved] at back
    exact s.dialect.quote_ne word back.symm

theorem dot_not_mem_unescapedPart (s : Settings) {part : String} (h : '.' ∉ part.toList) :
    '.' ∉ (s.unescapedPart part).toList := by
  rw [unescapedPart]
  split
  · next word inside =>
    split
    · rw [Dialect.unquote?_eq_some.1 inside, Dialect.toList_quote] at h
      exact fun dot => h (List.mem_append_right _ (List.mem_append_left _ dot))
    · exact h
  · exact h

/-- The escaped identifier tells what it was made from, unless a reserved word was in quotes there. -/
theorem unescape_escape_eq_self_iff (s : Settings) (identifier : String) :
    s.unescape (s.escape identifier) = identifier ↔
      ∀ word, s.quotesPart word = true → s.dialect.quote word ∉ identifierParts identifier := by
  have parts_back : s.unescape (s.escape identifier) = identifier ↔
      (identifierParts identifier).map (s.unescapedPart ∘ s.escapedPart) =
        identifierParts identifier := by
    rw [unescape, ← List.map_map, ← identifierParts_escape]
    constructor
    · intro back
      have parts := congrArg identifierParts back
      rwa [identifierParts_intercalate] at parts
      · rw [ne_eq, List.map_eq_nil_iff]
        exact identifierParts_ne_nil _
      · intro part hpart
        obtain ⟨escaped, hescaped, rfl⟩ := List.mem_map.1 hpart
        exact s.dot_not_mem_unescapedPart (dot_not_mem_of_mem_identifierParts hescaped)
    · intro parts
      rw [parts, intercalate_identifierParts]
  have pointwise := List.map_inj_left (l := identifierParts identifier)
    (f := s.unescapedPart ∘ s.escapedPart) (g := id)
  rw [List.map_id] at pointwise
  rw [parts_back, pointwise]
  constructor
  · intro back word reserved hword
    exact unescapedPart_escapedPart_eq_self_iff.1 (back _ hword) word reserved rfl
  · intro plain part hpart
    refine unescapedPart_escapedPart_eq_self_iff.2 fun word reserved same => ?_
    exact plain word reserved (same ▸ hpart)

/-- **Escaping can be undone and need not be repeated.** The parts of an escaped identifier are those of
the identifier, in quotes exactly where escaping is on and the part is a reserved word in some case.
Without these quotes it is the identifier again, and to escape it once more changes nothing. Which
parts got quotes shows from the escaped identifier alone, unless a reserved word had them before. -/
theorem escape_quotes_reserved_parts (s : Settings) (identifier : String) :
    identifierParts (s.escape identifier) = (identifierParts identifier).map s.escapedPart ∧
      s.unquoteParts ((identifierParts identifier).map s.quotesPart) (s.escape identifier) =
        identifier ∧
      (s.unescape (s.escape identifier) = identifier ↔
        ∀ word, s.quotesPart word = true → s.dialect.quote word ∉ identifierParts identifier) ∧
      s.escape (s.escape identifier) = s.escape identifier :=
  ⟨s.identifierParts_escape identifier, s.unquoteParts_escape identifier,
    s.unescape_escape_eq_self_iff identifier, s.escape_escape identifier⟩

example : (forDatabase .sqlServer).escape "log..Order" = "log..[Order]" := rfl

end Settings

end EntitySql
