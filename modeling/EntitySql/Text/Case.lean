/-
  Letter case by the Unicode rules: which characters are letters, capitals and digits, and texts in
  lower and upper case. One character may become several (`ß` is `SS` in upper case), and a capital
  sigma becomes `ς` at the end of a word and `σ` elsewhere.
-/
import EntitySql.Text.CaseTable
import EntitySql.Text.LetterTable

namespace EntitySql.Text

/-! ## Look-up in the tables -/

/-- The code point lies in one of the ranges. -/
def inRanges (ranges : List (Nat × Nat)) (n : Nat) : Bool :=
  ranges.any fun (first, last) => first ≤ n && n ≤ last

/-- The code point lies on one of the runs. -/
def onRuns (runs : List (Nat × Nat × Nat)) (n : Nat) : Bool :=
  runs.any fun (first, last, step) => first ≤ n && n ≤ last && (n - first) % step = 0

/-- Where the run on which the code point lies maps it. -/
def followRuns? (runs : List (Nat × Nat × Nat × Nat)) (n : Nat) : Option Nat :=
  (runs.find? fun (first, last, step, _) => first ≤ n && n ≤ last && (n - first) % step = 0).map
    fun (first, _, _, image) => image + (n - first)

/-! ## Classes of characters -/

/-- ASCII characters need no table. -/
def isAscii (c : Char) : Bool := c.toNat < 0x80

def isLower (c : Char) : Bool :=
  if isAscii c then c.isLower else onRuns lowercaseRuns c.toNat

def isUpper (c : Char) : Bool :=
  if isAscii c then c.isUpper else onRuns uppercaseRuns c.toNat

/-- Letters and numbers of any script. -/
def isAlphanumeric (c : Char) : Bool :=
  if isAscii c then c.isAlphanum
  else inRanges alphabeticRanges c.toNat || inRanges numericRanges c.toNat

/-- Letters that have a case. -/
def isCased (c : Char) : Bool :=
  isLower c || isUpper c || (!isAscii c && onRuns titlecaseRuns c.toNat)

/-- Characters passed over in the search for the end of a word. -/
def isCaseIgnorable (c : Char) : Bool :=
  if isAscii c then c = '\'' || c = '.' || c = ':' || c = '^' || c = '\x60'
  else onRuns caseIgnorableRuns c.toNat

/-! ## Case of one character -/

/-- Maps a character by a table of runs and one of expansions. -/
def mapByTable (runs : List (Nat × Nat × Nat × Nat)) (expansions : List (Nat × List Nat))
    (c : Char) : List Char :=
  match expansions.lookup c.toNat with
  | some images => images.map Char.ofNat
  | none =>
    match followRuns? runs c.toNat with
    | some image => [Char.ofNat image]
    | none => [c]

/-- A character in lower case. -/
def lowerChar (c : Char) : List Char :=
  if isAscii c then [c.toLower] else mapByTable lowerRuns lowerExpansions c

/-- A character in upper case. -/
def upperChar (c : Char) : List Char :=
  if isAscii c then [c.toUpper] else mapByTable upperRuns upperExpansions c

/-! ## Case of a text -/

/-- The first character that is not ignorable is a cased letter. -/
def startsCased (s : List Char) : Bool :=
  ((s.dropWhile isCaseIgnorable).head?).any isCased

/-- Lower case of what follows `before`, which is kept in reverse. A sigma ends a word when a cased
letter comes before it and none after it. -/
def lowerFrom (before : List Char) : List Char → List Char
  | [] => []
  | c :: rest =>
    (if c = 'Σ' then [if startsCased before && !startsCased rest then 'ς' else 'σ']
      else lowerChar c) ++ lowerFrom (c :: before) rest

/-- The text in lower case. -/
def lower (s : String) : String := String.ofList (lowerFrom [] s.toList)

/-- The text in upper case. -/
def upper (s : String) : String := String.ofList (s.toList.flatMap upperChar)

/-! ## ASCII -/

theorem lowerChar_of_isAscii {c : Char} (h : isAscii c = true) : lowerChar c = [c.toLower] := by
  simp [lowerChar, h]

theorem upperChar_of_isAscii {c : Char} (h : isAscii c = true) : upperChar c = [c.toUpper] := by
  simp [upperChar, h]

theorem upper_of_isAscii {s : String} (h : ∀ c ∈ s.toList, isAscii c = true) :
    upper s = String.ofList (s.toList.map Char.toUpper) := by
  have : ∀ l : List Char, (∀ c ∈ l, isAscii c = true) → l.flatMap upperChar = l.map Char.toUpper := by
    intro l hl
    induction l with
    | nil => rfl
    | cons c r ih =>
      rw [List.flatMap_cons, upperChar_of_isAscii (hl c (by simp)), ih fun d hd => hl d (by simp [hd])]
      rfl
  rw [upper, this _ h]

end EntitySql.Text
