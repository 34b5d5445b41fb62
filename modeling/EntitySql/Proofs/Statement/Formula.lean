/-
  The reader of filters: SQL text with its parameters, as a formula of three-valued logic.

  A chain of ORs joins chains of ANDs, and these join single predicates and what stands in
  parentheses, so that AND binds tighter than OR. `BETWEEN ? AND ?` is one predicate, and `1 = 0` is
  false. The reader knows nothing about conditions.

  A piece of SQL is a term or a chain with some meaning if the reader takes exactly this piece,
  whatever may follow it, and the formula that it finds has the meaning. The lemmas at the end say how
  terms and chains are put together.
-/
import EntitySql.Proofs.Condition.Truth
import EntitySql.Proofs.Statement.Token
import Mathlib.Data.List.Forall2

namespace EntitySql

/-- Gives a truth value to every test of every column. -/
abbrev Assignment := String → Test → Truth

inductive Formula where
  | test (column : String) (asked : Test)
  /-- The column has one of the values. -/
  | member (column : String) (values : List Value)
  | never
  | join (logic : Logic) (first second : Formula)
  deriving DecidableEq

/-- Whether any of the values is that of the column. -/
def Assignment.member (σ : Assignment) (column : String) (values : List Value) : Truth :=
  Logic.or.join (values.map fun v => σ column (.compare .eq v))

def Formula.truth (σ : Assignment) : Formula → Truth
  | .test column asked => σ column asked
  | .member column values => σ.member column values
  | .never => .no
  | .join logic first second => logic.apply (first.truth σ) (second.truth σ)

/-- The connective as it is read. -/
def Logic.key : Logic → Key
  | .and => .and
  | .or => .or

/-- The comparison that a word stands for in SQL. LIKE is a key of its own. -/
def CompareOp.ofSql? : String → Option CompareOp
  | "=" => some .eq
  | "!=" => some .ne
  | ">" => some .gt
  | ">=" => some .ge
  | "<" => some .lt
  | "<=" => some .le
  | _ => none

namespace Formula

/-! ## Predicates -/

/-- What is asked of a column. -/
def readTest (column : String) : List Token → Option (Formula × List Token)
  | .key .is :: .key .null :: rest => some (.test column (.null true), rest)
  | .key .is :: .key .not :: .key .null :: rest => some (.test column (.null false), rest)
  | .key .between :: .value low :: .key .and :: .value high :: rest =>
    some (.test column (.between low high), rest)
  | .key .isIn :: .opening :: rest =>
    (readValues rest).map fun (values, rest) => (.member column values, rest)
  | .key .like :: .value v :: rest => some (.test column (.compare .like v), rest)
  | .word op :: .value v :: rest =>
    (CompareOp.ofSql? op).map fun op => (.test column (.compare op v), rest)
  | _ => none

/-- One predicate. The only one without a parameter that compares is `1 = 0`. -/
def readPredicate : List Token → Option (Formula × List Token)
  | .word a :: .word b :: .word c :: rest =>
    if a = "1" ∧ b = "=" ∧ c = "0" then some (.never, rest) else none
  | .word column :: rest => readTest column rest
  | _ => none

/-! ## Connectives -/

mutual

/-- Terms joined by a connective. The first argument bounds the depth of the recursion. -/
def readChain : Nat → Logic → List Token → Option (Formula × List Token)
  | 0, _, _ => none
  | fuel + 1, logic, tokens =>
    match readTerm fuel logic tokens with
    | some (first, .key k :: rest) =>
      if k = logic.key then
        (readChain fuel logic rest).map fun (others, rest) => (.join logic first others, rest)
      else some (first, .key k :: rest)
    | found => found

/-- What a connective joins: chains of ANDs where it is OR, else predicates and parentheses. -/
def readTerm : Nat → Logic → List Token → Option (Formula × List Token)
  | 0, _, _ => none
  | fuel + 1, .or, tokens => readChain fuel .and tokens
  | fuel + 1, .and, .opening :: tokens =>
    match readChain fuel .or tokens with
    | some (formula, .closing :: rest) => some (formula, rest)
    | _ => none
  | _ + 1, .and, tokens => readPredicate tokens

end

/-- The formula that a text with its parameters stands for, if it is one and nothing is left over. -/
def read (text : String) (params : List Value) : Option Formula :=
  match fill (tokens text) params with
  | some found =>
    match readChain (4 * found.length + 3) .or found with
    | some (formula, []) => some formula
    | _ => none
  | none => none

/-! ## Chains and terms, as they are found in front of other tokens -/

theorem readChain_of_readTerm {fuel : Nat} {logic : Logic} {tokens rest : List Token}
    {formula : Formula} (h : readTerm fuel logic tokens = some (formula, rest))
    (stop : rest.head? ≠ some (.key logic.key)) :
    readChain (fuel + 1) logic tokens = some (formula, rest) := by
  rw [readChain, h]
  split
  · next first k rest' heq =>
    rw [Option.some_inj, Prod.mk.injEq] at heq
    obtain ⟨rfl, rfl⟩ := heq
    rw [if_neg fun hk => stop (by rw [hk, List.head?_cons])]
  · rfl

theorem readChain_join {fuel : Nat} {logic : Logic} {tokens rest rest' : List Token}
    {first others : Formula}
    (h : readTerm fuel logic tokens = some (first, .key logic.key :: rest))
    (h' : readChain fuel logic rest = some (others, rest')) :
    readChain (fuel + 1) logic tokens = some (.join logic first others, rest') := by
  rw [readChain, h]
  dsimp only
  rw [if_pos rfl, h']
  rfl

theorem readTerm_parentheses {fuel : Nat} {tokens rest : List Token} {formula : Formula}
    (h : readChain fuel .or tokens = some (formula, .closing :: rest)) :
    readTerm (fuel + 1) .and (.opening :: tokens) = some (formula, rest) := by
  rw [readTerm, h]

theorem readTerm_of_readPredicate {fuel : Nat} {tokens rest : List Token} {formula : Formula}
    (h : readPredicate tokens = some (formula, rest)) :
    readTerm (fuel + 1) .and tokens = some (formula, rest) := by
  cases tokens with
  | nil => exact h
  | cons token tokens =>
    cases token with
    | opening => cases h
    | word | key | value | comma | closing => exact h

end Formula

namespace Sql

open Formula

/-- What a piece of SQL says under an assignment. -/
abbrev Meaning := Assignment → Truth

end Sql

/-- How much deeper the recursion goes for a term than for its tokens. -/
def Logic.depth : Logic → Nat
  | .and => 0
  | .or => 2

/-- The tokens may follow a term of the connective. A term of OR would take in an AND. -/
def Logic.EndsTerm (logic : Logic) (rest : List Token) : Prop :=
  logic = .or → rest.head? ≠ some (.key .and)

/-- The tokens may follow a chain of the connective. -/
def Logic.EndsChain (logic : Logic) (rest : List Token) : Prop :=
  rest.head? ≠ some (.key logic.key) ∧ logic.EndsTerm rest

namespace Sql

open Formula

/-- The part is read as a term of the connective, and what is found has the meaning. -/
def IsTerm (logic : Logic) (part : Sql) (m : Meaning) : Prop :=
  ∃ found formula, part.tokens? = some found ∧ (∀ σ, formula.truth σ = m σ) ∧
    ∀ fuel rest, 4 * found.length + logic.depth ≤ fuel → logic.EndsTerm rest →
      readTerm fuel logic (found ++ rest) = some (formula, rest)

/-- The part is read as a chain of the connective, and what is found has the meaning. -/
def IsChain (logic : Logic) (part : Sql) (m : Meaning) : Prop :=
  ∃ found formula, part.tokens? = some found ∧ (∀ σ, formula.truth σ = m σ) ∧
    ∀ fuel rest, 4 * found.length + logic.depth + 1 ≤ fuel → logic.EndsChain rest →
      readChain fuel logic (found ++ rest) = some (formula, rest)

/-- A predicate is a term of AND. -/
theorem isTerm_of_readPredicate {part : Sql} {m : Meaning} {found : List Token} (formula : Formula)
    (htokens : part.tokens? = some found) (filled : found ≠ [])
    (hread : ∀ rest, readPredicate (found ++ rest) = some (formula, rest))
    (hm : ∀ σ, formula.truth σ = m σ) : IsTerm .and part m := by
  refine ⟨found, formula, htokens, hm, fun fuel rest hfuel _ => ?_⟩
  have := List.length_pos_iff.2 filled
  obtain ⟨n, rfl⟩ : ∃ n, fuel = n + 1 := ⟨fuel - 1, by omega⟩
  exact readTerm_of_readPredicate (hread rest)

/-- A chain may consist of one term. -/
theorem IsTerm.isChain {logic : Logic} {part : Sql} {m : Meaning} (h : IsTerm logic part m) :
    IsChain logic part m := by
  obtain ⟨found, formula, htokens, hm, hread⟩ := h
  refine ⟨found, formula, htokens, hm, fun fuel rest hfuel hend => ?_⟩
  obtain ⟨n, rfl⟩ : ∃ n, fuel = n + 1 := ⟨fuel - 1, by omega⟩
  exact readChain_of_readTerm (hread n rest (by omega) hend.2) hend.1

/-- A chain of ANDs is a term of OR. -/
theorem IsChain.isTerm {part : Sql} {m : Meaning} (h : IsChain .and part m) :
    IsTerm .or part m := by
  obtain ⟨found, formula, htokens, hm, hread⟩ := h
  refine ⟨found, formula, htokens, hm, fun fuel rest hfuel hend => ?_⟩
  have hdepth : Logic.or.depth = Logic.and.depth + 2 := rfl
  obtain ⟨n, rfl⟩ : ∃ n, fuel = n + 1 := ⟨fuel - 1, by omega⟩
  rw [readTerm]
  exact hread n rest (by omega) ⟨hend rfl, fun h => absurd h (by decide)⟩

/-- A term of AND is a term of either connective. -/
theorem IsTerm.isTerm {part : Sql} {m : Meaning} (h : IsTerm .and part m) (logic : Logic) :
    IsTerm logic part m := by
  cases logic with
  | and => exact h
  | or => exact h.isChain.isTerm

theorem tokens?_connective (logic : Logic) :
    (plain (" " ++ logic.sql ++ " ")).tokens? = some [.key logic.key] := by
  cases logic <;> cbv

/-- A term in front of a chain makes a longer chain. -/
theorem IsTerm.join {logic : Logic} {part others : Sql} {m m' : Meaning} (h : IsTerm logic part m)
    (h' : IsChain logic others m') :
    IsChain logic (part ++ (plain (" " ++ logic.sql ++ " ") ++ others))
      fun σ => logic.apply (m σ) (m' σ) := by
  obtain ⟨found, first, htokens, hm, hread⟩ := h
  obtain ⟨found', second, htokens', hm', hread'⟩ := h'
  refine ⟨found ++ ([.key logic.key] ++ found'), .join logic first second, ?_, ?_, ?_⟩
  · exact tokens?_append_plain_append (by cases logic <;> decide) (by cases logic <;> decide) htokens
      (tokens?_connective logic) htokens'
  · intro σ
    rw [Formula.truth, hm, hm']
  · intro fuel rest hfuel hend
    simp only [List.length_append, List.length_singleton] at hfuel
    obtain ⟨n, rfl⟩ : ∃ n, fuel = n + 1 := ⟨fuel - 1, by omega⟩
    have hfirst := hread n (.key logic.key :: (found' ++ rest)) (by omega) (by
      rintro rfl
      simp [Logic.key])
    rw [List.append_assoc, List.append_assoc]
    exact readChain_join hfirst (hread' n rest (by omega) hend)

/-- Terms with the connective between them are a chain. -/
theorem isChain_joined {logic : Logic} {parts : List Sql} {ms : List Meaning}
    (h : List.Forall₂ (IsTerm logic) parts ms) (filled : parts ≠ []) :
    IsChain logic (joined (" " ++ logic.sql ++ " ") parts) fun σ => logic.join (ms.map (· σ)) := by
  induction h with
  | nil => exact absurd rfl filled
  | @cons part m parts ms hpart hparts ih =>
    cases hparts with
    | nil =>
      rw [joined_singleton]
      simpa only [List.map_cons, List.map_nil, Logic.join_singleton] using hpart.isChain
    | cons hnext hrest =>
      rw [joined_cons_cons]
      exact hpart.join (ih (List.cons_ne_nil _ _))

/-- In parentheses a chain of ORs is a term of AND. -/
theorem IsChain.parentheses {part : Sql} {m : Meaning} (h : IsChain .or part m) :
    IsTerm .and (plain "(" ++ part ++ plain ")") m := by
  obtain ⟨found, formula, htokens, hm, hread⟩ := h
  refine ⟨.opening :: (found ++ [.closing]), formula, ?_, hm, fun fuel rest hfuel _ => ?_⟩
  · have hopening : (plain "(").tokens? = some [.opening] := by cbv
    have hclosing : (plain ")").tokens? = some [.closing] := by cbv
    rw [append_assoc]
    exact tokens?_append (.inl (by decide)) hopening
      (tokens?_append (.inr (by decide)) htokens hclosing)
  · simp only [List.length_cons, List.length_append, List.length_nil, Logic.depth] at hfuel
    obtain ⟨n, rfl⟩ : ∃ n, fuel = n + 1 := ⟨fuel - 1, by omega⟩
    have hinner := hread n (.closing :: rest) (by simp only [Logic.depth]; omega)
      ⟨by simp, fun _ => by simp⟩
    rw [List.cons_append, List.append_assoc]
    exact readTerm_parentheses hinner

/-- A chain of ORs that stands alone is read as a formula. -/
theorem IsChain.read {part : Sql} {m : Meaning} (h : IsChain .or part m) :
    ∃ formula, Formula.read part.text part.params = some formula ∧ ∀ σ, formula.truth σ = m σ := by
  obtain ⟨found, formula, htokens, hm, hread⟩ := h
  have hall := hread (4 * found.length + 3) [] (by simp only [Logic.depth]; omega)
    ⟨by simp, fun _ => by simp⟩
  rw [List.append_nil] at hall
  refine ⟨formula, ?_, hm⟩
  rw [tokens?] at htokens
  rw [Formula.read, htokens]
  dsimp only
  rw [hall]

/-- AND binds tighter than OR, and a range keeps its own AND. -/
example (v w : Value) : Formula.read "a = ? OR b BETWEEN ? AND ? AND c LIKE ?" [v, v, w, w] =
    some (.join .or (.test "a" (.compare .eq v))
      (.join .and (.test "b" (.between v w)) (.test "c" (.compare .like w)))) := by
  cbv

end Sql

end EntitySql
