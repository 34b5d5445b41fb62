/-
  What a session has been sent when a list of writes is over.

  A session answers calls one after the other, each in the state that the one before has left behind.
  Writes are sent up to the first call that fails, so that the calls noted are all of them or a first
  stretch that ends with the failing one (`follows_sendWrites`). A text that is run with several lists
  of parameters is one call where the session can do that itself, else one call for each list.
-/
import EntitySql.Session.Basic
import Mathlib.Algebra.GroupWithZero.Nat

namespace EntitySql

namespace Session

variable {σ : Type} {s : Session σ}

/-! ## Answers -/

/-- What the session answers to a call that changes rows, and the state that it is in afterwards. -/
inductive Answers (s : Session σ) : Call → σ → Except String UInt64 × σ → Prop
  | update (statement : Sql) (state : σ) :
    Answers s (.update statement) state (s.update statement state)
  | batch {act : String → List (List Value) → σ → Except String UInt64 × σ}
    (own : s.batch? = some act) (text : String) (paramSets : List (List Value)) (state : σ) :
    Answers s (.batch text paramSets) state (act text paramSets state)

/-- The session carries out all of the calls, one after the other, and reports these counts. -/
inductive Completes (s : Session σ) : σ → List Call → List UInt64 → σ → Prop
  | nil (state : σ) : Completes s state [] [] state
  | cons {state next final : σ} {call : Call} {count : UInt64} {rest : List Call}
    {counts : List UInt64} (head : s.Answers call state (.ok count, next))
    (tail : Completes s next rest counts final) :
    Completes s state (call :: rest) (count :: counts) final

/-- The counts added up. Below `2 ^ 64` this is their sum. -/
def total (counts : List UInt64) : UInt64 := UInt64.ofNat (counts.map UInt64.toNat).sum

/-- What comes of sending calls in order: either all of them are carried out and their counts are
added up, or they are sent up to the first one that fails, and this failure is the result. -/
inductive Follows (s : Session σ) (link : Link σ) (calls : List Call) :
    Except Error UInt64 × Link σ → Prop
  | completed {counts : List UInt64} {final : σ} (all : s.Completes link.state calls counts final) :
    Follows s link calls (.ok (total counts), ⟨final, link.calls ++ calls.toArray⟩)
  | stopped {before rest : List Call} {call : Call} {counts : List UInt64} {state final : σ}
    {failure : String} (split : calls = before ++ call :: rest)
    (answered : s.Completes link.state before counts state)
    (failed : s.Answers call state (.error failure, final)) :
    Follows s link calls (.error (.execution failure), ⟨final, link.calls ++ (before ++ [call]).toArray⟩)

/-- The calls that carry out a write. -/
def callsOf (s : Session σ) : Write → List Call
  | .single statement => [.update statement]
  | .batch text paramSets =>
    if s.batch?.isSome then [.batch text paramSets]
    else paramSets.map fun params => .update ⟨text, params⟩

theorem total_nil : total [] = 0 := rfl

theorem total_append (counts counts' : List UInt64) :
    total (counts ++ counts') = total counts + total counts' := by
  unfold total
  rw [List.map_append, List.sum_append, UInt64.ofNat_add]

theorem total_singleton (count : UInt64) : total [count] = count := by
  simp [total]

theorem Completes.append {state middle final : σ} {calls calls' : List Call}
    {counts counts' : List UInt64} (h : s.Completes state calls counts middle)
    (h' : s.Completes middle calls' counts' final) :
    s.Completes state (calls ++ calls') (counts ++ counts') final := by
  induction h with
  | nil => exact h'
  | cons head _ ih => exact .cons head (ih h')

/-! ## Calls one after the other -/

/-- Calls that have been carried out stand before those that follow, and so do their counts. -/
theorem Completes.follows {link : Link σ} {calls calls' : List Call} {counts : List UInt64}
    {final : σ} {outcome : Except Error UInt64 × Link σ}
    (first : s.Completes link.state calls counts final)
    (second : s.Follows ⟨final, link.calls ++ calls.toArray⟩ calls' outcome) :
    s.Follows link (calls ++ calls') (outcome.1.map (total counts + ·), outcome.2) := by
  cases second with
  | @completed counts' final' all =>
    have whole := Follows.completed (first.append all)
    rw [total_append, ← List.append_toArray, ← Array.append_assoc] at whole
    exact whole
  | @stopped before rest call counts' state final' failure split answered failed =>
    subst split
    have whole := Follows.stopped (List.append_assoc calls before (call :: rest)).symm
      (first.append answered) failed
    rw [List.append_assoc, ← List.append_toArray, ← Array.append_assoc] at whole
    exact whole

/-- One call is carried out or fails. -/
theorem follows_send {call : Call} {act : σ → Except String UInt64 × σ}
    (answers : ∀ state, s.Answers call state (act state)) (link : Link σ) :
    s.Follows link [call] (send call act link) := by
  have answer := answers link.state
  have noted : link.calls ++ [call].toArray = link.calls.push call := by simp
  unfold send
  cases h : act link.state with
  | mk result state =>
    rw [h] at answer
    cases result with
    | ok count =>
      have all : s.Completes link.state [call] [count] state := .cons answer (.nil state)
      have whole : s.Follows link [call] _ := .completed all
      rw [total_singleton, noted] at whole
      exact whole
    | error failure =>
      have none_before : s.Completes link.state [] [] link.state := .nil link.state
      have whole : s.Follows link [call] _ := .stopped (List.nil_append [call]).symm none_before answer
      rw [List.nil_append, noted] at whole
      exact whole

/-- What was counted before is added in the end. -/
theorem sumOver_eq_map {α : Type} (act : α → Access σ UInt64) (before : UInt64) (xs : List α)
    (link : Link σ) :
    sumOver act before xs link =
      ((sumOver act 0 xs link).1.map (before + ·), (sumOver act 0 xs link).2) := by
  induction xs generalizing before link with
  | nil => simp [sumOver, Except.map]
  | cons x rest ih =>
    unfold sumOver
    split
    · next count link' _ =>
      rw [ih (before + count), ih (0 + count), UInt64.zero_add]
      cases (sumOver act 0 rest link').1 with
      | ok n => simp [Except.map, UInt64.add_assoc]
      | error e => rfl
    · rfl

/-- Computations that each send some calls send all of them, up to the first failure. -/
theorem follows_sumOver {α : Type} {act : α → Access σ UInt64} {calls : α → List Call}
    (each : ∀ x link, s.Follows link (calls x) (act x link)) (xs : List α) (link : Link σ) :
    s.Follows link (xs.flatMap calls) (sumOver act 0 xs link) := by
  induction xs generalizing link with
  | nil =>
    have none : s.Follows link [] _ := .completed (.nil link.state)
    simpa [sumOver, total_nil] using none
  | cons x rest ih =>
    have first := each x link
    unfold sumOver
    rw [List.flatMap_cons]
    split
    · next count link' heq =>
      rw [heq] at first
      cases first with
      | completed all =>
        rw [sumOver_eq_map, UInt64.zero_add]
        exact all.follows (ih _)
    · next e link' heq =>
      rw [heq] at first
      cases first with
      | @stopped before others call counts state final failure split answered failed =>
        -- What was to be sent behind the failing call is left out, the later calls included.
        have stretch : calls x ++ rest.flatMap calls =
            before ++ call :: (others ++ rest.flatMap calls) := by
          rw [split, List.append_assoc, List.cons_append]
        exact .stopped stretch answered failed

/-! ## Writes -/

theorem follows_sendUpdate (statement : Sql) (link : Link σ) :
    s.Follows link [.update statement] (s.sendUpdate statement link) :=
  follows_send (Answers.update statement) link

theorem follows_sendBatch (text : String) (paramSets : List (List Value)) (link : Link σ) :
    s.Follows link (s.callsOf (.batch text paramSets)) (s.sendBatch text paramSets link) := by
  unfold callsOf sendBatch
  cases own : s.batch? with
  | some act => exact follows_send (Answers.batch own text paramSets) link
  | none =>
    dsimp only
    rw [Option.isSome_none, if_neg Bool.false_ne_true, List.map_eq_flatMap]
    exact follows_sumOver (fun params => follows_sendUpdate ⟨text, params⟩) paramSets link

theorem follows_sendWrite (write : Write) (link : Link σ) :
    s.Follows link (s.callsOf write) (s.sendWrite write link) := by
  cases write with
  | single statement => exact follows_sendUpdate statement link
  | batch text paramSets => exact follows_sendBatch text paramSets link

/-- Writes are sent in order up to the first failure. -/
theorem follows_sendWrites (writes : List Write) (link : Link σ) :
    s.Follows link (writes.flatMap s.callsOf) (s.sendWrites writes link) :=
  follows_sumOver follows_sendWrite writes link

end Session

end EntitySql
