/-
  Computations that fail only where a call to the session does.

  Calls are carried out one after the other, whatever they are answered, and nothing is sent behind one
  that fails (`Ran`). This holds of single queries and of lists of writes, and of what is put together
  from such computations (`Ran.bind`).
-/
import EntitySql.Proofs.Session.Transcript

namespace EntitySql

namespace Session

variable {σ α β : Type} {s : Session σ}

/-- What becomes of a call, whatever it is answered, and the state of the session afterwards. -/
inductive Takes (s : Session σ) : Call → σ → Except String Unit × σ → Prop
  | query (statement : Sql) (state : σ) :
    Takes s (.query statement) state
      ((s.query statement state).1.map fun _ => (), (s.query statement state).2)
  | write {call : Call} {state : σ} {outcome : Except String UInt64 × σ}
    (answered : s.Answers call state outcome) :
    Takes s call state (outcome.1.map fun _ => (), outcome.2)

/-- None of the calls fails. -/
inductive Accepts (s : Session σ) : σ → List Call → σ → Prop
  | nil (state : σ) : Accepts s state [] state
  | cons {state next final : σ} {call : Call} {rest : List Call}
    (head : s.Takes call state (.ok (), next)) (tail : Accepts s next rest final) :
    Accepts s state (call :: rest) final

theorem Accepts.append {state middle final : σ} {calls calls' : List Call}
    (h : s.Accepts state calls middle) (h' : s.Accepts middle calls' final) :
    s.Accepts state (calls ++ calls') final := by
  induction h with
  | nil => exact h'
  | cons head _ ih => exact .cons head (ih h')

theorem Completes.accepts {state final : σ} {calls : List Call} {counts : List UInt64}
    (h : s.Completes state calls counts final) : s.Accepts state calls final := by
  induction h with
  | nil state => exact .nil state
  | cons head _ ih => exact .cons (.write head) ih

/-- A computation that fails only where a call does: either all of its calls are carried out, or the
last one fails and this failure is the result. -/
inductive Ran (s : Session σ) (link : Link σ) : Except Error β × Link σ → Prop
  | completed (result : β) {calls : List Call} {final : σ}
    (all : s.Accepts link.state calls final) :
    Ran s link (.ok result, ⟨final, link.calls ++ calls.toArray⟩)
  | stopped {before : List Call} {call : Call} {state final : σ} {failure : String}
    (accepted : s.Accepts link.state before state)
    (failed : s.Takes call state (.error failure, final)) :
    Ran s link (.error (.execution failure), ⟨final, link.calls ++ (before ++ [call]).toArray⟩)

theorem Follows.ran {link : Link σ} {calls : List Call} {outcome : Except Error UInt64 × Link σ}
    (h : s.Follows link calls outcome) : s.Ran link outcome := by
  cases h with
  | completed all => exact .completed _ all.accepts
  | stopped split answered failed => exact .stopped answered.accepts (.write failed)

theorem ran_pure (result : β) (link : Link σ) : s.Ran link ((pure result : Access σ β) link) := by
  have no_call : s.Ran link (.ok result, ⟨link.state, link.calls ++ [].toArray⟩) :=
    .completed result (.nil link.state)
  rwa [Array.append_empty] at no_call

theorem sendQuery_apply (statement : Sql) (link : Link σ) :
    s.sendQuery statement link =
      ((s.query statement link.state).1.mapError .execution,
        ⟨(s.query statement link.state).2, link.calls.push (.query statement)⟩) := rfl

theorem ran_sendQuery (statement : Sql) (link : Link σ) :
    s.Ran link (s.sendQuery statement link) := by
  have taken := Takes.query (s := s) statement link.state
  have noted : link.calls.push (.query statement) = link.calls ++ [.query statement].toArray := by
    simp
  rw [sendQuery_apply, noted]
  cases h : s.query statement link.state with
  | mk answer state =>
    rw [h] at taken
    cases answer with
    | ok answer => exact .completed answer (.cons taken (.nil state))
    | error failure => exact .stopped (.nil link.state) taken

/-- Calls that were carried out stand before those of what comes next. -/
theorem Ran.bind {link : Link σ} {m : Access σ α} {f : α → Access σ β} (h : s.Ran link (m link))
    (next : ∀ a link', s.Ran link' (f a link')) : s.Ran link ((m >>= f) link) := by
  rw [Access.bind_apply]
  generalize m link = outcome at h
  cases h with
  | @completed a calls final all =>
    have rest := next a ⟨final, link.calls ++ calls.toArray⟩
    dsimp only
    generalize f a ⟨final, link.calls ++ calls.toArray⟩ = outcome at rest
    cases rest with
    | @completed result others final' all' =>
      have whole : s.Ran link (.ok result, ⟨final', link.calls ++ (calls ++ others).toArray⟩) :=
        .completed result (all.append all')
      rwa [← List.append_toArray, ← Array.append_assoc] at whole
    | @stopped before call state final' failure accepted failed =>
      have whole : s.Ran (β := β) link (.error (.execution failure),
          ⟨final', link.calls ++ (calls ++ before ++ [call]).toArray⟩) :=
        .stopped (all.append accepted) failed
      rwa [List.append_assoc, ← List.append_toArray, ← Array.append_assoc] at whole
  | stopped accepted failed => exact .stopped accepted failed

end Session

end EntitySql
