/-
  Catalogues remember tables, and nobody can tell.

  What a catalogue does is said for results of any kind under keys of any kind: `Memory.ask` looks
  into a memory before it computes, and remembers what it has computed unless that is an error. One
  such step returns the computed result and keeps the memory exact (`Memory.Exact.step`), so a run of
  them from an empty memory returns the computed results, whatever was asked for before, and remembers
  the results of the keys that were asked for and have one (`Memory.Exact.run`).

  The running catalogue is this memory under types of elements (`Catalog.table_eq`). Two types with the
  same declaration are remembered apart. Several callers at the same time are not modelled.
-/
import EntitySql.Repository
import Mathlib.Data.List.Nodup

namespace EntitySql

/-! ## Memories -/

namespace Memory

variable {κ ε α : Type}

/-- The memory holds the results of those of the keys that have one, each once, and no others. -/
structure Exact (compute : κ → Except ε α) (keys : List κ) (known : List (κ × α)) : Prop where
  mem_iff : ∀ k x, (k, x) ∈ known ↔ k ∈ keys ∧ compute k = .ok x
  distinct : (known.map Prod.fst).Nodup

variable {compute : κ → Except ε α} {keys : List κ} {known : List (κ × α)}

namespace Exact

theorem nil : Exact compute [] ([] : List (κ × α)) where
  mem_iff k x := by simp
  distinct := List.nodup_nil

/-- A memory stays exact when a key is asked for that is in it or has no result. -/
theorem of_unchanged (h : Exact compute keys known) {k : κ}
    (nothing : ∀ x, compute k = .ok x → (k, x) ∈ known) : Exact compute (keys ++ [k]) known where
  mem_iff k' x := by
    rw [h.mem_iff, List.mem_append, List.mem_singleton]
    constructor
    · rintro ⟨hk, hx⟩
      exact ⟨.inl hk, hx⟩
    · rintro ⟨hk | rfl, hx⟩
      · exact ⟨hk, hx⟩
      · exact (h.mem_iff k' x).1 (nothing x hx)
  distinct := h.distinct

theorem cons (h : Exact compute keys known) {k : κ} {x : α} (fresh : ∀ y, (k, y) ∉ known)
    (hx : compute k = .ok x) : Exact compute (keys ++ [k]) ((k, x) :: known) where
  mem_iff k' y := by
    rw [List.mem_cons, h.mem_iff, List.mem_append, List.mem_singleton, Prod.mk.injEq]
    constructor
    · rintro (⟨rfl, rfl⟩ | ⟨hk, hy⟩)
      · exact ⟨.inr rfl, hx⟩
      · exact ⟨.inl hk, hy⟩
    · rintro ⟨hk | rfl, hy⟩
      · exact .inr ⟨hk, hy⟩
      · rw [hx] at hy
        exact .inl ⟨rfl, (Except.ok.inj hy).symm⟩
  distinct := by
    rw [List.map_cons, List.nodup_cons]
    refine ⟨fun hk => ?_, h.distinct⟩
    obtain ⟨⟨k', y⟩, hy, rfl⟩ := List.mem_map.1 hk
    exact fresh y hy

end Exact

variable [DecidableEq κ]

/-- The result for a key, from a memory if it is there. If not, it is computed and remembered, but an
error is not remembered. -/
def ask (compute : κ → Except ε α) (known : List (κ × α)) (k : κ) :
    Except ε α × List (κ × α) :=
  match known.lookup k with
  | some x => (.ok x, known)
  | none =>
    match compute k with
    | .ok x => (.ok x, (k, x) :: known)
    | .error e => (.error e, known)

/-- The results for keys, one after the other, with the memory that is left. -/
def askAll (compute : κ → Except ε α) :
    List (κ × α) → List κ → List (Except ε α) × List (κ × α)
  | known, [] => ([], known)
  | known, k :: rest =>
    let (x, known) := ask compute known k
    let (xs, known) := askAll compute known rest
    (x :: xs, known)

theorem mem_of_lookup {k : κ} {x : α} (h : known.lookup k = some x) : (k, x) ∈ known := by
  obtain ⟨before, after, rfl, -⟩ := List.lookup_eq_some_iff.1 h
  exact List.mem_append_right before List.mem_cons_self

theorem notMem_of_lookup {k : κ} (h : known.lookup k = none) (x : α) : (k, x) ∉ known := by
  intro hx
  have other := List.lookup_eq_none_iff.1 h (k, x) hx
  simp at other

namespace Exact

/-- One step: what is returned is what is computed, and the memory stays exact. -/
theorem step (h : Exact compute keys known) (k : κ) :
    (ask compute known k).1 = compute k ∧
      Exact compute (keys ++ [k]) (ask compute known k).2 := by
  unfold ask
  split
  · next x found =>
    have hx := mem_of_lookup found
    have computed := ((h.mem_iff k x).1 hx).2
    refine ⟨computed.symm, h.of_unchanged fun y hy => ?_⟩
    rw [computed] at hy
    cases hy
    exact hx
  · next missing =>
    split
    · next x computed => exact ⟨computed.symm, h.cons (notMem_of_lookup missing) computed⟩
    · next e failed =>
      refine ⟨failed.symm, h.of_unchanged fun y hy => ?_⟩
      rw [failed] at hy
      cases hy

/-- A run, by induction on the keys that are asked for. -/
theorem run (h : Exact compute keys known) (asked : List κ) :
    (askAll compute known asked).1 = asked.map compute ∧
      Exact compute (keys ++ asked) (askAll compute known asked).2 := by
  induction asked generalizing keys known with
  | nil =>
    rw [List.append_nil]
    exact ⟨rfl, h⟩
  | cons k rest ih =>
    obtain ⟨result, exact⟩ := h.step k
    obtain ⟨results, exact⟩ := ih exact
    rw [List.append_assoc, List.singleton_append] at exact
    refine ⟨?_, exact⟩
    rw [List.map_cons, ← result, ← results]
    rfl

end Exact

end Memory

/-! ## Catalogues and gateways -/

/-- The table that a type has under some settings. -/
def Settings.tableOf (s : Settings) (k : TypeKey) : Except Error Table := s.table k.decl

/-- The tables of types, asked for one after the other. -/
def Catalog.tables (c : Catalog) : List TypeKey → List (Except Error Table) × Catalog
  | [] => ([], c)
  | k :: rest =>
    let (table, c) := c.table k
    let (tables, c) := c.tables rest
    (table :: tables, c)

/-- A catalogue is a memory of tables under types. -/
theorem Catalog.table_eq (c : Catalog) (k : TypeKey) :
    c.table k = ((Memory.ask c.settings.tableOf c.known k).1,
      { c with known := (Memory.ask c.settings.tableOf c.known k).2 }) := by
  unfold table Memory.ask Settings.tableOf
  cases c.known.lookup k with
  | some t => rfl
  | none => cases c.settings.table k.decl <;> rfl

theorem Catalog.tables_eq (c : Catalog) (keys : List TypeKey) :
    c.tables keys = ((Memory.askAll c.settings.tableOf c.known keys).1,
      { c with known := (Memory.askAll c.settings.tableOf c.known keys).2 }) := by
  induction keys generalizing c with
  | nil => rfl
  | cons k rest ih =>
    simp only [tables, Memory.askAll, table_eq, ih]

namespace Gateway

variable {σ : Type}

/-- The gateway after the repositories of some types have been used. -/
def after (g : Gateway σ) (types : List (Σ α : Type, EntityType α)) : Gateway σ :=
  types.foldl (fun g type => (g.repository type.2).2) g

theorem after_eq (g : Gateway σ) (types : List (Σ α : Type, EntityType α)) :
    g.after types =
      { g with catalog := (g.catalog.tables (types.map fun type => type.2.toTypeKey)).2 } := by
  induction types generalizing g with
  | nil => rfl
  | cons type rest ih =>
    rw [after, List.foldl_cons, ← after, ih]
    rfl

/-- The repository that a gateway gives out, with the table as its catalogue has it. -/
theorem repository_eq {α : Type} (g : Gateway σ) (type : EntityType α) :
    (g.repository type).1 =
      ⟨g.catalog.settings, g.session, type,
        (Memory.ask g.catalog.settings.tableOf g.catalog.known type.toTypeKey).1⟩ := by
  rw [repository]
  simp only [Catalog.table_eq]

end Gateway

/-- **What is remembered makes no difference.** Whatever was asked for before, every call returns the
table as it is worked out for the declaration alone, and those that could be worked out are
remembered, under any keys that have declarations. Then the same for the running catalogue, whose keys
are types, and for the repositories of a gateway. -/
theorem tables_remembered {κ σ : Type} [DecidableEq κ] (s : Settings) (session : Session σ)
    (decl : κ → EntityDecl) :
    (∀ asked : List κ,
      let left := Memory.askAll (fun k => s.table (decl k)) [] asked
      left.1 = asked.map (fun k => s.table (decl k)) ∧ (left.2.map Prod.fst).Nodup ∧
        ∀ k t, (k, t) ∈ left.2 ↔ k ∈ asked ∧ s.table (decl k) = .ok t) ∧
    (∀ asked : List TypeKey,
      let left := (Catalog.empty s).tables asked
      left.1 = asked.map (fun k => s.table k.decl) ∧ (left.2.known.map Prod.fst).Nodup ∧
        ∀ k t, (k, t) ∈ left.2.known ↔ k ∈ asked ∧ s.table k.decl = .ok t) ∧
    ∀ (used : List (Σ α : Type, EntityType α)) {α : Type} (type : EntityType α),
      (((Gateway.start session s).after used).repository type).1 = .of s session type := by
  refine ⟨fun asked => ?_, fun asked => ?_, fun used α type => ?_⟩
  · obtain ⟨results, exact⟩ := Memory.Exact.nil.run asked
    exact ⟨results, exact.distinct, exact.mem_iff⟩
  · rw [Catalog.tables_eq]
    obtain ⟨results, exact⟩ := Memory.Exact.nil.run asked
    exact ⟨results, exact.distinct, exact.mem_iff⟩
  · rw [Gateway.repository_eq, Gateway.after_eq, Catalog.tables_eq]
    have fresh : Memory.Exact s.tableOf [] [] := .nil
    have exact := (fresh.run (used.map fun type => type.2.toTypeKey)).2
    exact congrArg (Repository.mk s session type) (exact.step type.toTypeKey).1

end EntitySql
