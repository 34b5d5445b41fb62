/-
  Settings, declarations of entities and queries, written to a document and read from its text again.

  All three come back as they were (`documents_read_back`). Settings have to be valid and to name their
  database as `Database.ofName` does, which leaves no blanks around a name and no second spelling of a
  known product. Of a query, the document may nest no deeper than a reader goes, and the texts of its
  values have to mean these values alone.
-/
import EntitySql.Document.Entity
import EntitySql.Document.Query
import EntitySql.Document.Settings
import EntitySql.Proofs.Document.Conditions
import EntitySql.Proofs.Sample

namespace EntitySql

open Json

/-! ## Settings -/

namespace Text

/-- A text without blanks at either end has none to take away. -/
theorem trim_trim (s : List Char) : trim (trim s) = trim s := by
  have head : ∀ c ∈ (skipBlanks s).head?, isBlank c = false := by
    intro c hc
    have first := List.head?_dropWhile_not isBlank s
    have found : (s.dropWhile isBlank).head? = some c := hc
    rwa [found] at first
  have last : ∀ c ∈ (skipBlanks (skipBlanks s).reverse).head?, isBlank c = false := by
    intro c hc
    have first := List.head?_dropWhile_not isBlank (skipBlanks s).reverse
    have found : ((skipBlanks s).reverse.dropWhile isBlank).head? = some c := hc
    rwa [found] at first
  obtain ⟨blanks, split⟩ : skipBlanks (skipBlanks s).reverse <:+ (skipBlanks s).reverse :=
    List.dropWhile_suffix isBlank
  apply trim_eq_self
  · intro c hc
    have kept : skipBlanks s = trim s ++ blanks.reverse := by
      rw [trim, ← List.reverse_append, split, List.reverse_reverse]
    apply head
    rw [kept, List.head?_append, Option.mem_def.1 hc]
    rfl
  · intro c hc
    rw [trim, List.getLast?_reverse] at hc
    exact last c hc

end Text

namespace Database

/-- The name of a known product leads to this product. -/
theorem ofName_name_of_known {s : String} {database : Database} (h : known? s = some database) :
    ofName database.name = database := by
  unfold known? at h
  split at h <;> cases h <;> decide

/-- The name of a product that was found by a name leads to this product. -/
theorem ofName_name_ofName (s : String) : ofName (ofName s).name = ofName s := by
  cases known : known? (Text.asciiLower (String.ofList (Text.trim s.toList))) with
  | some database =>
    have found : ofName s = database := by rw [ofName, known, Option.getD_some]
    rw [found, ofName_name_of_known known]
  | none =>
    have found : ofName s = .other (String.ofList (Text.trim s.toList)) := by
      rw [ofName, known, Option.getD_none]
    rw [found, name, ofName, String.toList_ofList, Text.trim_trim, known, Option.getD_none]

end Database

theorem NamingPattern.ofJson_toJson (r : Reading) (p : NamingPattern) :
    NamingPattern.ofJson r p.toJson = .ok p := by cases p <;> rfl

namespace Settings

theorem isWritten_toJson (s : Settings) : s.toJson.IsWritten := by
  rw [toJson, isWritten_ofMembers]
  simp only [List.forall_mem_cons]
  exact ⟨rfl, trivial, rfl, trivial, rfl, List.forall_mem_nil _⟩

theorem ofJson_toJson {s : Settings} {name : String} (named : s.database = .ofName name) :
    Settings.ofJson .start s.toJson = .ok s := by
  have database : Database.ofName s.database.name = s.database := by
    rw [named, Database.ofName_name_ofName]
  refine bind_eq_ok_iff.2 ⟨_, members_ofMembers rfl rfl (by decide), ?_⟩
  refine bind_eq_ok_iff.2 ⟨s.database, congrArg Except.ok database, ?_⟩
  refine bind_eq_ok_iff.2 ⟨s.escapeKeywords, rfl, ?_⟩
  refine bind_eq_ok_iff.2 ⟨s.tableNaming, NamingPattern.ofJson_toJson _ _, ?_⟩
  refine bind_eq_ok_iff.2 ⟨s.oracleOffsetFetch, rfl, ?_⟩
  exact bind_eq_ok_iff.2 ⟨s.keyNaming, NamingPattern.ofJson_toJson _ _, rfl⟩

end Settings

/-! ## Declarations of entities -/

theorem isWritten_textOrNull (s : Option String) : (textOrNull s).IsWritten := by
  cases s with
  | none => trivial
  | some s => rfl

theorem asOptional_textOrNull (s : Option String) : asOptional asText (textOrNull s) = .ok s := by
  cases s <;> rfl

namespace FieldDecl

theorem isWritten_toJson (f : FieldDecl) : f.toJson.IsWritten := by
  rw [toJson, isWritten_ofMembers]
  simp only [List.forall_mem_cons]
  exact ⟨rfl, isWritten_textOrNull _, trivial, trivial, List.forall_mem_nil _⟩

theorem ofJson_toJson {r inner : Reading} (enter : r.enter = .ok inner) (f : FieldDecl) :
    FieldDecl.ofJson r f.toJson = .ok f := by
  refine bind_eq_ok_iff.2 ⟨_, members_ofMembers enter rfl (by decide), ?_⟩
  refine bind_eq_ok_iff.2 ⟨f.name, rfl, ?_⟩
  exact bind_eq_ok_iff.2 ⟨f.column, asOptional_textOrNull _, rfl⟩

end FieldDecl

namespace EntityDecl

theorem isWritten_toJson (d : EntityDecl) : d.toJson.IsWritten := by
  have fields : (Json.array (d.fields.map FieldDecl.toJson)).IsWritten := by
    rw [isWritten_array, List.forall_mem_map]
    exact fun f _ => f.isWritten_toJson
  rw [toJson, isWritten_ofMembers]
  simp only [List.forall_mem_cons]
  exact ⟨rfl, isWritten_textOrNull _, fields, List.forall_mem_nil _⟩

theorem ofJson_toJson (d : EntityDecl) : EntityDecl.ofJson .start d.toJson = .ok d := by
  refine bind_eq_ok_iff.2 ⟨_, members_ofMembers rfl rfl (by decide), ?_⟩
  refine bind_eq_ok_iff.2 ⟨d.name, rfl, ?_⟩
  refine bind_eq_ok_iff.2 ⟨d.table, asOptional_textOrNull _, ?_⟩
  exact bind_eq_ok_iff.2 ⟨d.fields, asList_map rfl fun f _ => FieldDecl.ofJson_toJson rfl f, rfl⟩

end EntityDecl

/-! ## Queries -/

namespace OrderItem

theorem isWritten_toJson (item : OrderItem) : item.toJson.IsWritten := by
  rw [toJson, isWritten_ofMembers]
  simp only [List.forall_mem_cons]
  exact ⟨item.operand.isWritten_toJson, rfl, List.forall_mem_nil _⟩

theorem ofJson_toJson (levels : Nat) (item : OrderItem) :
    OrderItem.ofJson (.direct (levels + 2)) item.toJson = .ok item := by
  obtain ⟨operand, direction⟩ := item
  refine bind_eq_ok_iff.2 ⟨_, members_ofMembers rfl rfl (by decide), ?_⟩
  refine bind_eq_ok_iff.2 ⟨operand, Operand.ofJson_toJson rfl operand, ?_⟩
  refine bind_eq_ok_iff.2 ⟨direction, ?_, rfl⟩
  cases direction <;> rfl

end OrderItem

namespace Page

theorem isWritten_nat (n : UInt64) : (Json.nat n.toNat).IsWritten :=
  ⟨isWritten_digits _ _, by rw [number?_nat]; rfl⟩

theorem isWritten_toJson (p : Page) : p.toJson.IsWritten := by
  rw [toJson, isWritten_ofMembers]
  simp only [List.forall_mem_cons]
  exact ⟨isWritten_nat p.offset, isWritten_nat p.limit, List.forall_mem_nil _⟩

theorem ofJson_toJson {r inner : Reading} (enter : r.enter = .ok inner) (p : Page) :
    Page.ofJson r p.toJson = .ok p := by
  refine bind_eq_ok_iff.2 ⟨_, members_ofMembers enter rfl (by decide), ?_⟩
  refine bind_eq_ok_iff.2 ⟨p.offset, asNatural_nat p.offset, ?_⟩
  exact bind_eq_ok_iff.2 ⟨p.limit, asNatural_nat p.limit, rfl⟩

end Page

namespace Query

theorem isWritten_toJson (q : Query) : q.toJson.IsWritten := by
  have order : (Json.array (q.order.map OrderItem.toJson)).IsWritten := by
    rw [isWritten_array, List.forall_mem_map]
    exact fun item _ => item.isWritten_toJson
  have projection : (Json.array (q.projection.map Operand.toJson)).IsWritten := by
    rw [isWritten_array, List.forall_mem_map]
    exact fun o _ => o.isWritten_toJson
  have page : ((q.page.map Page.toJson).getD .null).IsWritten := by
    cases q.page with
    | none => trivial
    | some p => exact p.isWritten_toJson
  rw [toJson, isWritten_ofMembers]
  simp only [List.forall_mem_cons]
  exact ⟨q.condition.isWritten_toJson, order, projection, page, List.forall_mem_nil _⟩

theorem ofJson_toJson {q : Query} (shallow : q.toJson.depth ≤ 127)
    (kept : ∀ v ∈ q.condition.values, v.IsKept) : Query.ofJson .start q.toJson = .ok q := by
  have inside : q.condition.toJson.depth ≤ 126 :=
    depth_ofMembers_le.1 shallow _ List.mem_cons_self
  have page : asOptional (Page.ofJson (.direct 126)) ((q.page.map Page.toJson).getD .null) =
      .ok q.page := by
    cases q.page with
    | none => rfl
    | some p => exact congrArg (Except.map some) (Page.ofJson_toJson rfl p)
  refine bind_eq_ok_iff.2 ⟨_, members_ofMembers rfl rfl (by decide), ?_⟩
  refine bind_eq_ok_iff.2 ⟨q.condition, Condition.ofJson_toJson kept inside (by decide), ?_⟩
  refine bind_eq_ok_iff.2 ⟨q.order, asList_map rfl fun item _ => item.ofJson_toJson 123, ?_⟩
  refine bind_eq_ok_iff.2 ⟨q.projection, asList_map rfl fun o _ => o.ofJson_toJson rfl, ?_⟩
  exact bind_eq_ok_iff.2 ⟨q.page, page, rfl⟩

end Query

/-! ## Documents as texts -/

/-- Valid settings whose database goes by a name it was found by, declarations of entities, and
queries that nest no deeper than a reader goes and whose values are meant by their texts alone, are read
back from the texts of their documents. -/
theorem documents_read_back :
    (∀ s : Settings, s.validate = .ok () → (∃ name, s.database = .ofName name) →
      Settings.read (render s.toJson) = .ok s) ∧
    (∀ d : EntityDecl, decodeText EntityDecl.ofJson (render d.toJson) = .ok d) ∧
    (∀ q : Query, q.toJson.depth ≤ 127 → (∀ v ∈ q.condition.values, v.IsKept) →
      decodeText Query.ofJson (render q.toJson) = .ok q) := by
  refine ⟨fun s valid ⟨name, named⟩ => ?_, fun d => ?_, fun q shallow kept => ?_⟩
  · have decoded : decodeText Settings.ofJson (render s.toJson) = .ok s := by
      rw [decodeText_render s.isWritten_toJson, Settings.ofJson_toJson named]
    rw [Settings.read, decoded]
    exact bind_eq_ok_iff.2 ⟨s, rfl, bind_eq_ok_iff.2 ⟨(), valid, rfl⟩⟩
  · rw [decodeText_render d.isWritten_toJson, d.ofJson_toJson]
  · rw [decodeText_render q.isWritten_toJson, Query.ofJson_toJson shallow kept]

theorem documents_read_back_sample :
    let s : Settings := .forDatabase (.ofName " Ingres ")
    let price : Value := .float ⟨4591870180066957722⟩
    let q : Query := { Sample.query with
      condition := .any [Sample.condition, .compare (.column "price") .ge price] }
    s.validate = .ok () ∧ (∃ name, s.database = .ofName name) ∧
      q.toJson.depth ≤ 127 ∧ (∀ v ∈ q.condition.values, v.IsKept) ∧
      Settings.read (render s.toJson) = .ok s ∧
      decodeText EntityDecl.ofJson (render Sample.itemDecl.toJson) = .ok Sample.itemDecl ∧
      decodeText Query.ofJson (render q.toJson) = .ok q := by
  intro s price q
  obtain ⟨settings, declarations, queries⟩ := documents_read_back
  have valid : s.validate = .ok () := by decide +kernel
  have named : ∃ name, s.database = .ofName name := ⟨" Ingres ", rfl⟩
  have shallow : q.toJson.depth ≤ 127 := by decide +kernel
  have kept_price : price.IsKept :=
    ⟨false, 3602879701896397 * 2 ^ 1019, by decide +kernel, by decide +kernel⟩
  have kept_pattern : Timestamp.read? .document "a%" = none := by decide +kernel
  have kept : ∀ v ∈ q.condition.values, v.IsKept := by
    show ∀ v ∈ [.text "a%", .integer 1, .null, .integer 5, .integer 9, price], v.IsKept
    simp only [List.forall_mem_cons]
    exact ⟨kept_pattern, trivial, trivial, trivial, trivial, kept_price, List.forall_mem_nil _⟩
  exact ⟨valid, named, shallow, kept, settings s valid named, declarations Sample.itemDecl,
    queries q shallow kept⟩

end EntitySql
