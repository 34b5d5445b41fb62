/-
  Pieces of SQL that are alike: they have the same text and as many parameters.

  Conditions of one shape, which differ in their values only, are written alike, or the same thing is
  wrong with them (`Condition.render_matched`). So are queries with such conditions that differ in the
  numbers of their pages besides (`Query.selectSql_matched`, `Query.countSql_matched`).
-/
import EntitySql.Proofs.Condition.Rendering
import EntitySql.Proofs.SideBySide
import EntitySql.Sql.Select

namespace EntitySql

/-! ## Pieces that are alike -/

namespace Sql

/-- The pieces have one text, and as many parameters. -/
structure Alike (a b : Sql) : Prop where
  text : a.text = b.text
  params : a.params.length = b.params.length

namespace Alike

theorem refl (a : Sql) : a.Alike a := ⟨rfl, rfl⟩

theorem append {a a' b b' : Sql} (h : a.Alike b) (h' : a'.Alike b') : (a ++ a').Alike (b ++ b') := by
  refine ⟨?_, ?_⟩
  · rw [text_append, text_append, h.text, h'.text]
  · rw [params_append, params_append, List.length_append, List.length_append, h.params, h'.params]

theorem joined (separator : String) {parts others : List Sql} (h : List.Forall₂ Alike parts others) :
    (joined separator parts).Alike (joined separator others) := by
  have texts : parts.map Sql.text = others.map Sql.text := by
    rw [← List.forall₂_eq_eq_eq, List.forall₂_map_left_iff, List.forall₂_map_right_iff]
    exact h.imp fun _ _ => Alike.text
  exact ⟨congrArg separator.intercalate texts,
    length_flatMap_of_forall₂ (h.imp fun _ _ => Alike.params)⟩

end Alike

end Sql

/-! ## Conditions -/

namespace Condition

mutual

/-- The conditions differ in values only, and lists of values have the same lengths. -/
inductive SameShape : Condition → Condition → Prop
  | compare (operand : Operand) (op : CompareOp) (value value' : Value) :
    SameShape (.compare operand op value) (.compare operand op value')
  | isIn (operand : Operand) {values values' : List Value} (h : values.length = values'.length) :
    SameShape (.isIn operand values) (.isIn operand values')
  | between (operand : Operand) (low high low' high' : Value) :
    SameShape (.between operand low high) (.between operand low' high')
  | nullTest (operand : Operand) (isNull : Bool) :
    SameShape (.nullTest operand isNull) (.nullTest operand isNull)
  | group (logic : Logic) {children children' : List Condition}
    (h : AllSameShape children children') :
    SameShape (.group logic children) (.group logic children')

/-- The conditions differ in values only, one by one. -/
inductive AllSameShape : List Condition → List Condition → Prop
  | nil : AllSameShape [] []
  | cons {c c' : Condition} {rest rest' : List Condition} (head : SameShape c c')
    (tail : AllSameShape rest rest') : AllSameShape (c :: rest) (c' :: rest')

end

variable {s : Settings} {t : Table}

theorem alike_inList (column : String) {values values' : List Value}
    (h : values.length = values'.length) :
    (inList column values).Alike (inList column values') :=
  ⟨by rw [inList, inList, h], h⟩

theorem alike_inPredicate (d : Dialect) (column : String) {values values' : List Value}
    (h : values.length = values'.length) :
    (inPredicate d column values).Alike (inPredicate d column values') := by
  rw [inPredicate, inPredicate, isEmpty_eq_of_length_eq h]
  split
  · exact .refl _
  · split
    · exact alike_inList column h
    · next limit _ =>
      have pieces := forall₂_chunks limit (forall₂_of_length_eq h)
      have lists : List.Forall₂ Sql.Alike ((chunks limit values).map (inList column))
          ((chunks limit values').map (inList column)) :=
        List.rel_map (fun piece piece' hpiece => alike_inList column hpiece.length_eq) pieces
      -- The pieces are as many on both sides, so that they take one list or several.
      generalize chunks limit values = these at pieces lists
      generalize chunks limit values' = others at pieces lists
      cases pieces with
      | nil => exact .refl _
      | cons only rest =>
        cases rest with
        | nil => exact alike_inList column only.length_eq
        | cons => exact ((Sql.Alike.refl _).append (.joined _ lists)).append (.refl _)

theorem alike_grouped (inner : Bool) (logic : Logic) {parts others : List Sql}
    (h : List.Forall₂ Sql.Alike parts others) :
    Option.Rel Sql.Alike (grouped inner logic parts) (grouped inner logic others) := by
  have joined := Sql.Alike.joined (" " ++ logic.sql ++ " ") h
  cases h with
  | nil => exact .none
  | cons only rest =>
    cases rest with
    | nil => exact .some only
    | cons =>
      cases inner with
      | false => exact .some joined
      | true => exact .some (((Sql.Alike.refl _).append joined).append (.refl _))

theorem render_group (inner : Bool) (logic : Logic) (children : List Condition) :
    (group logic children).render s t inner =
      renderAll s t children >>= fun parts => pure (grouped inner logic parts) := by
  rw [render]
  refine congrArg (renderAll s t children >>= ·) (funext fun parts => ?_)
  match parts with
  | [] | [_] | _ :: _ :: _ => rfl

mutual

/-- Conditions of one shape have texts that are alike, or none, or the same thing is wrong with
them. -/
theorem render_matched (inner : Bool) :
    (c c' : Condition) → c.SameShape c' →
      Matched (Option.Rel Sql.Alike) (c.render s t inner) (c'.render s t inner)
  | .compare .., _, .compare operand op value value' => by
    rw [render, render]
    exact .bind_same fun column => .pure (.some ⟨rfl, rfl⟩)
  | .isIn .., _, .isIn operand h => by
    rw [render, render]
    exact .bind_same fun column => .pure (.some (alike_inPredicate s.dialect column h))
  | .between .., _, .between operand low high low' high' => by
    rw [render, render]
    exact .bind_same fun column => .pure (.some ⟨rfl, rfl⟩)
  | .nullTest .., _, .nullTest operand isNull => by
    rw [render]
    exact .bind_same fun column => .pure (.some (.refl _))
  | .group _ children, _, @SameShape.group logic _ children' h => by
    rw [render_group, render_group]
    exact (renderAll_matched children children' h).bind fun parts others hparts =>
      .pure (alike_grouped inner logic hparts)

theorem renderAll_matched :
    (cs cs' : List Condition) → AllSameShape cs cs' →
      Matched (List.Forall₂ Sql.Alike) (renderAll s t cs) (renderAll s t cs')
  | [], _, .nil => .ok .nil
  | c :: rest, _, @AllSameShape.cons _ c' _ rest' head tail => by
    rw [renderAll, renderAll]
    refine (render_matched true c c' head).bind fun part part' hpart =>
      (renderAll_matched rest rest' tail).bind fun parts parts' hparts => .pure ?_
    cases hpart with
    | none => exact hparts
    | some h => exact .cons h hparts

end

theorem filter?_matched {c c' : Condition} (h : c.SameShape c') :
    Matched (Option.Rel Sql.Alike) (c.filter? s t []) (c'.filter? s t []) := by
  refine (render_matched false c c' h).bind fun part part' hpart => .pure ?_
  cases hpart with
  | none => exact .none
  | some h => exact .some ⟨h.text, h.params⟩

theorem whereClause_matched {c c' : Condition} (h : c.SameShape c') :
    Matched Sql.Alike (c.whereClause s t) (c'.whereClause s t) := by
  refine (filter?_matched h).bind fun found found' hfound => ?_
  cases hfound with
  | none => exact .pure (.refl _)
  | some h => exact .pure ((Sql.Alike.refl _).append h)

end Condition

/-! ## Queries -/

theorem Dialect.paginate_matched (d : Dialect) {statement statement' : Sql} (page page' : Page)
    (ordered : Bool) (h : statement.Alike statement') :
    Matched Sql.Alike (d.paginate statement page ordered) (d.paginate statement' page' ordered) := by
  rw [paginate, paginate]
  split
  · exact .ok (h.append ⟨rfl, rfl⟩)
  · split
    · exact .error _
    · exact .ok (h.append ⟨rfl, rfl⟩)
  · exact .ok (((Sql.Alike.refl _).append h).append ⟨rfl, rfl⟩)

namespace Query

variable {s : Settings} {t : Table}

/-- The queries differ in the values of their conditions and in the numbers of their pages only. -/
structure SameShape (q q' : Query) : Prop where
  condition : q.condition.SameShape q'.condition
  order : q.order = q'.order
  projection : q.projection = q'.projection
  page : q.page.isSome = q'.page.isSome

theorem countSql_matched {q q' : Query} (h : q.SameShape q') :
    Matched Sql.Alike (q.countSql s t) (q'.countSql s t) :=
  (Condition.whereClause_matched h.condition).bind fun _ _ hclause =>
    .pure ((Sql.Alike.refl _).append hclause)

theorem selectSql_matched {q q' : Query} (h : q.SameShape q') :
    Matched Sql.Alike (q.selectSql s t) (q'.selectSql s t) := by
  have selections : q.selection s t = q'.selection s t := by
    rw [selection, selection, h.projection]
  have ordered : q.isOrdered = q'.isOrdered := by
    rw [isOrdered, isOrdered, h.order]
  have orders : q.orderClause s t = q'.orderClause s t := by
    rw [orderClause, orderClause, ordered, h.order]
  rw [selectSql, selectSql, selections, orders, ordered]
  refine .bind_same fun selection =>
    (Condition.whereClause_matched h.condition).bind fun clause clause' hclause =>
      .bind_same fun order => ?_
  have whole := ((Sql.Alike.refl
    (.plain ("SELECT " ++ ", ".intercalate selection ++ " FROM " ++ t.sql))).append hclause).append
      (.refl order)
  have pages := h.page
  cases hpage : q.page with
  | none =>
    cases hpage' : q'.page with
    | none => exact .pure whole
    | some page' =>
      rw [hpage, hpage'] at pages
      cases pages
  | some page =>
    cases hpage' : q'.page with
    | none =>
      rw [hpage, hpage'] at pages
      cases pages
    | some page' => exact s.dialect.paginate_matched page page' q'.isOrdered whole

end Query

end EntitySql
