/-
  ComponentMarkup.Proofs.Lowering.Values
  ────────────────────────────────
  **How captured values move.**

  The values that a usage captured end up under the new attribute in their order, each in the
  shape that its kind asks for: a token in a new value, an expression replaced by a new value that
  takes its children, and anything else as it is.

  Main statements: `Loose.box`, `Loose.wrapValue` and `Loose.wrapValues`.
-/
import ComponentMarkup.Proofs.Lowering.Adoption
import ComponentMarkup.Proofs.Lowering.Rewrite

namespace ComponentMarkup

open MarkupTree

namespace MarkupTree

variable {tree left : MarkupTree}

/-! ## §1. Captured values before and after. -/

/-- What becomes of a captured value, with names. -/
inductive Wraps : LocatedTree → LocatedTree → Prop where
  | token {value : LocatedTree} (id : NodeId) {kind : TokenKind} {text : String}
      (token : value.kind = .token kind text) :
      Wraps value (.node ⟨id, { kind := .expressionValue }⟩ [value])
  | expression {spot : Spot} {branches : List LocatedTree} (id : NodeId)
      (expression : spot.content.kind = .embeddedExpression) :
      Wraps (.node spot branches)
        (.node ⟨id, { spot.content with kind := .expressionValue }⟩ branches)
  | other {value : LocatedTree} (not_token : ∀ kind text, value.kind ≠ .token kind text)
      (not_expression : value.kind ≠ .embeddedExpression) : Wraps value value

/-- The node has no children and is not among the names of the given trees. -/
structure Retired (tree : MarkupTree) (ts : List LocatedTree) (id : NodeId) : Prop where
  known : id < tree.size
  no_children : tree.children id = []
  outside : id ∉ ts.flatMap RoseTree.ids

/-- How a tree looks after some values went under a node: their names are old ones of theirs or
new, and an expression whose value was unwrapped is left without children. -/
structure Moved (tree left : MarkupTree) (upper : NodeId) (values wraps : List LocatedTree) :
    Prop where
  linked : left.Linked
  shapes : List.Forall₂ Wraps values wraps
  held : ∀ wrap ∈ wraps, left.Holds wrap
  upper_top : left.parent upper = none
  upper_content : left.content upper = tree.content upper
  upper_children : left.children upper = tree.children upper ++ wraps.map RoseTree.top
  spares : tree.Spares left (upper :: values.flatMap RoseTree.ids)
  names : ∀ id ∈ wraps.flatMap RoseTree.ids, id ∈ values.flatMap RoseTree.ids ∨ tree.size ≤ id
  retired : ∀ value ∈ values, value.kind = .embeddedExpression → left.Retired wraps value.top

/-- A new node that is ready to hold some values: they are detached, away from it, and were among
the names of the value that it is made for. -/
structure Opened (tree base : MarkupTree) (value : LocatedTree) (content : NodeContent)
    (inner : List LocatedTree) : Prop where
  loose : base.Loose tree.size inner
  size_eq : base.size = tree.size + 1
  spares : tree.Spares base value.ids
  new_content : base.content tree.size = content
  new_children : base.children tree.size = []
  inside : ∀ id ∈ inner.flatMap RoseTree.ids, id ∈ value.ids
  wraps : Wraps value (.node ⟨tree.size, content⟩ inner)
  emptied : value.kind = .embeddedExpression →
    base.children value.top = [] ∧ value.top ∉ inner.flatMap RoseTree.ids

/-! ## §2. A value in a box. -/

section Box

variable {upper : NodeId} {value : LocatedTree} {base between : MarkupTree} {content : NodeContent}
  {inner : List LocatedTree}

theorem Opened.mem_ids_of_mem_tops (opened : tree.Opened base value content inner) {id : NodeId}
    (listed : id ∈ inner.map RoseTree.top) : id ∈ value.ids := by
  obtain ⟨t, inside, same⟩ := List.mem_map.mp listed
  exact opened.inside id (List.mem_flatMap.mpr ⟨t, inside, same ▸ t.top_mem_ids⟩)

theorem Loose.upper_not_mem_ids (loose : tree.Loose upper [value]) : upper ∉ value.ids :=
  not_mem_ids_of_not_mem loose.apart List.mem_cons_self

theorem Loose.lt_size_of_mem_ids (loose : tree.Loose upper [value]) {id : NodeId}
    (inside : id ∈ value.ids) : id < tree.size :=
  (loose.held value List.mem_cons_self).lt_size_of_mem_ids inside

/-- The new node takes the inner values and goes under the upper node; nothing is refused. -/
theorem Loose.box_runs (loose : tree.Loose upper [value])
    (opened : tree.Opened base value content inner) :
    ∃ between left, TreeEdit.adopt tree.size (inner.map RoseTree.top) base = .ok () between
      ∧ TreeEdit.append upper tree.size between = .ok () left
      ∧ base.Adopted between tree.size (inner.map RoseTree.top)
      ∧ between.Adopted left upper [tree.size] := by
  have apart := loose.upper_not_mem_ids
  obtain ⟨between, adopted, inner_under⟩ := opened.loose.adopt
  -- The upper node is not among the inner values, so that it is a top as before.
  have upper_top : between.parent upper = none := by
    rw [inner_under.parent_eq, if_neg fun listed => apart (opened.mem_ids_of_mem_tops listed),
      opened.spares.parent_eq loose.upper_known apart, loose.upper_top]
  have new_not_inner : tree.size ∉ inner.map RoseTree.top := fun listed =>
    Nat.lt_irrefl _ (loose.lt_size_of_mem_ids (opened.mem_ids_of_mem_tops listed))
  have size_eq : between.size = tree.size + 1 := inner_under.size_eq.trans opened.size_eq
  have detached : between.Detached upper tree.size := by
    refine ⟨?_, Nat.ne_of_gt loose.linked.root_lt_size, ?_, Nat.ne_of_gt loose.upper_known⟩
    · rw [size_eq]
      exact Nat.lt_succ_self _
    · rw [inner_under.parent_eq, if_neg new_not_inner, opened.loose.upper_top]
  have upper_known : upper < between.size := by
    rw [size_eq]
    exact Nat.lt_succ_of_lt loose.upper_known
  obtain ⟨left, appended, outer⟩ :=
    inner_under.linked.append_under_top upper_known upper_top detached
  exact ⟨between, left, adopted, appended, inner_under, outer⟩

/-- Boxing a value changes the upper node and nodes of the value. -/
theorem Opened.box_spares (opened : tree.Opened base value content inner)
    (inner_under : base.Adopted between tree.size (inner.map RoseTree.top))
    (outer : between.Adopted left upper [tree.size]) : tree.Spares left (upper :: value.ids) := by
  have start : tree.Spares base (upper :: value.ids) :=
    opened.spares.mono fun id inside _ => List.mem_cons_of_mem _ inside
  have first : tree.Spares between (upper :: value.ids) := by
    refine start.trans inner_under.spares (fun _ inside _ => inside) fun id listed known => ?_
    rcases List.mem_cons.mp listed with same | inside
    · exact absurd known (same ▸ Nat.lt_irrefl _)
    · exact List.mem_cons_of_mem _ (opened.mem_ids_of_mem_tops inside)
  refine first.trans outer.spares (fun _ inside _ => inside) fun id listed known => ?_
  rcases List.mem_cons.mp listed with same | last
  · exact same ▸ List.mem_cons_self
  · exact absurd known (List.mem_singleton.mp last ▸ Nat.lt_irrefl _)

/-- The boxed values are held under the new node. -/
theorem Loose.box_holds (loose : tree.Loose upper [value])
    (opened : tree.Opened base value content inner)
    (inner_under : base.Adopted between tree.size (inner.map RoseTree.top))
    (outer : between.Adopted left upper [tree.size]) :
    left.Holds (.node ⟨tree.size, content⟩ inner) := by
  have apart := loose.upper_not_mem_ids
  refine .node ?_ ?_ ?_ fun t inside => ?_
  · rw [outer.size_eq, inner_under.size_eq, opened.size_eq]
    exact Nat.lt_succ_self _
  · rw [outer.content_eq, inner_under.content_eq, opened.new_content]
  · rw [outer.children_eq, if_neg (Nat.ne_of_lt loose.upper_known), inner_under.children_eq,
      if_pos rfl, opened.new_children, List.nil_append]
  · have there : between.Holds t := inner_under.holds (opened.loose.held t inside)
      (not_mem_ids_of_not_mem opened.loose.apart inside)
    refine outer.holds there fun upper_inside => apart ?_
    exact opened.inside upper (List.mem_flatMap.mpr ⟨t, inside, upper_inside⟩)

/-- An expression whose value was boxed is left without children. -/
theorem Loose.box_retires (loose : tree.Loose upper [value])
    (opened : tree.Opened base value content inner)
    (inner_under : base.Adopted between tree.size (inner.map RoseTree.top))
    (outer : between.Adopted left upper [tree.size])
    (expression : value.kind = .embeddedExpression) :
    left.Retired [.node ⟨tree.size, content⟩ inner] value.top := by
  obtain ⟨no_children, outside⟩ := opened.emptied expression
  have top_old := loose.lt_size_of_mem_ids value.top_mem_ids
  have not_upper : upper ≠ value.top := fun same =>
    loose.upper_not_mem_ids (same ▸ value.top_mem_ids)
  refine ⟨?_, ?_, ?_⟩
  · rw [outer.size_eq, inner_under.size_eq, opened.size_eq]
    exact Nat.lt_succ_of_lt top_old
  · rw [outer.children_eq, if_neg not_upper, inner_under.children_eq,
      if_neg (Nat.ne_of_gt top_old), no_children]
  · rw [List.flatMap_singleton, RoseTree.ids_node]
    intro listed
    rcases List.mem_cons.mp listed with same | inside
    · exact Nat.ne_of_lt top_old same
    · exact outside inside

/-- **A value in a box.** -/
theorem Loose.box (loose : tree.Loose upper [value])
    (opened : tree.Opened base value content inner) :
    ∃ between left, TreeEdit.adopt tree.size (inner.map RoseTree.top) base = .ok () between
      ∧ TreeEdit.append upper tree.size between = .ok () left
      ∧ tree.Moved left upper [value] [.node ⟨tree.size, content⟩ inner] := by
  obtain ⟨between, left, adopted, appended, inner_under, outer⟩ := loose.box_runs opened
  have apart := loose.upper_not_mem_ids
  have spares := opened.box_spares inner_under outer
  refine ⟨between, left, adopted, appended, outer.linked, .cons opened.wraps .nil, ?_, ?_, ?_, ?_,
    ?_, ?_, ?_⟩
  · intro wrap listed
    exact List.mem_singleton.mp listed ▸ loose.box_holds opened inner_under outer
  · have not_new : upper ∉ [tree.size] := fun listed =>
      Nat.ne_of_lt loose.upper_known (List.mem_singleton.mp listed)
    rw [outer.parent_eq, if_neg not_new, inner_under.parent_eq,
      if_neg fun listed => apart (opened.mem_ids_of_mem_tops listed),
      opened.spares.parent_eq loose.upper_known apart, loose.upper_top]
  · rw [outer.content_eq, inner_under.content_eq,
      opened.spares.content_eq loose.upper_known apart]
  · rw [outer.children_eq, if_pos rfl, inner_under.children_eq,
      if_neg (Nat.ne_of_gt loose.upper_known), opened.spares.children_eq loose.upper_known apart]
    rfl
  · rw [List.flatMap_singleton]
    exact spares
  · intro id listed
    rw [List.flatMap_singleton, RoseTree.ids_node] at listed
    rw [List.flatMap_singleton]
    rcases List.mem_cons.mp listed with same | inside
    · exact Or.inr (Nat.le_of_eq same.symm)
    · exact Or.inl (opened.inside id inside)
  · intro other listed expression
    rw [List.mem_singleton.mp listed] at expression ⊢
    exact loose.box_retires opened inner_under outer expression

end Box

/-! ## §3. One captured value. -/

theorem wrapValue_of_token {upper id : NodeId} {tokenKind : TokenKind} {text : String}
    (token : tree.kind id = .token tokenKind text) :
    TreeEdit.wrapValue upper id tree = (do
      let value ← TreeEdit.create { kind := .expressionValue }
      TreeEdit.append value id
      TreeEdit.append upper value) tree := by
  unfold kind at token
  unfold TreeEdit.wrapValue
  rw [TreeEdit.bind_get]
  rw [token]

theorem wrapValue_of_expression {upper id : NodeId}
    (expression : tree.kind id = .embeddedExpression) :
    TreeEdit.wrapValue upper id tree = (do
      let inner ← TreeEdit.releaseChildren id
      let value ← TreeEdit.create { tree.content id with kind := .expressionValue }
      TreeEdit.adopt value inner
      TreeEdit.append upper value)
        (tree.modifyContent id fun content => { kind := content.kind }) := by
  unfold kind at expression
  unfold TreeEdit.wrapValue
  rw [TreeEdit.bind_get]
  rw [expression]
  rfl

theorem wrapValue_of_other {upper id : NodeId}
    (not_token : ∀ kind text, tree.kind id ≠ .token kind text)
    (not_expression : tree.kind id ≠ .embeddedExpression) :
    TreeEdit.wrapValue upper id tree = TreeEdit.append upper id tree := by
  unfold kind at not_token not_expression
  unfold TreeEdit.wrapValue
  rw [TreeEdit.bind_get]
  cases shape : (tree.content id).kind with
  | token tokenKind text => exact absurd shape (not_token tokenKind text)
  | embeddedExpression => exact absurd shape not_expression
  | _ => rfl

section Values

variable {upper : NodeId} {value : LocatedTree}

/-- A token goes into a new value. -/
theorem Loose.wrapValue_token (loose : tree.Loose upper [value]) {kind : TokenKind} {text : String}
    (token : value.kind = .token kind text) :
    ∃ left wrap, TreeEdit.wrapValue upper value.top tree = .ok () left
      ∧ tree.Moved left upper [value] [wrap] := by
  have held := loose.held value List.mem_cons_self
  have inside : ∀ id ∈ [value].flatMap RoseTree.ids, id ∈ value.ids := by
    intro id listed
    rw [List.flatMap_singleton] at listed
    exact listed
  -- The new value has no parent yet, and the token is still detached.
  have loose_new : (tree.push { kind := .expressionValue }).Loose tree.size [value] := by
    refine ⟨loose.linked.push _, ?_, ?_, ?_, loose.not_root, ?_, ?_, loose.nodup⟩
    · rw [size_push]
      exact Nat.lt_succ_self _
    · rw [parent_push, parent, node_of_size_le (Nat.le_refl _)]
      rfl
    · intro other listed
      exact (loose.held other listed).of_spares (spares_push tree _ []) fun _ _ => List.not_mem_nil
    · intro other listed
      rw [parent_push]
      exact loose.detached other listed
    · exact fun listed => Nat.lt_irrefl _ (held.lt_size_of_mem_ids (inside _ listed))
  have opened : tree.Opened (tree.push { kind := .expressionValue }) value
      { kind := .expressionValue } [value] := by
    refine ⟨loose_new, size_push .., spares_push .., ?_, ?_, inside, .token _ token, ?_⟩
    · rw [content_push, if_pos rfl]
    · rw [children_push, children_eq_nil_of_size_le (Nat.le_refl _)]
    · intro expression
      cases expression.symm.trans token
  obtain ⟨between, left, adopted, appended, moved⟩ := loose.box opened
  rw [List.map_cons, List.map_nil, adopt_singleton] at adopted
  refine ⟨left, _, ?_, moved⟩
  have kind_eq : tree.kind value.top = .token kind text := held.kind_top.trans token
  have created : TreeEdit.create { kind := .expressionValue } tree =
      .ok tree.size (tree.push { kind := .expressionValue }) := rfl
  rw [wrapValue_of_token kind_eq, TreeEdit.bind_of_ok created, TreeEdit.bind_of_ok adopted,
    appended]

/-- An expression is left behind, and a new value takes its content and its children. -/
theorem Loose.wrapValue_expression {spot : Spot} {branches : List LocatedTree}
    (loose : tree.Loose upper [.node spot branches])
    (expression : spot.content.kind = .embeddedExpression) :
    ∃ left wrap, TreeEdit.wrapValue upper spot.id tree = .ok () left
      ∧ tree.Moved left upper [.node spot branches] [wrap] := by
  have held := loose.held _ List.mem_cons_self
  -- What is left of the expression keeps its kind only.
  let emptied := tree.modifyContent spot.id fun content => { kind := content.kind }
  let base := emptied.vacated spot.id { spot.content with kind := .expressionValue }
  have emptied_linked : emptied.Linked := loose.linked.modifyContent _ _
  have emptied_held := held.modifyContent loose.linked fun content => { kind := content.kind }
  have emptied_size : emptied.size = tree.size := size_modifyContent ..
  have base_loose : base.Loose tree.size branches :=
    emptied_size ▸ emptied_held.loose_vacated emptied_linked _
  have top_outside : spot.id ∉ branches.flatMap RoseTree.ids :=
    held.top_not_mem_below loose.linked
  have opened : tree.Opened base (.node spot branches)
      { spot.content with kind := .expressionValue } branches := by
    refine ⟨base_loose, ?_, ?_, ?_, ?_, ?_, .expression _ expression, ?_⟩
    · rw [size_vacated, emptied_size]
    · refine (spares_modifyContent tree spot.id _).trans (emptied_held.spares_vacated _)
        (fun id listed _ => ?_) (fun id inside _ => ?_)
      · exact List.mem_singleton.mp listed ▸ RoseTree.top_mem_ids _
      · rw [RoseTree.ids_node] at inside ⊢
        exact inside
    · exact emptied_size ▸ content_vacated_size emptied spot.id _
    · rw [children_vacated, if_neg (Nat.ne_of_lt held.known)]
      exact children_eq_nil_of_size_le (Nat.le_of_eq emptied_size)
    · intro id inside
      rw [RoseTree.ids_node]
      exact List.mem_cons_of_mem _ inside
    · intro _
      refine ⟨?_, top_outside⟩
      rw [RoseTree.top_node, children_vacated, if_pos rfl]
  obtain ⟨between, left, adopted, appended, moved⟩ := loose.box opened
  refine ⟨left, _, ?_, moved⟩
  have kind_eq : tree.kind spot.id = .embeddedExpression := held.kind_top.trans expression
  have released : TreeEdit.releaseChildren spot.id emptied =
      .ok (branches.map RoseTree.top) (emptied.detachChildren spot.id) := by
    unfold TreeEdit.releaseChildren
    rw [emptied_held.children_eq]
  have created : TreeEdit.create { spot.content with kind := .expressionValue }
      (emptied.detachChildren spot.id) = .ok tree.size base := by
    unfold TreeEdit.create
    rw [size_detachChildren, emptied_size]
    rfl
  rw [wrapValue_of_expression kind_eq, held.content_eq, TreeEdit.bind_of_ok released,
    TreeEdit.bind_of_ok created, TreeEdit.bind_of_ok adopted, appended]

/-- Any other value goes under the upper node as it is. -/
theorem Loose.wrapValue_other (loose : tree.Loose upper [value])
    (not_token : ∀ kind text, value.kind ≠ .token kind text)
    (not_expression : value.kind ≠ .embeddedExpression) :
    ∃ left wrap, TreeEdit.wrapValue upper value.top tree = .ok () left
      ∧ tree.Moved left upper [value] [wrap] := by
  have held := loose.held value List.mem_cons_self
  have apart := loose.upper_not_mem_ids
  obtain ⟨left, adopted, under⟩ := loose.adopt
  rw [List.map_cons, List.map_nil, adopt_singleton] at adopted
  rw [List.map_cons, List.map_nil] at under
  refine ⟨left, value, ?_, under.linked, .cons (.other not_token not_expression) .nil, ?_, ?_, ?_,
    ?_, ?_, ?_, ?_⟩
  · rw [wrapValue_of_other, adopted]
    · rw [held.kind_top]
      exact not_token
    · rw [held.kind_top]
      exact not_expression
  · intro wrap listed
    exact List.mem_singleton.mp listed ▸ under.holds held apart
  · have not_value : upper ∉ [value.top] := fun listed =>
      apart (List.mem_singleton.mp listed ▸ value.top_mem_ids)
    rw [under.parent_eq, if_neg not_value, loose.upper_top]
  · exact under.content_eq upper
  · rw [under.children_eq, if_pos rfl]
    rfl
  · refine under.spares.mono fun id listed _ => ?_
    rw [List.flatMap_singleton]
    rcases List.mem_cons.mp listed with same | last
    · exact same ▸ List.mem_cons_self
    · exact List.mem_cons_of_mem _ (List.mem_singleton.mp last ▸ value.top_mem_ids)
  · exact fun id inside => Or.inl inside
  · intro other listed expression
    exact absurd (List.mem_singleton.mp listed ▸ expression) not_expression

/-- **Moving one captured value** is never refused. -/
theorem Loose.wrapValue (loose : tree.Loose upper [value]) :
    ∃ left wrap, TreeEdit.wrapValue upper value.top tree = .ok () left
      ∧ tree.Moved left upper [value] [wrap] := by
  rcases RoseTree.value_cases value.kind with ⟨kind, text, token⟩ | expression | ⟨no_token, no_expr⟩
  · exact loose.wrapValue_token token
  · cases value with
    | node spot branches => exact loose.wrapValue_expression expression
  · exact loose.wrapValue_other no_token no_expr

end Values

/-! ## §4. All captured values. -/

section Lists

variable {upper : NodeId} {first rest : List LocatedTree} {between : MarkupTree}
  {first_wraps rest_wraps : List LocatedTree}

theorem Loose.init (loose : tree.Loose upper (first ++ rest)) : tree.Loose upper first where
  linked := loose.linked
  upper_known := loose.upper_known
  upper_top := loose.upper_top
  held value listed := loose.held value (List.mem_append_left _ listed)
  not_root value listed := loose.not_root value (List.mem_append_left _ listed)
  detached value listed := loose.detached value (List.mem_append_left _ listed)
  apart := by
    have apart := loose.apart
    rw [List.flatMap_append] at apart
    exact fun inside => apart (List.mem_append_left _ inside)
  nodup := by
    have nodup := loose.nodup
    rw [List.flatMap_append] at nodup
    exact (List.nodup_append.mp nodup).1

/-- The names of the later values are not those of the earlier ones, nor that of the upper node. -/
theorem Loose.apart_of_mem (loose : tree.Loose upper (first ++ rest)) {id : NodeId}
    (inside : id ∈ rest.flatMap RoseTree.ids) : id ∉ upper :: first.flatMap RoseTree.ids := by
  have apart := loose.apart
  have nodup := loose.nodup
  rw [List.flatMap_append] at apart nodup
  intro listed
  rcases List.mem_cons.mp listed with same | early
  · exact apart (same ▸ List.mem_append_right _ inside)
  · exact (List.nodup_append.mp nodup).2.2 id early id inside rfl

/-- After the earlier values have moved, the later ones are as loose as before. -/
theorem Loose.after (loose : tree.Loose upper (first ++ rest))
    (moved : tree.Moved between upper first first_wraps) : between.Loose upper rest where
  linked := moved.linked
  upper_known := Nat.lt_of_lt_of_le loose.upper_known moved.spares.size_le
  upper_top := moved.upper_top
  held value listed := by
    refine (loose.held value (List.mem_append_right _ listed)).of_spares moved.spares ?_
    exact fun id inside => loose.apart_of_mem (List.mem_flatMap.mpr ⟨value, listed, inside⟩)
  not_root value listed := loose.not_root value (List.mem_append_right _ listed)
  detached value listed := by
    have known := (loose.held value (List.mem_append_right _ listed)).top_lt_size
    have apart := loose.apart_of_mem (List.mem_flatMap.mpr ⟨value, listed, value.top_mem_ids⟩)
    rw [moved.spares.parent_eq known apart]
    exact loose.detached value (List.mem_append_right _ listed)
  apart := by
    have apart := loose.apart
    rw [List.flatMap_append] at apart
    exact fun inside => apart (List.mem_append_right _ inside)
  nodup := by
    have nodup := loose.nodup
    rw [List.flatMap_append] at nodup
    exact (List.nodup_append.mp nodup).2.1

theorem Loose.lt_size_of_mem {values : List LocatedTree} (loose : tree.Loose upper values)
    {id : NodeId} (inside : id ∈ values.flatMap RoseTree.ids) : id < tree.size := by
  obtain ⟨value, listed, there⟩ := List.mem_flatMap.mp inside
  exact (loose.held value listed).lt_size_of_mem_ids there

/-- What the earlier values became shares no name with the later values and the upper node. -/
theorem Moved.apart_of_mem (moved : tree.Moved between upper first first_wraps)
    (loose : tree.Loose upper (first ++ rest)) {id : NodeId}
    (inside : id ∈ first_wraps.flatMap RoseTree.ids) :
    id ∉ upper :: rest.flatMap RoseTree.ids := by
  have upper_apart := loose.init.apart
  intro listed
  rcases moved.names id inside with old | new
  · rcases List.mem_cons.mp listed with same | later
    · exact upper_apart (same ▸ old)
    · exact loose.apart_of_mem later (List.mem_cons_of_mem _ old)
  · rcases List.mem_cons.mp listed with same | later
    · exact absurd loose.upper_known (Nat.not_lt_of_le (same ▸ new))
    · obtain ⟨value, there, among⟩ := List.mem_flatMap.mp later
      have known := (loose.held value (List.mem_append_right _ there)).lt_size_of_mem_ids among
      exact absurd known (Nat.not_lt_of_le new)

/-- Expressions that were emptied stay so, on both sides of a list. -/
theorem Moved.retired_append (moved : tree.Moved between upper first first_wraps)
    (moved' : between.Moved left upper rest rest_wraps) (loose : tree.Loose upper (first ++ rest))
    {value : LocatedTree} (listed : value ∈ first ++ rest)
    (expression : value.kind = .embeddedExpression) :
    left.Retired (first_wraps ++ rest_wraps) value.top := by
  have known := (loose.held value listed).top_lt_size
  -- An expression is emptied in its own turn; the other part does not touch it.
  rcases List.mem_append.mp listed with early | late
  · have inside : value.top ∈ first.flatMap RoseTree.ids :=
      List.mem_flatMap.mpr ⟨value, early, value.top_mem_ids⟩
    obtain ⟨known', no_children, outside⟩ := moved.retired value early expression
    have apart : value.top ∉ upper :: rest.flatMap RoseTree.ids := by
      intro again
      rcases List.mem_cons.mp again with same | later
      · exact loose.init.apart (same ▸ inside)
      · exact loose.apart_of_mem later (List.mem_cons_of_mem _ inside)
    refine ⟨Nat.lt_of_lt_of_le known' moved'.spares.size_le, ?_, ?_⟩
    · rw [moved'.spares.children_eq known' apart, no_children]
    · rw [List.flatMap_append]
      intro there
      rcases List.mem_append.mp there with here | here
      · exact outside here
      · rcases moved'.names _ here with old | new
        · exact apart (List.mem_cons_of_mem _ old)
        · exact absurd known' (Nat.not_lt_of_le new)
  · have inside : value.top ∈ rest.flatMap RoseTree.ids :=
      List.mem_flatMap.mpr ⟨value, late, value.top_mem_ids⟩
    obtain ⟨known', no_children, outside⟩ := moved'.retired value late expression
    refine ⟨known', no_children, ?_⟩
    rw [List.flatMap_append]
    intro there
    rcases List.mem_append.mp there with here | here
    · exact moved.apart_of_mem loose here (List.mem_cons_of_mem _ inside)
    · exact outside here

/-- The earlier values, and then the later ones. -/
theorem Moved.append (moved : tree.Moved between upper first first_wraps)
    (moved' : between.Moved left upper rest rest_wraps)
    (loose : tree.Loose upper (first ++ rest)) :
    tree.Moved left upper (first ++ rest) (first_wraps ++ rest_wraps) := by
  refine ⟨moved'.linked, List.rel_append moved.shapes moved'.shapes, ?_, moved'.upper_top, ?_, ?_,
    ?_, ?_, fun value listed => moved.retired_append moved' loose listed⟩
  · intro wrap listed
    rcases List.mem_append.mp listed with early | late
    · refine (moved.held wrap early).of_spares moved'.spares fun id inside => ?_
      exact moved.apart_of_mem loose (List.mem_flatMap.mpr ⟨wrap, early, inside⟩)
    · exact moved'.held wrap late
  · rw [moved'.upper_content, moved.upper_content]
  · rw [moved'.upper_children, moved.upper_children, List.map_append, List.append_assoc]
  · rw [List.flatMap_append]
    refine moved.spares.trans moved'.spares (fun id listed _ => ?_) (fun id listed _ => ?_)
    · exact List.cons_subset_cons _ (List.subset_append_left ..) listed
    · exact List.cons_subset_cons _ (List.subset_append_right ..) listed
  · intro id listed
    rw [List.flatMap_append] at listed ⊢
    rcases List.mem_append.mp listed with early | late
    · exact (moved.names id early).imp_left (List.mem_append_left _)
    · rcases moved'.names id late with old | new
      · exact Or.inl (List.mem_append_right _ old)
      · exact Or.inr (Nat.le_trans moved.spares.size_le new)

/-- Without values nothing moves. -/
theorem Loose.moved_nil (loose : tree.Loose upper []) : tree.Moved tree upper [] [] where
  linked := loose.linked
  shapes := .nil
  held := List.forall_mem_nil _
  upper_top := loose.upper_top
  upper_content := rfl
  upper_children := (List.append_nil _).symm
  spares := .refl tree _
  names := List.forall_mem_nil _
  retired := List.forall_mem_nil _

/-- **Moving all captured values** is never refused. -/
theorem Loose.wrapValues {values : List LocatedTree} (loose : tree.Loose upper values) :
    ∃ left wraps, TreeEdit.wrapValues upper (values.map RoseTree.top) tree = .ok () left
      ∧ tree.Moved left upper values wraps := by
  induction values generalizing tree with
  | nil => exact ⟨tree, [], rfl, loose.moved_nil⟩
  | cons first rest ih =>
    -- The first value moves, and the others are loose in the tree that it leaves.
    have all : tree.Loose upper ([first] ++ rest) := loose
    obtain ⟨between, wrap, ran, moved⟩ := all.init.wrapValue
    obtain ⟨left, wraps, ran', moved'⟩ := ih (all.after moved)
    refine ⟨left, [wrap] ++ wraps, ?_, moved.append moved' all⟩
    rw [List.map_cons]
    unfold TreeEdit.wrapValues
    rw [TreeEdit.bind_of_ok ran, ran']

end Lists

end MarkupTree

end ComponentMarkup
