/-
  ComponentMarkup.Proofs.Lowering.Step
  ────────────────────────────────
  **What lowering one usage does to a tree.**

  If the reference is live, an attribute with the usage's content takes the place of the usage
  among the children of its parent, and what the usage had captured moves under the attribute.
  Nothing else of the tree changes; the usage is left without children, and so is every expression
  whose value was unwrapped, so that references to what they had are no longer live.

  Main statements: `Holds.lowerUsage` and `Holds.lowerSplat`, and `TreeEdit.lowerSplat_of_stale` for
  a reference that is not live.
-/
import ComponentMarkup.Proofs.Contents.Splicing
import ComponentMarkup.Proofs.Lowering.Values

namespace ComponentMarkup

open MarkupTree Relation

/-! ## §1. References. -/

/-- A reference that is not live is skipped. -/
theorem TreeEdit.lowerSplat_of_stale {reference : Reference} {tree : MarkupTree}
    (stale : reference.node ∉ tree.children reference.parent) :
    TreeEdit.lowerSplat reference tree = .ok false tree := by
  have not_live : reference.isLive tree = false := by
    rw [← Bool.not_eq_true, Reference.isLive_iff]
    exact stale
  unfold TreeEdit.lowerSplat
  rw [TreeEdit.bind_get, not_live]
  rfl

theorem TreeEdit.discard_of_ok {α : Type} {edit : TreeEdit α} {tree left : MarkupTree} {value : α}
    (ran : edit tree = .ok value left) : (discard edit : TreeEdit Unit) tree = .ok () left := by
  show EStateM.map (Function.const α ()) edit tree = _
  unfold EStateM.map
  rw [ran]

namespace MarkupTree

variable {tree left : MarkupTree}

/-! ## §2. The attribute that takes the place of a usage. -/

/-- What takes the place of a usage, with names, under a component or not. -/
inductive Rebuilt : Bool → LocatedTree → LocatedTree → Prop where
  | component {spot : Spot} {branches : List LocatedTree} (id : NodeId) :
      Rebuilt true (.node spot branches)
        (.node ⟨id, { spot.content with kind := .componentSplat }⟩ branches)
  | elsewhere {spot : Spot} {branches wraps : List LocatedTree} (id : NodeId)
      (shapes : List.Forall₂ Wraps branches wraps) :
      Rebuilt false (.node spot branches)
        (.node ⟨id, { spot.content with kind := .htmlSplat }⟩ wraps)

/-- How a tree looks when the attribute for a usage is made, before it takes its place. -/
structure Prepared (tree left : MarkupTree) (underComponent : Bool)
    (usage replacement : LocatedTree) : Prop where
  linked : left.Linked
  shape : Rebuilt underComponent usage replacement
  held : left.Holds replacement
  top_new : replacement.top = tree.size
  detached : left.parent replacement.top = none
  spares : tree.Spares left usage.ids
  names : ∀ id ∈ replacement.ids, id ∈ usage.ids ∨ tree.size ≤ id
  retired : left.Retired [replacement] usage.top
  expressions_retired : underComponent = false → ∀ value ∈ usage.branches,
    value.kind = .embeddedExpression → left.Retired [replacement] value.top

section Usage

variable {spot : Spot} {branches wraps : List LocatedTree}

/-- What is known of the attribute once the captured values are under it. -/
theorem Holds.prepared (held : tree.Holds (.node spot branches)) (linked : tree.Linked)
    {content : NodeContent} {underComponent : Bool} (left_linked : left.Linked)
    (shape : Rebuilt underComponent (.node spot branches) (.node ⟨tree.size, content⟩ wraps))
    (wraps_held : ∀ wrap ∈ wraps, left.Holds wrap)
    (top : left.parent tree.size = none)
    (top_content : left.content tree.size = content)
    (top_children : left.children tree.size = wraps.map RoseTree.top)
    (spares : (tree.vacated spot.id content).Spares left
      (tree.size :: branches.flatMap RoseTree.ids))
    (names : ∀ id ∈ wraps.flatMap RoseTree.ids,
      id ∈ branches.flatMap RoseTree.ids ∨ tree.size ≤ id)
    (expressions : underComponent = false → ∀ value ∈ branches,
      value.kind = .embeddedExpression → left.Retired wraps value.top) :
    tree.Prepared left underComponent (.node spot branches) (.node ⟨tree.size, content⟩ wraps) := by
  have size_lt : tree.size < left.size := by
    have size_le := spares.size_le
    rw [size_vacated] at size_le
    exact size_le
  refine ⟨left_linked, shape, .node size_lt top_content top_children wraps_held, rfl, top, ?_, ?_,
    ?_, fun elsewhere value listed expression => ?_⟩
  · refine (held.spares_vacated content).trans spares (fun id inside _ => inside) ?_
    intro id listed known
    rw [RoseTree.ids_node]
    rcases List.mem_cons.mp listed with same | inside
    · exact absurd known (same ▸ Nat.lt_irrefl _)
    · exact List.mem_cons_of_mem _ inside
  · intro id listed
    rw [RoseTree.ids_node] at listed ⊢
    rcases List.mem_cons.mp listed with same | inside
    · exact Or.inr (Nat.le_of_eq same.symm)
    · exact (names id inside).imp_left (List.mem_cons_of_mem _)
  -- The usage lost its children at the start and has not been touched since.
  · have outside := held.top_not_mem_below linked
    have apart : spot.id ∉ tree.size :: branches.flatMap RoseTree.ids := by
      intro listed
      rcases List.mem_cons.mp listed with same | inside
      · exact Nat.ne_of_lt held.known same
      · exact outside inside
    have known : spot.id < (tree.vacated spot.id content).size := by
      rw [size_vacated]
      exact Nat.lt_succ_of_lt held.known
    refine ⟨Nat.lt_trans held.known size_lt, ?_, ?_⟩
    · rw [RoseTree.top_node, spares.children_eq known apart, children_vacated, if_pos rfl]
    · rw [List.flatMap_singleton, RoseTree.ids_node]
      intro listed
      rcases List.mem_cons.mp listed with same | inside
      · exact Nat.ne_of_lt held.known same
      · rcases names _ inside with old | new
        · exact outside old
        · exact absurd held.known (Nat.not_lt_of_le new)
  · obtain ⟨known, no_children, outside⟩ := expressions elsewhere value listed expression
    refine ⟨known, no_children, ?_⟩
    rw [List.flatMap_singleton, RoseTree.ids_node]
    intro again
    rcases List.mem_cons.mp again with same | inside
    · exact Nat.ne_of_lt (held.branch listed).top_lt_size same
    · exact outside inside

theorem kind_detachChildren (tree : MarkupTree) (id other : NodeId) :
    (tree.detachChildren id).kind other = tree.kind other := by
  unfold kind
  rw [content_detachChildren]

theorem lowerUsage_under_component {parent id : NodeId}
    (component : (tree.kind parent).isComponent = true) :
    TreeEdit.lowerUsage parent id tree = (do
      let splat ← TreeEdit.create { tree.content id with kind := .componentSplat }
      TreeEdit.adopt splat (tree.children id)
      return splat) (tree.detachChildren id) := by
  unfold TreeEdit.lowerUsage
  rw [TreeEdit.bind_get,
    TreeEdit.bind_of_ok (show TreeEdit.releaseChildren id tree = .ok _ _ from rfl),
    TreeEdit.bind_get, kind_detachChildren, component]
  rfl

theorem lowerUsage_elsewhere {parent id : NodeId}
    (elsewhere : (tree.kind parent).isComponent = false) :
    TreeEdit.lowerUsage parent id tree = (do
      let splat ← TreeEdit.create { tree.content id with kind := .htmlSplat }
      TreeEdit.wrapValues splat (tree.children id)
      return splat) (tree.detachChildren id) := by
  unfold TreeEdit.lowerUsage
  rw [TreeEdit.bind_get,
    TreeEdit.bind_of_ok (show TreeEdit.releaseChildren id tree = .ok _ _ from rfl),
    TreeEdit.bind_get, kind_detachChildren, elsewhere]
  rfl

/-- The new attribute is named by the size of the tree. -/
theorem create_vacated (tree : MarkupTree) (id : NodeId) (content : NodeContent) :
    TreeEdit.create content (tree.detachChildren id) =
      .ok tree.size (tree.vacated id content) := by
  unfold TreeEdit.create vacated
  rw [size_detachChildren]

theorem children_vacated_size (tree : MarkupTree) (id : NodeId) (content : NodeContent) :
    (tree.vacated id content).children tree.size = [] := by
  rw [children_vacated, children_eq_nil_of_size_le (Nat.le_refl _), ite_self]

/-- Under a component the captured values move as they are. -/
theorem Holds.lowerUsage_component (held : tree.Holds (.node spot branches)) (linked : tree.Linked)
    {parent : NodeId} (component : (tree.kind parent).isComponent = true) :
    ∃ left replacement, TreeEdit.lowerUsage parent spot.id tree = .ok replacement.top left
      ∧ tree.Prepared left true (.node spot branches) replacement := by
  have loose := held.loose_vacated linked { spot.content with kind := .componentSplat }
  obtain ⟨left, adopted, under⟩ := loose.adopt
  refine ⟨left, .node ⟨tree.size, { spot.content with kind := .componentSplat }⟩ branches, ?_, ?_⟩
  · rw [lowerUsage_under_component component, held.content_eq, held.children_eq,
      TreeEdit.bind_of_ok (create_vacated ..), TreeEdit.bind_of_ok adopted]
    rfl
  · have not_branch : tree.size ∉ branches.map RoseTree.top := by
      intro listed
      obtain ⟨branch, inside, same⟩ := List.mem_map.mp listed
      exact Nat.ne_of_lt (held.branch inside).top_lt_size same
    refine held.prepared linked under.linked (.component _) ?_ ?_ ?_ ?_ ?_ ?_ ?_
    · intro branch listed
      exact under.holds (loose.held branch listed) (not_mem_ids_of_not_mem loose.apart listed)
    · rw [under.parent_eq, if_neg not_branch, loose.upper_top]
    · rw [under.content_eq, content_vacated_size]
    · rw [under.children_eq, if_pos rfl, children_vacated_size, List.nil_append]
    · refine under.spares.mono fun id listed _ => ?_
      rcases List.mem_cons.mp listed with same | top
      · exact same ▸ List.mem_cons_self
      · obtain ⟨branch, inside, same⟩ := List.mem_map.mp top
        exact List.mem_cons_of_mem _
          (List.mem_flatMap.mpr ⟨branch, inside, same ▸ branch.top_mem_ids⟩)
    · exact fun id inside => Or.inl inside
    · exact fun never => by cases never

/-- Elsewhere every captured value moves in the shape that its kind asks for. -/
theorem Holds.lowerUsage_elsewhere (held : tree.Holds (.node spot branches)) (linked : tree.Linked)
    {parent : NodeId} (elsewhere : (tree.kind parent).isComponent = false) :
    ∃ left replacement, TreeEdit.lowerUsage parent spot.id tree = .ok replacement.top left
      ∧ tree.Prepared left false (.node spot branches) replacement := by
  have loose := held.loose_vacated linked { spot.content with kind := .htmlSplat }
  obtain ⟨left, wraps, ran, moved⟩ := loose.wrapValues
  refine ⟨left, .node ⟨tree.size, { spot.content with kind := .htmlSplat }⟩ wraps, ?_, ?_⟩
  · rw [MarkupTree.lowerUsage_elsewhere elsewhere, held.content_eq, held.children_eq,
      TreeEdit.bind_of_ok (create_vacated ..), TreeEdit.bind_of_ok ran]
    rfl
  · refine held.prepared linked moved.linked (.elsewhere _ moved.shapes) moved.held
      moved.upper_top ?_ ?_ moved.spares ?_ fun _ => moved.retired
    · rw [moved.upper_content, content_vacated_size]
    · rw [moved.upper_children, children_vacated_size, List.nil_append]
    · intro id inside
      rcases moved.names id inside with old | new
      · exact Or.inl old
      · rw [size_vacated] at new
        exact Or.inr (Nat.le_of_succ_le new)

/-- **Making the attribute for a usage** is never refused. -/
theorem Holds.lowerUsage (held : tree.Holds (.node spot branches)) (linked : tree.Linked)
    (parent : NodeId) :
    ∃ left replacement, TreeEdit.lowerUsage parent spot.id tree = .ok replacement.top left
      ∧ tree.Prepared left (tree.kind parent).isComponent (.node spot branches) replacement := by
  cases component : (tree.kind parent).isComponent with
  | true => exact held.lowerUsage_component linked component
  | false => exact held.lowerUsage_elsewhere linked component

end Usage

/-! ## §3. The attribute in the place of the usage. -/

/-- How a tree looks when the attribute has taken the place of the usage. -/
structure Replaced (tree left : MarkupTree) (parent : NodeId) (usage replacement : LocatedTree) :
    Prop where
  linked : left.Linked
  shape : Rebuilt (tree.kind parent).isComponent usage replacement
  held : left.Holds replacement
  siblings : ∀ before after, tree.children parent = before ++ usage.top :: after →
    left.children parent = before ++ replacement.top :: after
  content_eq : left.content parent = tree.content parent
  spares : tree.Spares left (parent :: usage.ids)
  names : ∀ id ∈ replacement.ids, id ∈ usage.ids ∨ tree.size ≤ id
  retired : left.Retired [replacement] usage.top
  expressions_retired : (tree.kind parent).isComponent = false → ∀ value ∈ usage.branches,
    value.kind = .embeddedExpression → left.Retired [replacement] value.top

section Place

variable {parent : NodeId} {usage replacement : LocatedTree} {between : MarkupTree}
  {underComponent : Bool}

/-- The parent of the usage stays away from the attribute. -/
theorem Prepared.parent_not_mem (prepared : tree.Prepared between underComponent usage replacement)
    (held : tree.Holds usage) (linked : tree.Linked) (listed : usage.top ∈ tree.children parent) :
    parent ∉ replacement.ids := by
  intro inside
  rcases prepared.names parent inside with old | new
  · exact held.parent_not_mem_ids linked listed old
  · have known := linked.parent_lt_size (linked.rightAbove_of_mem listed)
    exact absurd known (Nat.not_lt_of_le new)

/-- The attribute can be attached where the usage stands. -/
theorem Prepared.attachable (prepared : tree.Prepared between underComponent usage replacement)
    (held : tree.Holds usage) (linked : tree.Linked) (listed : usage.top ∈ tree.children parent) :
    between.Attachable parent replacement.top := by
  have known := linked.parent_lt_size (linked.rightAbove_of_mem listed)
  refine ⟨Nat.lt_of_lt_of_le known prepared.spares.size_le, prepared.held.top_lt_size, ?_,
    prepared.detached, fun above => ?_⟩
  · rw [prepared.top_new]
    exact Nat.ne_of_gt linked.root_lt_size
  · exact prepared.parent_not_mem held linked listed
      ((prepared.held.mem_ids_iff prepared.linked).mpr above)

/-- What is known of the tree once the attribute has taken its place. -/
theorem Prepared.replaced
    (prepared : tree.Prepared between (tree.kind parent).isComponent usage replacement)
    (held : tree.Holds usage) (linked : tree.Linked) (listed : usage.top ∈ tree.children parent)
    {index : Nat} (stands : (between.children parent)[index]? = some usage.top) :
    tree.Replaced (between.replaceAt parent index replacement.top) parent usage replacement := by
  have known := linked.parent_lt_size (linked.rightAbove_of_mem listed)
  have outside := held.parent_not_mem_ids linked listed
  have away := prepared.parent_not_mem held linked listed
  have children_eq := prepared.spares.children_eq known outside
  -- Only the parent has other children after the replacement.
  have still_retired : ∀ id, id ≠ parent → between.Retired [replacement] id →
      (between.replaceAt parent index replacement.top).Retired [replacement] id := by
    intro id different retired
    refine ⟨?_, ?_, retired.outside⟩
    · rw [size_replaceAt]
      exact retired.known
    · rw [children_replaceAt stands, if_neg different.symm, retired.no_children]
  refine ⟨prepared.linked.replaceAt stands (prepared.attachable held linked listed),
    prepared.shape, ?_, ?_, ?_, ?_, prepared.names, ?_, ?_⟩
  · refine prepared.held.of_parts_eq (Nat.le_of_eq (size_replaceAt ..).symm)
      (fun id _ => content_replaceAt ..) fun id inside => ?_
    have different : parent ≠ id := fun same => away (same ▸ inside)
    rw [children_replaceAt stands, if_neg different]
  · intro before after around
    rw [children_replaceAt stands, if_pos rfl, children_eq, around]
    -- The usage is listed once, so that its place is the one after `before`.
    rw [children_eq, around] at stands
    have nodup := linked.nodup_children parent
    rw [around] at nodup
    have place : (before ++ usage.top :: after)[before.length]? = some usage.top := by
      rw [List.getElem?_append_right (Nat.le_refl _), Nat.sub_self]
      rfl
    obtain ⟨inside, -⟩ := List.getElem?_eq_some_iff.mp stands
    have same := (List.getElem?_inj inside nodup).mp (stands.trans place.symm)
    rw [same, set_around]
  · rw [content_replaceAt, prepared.spares.content_eq known outside]
  · refine prepared.spares.trans (spares_replaceAt stands)
      (fun id inside _ => List.mem_cons_of_mem _ inside) fun id inside id_known => ?_
    rw [List.mem_cons, List.mem_cons, List.mem_singleton] at inside
    rcases inside with same | same | same
    · exact same ▸ List.mem_cons_self
    · exact List.mem_cons_of_mem _ (same ▸ usage.top_mem_ids)
    · rw [same, prepared.top_new] at id_known
      exact absurd id_known (Nat.lt_irrefl _)
  · refine still_retired usage.top (fun same => outside ?_) prepared.retired
    exact same ▸ usage.top_mem_ids
  · intro elsewhere value inside expression
    refine still_retired value.top (fun same => outside ?_)
      (prepared.expressions_retired elsewhere value inside expression)
    cases usage with
    | node spot branches =>
      exact RoseTree.mem_ids_of_branch inside (same ▸ value.top_mem_ids)

end Place

/-- **Lowering a usage that stands where its reference says** is never refused. -/
theorem Holds.lowerSplat {usage : LocatedTree} (held : tree.Holds usage) (linked : tree.Linked)
    {reference : Reference} (node_eq : reference.node = usage.top)
    (listed : usage.top ∈ tree.children reference.parent) :
    ∃ left replacement, TreeEdit.lowerSplat reference tree = .ok true left
      ∧ tree.Replaced left reference.parent usage replacement := by
  have live : reference.isLive tree = true := Reference.isLive_iff.mpr (node_eq ▸ listed)
  obtain ⟨between, replacement, ran, prepared⟩ : ∃ between replacement,
      TreeEdit.lowerUsage reference.parent usage.top tree = .ok (RoseTree.top replacement) between
        ∧ tree.Prepared between (tree.kind reference.parent).isComponent usage replacement := by
    cases usage with
    | node spot branches => exact held.lowerUsage linked reference.parent
  have known := linked.parent_lt_size (linked.rightAbove_of_mem listed)
  have children_eq := prepared.spares.children_eq known (held.parent_not_mem_ids linked listed)
  -- Making the attribute has not touched the parent, so that the usage stands where it stood.
  have still_live : reference.isLive between = true := by
    rw [Reference.isLive_iff, children_eq, node_eq]
    exact listed
  obtain ⟨index, present⟩ := Option.isSome_iff_exists.mp still_live
  have stands := getElem?_of_presentIndex? present
  rw [node_eq] at stands
  have attachable := prepared.attachable held linked listed
  have accepted := (prepared.linked.attachFault?_eq_none_iff attachable.parent_lt_size
    attachable.child_lt_size).mpr attachable
  refine ⟨_, replacement, ?_, prepared.replaced held linked listed stands⟩
  have replaced : reference.replace replacement.top between =
      .ok ⟨reference.parent, replacement.top, index⟩
        (between.replaceAt reference.parent index replacement.top) := by
    unfold Reference.replace
    rw [present]
    dsimp only
    rw [accepted]
  unfold TreeEdit.lowerSplat
  rw [TreeEdit.bind_get, live, node_eq]
  show (TreeEdit.lowerUsage reference.parent usage.top >>= fun replacement => _) tree = _
  rw [TreeEdit.bind_of_ok ran]
  show (discard (reference.replace replacement.top) >>= fun _ => _) between = _
  rw [TreeEdit.bind_of_ok (TreeEdit.discard_of_ok replaced)]
  rfl

end MarkupTree

end ComponentMarkup
