/-
  ComponentMarkup.Proofs.Lowering.Adoption
  ────────────────────────────────
  **Nodes that change hands.**

  Lowering takes children away from a node and puts them under a new one.  What it attaches was
  detached or created just before, and nothing stands above the node that takes it; hence no
  attachment is refused, in whatever linked tree it starts, and what is held by the nodes that
  move is still held.

  Main statements: `Linked.append_under_top`, `Linked.adopt_under_top` and
  `Holds.loose_vacated`.
-/
import ComponentMarkup.Proofs.Contents.Located
import ComponentMarkup.Proofs.Links.Refusals

namespace ComponentMarkup.MarkupTree

variable {tree left : MarkupTree}

/-! ## §1. Children for a node that nothing stands above. -/

/-- A node can be put under another one if both are detached, and the node is not the root. -/
structure Detached (tree : MarkupTree) (upper id : NodeId) : Prop where
  known : id < tree.size
  not_root : id ≠ root
  no_parent : tree.parent id = none
  not_upper : id ≠ upper

theorem Detached.attachable {upper id : NodeId} (detached : tree.Detached upper id)
    (upper_known : upper < tree.size) (upper_top : tree.parent upper = none) :
    tree.Attachable upper id := by
  refine ⟨upper_known, detached.known, detached.not_root, detached.no_parent, fun above => ?_⟩
  exact detached.not_upper (Linked.eq_of_above_of_parent_eq_none above upper_top)

theorem Linked.append_under_top (linked : tree.Linked) {upper id : NodeId}
    (upper_known : upper < tree.size) (upper_top : tree.parent upper = none)
    (detached : tree.Detached upper id) :
    ∃ left, TreeEdit.append upper id tree = .ok () left ∧ tree.Adopted left upper [id] := by
  have attachable := detached.attachable upper_known upper_top
  exact ⟨_, linked.append_of_attachable attachable, linked.adopted_attach attachable⟩

/-- **Adopting detached nodes** under a node that nothing stands above is never refused. -/
theorem Linked.adopt_under_top (linked : tree.Linked) {upper : NodeId} {ids : List NodeId}
    (upper_known : upper < tree.size) (upper_top : tree.parent upper = none) (nodup : ids.Nodup)
    (detached : ∀ id ∈ ids, tree.Detached upper id) :
    ∃ left, TreeEdit.adopt upper ids tree = .ok () left ∧ tree.Adopted left upper ids :=
  linked.adopt_of_attachable nodup fun id listed =>
    (detached id listed).attachable upper_known upper_top

/-- What is held away from the adopting node is held afterwards. -/
theorem Adopted.holds {upper : NodeId} {ids : List NodeId} (adopted : tree.Adopted left upper ids)
    {t : LocatedTree} (held : tree.Holds t) (apart : upper ∉ t.ids) : left.Holds t := by
  refine held.of_parts_eq (Nat.le_of_eq adopted.size_eq.symm) (fun id _ => adopted.content_eq id) ?_
  intro id inside
  have different : upper ≠ id := fun same => apart (same ▸ inside)
  rw [adopted.children_eq, if_neg different]

/-- Adopting changes the adopting node and the adopted ones. -/
theorem Adopted.spares {upper : NodeId} {ids : List NodeId}
    (adopted : tree.Adopted left upper ids) : tree.Spares left (upper :: ids) := by
  refine .of_parts (Nat.le_of_eq adopted.size_eq.symm) (fun id _ _ => adopted.content_eq id) ?_ ?_
  · intro id _ apart
    rw [adopted.parent_eq, if_neg fun listed => apart (List.mem_cons_of_mem _ listed)]
  · intro id _ apart
    rw [adopted.children_eq, if_neg fun same => apart (List.mem_cons.mpr (Or.inl same.symm))]

/-! ## §2. Trees that are ready to move. -/

/-- The trees are detached and away from the node under which they are to go. -/
structure Loose (tree : MarkupTree) (upper : NodeId) (values : List LocatedTree) : Prop where
  linked : tree.Linked
  upper_known : upper < tree.size
  upper_top : tree.parent upper = none
  held : ∀ value ∈ values, tree.Holds value
  not_root : ∀ value ∈ values, value.top ≠ root
  detached : ∀ value ∈ values, tree.parent value.top = none
  apart : upper ∉ values.flatMap RoseTree.ids
  nodup : (values.flatMap RoseTree.ids).Nodup

theorem nodup_tops {ts : List LocatedTree} (nodup : (ts.flatMap RoseTree.ids).Nodup) :
    (ts.map RoseTree.top).Nodup := by
  -- The tops stand among the names in the same order.
  have sublist : (ts.map RoseTree.top).Sublist (ts.flatMap RoseTree.ids) := by
    clear nodup
    induction ts with
    | nil => exact List.Sublist.slnil
    | cons first rest ih =>
      rw [List.map_cons, List.flatMap_cons]
      exact (List.singleton_sublist.mpr first.top_mem_ids).append ih
  exact sublist.nodup nodup

theorem not_mem_ids_of_not_mem {ts : List LocatedTree} {t : LocatedTree} {id : NodeId}
    (outside : id ∉ ts.flatMap RoseTree.ids) (listed : t ∈ ts) : id ∉ t.ids :=
  fun inside => outside (List.mem_flatMap.mpr ⟨t, listed, inside⟩)

/-- Adopting loose values is never refused. -/
theorem Loose.adopt {upper : NodeId} {ts : List LocatedTree} (loose : tree.Loose upper ts) :
    ∃ left, TreeEdit.adopt upper (ts.map RoseTree.top) tree = .ok () left
      ∧ tree.Adopted left upper (ts.map RoseTree.top) := by
  refine loose.linked.adopt_under_top loose.upper_known loose.upper_top (nodup_tops loose.nodup) ?_
  intro id listed
  obtain ⟨t, inside, same⟩ := List.mem_map.mp listed
  rw [← same]
  refine ⟨(loose.held t inside).top_lt_size, loose.not_root t inside, loose.detached t inside, ?_⟩
  intro here
  exact not_mem_ids_of_not_mem loose.apart inside (here ▸ t.top_mem_ids)

/-! ## §3. Taking children away. -/

theorem spares_modifyContent (tree : MarkupTree) (id : NodeId)
    (change : NodeContent → NodeContent) : tree.Spares (tree.modifyContent id change) [id] where
  size_le := Nat.le_of_eq (size_modifyContent ..).symm
  node_eq := by
    intro other _ apart
    unfold modifyContent
    rw [node_modify, if_neg fun both => apart (List.mem_singleton.mpr both.1.symm)]

/-- The tree with a node's children taken away and a new node that can take them. -/
def vacated (tree : MarkupTree) (id : NodeId) (content : NodeContent) : MarkupTree :=
  (tree.detachChildren id).push content

@[simp] theorem size_vacated (tree : MarkupTree) (id : NodeId) (content : NodeContent) :
    (tree.vacated id content).size = tree.size + 1 := by
  unfold vacated
  rw [size_push, size_detachChildren]

theorem parent_vacated (tree : MarkupTree) (id other : NodeId) (content : NodeContent) :
    (tree.vacated id content).parent other =
      if other ∈ tree.children id then none else tree.parent other := by
  unfold vacated
  rw [parent_push, parent_detachChildren]

theorem children_vacated (tree : MarkupTree) (id other : NodeId) (content : NodeContent) :
    (tree.vacated id content).children other = if id = other then [] else tree.children other := by
  unfold vacated
  rw [children_push, children_detachChildren]

theorem content_vacated_size (tree : MarkupTree) (id : NodeId) (content : NodeContent) :
    (tree.vacated id content).content tree.size = content := by
  unfold vacated
  rw [content_push, size_detachChildren, if_pos rfl]

theorem content_vacated (tree : MarkupTree) (id : NodeId) (content : NodeContent) {other : NodeId}
    (known : other < tree.size) : (tree.vacated id content).content other = tree.content other := by
  unfold vacated
  rw [content_push, size_detachChildren, if_neg (Nat.ne_of_lt known), content_detachChildren]

section Vacated

variable {spot : Spot} {branches : List LocatedTree}

theorem Holds.top_not_mem_below (held : tree.Holds (.node spot branches)) (linked : tree.Linked) :
    spot.id ∉ branches.flatMap RoseTree.ids := by
  have nodup := held.nodup_ids linked
  rw [RoseTree.ids_node] at nodup
  exact (List.nodup_cons.mp nodup).1

theorem Holds.nodup_below (held : tree.Holds (.node spot branches)) (linked : tree.Linked) :
    (branches.flatMap RoseTree.ids).Nodup := by
  have nodup := held.nodup_ids linked
  rw [RoseTree.ids_node] at nodup
  exact (List.nodup_cons.mp nodup).2

theorem Holds.lt_size_of_mem_below (held : tree.Holds (.node spot branches)) {id : NodeId}
    (inside : id ∈ branches.flatMap RoseTree.ids) : id < tree.size := by
  refine held.lt_size_of_mem_ids ?_
  rw [RoseTree.ids_node]
  exact List.mem_cons_of_mem _ inside

/-- A change of the content at the top is all that changes. -/
theorem Holds.modifyContent (held : tree.Holds (.node spot branches)) (linked : tree.Linked)
    (change : NodeContent → NodeContent) :
    (tree.modifyContent spot.id change).Holds
      (.node ⟨spot.id, change spot.content⟩ branches) := by
  refine .node ?_ ?_ ?_ fun branch listed => ?_
  · rw [size_modifyContent]
    exact held.known
  · rw [content_modifyContent, if_pos ⟨rfl, held.known⟩, held.content_eq]
  · rw [children_modifyContent, held.children_eq]
  · refine (held.branch listed).of_spares (spares_modifyContent ..) fun id inside same => ?_
    have below := List.mem_flatMap.mpr ⟨branch, listed, inside⟩
    exact held.top_not_mem_below linked (List.mem_singleton.mp same ▸ below)

/-- Taking children away changes the node and its children. -/
theorem Holds.spares_vacated (held : tree.Holds (.node spot branches)) (content : NodeContent) :
    tree.Spares (tree.vacated spot.id content) (RoseTree.node spot branches).ids := by
  refine .of_parts ?_ ?_ ?_ ?_
  · rw [size_vacated]
    exact Nat.le_succ _
  · intro id known _
    exact content_vacated tree spot.id content known
  · intro id _ apart
    rw [parent_vacated, held.children_eq, if_neg]
    intro listed
    obtain ⟨branch, inside, same⟩ := List.mem_map.mp listed
    exact apart (RoseTree.mem_ids_of_branch inside (same ▸ branch.top_mem_ids))
  · intro id _ apart
    have different : spot.id ≠ id := fun same => apart (same ▸ RoseTree.top_mem_ids _)
    rw [children_vacated, if_neg different]

/-- **The children that were taken away** are ready for the new node. -/
theorem Holds.loose_vacated (held : tree.Holds (.node spot branches)) (linked : tree.Linked)
    (content : NodeContent) : (tree.vacated spot.id content).Loose tree.size branches := by
  refine ⟨(linked.detachChildren _).push _, ?_, ?_, ?_, ?_, ?_, ?_, held.nodup_below linked⟩
  · rw [size_vacated]
    exact Nat.lt_succ_self _
  · have blank : tree.parent tree.size = none := by
      rw [parent, node_of_size_le (Nat.le_refl _)]
      rfl
    rw [parent_vacated, blank, ite_self]
  · intro branch listed
    refine (held.branch listed).of_parts_eq ?_ ?_ ?_
    · rw [size_vacated]
      exact Nat.le_succ _
    · intro id inside
      exact content_vacated tree _ content ((held.branch listed).lt_size_of_mem_ids inside)
    · intro id inside
      have different : spot.id ≠ id := fun same =>
        held.top_not_mem_below linked (same ▸ List.mem_flatMap.mpr ⟨branch, listed, inside⟩)
      rw [children_vacated, if_neg different]
  · intro branch listed same
    refine linked.root_not_mem spot.id ?_
    rw [held.children_eq, ← same]
    exact List.mem_map_of_mem listed
  · intro branch listed
    rw [parent_vacated, held.children_eq, if_pos (List.mem_map_of_mem listed)]
  · exact fun inside => Nat.lt_irrefl _ (held.lt_size_of_mem_below inside)

end Vacated

end ComponentMarkup.MarkupTree
