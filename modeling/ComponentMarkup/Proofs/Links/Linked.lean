/-
  ComponentMarkup.Proofs.Links.Linked
  ────────────────────────────────
  **Trees whose links fit together.**

  `Linked` says that both directions of every link agree, that nothing is listed twice, that the
  root stands above everything it is linked with, and that no chain of parents goes on for ever.
  Every writing operation of the library keeps it, under the condition that the edits check.

  Main statements: `Linked.attach`, `Linked.detachChildren`, `Linked.removeAt` and
  `Linked.replaceAt`; the argument that no cycle comes about is `wellFounded_of_new_edge`.
-/
import ComponentMarkup.Tree.Reference
import Mathlib.Data.List.Nodup
import Mathlib.Logic.Relation
import Mathlib.Order.WellFounded

namespace ComponentMarkup

open Relation

/-! ## §1. The invariant. -/

namespace MarkupTree

/-- The first node is recorded as the parent of the second one. -/
def RightAbove (tree : MarkupTree) (upper lower : NodeId) : Prop := tree.parent lower = some upper

/-- The first node is the second one, or is met on the way up from it. -/
def Above (tree : MarkupTree) : NodeId → NodeId → Prop := ReflTransGen tree.RightAbove

/-- Both directions of every link agree, and the links make a forest in which the root is a top. -/
structure Linked (tree : MarkupTree) : Prop where
  root_lt_size : root < tree.size
  mem_children_iff : ∀ parent child, child ∈ tree.children parent ↔ tree.parent child = some parent
  nodup_children : ∀ id, (tree.children id).Nodup
  parent_root : tree.parent root = none
  parent_lt_size : ∀ {upper lower}, tree.RightAbove upper lower → upper < tree.size
  wellFounded_rightAbove : WellFounded tree.RightAbove

end MarkupTree

/-! ## §2. Chains of parents under one more edge. -/

/-- **No cycle comes about** when a node without a parent gets one that it does not stand above. -/
theorem wellFounded_of_new_edge {above above' : NodeId → NodeId → Prop} {parent child : NodeId}
    (ends : WellFounded above) (top : ∀ upper, ¬ above upper child)
    (apart : ¬ ReflTransGen above child parent)
    (edges : ∀ upper lower, above' upper lower →
      above upper lower ∨ (upper = parent ∧ lower = child)) :
    WellFounded above' := by
  -- First the nodes that the child does not stand above: their chains are the old ones.
  have outside : ∀ lower, ¬ ReflTransGen above child lower → Acc above' lower := by
    intro lower
    induction lower using ends.induction with
    | h lower ih =>
      intro notBelow
      refine Acc.intro lower fun upper edge => ?_
      rcases edges upper lower edge with old | ⟨-, same⟩
      · exact ih upper old fun below => notBelow (below.tail old)
      · exact absurd (same ▸ ReflTransGen.refl) notBelow
  -- The child's only new edge comes from the parent, which it does not stand above.
  have atChild : Acc above' child := by
    refine Acc.intro child fun upper edge => ?_
    rcases edges upper child edge with old | ⟨same, -⟩
    · exact absurd old (top upper)
    · exact same ▸ outside parent apart
  -- Any other node: its chain follows old edges until it ends or meets the child.
  refine ⟨fun lower => ?_⟩
  induction lower using ends.induction with
  | h lower ih =>
    refine Acc.intro lower fun upper edge => ?_
    rcases edges upper lower edge with old | ⟨same, -⟩
    · exact ih upper old
    · exact same ▸ outside parent apart

namespace MarkupTree

namespace Linked

variable {tree : MarkupTree}

/-! ## §3. First consequences. -/

theorem rightAbove_of_mem (linked : tree.Linked) {parent child : NodeId}
    (listed : child ∈ tree.children parent) : tree.RightAbove parent child :=
  (linked.mem_children_iff parent child).mp listed

theorem mem_of_rightAbove (linked : tree.Linked) {parent child : NodeId}
    (above : tree.RightAbove parent child) : child ∈ tree.children parent :=
  (linked.mem_children_iff parent child).mpr above

/-- Nothing stands above a node without a parent. -/
theorem not_rightAbove_of_parent_eq_none {upper lower : NodeId}
    (detached : tree.parent lower = none) : ¬ tree.RightAbove upper lower := by
  intro above
  unfold RightAbove at above
  rw [detached] at above
  cases above

/-- Only nodes of the tree have a parent. -/
theorem lt_size_of_rightAbove {upper lower : NodeId} (above : tree.RightAbove upper lower) :
    lower < tree.size := by
  refine Nat.lt_of_not_le fun outside => not_rightAbove_of_parent_eq_none ?_ above
  rw [parent, node_of_size_le outside]
  rfl

theorem lt_size_of_mem (linked : tree.Linked) {parent child : NodeId}
    (listed : child ∈ tree.children parent) : child < tree.size :=
  lt_size_of_rightAbove (linked.rightAbove_of_mem listed)

/-- Nobody lists a node without a parent. -/
theorem not_mem_of_parent_eq_none (linked : tree.Linked) {child : NodeId}
    (detached : tree.parent child = none) (parent : NodeId) : child ∉ tree.children parent := by
  intro listed
  exact not_rightAbove_of_parent_eq_none detached (linked.rightAbove_of_mem listed)

theorem root_not_mem (linked : tree.Linked) (parent : NodeId) : root ∉ tree.children parent :=
  linked.not_mem_of_parent_eq_none linked.parent_root parent

/-- No way up comes back to where it was. -/
theorem not_transGen_self (linked : tree.Linked) (id : NodeId) :
    ¬ TransGen tree.RightAbove id id :=
  linked.wellFounded_rightAbove.transGen.irrefl.irrefl id

/-- No node stands above itself. -/
theorem not_above_of_rightAbove (linked : tree.Linked) {upper lower : NodeId}
    (above : tree.RightAbove upper lower) : ¬ tree.Above lower upper := by
  intro back
  have circle : TransGen tree.RightAbove lower lower := TransGen.tail' back above
  exact linked.not_transGen_self lower circle

theorem ne_of_rightAbove (linked : tree.Linked) {upper lower : NodeId}
    (above : tree.RightAbove upper lower) : lower ≠ upper := by
  intro same
  exact linked.not_above_of_rightAbove above (same ▸ .refl)

/-- A node without a parent has only itself above it. -/
theorem eq_of_above_of_parent_eq_none {upper lower : NodeId} (above : tree.Above upper lower)
    (detached : tree.parent lower = none) : upper = lower := by
  rcases above.cases_tail with same | ⟨between, -, last⟩
  · exact same.symm
  · exact absurd last (not_rightAbove_of_parent_eq_none detached)

end Linked

/-! ## §4. Operations that leave the links alone. -/

/-- The invariant is about the links and the number of nodes only. -/
theorem Linked.of_links_eq {tree tree' : MarkupTree} (linked : tree.Linked)
    (size_le : tree.size ≤ tree'.size) (parents : ∀ id, tree'.parent id = tree.parent id)
    (children : ∀ id, tree'.children id = tree.children id) : tree'.Linked where
  root_lt_size := Nat.lt_of_lt_of_le linked.root_lt_size size_le
  mem_children_iff parent child := by
    rw [children, parents]; exact linked.mem_children_iff parent child
  nodup_children id := by rw [children]; exact linked.nodup_children id
  parent_root := by rw [parents]; exact linked.parent_root
  parent_lt_size := by
    intro upper lower above
    unfold RightAbove at above
    rw [parents] at above
    exact Nat.lt_of_lt_of_le (linked.parent_lt_size above) size_le
  wellFounded_rightAbove := by
    refine Subrelation.wf ?_ linked.wellFounded_rightAbove
    intro upper lower above
    unfold RightAbove at above ⊢
    rw [parents] at above
    exact above

theorem Linked.push {tree : MarkupTree} (linked : tree.Linked) (content : NodeContent) :
    (tree.push content).Linked :=
  linked.of_links_eq (by rw [size_push]; exact Nat.le_succ _) (parent_push tree content)
    (children_push tree content)

theorem Linked.modifyContent {tree : MarkupTree} (linked : tree.Linked) (id : NodeId)
    (change : NodeContent → NodeContent) : (tree.modifyContent id change).Linked :=
  linked.of_links_eq (Nat.le_of_eq (size_modifyContent tree id change).symm)
    (parent_modifyContent tree id · change) (children_modifyContent tree id · change)

/-- A tree with nothing but a root. -/
theorem linked_ofDocumentKind (documentKind : String) : (ofDocumentKind documentKind).Linked := by
  have parents : ∀ id, (ofDocumentKind documentKind).parent id = none := by
    intro id
    rcases id with _ | id
    · rfl
    · rw [parent, node_of_size_le (Nat.le_add_left 1 id)]; rfl
  have children : ∀ id, (ofDocumentKind documentKind).children id = [] := by
    intro id
    rcases id with _ | id
    · rfl
    · rw [MarkupTree.children, node_of_size_le (Nat.le_add_left 1 id)]; rfl
  have none_above : ∀ upper lower, ¬ (ofDocumentKind documentKind).RightAbove upper lower := by
    intro upper lower
    exact Linked.not_rightAbove_of_parent_eq_none (parents lower)
  refine ⟨Nat.one_pos, ?_, ?_, parents root, ?_, ?_⟩
  · intro parent child
    rw [children, parents]
    exact ⟨fun listed => absurd listed List.not_mem_nil, fun recorded => by cases recorded⟩
  · intro id
    rw [children]
    exact List.nodup_nil
  · intro upper lower above
    exact absurd above (none_above upper lower)
  · exact ⟨fun lower => ⟨lower, fun upper above => absurd above (none_above upper lower)⟩⟩

/-! ## §5. Attaching. -/

theorem mem_placeChild {children : List NodeId} {child other : NodeId} {index : Option Nat} :
    other ∈ placeChild children child index ↔ other = child ∨ other ∈ children := by
  unfold placeChild
  split
  · split
    · next inside => rw [List.mem_insertIdx (Nat.le_of_lt inside)]
    · rw [List.mem_append, List.mem_singleton, or_comm]
  · rw [List.mem_append, List.mem_singleton, or_comm]

theorem nodup_placeChild {children : List NodeId} {child : NodeId} {index : Option Nat}
    (fresh : child ∉ children) (nodup : children.Nodup) :
    (placeChild children child index).Nodup := by
  have at_end : (children ++ [child]).Nodup :=
    List.nodup_append.mpr ⟨nodup, List.nodup_singleton child, by
      intro old listed new last same
      rw [List.mem_singleton.mp last] at same
      exact fresh (same ▸ listed)⟩
  unfold placeChild
  split
  · split
    · next inside =>
      exact (List.perm_insertIdx child children (Nat.le_of_lt inside)).nodup_iff.mpr
        (List.nodup_cons.mpr ⟨fresh, nodup⟩)
    · exact at_end
  · exact at_end

/-- What has to hold for a node to be attached under another one. -/
structure Attachable (tree : MarkupTree) (parent child : NodeId) : Prop where
  parent_lt_size : parent < tree.size
  child_lt_size : child < tree.size
  not_root : child ≠ root
  detached : tree.parent child = none
  not_above : ¬ tree.Above child parent

theorem Linked.attach {tree : MarkupTree} (linked : tree.Linked) {parent child : NodeId}
    (attachable : tree.Attachable parent child) (index : Option Nat) :
    (tree.attach parent child index).Linked := by
  obtain ⟨parent_known, child_known, not_root, detached, not_above⟩ := attachable
  have nobody := linked.not_mem_of_parent_eq_none detached
  -- Both directions, with the side conditions on known nodes removed.
  have parents : ∀ other, (tree.attach parent child index).parent other =
      if child = other then some parent else tree.parent other := by
    intro other
    rw [parent_attach]
    by_cases same : child = other
    · rw [if_pos ⟨same, same ▸ child_known⟩, if_pos same]
    · rw [if_neg fun both => same both.1, if_neg same]
  have children : ∀ other, (tree.attach parent child index).children other =
      if parent = other then placeChild (tree.children parent) child index
      else tree.children other := by
    intro other
    rw [children_attach]
    by_cases same : parent = other
    · rw [if_pos ⟨same, same ▸ parent_known⟩, if_pos same]
    · rw [if_neg fun both => same both.1, if_neg same]
  have edges : ∀ upper lower, (tree.attach parent child index).RightAbove upper lower →
      tree.RightAbove upper lower ∨ (upper = parent ∧ lower = child) := by
    intro upper lower above
    unfold RightAbove at above
    rw [parents] at above
    split at above
    · next same => exact Or.inr ⟨(Option.some.inj above).symm, same.symm⟩
    · exact Or.inl above
  -- The lists change at the parent only, and the recorded parents at the child only.
  refine ⟨by rw [size_attach]; exact linked.root_lt_size, ?_, ?_, ?_, ?_, ?_⟩
  · intro upper lower
    rw [children, parents]
    by_cases here : parent = upper <;> by_cases it : child = lower
    · rw [if_pos here, if_pos it, mem_placeChild]
      exact ⟨fun _ => congrArg some here, fun _ => Or.inl it.symm⟩
    · rw [if_pos here, if_neg it, mem_placeChild, here, linked.mem_children_iff]
      exact ⟨fun either => either.resolve_left (Ne.symm it), Or.inr⟩
    · rw [if_neg here, if_pos it]
      exact ⟨fun listed => absurd (it ▸ listed) (nobody upper),
        fun recorded => absurd (Option.some.inj recorded) here⟩
    · rw [if_neg here, if_neg it]
      exact linked.mem_children_iff upper lower
  · intro id
    rw [children]
    split
    · exact nodup_placeChild (nobody parent) (linked.nodup_children parent)
    · exact linked.nodup_children id
  · rw [parents, if_neg not_root]
    exact linked.parent_root
  · intro upper lower above
    rw [size_attach]
    rcases edges upper lower above with old | ⟨same, -⟩
    · exact linked.parent_lt_size old
    · exact same ▸ parent_known
  · refine wellFounded_of_new_edge linked.wellFounded_rightAbove ?_ not_above edges
    intro upper
    exact not_rightAbove_of_parent_eq_none detached

/-! ## §6. Detaching. -/

theorem Linked.detachChildren {tree : MarkupTree} (linked : tree.Linked) (id : NodeId) :
    (tree.detachChildren id).Linked := by
  have edges : ∀ {upper lower}, (tree.detachChildren id).RightAbove upper lower →
      tree.RightAbove upper lower := by
    intro upper lower above
    unfold RightAbove at above ⊢
    rw [parent_detachChildren] at above
    split at above
    · cases above
    · exact above
  -- The list changes at the node, and the recorded parents at its children.
  refine ⟨by rw [size_detachChildren]; exact linked.root_lt_size, ?_, ?_, ?_, ?_, ?_⟩
  · intro upper lower
    rw [children_detachChildren, parent_detachChildren]
    by_cases here : id = upper <;> by_cases listed : lower ∈ tree.children id
    · rw [if_pos here, if_pos listed]
      exact ⟨fun none => absurd none List.not_mem_nil, fun none => by cases none⟩
    · rw [if_pos here, if_neg listed]
      refine ⟨fun none => absurd none List.not_mem_nil, fun recorded => ?_⟩
      exact absurd (here ▸ linked.mem_of_rightAbove recorded) listed
    · rw [if_neg here, if_pos listed]
      refine ⟨fun other => ?_, fun none => by cases none⟩
      have first := linked.rightAbove_of_mem listed
      have second := linked.rightAbove_of_mem other
      exact absurd (Option.some.inj (first.symm.trans second)) here
    · rw [if_neg here, if_neg listed]
      exact linked.mem_children_iff upper lower
  · intro other
    rw [children_detachChildren]
    split
    · exact List.nodup_nil
    · exact linked.nodup_children other
  · rw [parent_detachChildren, linked.parent_root, ite_self]
  · intro upper lower above
    rw [size_detachChildren]
    exact linked.parent_lt_size (edges above)
  · exact Subrelation.wf edges linked.wellFounded_rightAbove

/-- A list around one of its places. -/
theorem exists_around {children : List NodeId} {child : NodeId} {index : Nat}
    (listed : children[index]? = some child) :
    ∃ before after, children = before ++ child :: after ∧ before.length = index := by
  obtain ⟨inside, same⟩ := List.getElem?_eq_some_iff.mp listed
  refine ⟨children.take index, children.drop (index + 1), ?_, ?_⟩
  · rw [← same, ← List.drop_eq_getElem_cons inside, List.take_append_drop]
  · rw [List.length_take]
    omega

theorem eraseIdx_around (before after : List NodeId) (child : NodeId) :
    (before ++ child :: after).eraseIdx before.length = before ++ after := by
  rw [List.eraseIdx_append_of_length_le (Nat.le_refl _), Nat.sub_self]
  rfl

theorem set_around (before after : List NodeId) (child replacement : NodeId) :
    (before ++ child :: after).set before.length replacement = before ++ replacement :: after := by
  rw [List.set_append_right _ _ (Nat.le_refl _), Nat.sub_self]
  rfl

theorem size_removeAt (tree : MarkupTree) (parent : NodeId) (index : Nat) :
    (tree.removeAt parent index).size = tree.size := by
  unfold removeAt
  split
  · rw [size_setParent, size_setChildren]
  · rfl

/-- Detaching a child adds no edge. -/
theorem rightAbove_of_removeAt {tree : MarkupTree} {parent child : NodeId} {index : Nat}
    (listed : (tree.children parent)[index]? = some child) {upper lower : NodeId}
    (above : (tree.removeAt parent index).RightAbove upper lower) :
    tree.RightAbove upper lower := by
  unfold RightAbove at above ⊢
  rw [parent_removeAt listed] at above
  split at above
  · cases above
  · exact above

theorem Linked.removeAt {tree : MarkupTree} (linked : tree.Linked) {parent child : NodeId}
    {index : Nat} (listed : (tree.children parent)[index]? = some child) :
    (tree.removeAt parent index).Linked := by
  have recorded := linked.rightAbove_of_mem (List.mem_of_getElem? listed)
  have nodup := linked.nodup_children parent
  -- In a list without repetitions, erasing a place takes exactly one node away.
  have left : ∀ other, other ∈ (tree.children parent).eraseIdx index ↔
      other ≠ child ∧ other ∈ tree.children parent := by
    intro other
    obtain ⟨before, after, split, length⟩ := exists_around listed
    rw [split] at nodup ⊢
    rw [← length, eraseIdx_around, List.mem_append, List.mem_append, List.mem_cons]
    obtain ⟨apart, -⟩ := List.nodup_cons.mp (List.nodup_middle.mp nodup)
    constructor
    · intro either
      refine ⟨fun same => apart (same ▸ List.mem_append.mpr either), ?_⟩
      exact either.imp_right Or.inr
    · rintro ⟨other_ne, inBefore | same | inAfter⟩
      · exact Or.inl inBefore
      · exact absurd same other_ne
      · exact Or.inr inAfter
  refine ⟨by rw [size_removeAt]; exact linked.root_lt_size, ?_, ?_, ?_, ?_, ?_⟩
  · intro upper lower
    rw [children_removeAt listed, parent_removeAt listed]
    by_cases here : parent = upper <;> by_cases it : child = lower
    · rw [if_pos here, if_pos it, left]
      exact ⟨fun both => absurd it.symm both.1, fun none => by cases none⟩
    · rw [if_pos here, if_neg it, left, here, linked.mem_children_iff]
      exact ⟨fun both => both.2, fun old => ⟨Ne.symm it, old⟩⟩
    · rw [if_neg here, if_pos it, linked.mem_children_iff]
      refine ⟨fun old => ?_, fun none => by cases none⟩
      exact absurd (Option.some.inj (recorded.symm.trans (it ▸ old))) here
    · rw [if_neg here, if_neg it]
      exact linked.mem_children_iff upper lower
  · intro id
    rw [children_removeAt listed]
    split
    · exact nodup.eraseIdx index
    · exact linked.nodup_children id
  · rw [parent_removeAt listed, linked.parent_root, ite_self]
  · intro upper lower above
    rw [size_removeAt]
    exact linked.parent_lt_size (rightAbove_of_removeAt listed above)
  · exact Subrelation.wf (rightAbove_of_removeAt listed) linked.wellFounded_rightAbove

/-! ## §7. Replacing. -/

theorem insertIdx_around (before after : List NodeId) (replacement : NodeId) :
    (before ++ after).insertIdx before.length replacement = before ++ replacement :: after := by
  induction before with
  | nil => rfl
  | cons first before ih => exact congrArg (first :: ·) ih

theorem set_eq_placeChild {children : List NodeId} {child : NodeId} {index : Nat}
    (listed : children[index]? = some child) (replacement : NodeId) :
    children.set index replacement =
      placeChild (children.eraseIdx index) replacement (some index) := by
  obtain ⟨before, after, split, length⟩ := exists_around listed
  rw [split, ← length, set_around, eraseIdx_around]
  unfold placeChild
  dsimp only
  split
  · rw [insertIdx_around]
  · next short =>
    rw [List.length_append] at short
    have nothing : after = [] := List.eq_nil_of_length_eq_zero (by omega)
    rw [nothing, List.append_nil]

/-- Replacing a child is detaching it and attaching the other node in its place. -/
theorem Linked.replaceAt {tree : MarkupTree} (linked : tree.Linked) {parent child : NodeId}
    {index : Nat} (listed : (tree.children parent)[index]? = some child) {replacement : NodeId}
    (attachable : tree.Attachable parent replacement) :
    (tree.replaceAt parent index replacement).Linked := by
  -- Detaching the child adds nothing to what the replacement stands above.
  have still : (tree.removeAt parent index).Attachable parent replacement := by
    refine ⟨?_, ?_, attachable.not_root, ?_, ?_⟩
    · rw [size_removeAt]; exact attachable.parent_lt_size
    · rw [size_removeAt]; exact attachable.child_lt_size
    · rw [parent_removeAt listed, attachable.detached, ite_self]
    · intro above
      exact attachable.not_above (above.lift id fun _ _ => rightAbove_of_removeAt listed)
  refine ((linked.removeAt listed).attach still (some index)).of_links_eq ?_ ?_ ?_
  · rw [size_attach, size_removeAt, replaceAt_eq listed, size_setParent, size_setParent,
      size_setChildren]
  · intro other
    rw [parent_replaceAt listed, parent_attach, parent_removeAt listed, size_removeAt]
  · intro other
    rw [children_replaceAt listed, children_attach, children_removeAt listed,
      children_removeAt listed, if_pos rfl, size_removeAt, ← set_eq_placeChild listed]
    by_cases here : parent = other
    · rw [if_pos here, if_pos ⟨here, here ▸ attachable.parent_lt_size⟩]
    · rw [if_neg here, if_neg fun both => here both.1, if_neg here]

end MarkupTree

end ComponentMarkup
