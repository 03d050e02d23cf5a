/-
  ComponentMarkup.Proofs.Contents.Splicing
  ────────────────────────────────
  **What an edit through one reference leaves alone.**

  A pass collects references to many nodes and then edits through one after the other.  An edit
  through a reference changes the place of its node among the children of the parent, the node's
  record of its parent, and that of the node that takes the place; everything else stays, what is
  below the node included.  Hence every reference to another node finds it as before, but for the
  later siblings of a node that was removed, which have moved up by one.

  Main statements: `Linked.spliced_replaceAt` and `Linked.spliced_removeAt` for the nodes,
  `Linked.presentIndex?_replaceAt` and `Linked.presentIndex?_removeAt` for the other references, and
  all of them together for every run of edits in `Reachable.splices_spare_others`.
-/
import ComponentMarkup.Proofs.Contents.Located
import ComponentMarkup.Proofs.Links.Refusals

namespace ComponentMarkup

open MarkupTree Relation

namespace MarkupTree

variable {tree left : MarkupTree}

/-! ## §1. The nodes after a change at one place. -/

theorem size_replaceAt (tree : MarkupTree) (parent : NodeId) (index : Nat) (replacement : NodeId) :
    (tree.replaceAt parent index replacement).size = tree.size := by
  unfold replaceAt
  split
  · rw [size_setParent, size_setParent, size_setChildren]
  · rfl

theorem content_replaceAt (tree : MarkupTree) (parent : NodeId) (index : Nat)
    (replacement other : NodeId) :
    (tree.replaceAt parent index replacement).content other = tree.content other := by
  unfold replaceAt
  split
  · rw [content_setParent, content_setParent, content_setChildren]
  · rfl

/-- Replacing a child changes the parent, the child and what takes its place. -/
theorem spares_replaceAt {parent child replacement : NodeId} {index : Nat}
    (listed : (tree.children parent)[index]? = some child) :
    tree.Spares (tree.replaceAt parent index replacement) [parent, child, replacement] := by
  refine .of_parts (Nat.le_of_eq (size_replaceAt ..).symm)
    (fun id _ _ => content_replaceAt tree parent index replacement id) ?_ ?_
  · intro id _ apart
    rw [List.mem_cons, List.mem_cons, List.mem_singleton, not_or, not_or] at apart
    rw [parent_replaceAt listed, if_neg fun both => apart.2.2 both.1.symm,
      if_neg fun same => apart.2.1 same.symm]
  · intro id _ apart
    rw [List.mem_cons, List.mem_cons, List.mem_singleton, not_or, not_or] at apart
    rw [children_replaceAt listed, if_neg fun same => apart.1 same.symm]

theorem content_removeAt (tree : MarkupTree) (parent : NodeId) (index : Nat) (other : NodeId) :
    (tree.removeAt parent index).content other = tree.content other := by
  unfold removeAt
  split
  · rw [content_setParent, content_setChildren]
  · rfl

section Nodes

variable {parent child : NodeId} {index : Nat}

theorem node_replaceAt (listed : (tree.children parent)[index]? = some child)
    (replacement other : NodeId) :
    (tree.replaceAt parent index replacement).node other =
      { content := tree.content other
        parent := if replacement = other ∧ other < tree.size then some parent
          else if child = other then none else tree.parent other
        children := if parent = other then (tree.children parent).set index replacement
          else tree.children other } := by
  rw [← content_replaceAt tree parent index replacement, ← parent_replaceAt listed,
    ← children_replaceAt listed]
  rfl

theorem node_removeAt (listed : (tree.children parent)[index]? = some child) (other : NodeId) :
    (tree.removeAt parent index).node other =
      { content := tree.content other
        parent := if child = other then none else tree.parent other
        children := if parent = other then (tree.children parent).eraseIdx index
          else tree.children other } := by
  rw [← content_removeAt tree parent index, ← parent_removeAt listed, ← children_removeAt listed]
  rfl

end Nodes

/-! ## §2. A child out of its place. -/

/-- In the second tree some nodes stand where a child stood among the children of its parent. -/
structure Spliced (tree left : MarkupTree) (parent child : NodeId) (placed : List NodeId) :
    Prop where
  /-- The list of the parent changes at the place of the child only. -/
  siblings : ∃ earlier later, tree.children parent = earlier ++ child :: later
    ∧ left.node parent = { tree.node parent with children := earlier ++ placed ++ later }
  /-- The child is detached, and has what it had. -/
  released : left.node child = { tree.node child with parent := none }
  below_eq : left.descendants child = tree.descendants child
  below_kept : ∀ id ∈ tree.descendants child, left.node id = tree.node id
  others_kept : tree.Spares left (parent :: child :: placed)

section Splices

variable {parent child : NodeId} {placed : List NodeId}

/-- What is below the child follows from what happens to the single nodes. -/
theorem Linked.spliced (linked : tree.Linked) (left_linked : left.Linked)
    (listed : child ∈ tree.children parent)
    (siblings : ∃ earlier later, tree.children parent = earlier ++ child :: later
      ∧ left.node parent = { tree.node parent with children := earlier ++ placed ++ later })
    (released : left.node child = { tree.node child with parent := none })
    (others_kept : tree.Spares left (parent :: child :: placed))
    (detached : ∀ id ∈ placed, tree.parent id = none) :
    tree.Spliced left parent child placed := by
  -- Below the child there is neither the child nor its parent, and nothing without a parent.
  have below_kept : ∀ id ∈ tree.descendants child, left.node id = tree.node id := by
    intro id met
    have chain := linked.mem_descendants_iff.mp met
    obtain ⟨upper, -, last⟩ := TransGen.tail'_iff.mp chain
    refine others_kept.node_eq (Linked.lt_size_of_rightAbove last) fun touched => ?_
    rcases List.mem_cons.mp touched with here | touched
    · have back : tree.Above child parent := here ▸ chain.to_reflTransGen
      exact linked.not_above_of_rightAbove (linked.rightAbove_of_mem listed) back
    · rcases List.mem_cons.mp touched with here | there
      · exact linked.not_transGen_self child (here ▸ chain)
      · exact Linked.not_rightAbove_of_parent_eq_none (detached id there) last
  -- What the walk meets depends on the children of the child and of the nodes below it.
  refine ⟨siblings, released, ?_, below_kept, others_kept⟩
  refine (linked.acyclic child).descendants_congr (left_linked.acyclic child) fun id reached => ?_
  unfold children
  rcases List.mem_cons.mp ((linked.acyclic child).mem_cons_descendants_iff.mpr reached) with
    same | met
  · rw [same, released]
  · rw [below_kept id met]

/-- **A removal** takes the child out of its place. -/
theorem Linked.spliced_removeAt (linked : tree.Linked) {index : Nat}
    (stands : (tree.children parent)[index]? = some child) :
    tree.Spliced (tree.removeAt parent index) parent child [] := by
  have listed := List.mem_of_getElem? stands
  have different := linked.ne_of_rightAbove (linked.rightAbove_of_mem listed)
  refine linked.spliced (linked.removeAt stands) listed ?_ ?_ ?_ (List.forall_mem_nil _)
  · obtain ⟨earlier, later, around, place⟩ := exists_around stands
    refine ⟨earlier, later, around, ?_⟩
    rw [node_removeAt stands, if_neg different, if_pos rfl, around, ← place, eraseIdx_around,
      List.append_nil]
    rfl
  · rw [node_removeAt stands, if_pos rfl, if_neg different.symm]
    rfl
  · refine ⟨Nat.le_of_eq (size_removeAt ..).symm, fun {id} _ apart => ?_⟩
    rw [List.mem_cons, List.mem_singleton, not_or] at apart
    rw [node_removeAt stands, if_neg fun same => apart.2 same.symm,
      if_neg fun same => apart.1 same.symm]
    rfl

/-- **A replacement** puts another node into the place of the child. -/
theorem Linked.spliced_replaceAt (linked : tree.Linked) {index : Nat} {replacement : NodeId}
    (stands : (tree.children parent)[index]? = some child)
    (attachable : tree.Attachable parent replacement) :
    tree.Spliced (tree.replaceAt parent index replacement) parent child [replacement]
      ∧ (tree.replaceAt parent index replacement).node replacement =
        { tree.node replacement with parent := some parent } := by
  have listed := List.mem_of_getElem? stands
  have recorded := linked.rightAbove_of_mem listed
  have child_ne := linked.ne_of_rightAbove recorded
  have replacement_ne : replacement ≠ parent := fun same =>
    attachable.not_above (same ▸ .refl)
  have apart : replacement ≠ child := fun same =>
    Linked.not_rightAbove_of_parent_eq_none attachable.detached (same ▸ recorded)
  constructor
  · refine linked.spliced (linked.replaceAt stands attachable) listed ?_ ?_ ?_ ?_
    · obtain ⟨earlier, later, around, place⟩ := exists_around stands
      refine ⟨earlier, later, around, ?_⟩
      rw [node_replaceAt stands, if_neg fun both => replacement_ne both.1, if_neg child_ne,
        if_pos rfl, around, ← place, set_around, List.append_assoc]
      rfl
    · rw [node_replaceAt stands, if_neg fun both => apart both.1, if_pos rfl,
        if_neg child_ne.symm]
      rfl
    · exact spares_replaceAt stands
    · exact List.forall_mem_singleton.mpr attachable.detached
  · rw [node_replaceAt stands, if_pos ⟨rfl, attachable.child_lt_size⟩,
      if_neg replacement_ne.symm]
    rfl

theorem Linked.descendants_push (linked : tree.Linked) (content : NodeContent) (start : NodeId) :
    (tree.push content).descendants start = tree.descendants start :=
  (linked.acyclic start).descendants_congr ((linked.push content).acyclic start)
    fun id _ => children_push tree content id

/-- Whether the node that takes the place was created just before does not matter. -/
theorem Spliced.of_push {content : NodeContent}
    (spliced : (tree.push content).Spliced left parent child placed) (linked : tree.Linked)
    (listed : child ∈ tree.children parent) : tree.Spliced left parent child placed := by
  obtain ⟨⟨earlier, later, around, node_eq⟩, released, below_eq, below_kept, others_kept⟩ :=
    spliced
  have parent_known := linked.parent_lt_size (linked.rightAbove_of_mem listed)
  have child_known := linked.lt_size_of_mem listed
  have old : ∀ {id}, id < tree.size → (tree.push content).node id = tree.node id := by
    intro id known
    rw [node_push, if_neg (Nat.ne_of_lt known)]
  rw [children_push] at around
  rw [old parent_known] at node_eq
  rw [old child_known] at released
  rw [linked.descendants_push] at below_eq below_kept
  refine ⟨⟨earlier, later, around, node_eq⟩, released, below_eq, fun id met => ?_, ?_⟩
  · obtain ⟨upper, -, last⟩ := TransGen.tail'_iff.mp (linked.mem_descendants_iff.mp met)
    rw [below_kept id met, old (Linked.lt_size_of_rightAbove last)]
  · exact (spares_push tree content []).trans others_kept
      (fun _ none => absurd none List.not_mem_nil) fun _ touched _ => touched

end Splices

/-! ## §3. References to other nodes. -/

section Places

variable {ids : List NodeId} {child id : NodeId} {place index : Nat}

/-- Where a node stands does not depend on what stands elsewhere. -/
theorem getElem?_set_eq_some_iff {replacement : NodeId} (stands : ids[place]? = some child)
    (not_child : id ≠ child) (not_replacement : id ≠ replacement) :
    (ids.set place replacement)[index]? = some id ↔ ids[index]? = some id := by
  obtain ⟨inside, here⟩ := List.getElem?_eq_some_iff.mp stands
  by_cases same : place = index
  · subst same
    rw [List.getElem?_set_self inside, stands, Option.some.injEq, Option.some.injEq]
    exact ⟨fun it => absurd it.symm not_replacement, fun it => absurd it.symm not_child⟩
  · rw [List.getElem?_set_ne same]

/-- If a node is taken out, those behind it move up by one place. -/
theorem getElem?_eraseIdx_eq_some_iff (stands : ids[place]? = some child)
    (not_child : id ≠ child) :
    (ids.eraseIdx place)[index]? = some id ↔
      ∃ before, ids[before]? = some id
        ∧ (if place < before then before - 1 else before) = index := by
  rw [List.getElem?_eraseIdx]
  constructor
  · intro found
    split at found
    · next ahead => exact ⟨index, found, if_neg (Nat.not_lt_of_lt ahead)⟩
    · next behind =>
      refine ⟨index + 1, found, ?_⟩
      rw [if_pos (by omega)]
      rfl
  · rintro ⟨before, found, moved⟩
    -- The place that was taken out is that of another node.
    have elsewhere : before ≠ place := by
      intro same
      rw [same, stands] at found
      exact not_child (Option.some.inj found).symm
    split at moved
    · next behind =>
      have index_eq : index + 1 = before := by omega
      rw [if_neg (by omega), index_eq, found]
    · rw [if_pos (by omega), ← moved, found]

end Places

section Others

variable {reference other : Reference} {place : Nat}

/-- **A reference to another node finds it where it was** after a replacement. -/
theorem Linked.presentIndex?_replaceAt (linked : tree.Linked) {replacement : NodeId}
    (stands : (tree.children reference.parent)[place]? = some reference.node)
    (attachable : tree.Attachable reference.parent replacement)
    (not_node : other.node ≠ reference.node) (not_replacement : other.node ≠ replacement) :
    other.presentIndex? (tree.replaceAt reference.parent place replacement) =
      other.presentIndex? tree := by
  refine Option.ext fun index => ?_
  rw [(linked.replaceAt stands attachable).presentIndex?_eq_some_iff,
    linked.presentIndex?_eq_some_iff, children_replaceAt stands]
  split
  · next here =>
    rw [← here]
    exact getElem?_set_eq_some_iff stands not_node not_replacement
  · rfl

/-- **After a removal** the later siblings are found one place further up, and every other node
where it was. -/
theorem Linked.presentIndex?_removeAt (linked : tree.Linked)
    (stands : (tree.children reference.parent)[place]? = some reference.node)
    (not_node : other.node ≠ reference.node) :
    other.presentIndex? (tree.removeAt reference.parent place) =
      (other.presentIndex? tree).map fun index =>
        if other.parent = reference.parent ∧ place < index then index - 1 else index := by
  refine Option.ext fun index => ?_
  rw [(linked.removeAt stands).presentIndex?_eq_some_iff, Option.map_eq_some_iff,
    children_removeAt stands]
  simp only [linked.presentIndex?_eq_some_iff]
  by_cases here : reference.parent = other.parent
  · rw [if_pos here]
    simp only [here, true_and]
    exact getElem?_eraseIdx_eq_some_iff (here ▸ stands) not_node
  · rw [if_neg here]
    simp only [Ne.symm here, false_and, if_false, exists_eq_right]

/-! ## §4. The three edits. -/

/-- A reference is as live as before if its node is found, wherever that is. -/
theorem isLive_eq_of_map {moved : Nat → Nat}
    (found : other.presentIndex? left = (other.presentIndex? tree).map moved) :
    other.isLive left = other.isLive tree := by
  unfold Reference.isLive
  rw [found, Option.isSome_map]

/-- **Replacing a node by a detached one.** -/
theorem Linked.spliced_replace (linked : tree.Linked) {replacement : NodeId} {result : Reference}
    (known : replacement < tree.size) (ran : reference.replace replacement tree = .ok result left) :
    tree.Spliced left reference.parent reference.node [replacement]
      ∧ left.size = tree.size
      ∧ left.node replacement = { tree.node replacement with parent := some reference.parent }
      ∧ ∀ other : Reference, other.node ≠ reference.node → other.node ≠ replacement →
        other.isLive left = other.isLive tree
          ∧ other.presentIndex? left = other.presentIndex? tree := by
  rcases reference.replace_cases tree replacement with
    ⟨place, present, checked, accepted⟩ | ⟨fault, -, refused⟩
  · rw [accepted] at ran
    cases ran
    have stands := getElem?_of_presentIndex? present
    have attachable :=
      (linked.attachFault?_eq_none_iff (lt_size_of_child stands) known).mp checked
    obtain ⟨spliced, node_eq⟩ := linked.spliced_replaceAt stands attachable
    refine ⟨spliced, size_replaceAt .., node_eq, fun other not_node not_replacement => ?_⟩
    have found := linked.presentIndex?_replaceAt stands attachable not_node not_replacement
    exact ⟨congrArg Option.isSome found, found⟩
  · rw [refused] at ran
    cases ran

/-- **Replacing a node by a new one.** -/
theorem Linked.spliced_replaceWithNew (linked : tree.Linked) {content : NodeContent}
    {result : Reference} (ran : reference.replaceWithNew content tree = .ok result left) :
    tree.Spliced left reference.parent reference.node [tree.size]
      ∧ left.size = tree.size + 1
      ∧ left.node tree.size = { content, parent := some reference.parent }
      ∧ ∀ other : Reference, other.node ≠ reference.node → other.node ≠ tree.size →
        other.isLive left = other.isLive tree
          ∧ other.presentIndex? left = other.presentIndex? tree := by
  rcases reference.replaceWithNew_cases tree content with
    ⟨place, present, accepted⟩ | ⟨-, refused⟩
  · rw [accepted] at ran
    cases ran
    have stands := getElem?_of_presentIndex? present
    have attachable := linked.attachable_push (lt_size_of_child stands) content
    -- The new node is detached at first, so that this is a replacement like any other.
    have stands_pushed :
        ((tree.push content).children reference.parent)[place]? = some reference.node := by
      rw [children_push, stands]
    obtain ⟨spliced, node_eq⟩ :=
      (linked.push content).spliced_replaceAt stands_pushed attachable
    refine ⟨spliced.of_push linked (List.mem_of_getElem? stands), ?_, ?_, ?_⟩
    · rw [size_replaceAt, size_push]
    · rw [node_eq, node_push, if_pos rfl]
    · intro other not_node not_new
      have found := (linked.push content).presentIndex?_replaceAt stands_pushed attachable
        not_node not_new
      have unchanged : other.presentIndex? (tree.push content) = other.presentIndex? tree := by
        unfold Reference.presentIndex? indexOf?
        rw [children_push]
      exact ⟨congrArg Option.isSome (found.trans unchanged), found.trans unchanged⟩
  · rw [refused] at ran
    cases ran

/-- **Removing a node.** -/
theorem Linked.spliced_remove (linked : tree.Linked) (ran : reference.remove tree = .ok () left) :
    tree.Spliced left reference.parent reference.node []
      ∧ left.size = tree.size
      ∧ ∃ place, reference.presentIndex? tree = some place
        ∧ ∀ other : Reference, other.node ≠ reference.node →
          other.isLive left = other.isLive tree
            ∧ other.presentIndex? left = (other.presentIndex? tree).map fun index =>
              if other.parent = reference.parent ∧ place < index then index - 1 else index := by
  rcases reference.remove_cases tree with ⟨place, present, accepted⟩ | ⟨-, refused⟩
  · rw [accepted] at ran
    cases ran
    have stands := getElem?_of_presentIndex? present
    refine ⟨linked.spliced_removeAt stands, size_removeAt .., place, present, ?_⟩
    intro other not_node
    have found := linked.presentIndex?_removeAt stands not_node
    exact ⟨isLive_eq_of_map found, found⟩
  · rw [refused] at ran
    cases ran

end Others

end MarkupTree

/-! ## §5. Every run of edits. -/

/-- **After every run of edits**, an edit through one reference leaves the other ones alone: it
changes the place of its node among the children of the parent, and which parents this node and
the one in its place record.  A reference to any other node is as live as before and finds it where
it was, or one place further up if it stood behind a node that was removed. -/
theorem Reachable.splices_spare_others {tree left : MarkupTree} (reachable : Reachable tree)
    (reference : Reference) :
    (∀ replacement result, replacement < tree.size →
        reference.replace replacement tree = .ok result left →
          tree.Spliced left reference.parent reference.node [replacement]
            ∧ left.size = tree.size
            ∧ left.node replacement = { tree.node replacement with parent := some reference.parent }
            ∧ ∀ other : Reference, other.node ≠ reference.node → other.node ≠ replacement →
              other.isLive left = other.isLive tree
                ∧ other.presentIndex? left = other.presentIndex? tree)
      ∧ (∀ content result, reference.replaceWithNew content tree = .ok result left →
          tree.Spliced left reference.parent reference.node [tree.size]
            ∧ left.size = tree.size + 1
            ∧ left.node tree.size = { content, parent := some reference.parent }
            ∧ ∀ other : Reference, other.node ≠ reference.node → other.node ≠ tree.size →
              other.isLive left = other.isLive tree
                ∧ other.presentIndex? left = other.presentIndex? tree)
      ∧ (reference.remove tree = .ok () left →
          tree.Spliced left reference.parent reference.node []
            ∧ left.size = tree.size
            ∧ ∃ place, reference.presentIndex? tree = some place
              ∧ ∀ other : Reference, other.node ≠ reference.node →
                other.isLive left = other.isLive tree
                  ∧ other.presentIndex? left = (other.presentIndex? tree).map fun index =>
                    if other.parent = reference.parent ∧ place < index then index - 1
                    else index) := by
  have linked := reachable.linked
  exact ⟨fun _ _ => linked.spliced_replace, fun _ _ => linked.spliced_replaceWithNew,
    linked.spliced_remove⟩

/-- Three expressions in a document, and a detached one. -/
def siblingExpressions : MarkupTree :=
  ((((MarkupTree.ofDocumentKind componentDocumentKind).appendNew root
    { kind := .embeddedExpression }).appendNew root { kind := .embeddedExpression }).appendNew root
      { kind := .embeddedExpression }).push { kind := .embeddedExpression }

theorem reachable_siblingExpressions : Reachable siblingExpressions :=
  ((((Reachable.fresh _).appendNew (by decide) _).appendNew (by decide) _).appendNew (by decide)
    _).step (.create _) (List.forall_mem_nil _)

/-- With the second expression replaced, the third one is where it was; with the second one
removed, it is one place further up, whatever place the reference remembers. -/
theorem splices_spare_others_siblingExpressions :
    (∃ result left, (⟨root, 2, 1⟩ : Reference).replace 4 siblingExpressions = .ok result left
        ∧ (⟨root, 3, 2⟩ : Reference).presentIndex? left = some 2)
      ∧ ∃ left, (⟨root, 2, 1⟩ : Reference).remove siblingExpressions = .ok () left
        ∧ (⟨root, 3, 7⟩ : Reference).presentIndex? left = some 1 := by
  constructor
  · obtain ⟨replaced, -, -⟩ := Reachable.splices_spare_others reachable_siblingExpressions
      ⟨root, 2, 1⟩
    obtain ⟨-, -, -, others⟩ := replaced 4 _ (by decide) rfl
    refine ⟨_, _, rfl, ?_⟩
    rw [(others ⟨root, 3, 2⟩ (by decide) (by decide)).2]
    rfl
  · obtain ⟨-, -, removed⟩ := Reachable.splices_spare_others reachable_siblingExpressions
      ⟨root, 2, 1⟩
    obtain ⟨-, -, place, present, others⟩ := removed rfl
    cases present
    refine ⟨_, rfl, ?_⟩
    rw [(others ⟨root, 3, 7⟩ (by decide)).2]
    rfl

end ComponentMarkup
