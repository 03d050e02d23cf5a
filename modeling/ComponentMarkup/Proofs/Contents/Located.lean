/-
  ComponentMarkup.Proofs.Contents.Located
  ────────────────────────────────
  **What stands at a node, as a tree of its own.**

  `Holds` says that a document tree has, from some node downwards, exactly the names, the contents
  and the order of a located tree.  In a linked tree every node holds one, its names are what
  stands below the node, and the contents alone are `contentTree`.  `Spares` says what an edit
  leaves alone, so that what is held elsewhere is still held afterwards.

  Main statements: `Linked.exists_holds`, `Holds.mem_ids_iff`, `Holds.contentTreeAt_eq`,
  `Holds.referencesBelow_eq` and `Holds.of_spares`.
-/
import ComponentMarkup.Proofs.Contents.RoseTree
import ComponentMarkup.Proofs.Links.Walk

namespace ComponentMarkup

open MarkupTree Relation

/-! ## §1. Located trees. -/

/-- A node as it stands in a tree: its name and its content. -/
structure Spot where
  id : NodeId
  content : NodeContent

/-- What a tree says, without the names of its nodes. -/
abbrev ContentTree := RoseTree NodeContent

/-- What a tree says, with the names of its nodes. -/
abbrev LocatedTree := RoseTree Spot

namespace RoseTree

/-- The name of the node at the top. -/
def top (t : LocatedTree) : NodeId := t.label.id

/-- What the node at the top stands for. -/
def kind (t : LocatedTree) : NodeKind := t.label.content.kind

/-- The names of all nodes, those above before those below. -/
def ids (t : LocatedTree) : List NodeId := t.labels.map Spot.id

/-- The tree without the names. -/
def contents (t : LocatedTree) : ContentTree := t.map Spot.content

@[simp] theorem top_node (spot : Spot) (branches : List LocatedTree) :
    (node spot branches).top = spot.id := rfl

@[simp] theorem kind_node (spot : Spot) (branches : List LocatedTree) :
    (node spot branches).kind = spot.content.kind := rfl

@[simp] theorem ids_node (spot : Spot) (branches : List LocatedTree) :
    (node spot branches).ids = spot.id :: branches.flatMap ids := by
  unfold ids
  rw [labels_node, List.map_cons, List.map_flatMap]

@[simp] theorem contents_node (spot : Spot) (branches : List LocatedTree) :
    (node spot branches).contents = node spot.content (branches.map contents) :=
  map_node Spot.content spot branches

theorem top_mem_ids (t : LocatedTree) : t.top ∈ t.ids :=
  List.mem_map_of_mem (label_mem_labels t)

/-- The names in a branch are names in the tree. -/
theorem mem_ids_of_branch {spot : Spot} {branches : List LocatedTree} {branch : LocatedTree}
    (listed : branch ∈ branches) {id : NodeId} (inside : id ∈ branch.ids) :
    id ∈ (node spot branches).ids := by
  rw [ids_node]
  exact List.mem_cons_of_mem _ (List.mem_flatMap.mpr ⟨branch, listed, inside⟩)

end RoseTree

namespace MarkupTree

variable {tree tree' : MarkupTree}

/-! ## §2. What is held. -/

/-- From its top downwards the tree is exactly the located one. -/
inductive Holds (tree : MarkupTree) : LocatedTree → Prop where
  | node {spot : Spot} {branches : List LocatedTree} (known : spot.id < tree.size)
      (content : tree.content spot.id = spot.content)
      (children : tree.children spot.id = branches.map RoseTree.top)
      (held : ∀ branch ∈ branches, Holds tree branch) : Holds tree (.node spot branches)

namespace Holds

variable {t : LocatedTree} {spot : Spot} {branches : List LocatedTree}

theorem known (held : tree.Holds (.node spot branches)) : spot.id < tree.size := by
  cases held with
  | node known content children held => exact known

theorem content_eq (held : tree.Holds (.node spot branches)) :
    tree.content spot.id = spot.content := by
  cases held with
  | node known content children held => exact content

theorem children_eq (held : tree.Holds (.node spot branches)) :
    tree.children spot.id = branches.map RoseTree.top := by
  cases held with
  | node known content children held => exact children

theorem branch (held : tree.Holds (.node spot branches)) {branch : LocatedTree}
    (listed : branch ∈ branches) : tree.Holds branch := by
  cases held with
  | node known content children held => exact held branch listed

theorem top_lt_size (held : tree.Holds t) : t.top < tree.size := by
  cases held with
  | node known content children held => exact known

theorem content_top (held : tree.Holds t) : tree.content t.top = t.label.content := by
  cases held with
  | node known content children held => exact content

theorem kind_top (held : tree.Holds t) : tree.kind t.top = t.kind := by
  unfold kind RoseTree.kind
  rw [held.content_top]

/-- The names are those of the node at the top and of the nodes below it, in the order of a
walk. -/
theorem ids_eq (held : tree.Holds t) (linked : tree.Linked) :
    t.ids = t.top :: tree.descendants t.top := by
  induction held with
  | @node spot branches known content children held ih =>
    rw [RoseTree.ids_node, RoseTree.top_node, linked.descendants_eq, children, List.flatMap_map,
      List.flatMap_def, List.flatMap_def]
    exact congrArg (fun lists => spot.id :: List.flatten lists) (List.map_congr_left ih)

/-- **The names are what stands below the top.** -/
theorem mem_ids_iff (held : tree.Holds t) (linked : tree.Linked) {id : NodeId} :
    id ∈ t.ids ↔ tree.Above t.top id := by
  rw [held.ids_eq linked, List.mem_cons, linked.mem_descendants_iff]
  exact reflTransGen_iff_eq_or_transGen.symm

/-- No name occurs twice. -/
theorem nodup_ids (held : tree.Holds t) (linked : tree.Linked) : t.ids.Nodup := by
  rw [held.ids_eq linked]
  exact linked.nodup_cons_descendants t.top

theorem lt_size_of_mem_ids (held : tree.Holds t) {id : NodeId} (inside : id ∈ t.ids) :
    id < tree.size := by
  induction held with
  | node known content children held ih =>
    rw [RoseTree.ids_node] at inside
    rcases List.mem_cons.mp inside with same | below
    · exact same ▸ known
    · obtain ⟨branch, listed, there⟩ := List.mem_flatMap.mp below
      exact ih branch listed there

/-- A node that lists the top is not among the names. -/
theorem parent_not_mem_ids (held : tree.Holds t) (linked : tree.Linked) {parent : NodeId}
    (listed : t.top ∈ tree.children parent) : parent ∉ t.ids := by
  intro inside
  exact linked.not_above_of_rightAbove (linked.rightAbove_of_mem listed)
    ((held.mem_ids_iff linked).mp inside)

end Holds

/-- What some nodes hold, one after the other. -/
theorem exists_holds_each {ids : List NodeId} (each : ∀ id ∈ ids, ∃ t : LocatedTree,
      t.top = id ∧ tree.Holds t) :
    ∃ branches : List LocatedTree, branches.map RoseTree.top = ids
      ∧ ∀ branch ∈ branches, tree.Holds branch := by
  induction ids with
  | nil => exact ⟨[], rfl, List.forall_mem_nil _⟩
  | cons id rest ih =>
    obtain ⟨first, first_top, first_held⟩ := each id List.mem_cons_self
    obtain ⟨others, tops, held⟩ := ih fun other listed => each other (List.mem_cons_of_mem _ listed)
    refine ⟨first :: others, ?_, List.forall_mem_cons.mpr ⟨first_held, held⟩⟩
    rw [List.map_cons, first_top, tops]

/-- **Every node of a linked tree holds something.** -/
theorem Linked.exists_holds (linked : tree.Linked) {id : NodeId} (known : id < tree.size) :
    ∃ t : LocatedTree, t.top = id ∧ tree.Holds t := by
  induction id using linked.induction_from_children with
  | node id ih =>
    -- What the children hold are the branches of what the node holds.
    obtain ⟨branches, tops, held⟩ := exists_holds_each fun child listed =>
      ih child listed (linked.lt_size_of_mem listed)
    exact ⟨.node ⟨id, tree.content id⟩ branches, rfl, .node known rfl tops.symm held⟩

/-! ## §3. The contents without the names. -/

/-- The contents of a node and of the nodes below it, down to the given number of levels. -/
def contentsWithin (tree : MarkupTree) : Nat → NodeId → ContentTree
  | 0, id => .node (tree.content id) []
  | levels + 1, id => .node (tree.content id) ((tree.children id).map (tree.contentsWithin levels))

/-- The contents of a node and of the nodes below it. -/
def contentTreeAt (tree : MarkupTree) (id : NodeId) : ContentTree :=
  tree.contentsWithin tree.size id

/-- **What a tree says**: the contents of its attached nodes in their order, whatever the nodes are
called. -/
def contentTree (tree : MarkupTree) : ContentTree := tree.contentTreeAt root

/-- The recursion of the contents, without a bound. -/
theorem Linked.contentTreeAt_eq (linked : tree.Linked) {id : NodeId} (known : id < tree.size) :
    tree.contentTreeAt id =
      .node (tree.content id) ((tree.children id).map tree.contentTreeAt) := by
  refine linked.levels_suffice tree.contentsWithin
    (fun id result => .node (tree.content id) ((tree.children id).map result))
    (fun _ _ => rfl) ?_ known
  intro id f g same
  exact congrArg (RoseTree.node (tree.content id)) (List.map_congr_left same)

/-- **The contents of what is held** are those that the tree has there. -/
theorem Holds.contentTreeAt_eq {t : LocatedTree} (held : tree.Holds t) (linked : tree.Linked) :
    tree.contentTreeAt t.top = t.contents := by
  induction held with
  | node known content children held ih =>
    rw [RoseTree.top_node, linked.contentTreeAt_eq known, content, children, List.map_map,
      RoseTree.contents_node]
    exact congrArg (RoseTree.node _) (List.map_congr_left ih)

/-- The contents of a linked tree, walked through. -/
theorem Linked.labels_contentTree (linked : tree.Linked) :
    tree.contentTree.labels = tree.walk.map tree.content := by
  -- The induction needs the statement for every start, and not for the root only.
  have walk_from : ∀ id, id < tree.size → (tree.contentTreeAt id).labels =
      (id :: tree.descendants id).map tree.content := by
    intro id
    induction id using linked.induction_from_children with
    | node id ih =>
      intro known
      rw [linked.contentTreeAt_eq known, RoseTree.labels_node, List.map_cons,
        linked.descendants_eq, List.map_flatMap, List.flatMap_map, List.flatMap_def,
        List.flatMap_def]
      refine congrArg (fun lists => tree.content id :: List.flatten lists) ?_
      exact List.map_congr_left fun child listed => ih child listed (linked.lt_size_of_mem listed)
  exact walk_from root linked.root_lt_size

/-! ## §4. References. -/

end MarkupTree

namespace RoseTree

mutual

/-- References to the nodes below the top whose kind is wanted. -/
def referencesIn (wanted : NodeKind → Bool) : LocatedTree → List Reference
  | .node spot branches => referencesAmong wanted spot.id 0 branches

/-- References to some siblings and to the nodes below them, as far as their kind is wanted; the
first sibling stands at the given place. -/
def referencesAmong (wanted : NodeKind → Bool) (parent : NodeId) :
    Nat → List LocatedTree → List Reference
  | _, [] => []
  | index, first :: rest =>
    (if wanted first.kind then [⟨parent, first.top, index⟩] else [])
      ++ referencesIn wanted first ++ referencesAmong wanted parent (index + 1) rest

end

theorem referencesIn_node (wanted : NodeKind → Bool) (spot : Spot) (branches : List LocatedTree) :
    referencesIn wanted (node spot branches) = referencesAmong wanted spot.id 0 branches := rfl

theorem referencesAmong_cons (wanted : NodeKind → Bool) (parent : NodeId) (index : Nat)
    (first : LocatedTree) (rest : List LocatedTree) :
    referencesAmong wanted parent index (first :: rest) =
      (if wanted first.kind then [⟨parent, first.top, index⟩] else [])
        ++ referencesIn wanted first ++ referencesAmong wanted parent (index + 1) rest := rfl

end RoseTree

namespace MarkupTree

variable {tree tree' : MarkupTree}

/-- The recursion of the references, without a bound. -/
theorem Linked.referencesBelow_eq (linked : tree.Linked) (wanted : NodeKind → Bool) {id : NodeId}
    (known : id < tree.size) :
    tree.referencesBelow wanted tree.size id =
      (tree.children id).zipIdx.flatMap fun (child, index) =>
        let found := tree.referencesBelow wanted tree.size child
        if wanted (tree.kind child) then ⟨id, child, index⟩ :: found else found := by
  refine linked.levels_suffice (tree.referencesBelow wanted)
    (fun id result => (tree.children id).zipIdx.flatMap fun (child, index) =>
      let found := result child
      if wanted (tree.kind child) then ⟨id, child, index⟩ :: found else found)
    (fun _ _ => rfl) ?_ known
  intro id f g same
  rw [List.flatMap_def, List.flatMap_def]
  refine congrArg List.flatten (List.map_congr_left ?_)
  rintro ⟨child, index⟩ listed
  have there : child ∈ tree.children id := List.fst_mem_of_mem_zipIdx listed
  dsimp only
  rw [same child there]

/-- **The references below a node** are those in what the node holds. -/
theorem Holds.referencesBelow_eq {t : LocatedTree} (held : tree.Holds t) (linked : tree.Linked)
    (wanted : NodeKind → Bool) :
    tree.referencesBelow wanted tree.size t.top = t.referencesIn wanted := by
  induction held with
  | @node spot branches known content children held ih =>
    rw [RoseTree.top_node, linked.referencesBelow_eq wanted known, children]
    rw [RoseTree.referencesIn_node]
    -- The place of the first branch goes up on the way through the branches.
    generalize 0 = first_index
    clear children known content
    induction branches generalizing first_index with
    | nil => rfl
    | cons first rest ih_rest =>
      have kind_eq := (held first List.mem_cons_self).kind_top
      have here := ih first List.mem_cons_self
      have later := ih_rest (fun branch listed => held branch (List.mem_cons_of_mem _ listed))
        (fun branch listed => ih branch (List.mem_cons_of_mem _ listed)) (first_index + 1)
      rw [List.map_cons, List.zipIdx_cons, List.flatMap_cons, later,
        RoseTree.referencesAmong_cons]
      dsimp only
      rw [kind_eq, here]
      cases wanted first.kind with
      | true => rfl
      | false => rfl

/-! ## §5. What an edit leaves alone. -/

/-- No node is lost, and the nodes that were there and are not among the given ones are as they
were. -/
structure Spares (tree tree' : MarkupTree) (touched : List NodeId) : Prop where
  size_le : tree.size ≤ tree'.size
  node_eq : ∀ {id}, id < tree.size → id ∉ touched → tree'.node id = tree.node id

namespace Spares

variable {touched : List NodeId}

theorem refl (tree : MarkupTree) (touched : List NodeId) : tree.Spares tree touched :=
  ⟨Nat.le_refl _, fun _ _ => rfl⟩

/-- One edit after the other: what is new to the first one does not count for both. -/
theorem trans {tree'' : MarkupTree} {touched' both : List NodeId}
    (first : tree.Spares tree' touched) (second : tree'.Spares tree'' touched')
    (first_in : ∀ id ∈ touched, id < tree.size → id ∈ both)
    (second_in : ∀ id ∈ touched', id < tree.size → id ∈ both) : tree.Spares tree'' both where
  size_le := Nat.le_trans first.size_le second.size_le
  node_eq := by
    intro id known apart
    rw [second.node_eq (Nat.lt_of_lt_of_le known first.size_le)
      fun inside => apart (second_in id inside known)]
    exact first.node_eq known fun inside => apart (first_in id inside known)

theorem mono {more : List NodeId} (spares : tree.Spares tree' touched)
    (all : ∀ id ∈ touched, id < tree.size → id ∈ more) : tree.Spares tree' more where
  size_le := spares.size_le
  node_eq known apart := spares.node_eq known fun inside => apart (all _ inside known)

/-- What is left alone, from the three parts of a node. -/
theorem of_parts (size_le : tree.size ≤ tree'.size)
    (content : ∀ id, id < tree.size → id ∉ touched → tree'.content id = tree.content id)
    (parents : ∀ id, id < tree.size → id ∉ touched → tree'.parent id = tree.parent id)
    (children : ∀ id, id < tree.size → id ∉ touched → tree'.children id = tree.children id) :
    tree.Spares tree' touched where
  size_le := size_le
  node_eq := by
    intro id known apart
    have same_content := content id known apart
    have same_parent := parents id known apart
    have same_children := children id known apart
    unfold MarkupTree.content at same_content
    unfold parent at same_parent
    unfold MarkupTree.children at same_children
    -- A node is its three parts.
    cases h : tree.node id
    cases h' : tree'.node id
    rw [h, h'] at same_content same_parent same_children
    dsimp only at same_content same_parent same_children
    rw [same_content, same_parent, same_children]

theorem content_eq (spares : tree.Spares tree' touched) {id : NodeId} (known : id < tree.size)
    (apart : id ∉ touched) : tree'.content id = tree.content id := by
  unfold content
  rw [spares.node_eq known apart]

theorem parent_eq (spares : tree.Spares tree' touched) {id : NodeId} (known : id < tree.size)
    (apart : id ∉ touched) : tree'.parent id = tree.parent id := by
  unfold parent
  rw [spares.node_eq known apart]

theorem children_eq (spares : tree.Spares tree' touched) {id : NodeId} (known : id < tree.size)
    (apart : id ∉ touched) : tree'.children id = tree.children id := by
  unfold children
  rw [spares.node_eq known apart]

end Spares

theorem spares_push (tree : MarkupTree) (content : NodeContent) (touched : List NodeId) :
    tree.Spares (tree.push content) touched where
  size_le := by rw [size_push]; exact Nat.le_succ _
  node_eq := by
    intro id known _
    rw [node_push, if_neg (Nat.ne_of_lt known)]

/-- What is held depends on the contents and the children of its own nodes only. -/
theorem Holds.of_parts_eq {t : LocatedTree} (held : tree.Holds t) (size_le : tree.size ≤ tree'.size)
    (content_eq : ∀ id ∈ t.ids, tree'.content id = tree.content id)
    (children_eq : ∀ id ∈ t.ids, tree'.children id = tree.children id) : tree'.Holds t := by
  induction held with
  | @node spot branches known content children held ih =>
    have top_inside : spot.id ∈ (RoseTree.node spot branches).ids := RoseTree.top_mem_ids _
    refine .node (Nat.lt_of_lt_of_le known size_le) ?_ ?_ ?_
    · rw [content_eq spot.id top_inside, content]
    · rw [children_eq spot.id top_inside, children]
    · intro branch listed
      exact ih branch listed
        (fun id inside => content_eq id (RoseTree.mem_ids_of_branch listed inside))
        (fun id inside => children_eq id (RoseTree.mem_ids_of_branch listed inside))

/-- **What is held away from an edit** is held after it. -/
theorem Holds.of_spares {t : LocatedTree} (held : tree.Holds t) {touched : List NodeId}
    (spares : tree.Spares tree' touched) (apart : ∀ id ∈ t.ids, id ∉ touched) :
    tree'.Holds t := by
  refine held.of_parts_eq spares.size_le ?_ ?_
  · intro id inside
    exact spares.content_eq (held.lt_size_of_mem_ids inside) (apart id inside)
  · intro id inside
    exact spares.children_eq (held.lt_size_of_mem_ids inside) (apart id inside)

end MarkupTree

end ComponentMarkup
