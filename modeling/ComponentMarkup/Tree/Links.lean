/-
  ComponentMarkup.Tree.Links
  ────────────────────────────────
  **Links between nodes.**

  Both directions of a link are stored: a node names its parent and a parent lists its children.
  The operations here write both directions and are total; what they need to make sense is
  checked by the edits that are built from them.

  Main statements: for every operation, `parent_…` and `children_…` give both directions of the
  links of every node afterwards, and `content_…` says that no content changes.
-/
import ComponentMarkup.Tree.Basic

namespace ComponentMarkup.MarkupTree

/-! ## §1. One direction at a time. -/

/-- The tree with another parent recorded for a node. -/
def setParent (tree : MarkupTree) (id : NodeId) (parent : Option NodeId) : MarkupTree :=
  tree.modify id fun node => { node with parent := parent }

/-- The tree with other children recorded for a node. -/
def setChildren (tree : MarkupTree) (id : NodeId) (children : List NodeId) : MarkupTree :=
  tree.modify id fun node => { node with children := children }

@[simp] theorem size_setParent (tree : MarkupTree) (id : NodeId) (parent : Option NodeId) :
    (tree.setParent id parent).size = tree.size := size_modify ..

@[simp] theorem size_setChildren (tree : MarkupTree) (id : NodeId) (children : List NodeId) :
    (tree.setChildren id children).size = tree.size := size_modify ..

@[simp] theorem content_setParent (tree : MarkupTree) (id other : NodeId)
    (parent : Option NodeId) : (tree.setParent id parent).content other = tree.content other := by
  rw [content, content, setParent, node_modify]
  split <;> rfl

@[simp] theorem children_setParent (tree : MarkupTree) (id other : NodeId)
    (parent : Option NodeId) :
    (tree.setParent id parent).children other = tree.children other := by
  rw [children, children, setParent, node_modify]
  split <;> rfl

theorem parent_setParent (tree : MarkupTree) (id other : NodeId) (parent : Option NodeId) :
    (tree.setParent id parent).parent other =
      if id = other ∧ other < tree.size then parent else tree.parent other := by
  rw [MarkupTree.parent, MarkupTree.parent, setParent, node_modify]
  split <;> rfl

@[simp] theorem parent_setParent_none (tree : MarkupTree) (id other : NodeId) :
    (tree.setParent id none).parent other = if id = other then none else tree.parent other := by
  rw [parent_setParent]
  by_cases inside : other < tree.size
  · simp only [inside, and_true]
  · have blank : tree.parent other = none := by
      rw [parent, node_of_size_le (Nat.le_of_not_lt inside)]; rfl
    simp only [inside, and_false, blank, ite_self]

@[simp] theorem content_setChildren (tree : MarkupTree) (id other : NodeId)
    (children : List NodeId) :
    (tree.setChildren id children).content other = tree.content other := by
  rw [content, content, setChildren, node_modify]
  split <;> rfl

@[simp] theorem parent_setChildren (tree : MarkupTree) (id other : NodeId)
    (children : List NodeId) : (tree.setChildren id children).parent other = tree.parent other := by
  rw [parent, parent, setChildren, node_modify]
  split <;> rfl

theorem children_setChildren (tree : MarkupTree) (id other : NodeId) (children : List NodeId) :
    (tree.setChildren id children).children other =
      if id = other ∧ other < tree.size then children else tree.children other := by
  rw [MarkupTree.children, MarkupTree.children, setChildren, node_modify]
  split <;> rfl

/-! ## §2. Attaching. -/

/-- Children with one more among them: before the place of the given index, or at the end. -/
def placeChild (children : List NodeId) (child : NodeId) : Option Nat → List NodeId
  | some index => if index < children.length then children.insertIdx index child
    else children ++ [child]
  | none => children ++ [child]

/-- The tree with a node linked under another one. -/
def attach (tree : MarkupTree) (parent child : NodeId) (index : Option Nat := none) : MarkupTree :=
  let linked := tree.setParent child (some parent)
  linked.setChildren parent (placeChild (linked.children parent) child index)

@[simp] theorem size_attach (tree : MarkupTree) (parent child : NodeId) (index : Option Nat) :
    (tree.attach parent child index).size = tree.size := by
  rw [attach, size_setChildren, size_setParent]

@[simp] theorem content_attach (tree : MarkupTree) (parent child other : NodeId)
    (index : Option Nat) : (tree.attach parent child index).content other = tree.content other := by
  rw [attach, content_setChildren, content_setParent]

theorem parent_attach (tree : MarkupTree) (parent child other : NodeId) (index : Option Nat) :
    (tree.attach parent child index).parent other =
      if child = other ∧ other < tree.size then some parent else tree.parent other := by
  rw [attach, parent_setChildren, parent_setParent]

theorem children_attach (tree : MarkupTree) (parent child other : NodeId) (index : Option Nat) :
    (tree.attach parent child index).children other =
      if parent = other ∧ other < tree.size then placeChild (tree.children parent) child index
      else tree.children other := by
  simp only [attach, children_setChildren, children_setParent, size_setParent]

/-- The tree with a new node at the end of another one's children. -/
def appendNew (tree : MarkupTree) (parent : NodeId) (content : NodeContent) : MarkupTree :=
  (tree.push content).attach parent tree.size

/-- The tree with a new node among another one's children. -/
def insertNew (tree : MarkupTree) (parent : NodeId) (index : Nat) (content : NodeContent) :
    MarkupTree :=
  (tree.push content).attach parent tree.size (some index)

/-! ## §3. Detaching all children. -/

/-- The tree with some nodes marked as detached. -/
def orphan (tree : MarkupTree) (ids : List NodeId) : MarkupTree :=
  ids.foldl (fun tree id => tree.setParent id none) tree

@[simp] theorem size_orphan (tree : MarkupTree) (ids : List NodeId) :
    (tree.orphan ids).size = tree.size := by
  induction ids generalizing tree with
  | nil => rfl
  | cons id rest ih => exact (ih _).trans (size_setParent ..)

@[simp] theorem content_orphan (tree : MarkupTree) (ids : List NodeId) (other : NodeId) :
    (tree.orphan ids).content other = tree.content other := by
  induction ids generalizing tree with
  | nil => rfl
  | cons id rest ih => exact (ih _).trans (content_setParent ..)

@[simp] theorem children_orphan (tree : MarkupTree) (ids : List NodeId) (other : NodeId) :
    (tree.orphan ids).children other = tree.children other := by
  induction ids generalizing tree with
  | nil => rfl
  | cons id rest ih => exact (ih _).trans (children_setParent ..)

@[simp] theorem parent_orphan (tree : MarkupTree) (ids : List NodeId) (other : NodeId) :
    (tree.orphan ids).parent other = if other ∈ ids then none else tree.parent other := by
  induction ids generalizing tree with
  | nil => simp only [orphan, List.foldl_nil, List.not_mem_nil, if_false]
  | cons id rest ih =>
    refine (ih _).trans ?_
    rw [parent_setParent_none]
    by_cases same : id = other
    · simp only [same, List.mem_cons, true_or, if_true, ite_self]
    · simp only [same, List.mem_cons, Ne.symm same, false_or, if_false]

/-- The tree with all children of a node detached. -/
def detachChildren (tree : MarkupTree) (id : NodeId) : MarkupTree :=
  (tree.setChildren id []).orphan (tree.children id)

@[simp] theorem size_detachChildren (tree : MarkupTree) (id : NodeId) :
    (tree.detachChildren id).size = tree.size := by
  rw [detachChildren, size_orphan, size_setChildren]

@[simp] theorem content_detachChildren (tree : MarkupTree) (id other : NodeId) :
    (tree.detachChildren id).content other = tree.content other := by
  rw [detachChildren, content_orphan, content_setChildren]

theorem parent_detachChildren (tree : MarkupTree) (id other : NodeId) :
    (tree.detachChildren id).parent other =
      if other ∈ tree.children id then none else tree.parent other := by
  rw [detachChildren, parent_orphan, parent_setChildren]

theorem children_eq_nil_of_size_le {tree : MarkupTree} {id : NodeId}
    (outside : tree.size ≤ id) : tree.children id = [] := by
  rw [children, node_of_size_le outside]; rfl

theorem children_detachChildren (tree : MarkupTree) (id other : NodeId) :
    (tree.detachChildren id).children other = if id = other then [] else tree.children other := by
  rw [detachChildren, children_orphan, children_setChildren]
  by_cases inside : other < tree.size
  · simp only [inside, and_true]
  · simp only [inside, and_false, ite_self,
      children_eq_nil_of_size_le (Nat.le_of_not_lt inside)]

/-! ## §4. Detaching and replacing one child. -/

/-- The tree with the child at a place detached. -/
def removeAt (tree : MarkupTree) (parent : NodeId) (index : Nat) : MarkupTree :=
  match (tree.children parent)[index]? with
  | some child =>
    (tree.setChildren parent ((tree.children parent).eraseIdx index)).setParent child none
  | none => tree

/-- The tree with the child at a place detached and another node in its place. -/
def replaceAt (tree : MarkupTree) (parent : NodeId) (index : Nat) (replacement : NodeId) :
    MarkupTree :=
  match (tree.children parent)[index]? with
  | some child =>
    ((tree.setChildren parent ((tree.children parent).set index replacement)).setParent child none
      ).setParent replacement (some parent)
  | none => tree

theorem lt_size_of_child {tree : MarkupTree} {parent child : NodeId} {index : Nat}
    (listed : (tree.children parent)[index]? = some child) : parent < tree.size := by
  refine Nat.lt_of_not_le fun outside => ?_
  rw [children_eq_nil_of_size_le outside] at listed
  exact nomatch listed

theorem removeAt_eq {tree : MarkupTree} {parent child : NodeId} {index : Nat}
    (listed : (tree.children parent)[index]? = some child) :
    tree.removeAt parent index =
      (tree.setChildren parent ((tree.children parent).eraseIdx index)).setParent child none := by
  rw [removeAt, listed]

theorem replaceAt_eq {tree : MarkupTree} {parent child : NodeId} {index : Nat}
    (listed : (tree.children parent)[index]? = some child) (replacement : NodeId) :
    tree.replaceAt parent index replacement =
      ((tree.setChildren parent ((tree.children parent).set index replacement)).setParent child none
        ).setParent replacement (some parent) := by
  rw [replaceAt, listed]

theorem children_removeAt {tree : MarkupTree} {parent child : NodeId} {index : Nat}
    (listed : (tree.children parent)[index]? = some child) (other : NodeId) :
    (tree.removeAt parent index).children other =
      if parent = other then (tree.children parent).eraseIdx index else tree.children other := by
  have inside := lt_size_of_child listed
  rw [removeAt_eq listed, children_setParent, children_setChildren]
  by_cases same : parent = other
  · simp only [same ▸ inside, and_true]
  · simp only [same, false_and]

theorem children_replaceAt {tree : MarkupTree} {parent child : NodeId} {index : Nat}
    (listed : (tree.children parent)[index]? = some child) (replacement other : NodeId) :
    (tree.replaceAt parent index replacement).children other =
      if parent = other then (tree.children parent).set index replacement
      else tree.children other := by
  have inside := lt_size_of_child listed
  rw [replaceAt_eq listed, children_setParent, children_setParent, children_setChildren]
  by_cases same : parent = other
  · simp only [same ▸ inside, and_true]
  · simp only [same, false_and]

theorem parent_removeAt {tree : MarkupTree} {parent child : NodeId} {index : Nat}
    (listed : (tree.children parent)[index]? = some child) (other : NodeId) :
    (tree.removeAt parent index).parent other =
      if child = other then none else tree.parent other := by
  rw [removeAt_eq listed, parent_setParent_none, parent_setChildren]

theorem parent_replaceAt {tree : MarkupTree} {parent child : NodeId} {index : Nat}
    (listed : (tree.children parent)[index]? = some child) (replacement other : NodeId) :
    (tree.replaceAt parent index replacement).parent other =
      if replacement = other ∧ other < tree.size then some parent
      else if child = other then none else tree.parent other := by
  rw [replaceAt_eq listed, parent_setParent, parent_setParent_none, parent_setChildren,
    size_setParent, size_setChildren]

end ComponentMarkup.MarkupTree
