/-
  ComponentMarkup.Tree.Basic
  ────────────────────────────────
  **Document trees.**

  A tree owns every node that was ever created in it, attached or not; a node is named by its
  place in the order of creation and the root is the first one.  Nodes never leave a tree, they
  are only detached.

  Main statements: `node_modify` and `node_push` give every node after a change or an addition,
  and `content_modifyContent` every content after a change of one content, which leaves all links
  as they are.
-/
import ComponentMarkup.FileKind
import ComponentMarkup.Tree.Node

namespace ComponentMarkup

/-- The nodes of one document. -/
structure MarkupTree where
  nodes : List Node
deriving DecidableEq

namespace MarkupTree

/-! ## §1. Reading. -/

/-- The first node. -/
def root : NodeId := 0

/-- A tree with nothing but a root. -/
def ofDocumentKind (documentKind : String) : MarkupTree :=
  ⟨[{ content := { kind := .document documentKind } }]⟩

/-- A tree for a kind of file, with nothing but a root. -/
def ofFileKind (kind : FileKind) : MarkupTree := ofDocumentKind kind.documentKind

/-- How many nodes were ever created. -/
def size (tree : MarkupTree) : Nat := tree.nodes.length

/-- Whether a node of this name was ever created. -/
def has (tree : MarkupTree) (id : NodeId) : Bool := decide (id < tree.size)

/-- A node; for a name that nothing has, a blank one without links. -/
def node (tree : MarkupTree) (id : NodeId) : Node := tree.nodes.getD id default

/-- The content of a node. -/
def content (tree : MarkupTree) (id : NodeId) : NodeContent := (tree.node id).content

/-- What a node stands for. -/
def kind (tree : MarkupTree) (id : NodeId) : NodeKind := (tree.content id).kind

/-- The parent of a node, if it is attached. -/
def parent (tree : MarkupTree) (id : NodeId) : Option NodeId := (tree.node id).parent

/-- The children of a node, in order. -/
def children (tree : MarkupTree) (id : NodeId) : List NodeId := (tree.node id).children

/-- The document kind that the root carries. -/
def documentKind (tree : MarkupTree) : String :=
  match tree.kind root with
  | .document documentKind => documentKind
  | _ => ""

theorem node_of_size_le {tree : MarkupTree} {id : NodeId} (outside : tree.size ≤ id) :
    tree.node id = default := by
  rw [node, List.getD_eq_getElem?_getD, List.getElem?_eq_none outside, Option.getD_none]

/-- The place of a node among the children of another one. -/
def indexOf? (tree : MarkupTree) (parent child : NodeId) : Option Nat :=
  (tree.children parent).idxOf? child

/-! ## §2. Writing. -/

/-- The tree with one node changed. -/
def modify (tree : MarkupTree) (id : NodeId) (change : Node → Node) : MarkupTree :=
  ⟨tree.nodes.modify id change⟩

/-- The tree with one more node, which is detached and has no children; its name is the size of the
tree before. -/
def push (tree : MarkupTree) (content : NodeContent) : MarkupTree :=
  ⟨tree.nodes ++ [{ content := content }]⟩

@[simp] theorem size_modify (tree : MarkupTree) (id : NodeId) (change : Node → Node) :
    (tree.modify id change).size = tree.size := by
  simp [modify, size]

@[simp] theorem size_push (tree : MarkupTree) (content : NodeContent) :
    (tree.push content).size = tree.size + 1 := by
  simp [push, size]

theorem node_modify (tree : MarkupTree) (id other : NodeId) (change : Node → Node) :
    (tree.modify id change).node other =
      if id = other ∧ other < tree.size then change (tree.node other) else tree.node other := by
  by_cases inside : other < tree.nodes.length <;> by_cases same : id = other <;>
    simp [modify, node, size, List.getD_eq_getElem?_getD, inside, same]

theorem node_push (tree : MarkupTree) (content : NodeContent) (id : NodeId) :
    (tree.push content).node id =
      if id = tree.size then { content := content } else tree.node id := by
  rcases Nat.lt_trichotomy id tree.nodes.length with inside | same | outside
  · simp [push, node, size, List.getD_eq_getElem?_getD, List.getElem?_append_left inside,
      Nat.ne_of_lt inside]
  · simp [push, node, size, List.getD_eq_getElem?_getD, same]
  · have blank : tree.nodes[id]? = none := List.getElem?_eq_none (Nat.le_of_lt outside)
    have still : (tree.nodes ++ [({ content := content } : Node)])[id]? = none :=
      List.getElem?_eq_none (by rw [List.length_append]; exact outside)
    simp only [push, node, size, List.getD_eq_getElem?_getD, blank, still,
      if_neg (Nat.ne_of_gt outside)]

@[simp] theorem parent_push (tree : MarkupTree) (content : NodeContent) (id : NodeId) :
    (tree.push content).parent id = tree.parent id := by
  rw [parent, parent, node_push]
  split
  · next same => rw [same, node_of_size_le (Nat.le_refl _)]; rfl
  · rfl

@[simp] theorem children_push (tree : MarkupTree) (content : NodeContent) (id : NodeId) :
    (tree.push content).children id = tree.children id := by
  rw [children, children, node_push]
  split
  · next same => rw [same, node_of_size_le (Nat.le_refl _)]; rfl
  · rfl

theorem content_push (tree : MarkupTree) (content : NodeContent) (id : NodeId) :
    (tree.push content).content id = if id = tree.size then content else tree.content id := by
  rw [MarkupTree.content, MarkupTree.content, node_push]
  split <;> rfl

/-! ## §3. Contents. -/

/-- The tree with the content of one node changed. -/
def modifyContent (tree : MarkupTree) (id : NodeId) (change : NodeContent → NodeContent) :
    MarkupTree :=
  tree.modify id fun node => { node with content := change node.content }

@[simp] theorem size_modifyContent (tree : MarkupTree) (id : NodeId)
    (change : NodeContent → NodeContent) : (tree.modifyContent id change).size = tree.size :=
  size_modify ..

@[simp] theorem parent_modifyContent (tree : MarkupTree) (id other : NodeId)
    (change : NodeContent → NodeContent) :
    (tree.modifyContent id change).parent other = tree.parent other := by
  rw [parent, parent, modifyContent, node_modify]
  split <;> rfl

@[simp] theorem children_modifyContent (tree : MarkupTree) (id other : NodeId)
    (change : NodeContent → NodeContent) :
    (tree.modifyContent id change).children other = tree.children other := by
  rw [children, children, modifyContent, node_modify]
  split <;> rfl

theorem content_modifyContent (tree : MarkupTree) (id other : NodeId)
    (change : NodeContent → NodeContent) :
    (tree.modifyContent id change).content other =
      if id = other ∧ other < tree.size then change (tree.content other)
      else tree.content other := by
  rw [content, content, modifyContent, node_modify]
  split <;> rfl

/-- The tree with another kind for a node. -/
def setKind (tree : MarkupTree) (id : NodeId) (kind : NodeKind) : MarkupTree :=
  tree.modifyContent id fun content => { content with kind := kind }

/-- The tree with another place in the source for a node. -/
def setSource (tree : MarkupTree) (id : NodeId) (source : Option SourceSpan) : MarkupTree :=
  tree.modifyContent id fun content => { content with source := source }

/-- The tree with one more report about a node, unless the same one is there already. -/
def addReport (tree : MarkupTree) (id : NodeId) (report : Diagnostic) : MarkupTree :=
  tree.modifyContent id (·.addReport report)

/-- Whether a node already has a report. -/
def hasReport (tree : MarkupTree) (id : NodeId) (report : Diagnostic) : Bool :=
  decide (report ∈ (tree.content id).diagnostics)

/-- The tree with one node put in the place of another, links and all.  Nothing keeps the links in
step: this is how a tree is damaged. -/
def overwrite (tree : MarkupTree) (id : NodeId) (node : Node) : MarkupTree :=
  tree.modify id fun _ => node

end MarkupTree

end ComponentMarkup
