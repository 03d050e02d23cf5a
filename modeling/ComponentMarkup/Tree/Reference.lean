/-
  ComponentMarkup.Tree.Reference
  ────────────────────────────────
  **References to attached nodes.**

  A reference remembers a node, its parent and the place where it stood.  Later edits may have
  moved or detached the node, so whoever uses a reference looks first where the node stands now;
  the remembered place is only a hint.
-/
import ComponentMarkup.Tree.Edit

namespace ComponentMarkup

/-- Where a node was seen. -/
structure Reference where
  parent : NodeId
  node : NodeId
  index : Nat
deriving DecidableEq, Repr

/-- A reference to a node as it stands; none for the root and for detached nodes. -/
def MarkupTree.reference? (tree : MarkupTree) (id : NodeId) : Option Reference := do
  let parent ← tree.parent id
  let index ← tree.indexOf? parent id
  return ⟨parent, id, index⟩

namespace Reference

/-- The present place of the node among the children of the recorded parent. -/
def presentIndex? (reference : Reference) (tree : MarkupTree) : Option Nat :=
  -- The remembered place comes first: a damaged tree may list the node twice.
  if (tree.children reference.parent)[reference.index]? = some reference.node then
    some reference.index
  else tree.indexOf? reference.parent reference.node

/-- Whether the node is still a child of the recorded parent. -/
def isLive (reference : Reference) (tree : MarkupTree) : Bool :=
  (reference.presentIndex? tree).isSome

/-- The fault of using a reference that is no longer live. -/
def staleFault (reference : Reference) : TreeFault :=
  .staleReference reference.node reference.parent

/-- Puts a detached node in the place of this one, which keeps its own children, and gives a
reference to it. -/
def replace (reference : Reference) (replacement : NodeId) : TreeEdit Reference :=
  fun tree =>
    match reference.presentIndex? tree with
    | none => .error reference.staleFault tree
    | some index =>
      match tree.attachFault? reference.parent replacement with
      | some fault => .error fault tree
      | none =>
        .ok ⟨reference.parent, replacement, index⟩
          (tree.replaceAt reference.parent index replacement)

/-- Puts a new node in the place of this one, and gives a reference to it. -/
def replaceWithNew (reference : Reference) (content : NodeContent) : TreeEdit Reference :=
  fun tree =>
    match reference.presentIndex? tree with
    | none => .error reference.staleFault tree
    | some index =>
      .ok ⟨reference.parent, tree.size, index⟩
        ((tree.push content).replaceAt reference.parent index tree.size)

/-- Detaches the node. -/
def remove (reference : Reference) : TreeEdit Unit := fun tree =>
  match reference.presentIndex? tree with
  | none => .error reference.staleFault tree
  | some index => .ok () (tree.removeAt reference.parent index)

end Reference

end ComponentMarkup
