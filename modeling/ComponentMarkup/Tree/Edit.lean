/-
  ComponentMarkup.Tree.Edit
  ────────────────────────────────
  **Edits that can be refused.**

  An edit works on a tree and either gives a result or is refused with a fault; in both cases it
  says what the tree is afterwards.  A node can be attached if it is not the root, has no parent
  and does not stand above the place where it is to go.
-/
import ComponentMarkup.Tree.Links

namespace ComponentMarkup

/-- An edit of a document tree: its result or the fault for which it was refused, and the tree
afterwards. -/
abbrev TreeEdit (α : Type) := EStateM TreeFault MarkupTree α

namespace MarkupTree

/-! ## §1. When a node can be attached. -/

/-- The node and everything above it, from below, up to the given number of steps. -/
def chainUp (tree : MarkupTree) : Nat → NodeId → List NodeId
  | 0, _ => []
  | steps + 1, id =>
    id :: match tree.parent id with
      | some parent => tree.chainUp steps parent
      | none => []

/-- The node and everything above it, from below.  No chain without repetitions is longer than the
number of nodes. -/
def upwards (tree : MarkupTree) (id : NodeId) : List NodeId := tree.chainUp tree.size id

/-- Why a node cannot be attached anywhere: it is the root, or it has a parent. -/
def detachedFault? (tree : MarkupTree) (id : NodeId) : Option TreeFault :=
  if id = root then some .rootReparented
  else (tree.parent id).map (.alreadyAttached id)

/-- Why a node cannot be attached under another one. -/
def attachFault? (tree : MarkupTree) (parent child : NodeId) : Option TreeFault :=
  match tree.detachedFault? child with
  | some fault => some fault
  | none => if child ∈ tree.upwards parent then some (.ownDescendant child) else none

end MarkupTree

/-! ## §2. Edits. -/

namespace TreeEdit

/-- Creates a detached node and gives its name. -/
def create (content : NodeContent) : TreeEdit NodeId := fun tree =>
  .ok tree.size (tree.push content)

/-- Detaches all children of a node and gives their names. -/
def releaseChildren (id : NodeId) : TreeEdit (List NodeId) := fun tree =>
  .ok (tree.children id) (tree.detachChildren id)

/-- Attaches a node at the end of another one's children, or refuses to. -/
def append (parent child : NodeId) : TreeEdit Unit := fun tree =>
  match tree.attachFault? parent child with
  | some fault => .error fault tree
  | none => .ok () (tree.attach parent child)

/-- Attaches nodes at the end of another one's children, one after the other, up to the first that
is refused. -/
def adopt (parent : NodeId) : List NodeId → TreeEdit Unit
  | [] => pure ()
  | child :: rest => do
    append parent child
    adopt parent rest

end TreeEdit

end ComponentMarkup
