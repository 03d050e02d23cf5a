/-
  ComponentMarkup.Tree.Traversal
  ────────────────────────────────
  **Going through a tree.**

  All traversals go from parents to children and from earlier to later siblings.  They descend as
  many levels as the tree has nodes, which is deeper than any tree without a cycle.
-/
import ComponentMarkup.Tree.Reference

namespace ComponentMarkup.MarkupTree

/-! ## §1. Nodes. -/

/-- The nodes below a node, down to the given number of levels. -/
def below (tree : MarkupTree) : Nat → NodeId → List NodeId
  | 0, _ => []
  | levels + 1, id => (tree.children id).flatMap fun child => child :: tree.below levels child

/-- The nodes below a node. -/
def descendants (tree : MarkupTree) (start : NodeId) : List NodeId :=
  tree.below tree.size start

/-- Every attached node, the root first. -/
def walk (tree : MarkupTree) : List NodeId := root :: tree.descendants root

/-! ## §2. References. -/

/-- References to the nodes below a node whose kind is wanted, down to the given number of
levels. -/
def referencesBelow (tree : MarkupTree) (wanted : NodeKind → Bool) :
    Nat → NodeId → List Reference
  | 0, _ => []
  | levels + 1, id =>
    (tree.children id).zipIdx.flatMap fun (child, index) =>
      let found := tree.referencesBelow wanted levels child
      if wanted (tree.kind child) then ⟨id, child, index⟩ :: found else found

/-- References to every node below the root whose kind is wanted. -/
def references (tree : MarkupTree) (wanted : NodeKind → Bool) : List Reference :=
  tree.referencesBelow wanted tree.size root

/-! ## §3. Diagnostics. -/

/-- What is reported about the attached nodes. -/
def diagnostics (tree : MarkupTree) : List Diagnostic :=
  tree.walk.flatMap fun id => (tree.content id).diagnostics

end ComponentMarkup.MarkupTree
