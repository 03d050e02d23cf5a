/-
  ComponentMarkup.Tree.Validation
  ────────────────────────────────
  **Well-formed trees.**

  A tree is ready for what comes after compilation if its root is a document without a parent,
  every attached node is listed exactly once, by the node that it names as its parent, and no
  document stands below the root.
-/
import ComponentMarkup.Tree.Traversal

namespace ComponentMarkup.MarkupTree

/-- Every listing of a child, with the node that lists it, on the way through the tree. -/
def listings (tree : MarkupTree) : List (NodeId × NodeId) :=
  tree.walk.flatMap fun id => (tree.children id).map fun child => (id, child)

/-- The first fault in some listings, when the given nodes have been met before. -/
def listingFault? (tree : MarkupTree) : List NodeId → List (NodeId × NodeId) → Option TreeFault
  | _, [] => none
  | met, (id, child) :: rest =>
    if child ∈ met then some (.reachableTwice child)
    else if tree.parent child ≠ some id then
      some (.parentMismatch child id (tree.parent child))
    else if (tree.kind child).isDocument then some (.nestedDocument child)
    else tree.listingFault? (child :: met) rest

/-- The first fault of a tree. -/
def fault? (tree : MarkupTree) : Option TreeFault :=
  if !(tree.kind root).isDocument then some .rootNotDocument
  else if (tree.parent root).isSome then some .rootHasParent
  else tree.listingFault? [root] tree.listings

/-- Accepts a tree without faults. -/
def validate (tree : MarkupTree) : Except CompileError Unit :=
  match tree.fault? with
  | some fault => .error (.malformedTree fault)
  | none => .ok ()

end ComponentMarkup.MarkupTree
