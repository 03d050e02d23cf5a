/-
  ComponentMarkup.Tree.Fault
  ────────────────────────────────
  **What can be wrong with a document tree.**

  A fault says why an edit of a tree was refused, or what its validation found.  `message` is
  its wording.
-/

namespace ComponentMarkup

/-- A node of a document tree, named by its place in the order of creation. -/
abbrev NodeId := Nat

/-- Why an edit of a tree was refused, or what makes a tree malformed. -/
inductive TreeFault where
  /-- The root was to be put under another node. -/
  | rootReparented
  /-- The node to be attached has a parent already. -/
  | alreadyAttached (node parent : NodeId)
  /-- The node to be attached is the new parent, or stands above it. -/
  | ownDescendant (node : NodeId)
  /-- The node of a reference is not among the children of its recorded parent. -/
  | staleReference (node parent : NodeId)
  /-- The root is no document node. -/
  | rootNotDocument
  /-- The root has a parent. -/
  | rootHasParent
  /-- The node is met a second time on the way down from the root. -/
  | reachableTwice (node : NodeId)
  /-- The node is listed under one node and names another as its parent, or none. -/
  | parentMismatch (node listedUnder : NodeId) (recorded : Option NodeId)
  /-- A document node stands below the root. -/
  | nestedDocument (node : NodeId)
  /-- A pass reported a malformation in its own words. -/
  | reported (text : String)
deriving DecidableEq, Repr

/-- A recorded parent, in words. -/
def parentText : Option NodeId → String
  | none => "None"
  | some id => "Some(" ++ Nat.repr id ++ ")"

/-- The wording of a fault. -/
def TreeFault.message : TreeFault → String
  | .rootReparented => "the document node cannot be re-parented"
  | .alreadyAttached node parent =>
    "node " ++ Nat.repr node ++ " already has parent " ++ Nat.repr parent
  | .ownDescendant node => "node " ++ Nat.repr node ++ " cannot become a descendant of itself"
  | .staleReference node parent =>
    "node " ++ Nat.repr node ++ " is no longer a child of node " ++ Nat.repr parent
  | .rootNotDocument => "root is not a document node"
  | .rootHasParent => "root has a parent"
  | .reachableTwice node => "node " ++ Nat.repr node ++ " is reachable more than once"
  | .parentMismatch node listedUnder recorded =>
    "node " ++ Nat.repr node ++ " is listed under " ++ Nat.repr listedUnder
      ++ " but points to " ++ parentText recorded
  | .nestedDocument node => "nested document node " ++ Nat.repr node
  | .reported text => text

end ComponentMarkup
