/-
  ComponentMarkup.Tree.DuplicateAttributes
  ────────────────────────────────
  **Attributes that are given twice.**

  Under a component the names of attributes are compared exactly, under an element up to letter
  case; the marker of a directive attribute does not count, so that it collides with the plain
  attribute that it produces.  The report goes to every usage after the first one, and is not
  repeated where it stands already.
-/
import ComponentMarkup.AttributeName
import ComponentMarkup.Text.WordFinal
import ComponentMarkup.Tree.Traversal

namespace ComponentMarkup

/-! ## §1. What is compared. -/

/-- Where attributes are given. -/
inductive AttributeHost where
  | component
  | element
deriving DecidableEq, Repr

/-- What kind of host for attributes the node is, if it is one. -/
def NodeKind.host? : NodeKind → Option AttributeHost
  | .component .. => some .component
  | .markupElement .. => some .element
  | _ => none

/-- What of an attribute's name counts under a host. -/
def AttributeHost.nameKey (host : AttributeHost) (name : String) : List Char :=
  let bare := (AttributeName.bare name).toList
  match host with
  | .component => bare
  | .element => Text.lowerText bare

/-! ## §2. Reports. -/

namespace MarkupTree

/-- The problem of an attribute whose name an earlier one has already.  A directive among the two
is named, the later one first. -/
def duplicateProblem (tree : MarkupTree) (host : AttributeHost) (first later : NodeId) : Problem :=
  let name := (tree.kind later).attributeName?.getD ""
  let directive :=
    if (tree.kind later).isDirectiveUsage then some name
    else if (tree.kind first).isDirectiveUsage then (tree.kind first).attributeName?
    else none
  match directive, host with
  | some directiveName, _ => .duplicateDirectiveAttribute (AttributeName.bare name) directiveName
  | none, .component => .duplicateComponentParameter name
  | none, .element => .duplicateMarkupAttribute name

/-- The report about an attribute whose name an earlier one has already. -/
def duplicateReport (tree : MarkupTree) (host : AttributeHost) (first later : NodeId) :
    Diagnostic :=
  (tree.duplicateProblem host first later).report (tree.content later).source

/-- The reports about some siblings, when the given keys have been met before, each with the first
node that had it. -/
def duplicatesAmong (tree : MarkupTree) (host : AttributeHost) :
    List (List Char × NodeId) → List NodeId → List (NodeId × Diagnostic)
  | _, [] => []
  | met, child :: rest =>
    match (tree.kind child).attributeName? with
    -- A child without a name is no attribute.
    | none => tree.duplicatesAmong host met rest
    | some name =>
      let key := host.nameKey name
      match met.lookup key with
      | some first =>
        (child, tree.duplicateReport host first child) :: tree.duplicatesAmong host met rest
      | none => tree.duplicatesAmong host ((key, child) :: met) rest

/-- The reports about the children of a node. -/
def duplicatesUnder (tree : MarkupTree) (id : NodeId) : List (NodeId × Diagnostic) :=
  match (tree.kind id).host? with
  | some host => tree.duplicatesAmong host [] (tree.children id)
  | none => []

/-- The reports about a whole tree. -/
def duplicates (tree : MarkupTree) : List (NodeId × Diagnostic) :=
  tree.walk.flatMap tree.duplicatesUnder

/-- The tree with some reports added where they are new, and the number of those. -/
def addReports (tree : MarkupTree) : List (NodeId × Diagnostic) → Nat × MarkupTree
  | [] => (0, tree)
  | (id, report) :: rest =>
    let (added, reported) := (tree.addReport id report).addReports rest
    (if tree.hasReport id report then added else added + 1, reported)

/-- The tree with every repeated attribute reported, and the number of new reports. -/
def reportDuplicates (tree : MarkupTree) : Nat × MarkupTree :=
  tree.addReports tree.duplicates

end MarkupTree

end ComponentMarkup
