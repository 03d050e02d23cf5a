/-
  ComponentMarkup.Tree.SplatLowering
  ────────────────────────────────
  **Lowering of captured attributes.**

  A splat usage captures all attributes of its element that nothing else binds.  Lowering puts an
  attribute in its place.  Under a component the captured values have a type already and move
  over as they are; under any other node every token and every expression is wrapped as a value.
  References that are no longer live are skipped.
-/
import ComponentMarkup.Tree.Traversal

namespace ComponentMarkup

/-! ## §1. Usages. -/

/-- The type of captured attributes; inference of generic types looks for it. -/
def splatTypeName : String :=
  "global::System.Collections.Generic.IEnumerable<global::System.Collections.Generic.KeyValuePair"
    ++ "<string, object>>"

/-- Whether the node is a usage that captures attributes. -/
def NodeKind.isSplatUsage (kind : NodeKind) : Bool :=
  kind.isDirectiveUsage && kind.helper?.any TagHelper.isSplat

/-- References to the usages in a tree that capture attributes. -/
def MarkupTree.splatUsages (tree : MarkupTree) : List Reference :=
  tree.references NodeKind.isSplatUsage

/-! ## §2. Lowering. -/

/-- What takes the place of a usage under a component. -/
def NodeKind.componentSplat : NodeKind := .componentAttribute none (some splatTypeName) true

/-- What takes the place of a usage under any other node. -/
def NodeKind.htmlSplat : NodeKind := .htmlAttribute none true

namespace TreeEdit

/-- Moves one child of a usage under the attribute that takes its place: a token in a value of its
own, an expression by a value that takes over its content, and anything else as it is. -/
def wrapValue (attributeId child : NodeId) : TreeEdit Unit := do
  let content := (← get).content child
  match content.kind with
  | .token .. =>
    let value ← create { kind := .expressionValue }
    append value child
    append attributeId value
  | .embeddedExpression =>
    -- The expression itself stays behind, detached, without children, place or reports.
    modify (·.modifyContent child fun content => { kind := content.kind })
    let inner ← releaseChildren child
    let value ← create { content with kind := .expressionValue }
    adopt value inner
    append attributeId value
  | _ => append attributeId child

/-- Moves the children of a usage under the attribute that takes its place. -/
def wrapValues (attributeId : NodeId) : List NodeId → TreeEdit Unit
  | [] => pure ()
  | child :: rest => do
    wrapValue attributeId child
    wrapValues attributeId rest

/-- Makes the attribute that takes the place of a usage, with the usage's children under it. -/
def lowerUsage (parent usage : NodeId) : TreeEdit NodeId := do
  let content := (← get).content usage
  let children ← releaseChildren usage
  if ((← get).kind parent).isComponent then
    let attributeId ← create { content with kind := .componentSplat }
    adopt attributeId children
    return attributeId
  else
    let attributeId ← create { content with kind := .htmlSplat }
    wrapValues attributeId children
    return attributeId

/-- Lowers one usage, if its reference is live, and tells whether it did. -/
def lowerSplat (reference : Reference) : TreeEdit Bool := do
  if reference.isLive (← get) then
    let replacement ← lowerUsage reference.parent reference.node
    discard <| reference.replace replacement
    return true
  else return false

/-- Lowers usages one after the other and gives the number of those that were live. -/
def lowerSplats : List Reference → TreeEdit Nat
  | [] => return 0
  | reference :: rest => do
    let lowered ← lowerSplat reference
    let more ← lowerSplats rest
    return (if lowered then more + 1 else more)

/-- Lowers every usage in the tree. -/
def lowerAllSplats : TreeEdit Nat := do lowerSplats (← get).splatUsages

end TreeEdit

end ComponentMarkup
