/-
  ComponentMarkup.Tree.Json
  ────────────────────────────────
  **Trees as JSON.**

  The contents of nodes and their links are shown apart: a list with a record for every node, and
  a list with the parent and the children of every node.
-/
import ComponentMarkup.Diagnostic.Json
import ComponentMarkup.Tree.Basic

namespace ComponentMarkup

/-- What is shown of the bound attribute behind a usage. -/
def BoundAttribute.briefJson? : Option BoundAttribute → Json
  | some bound => .ofMembers
      [("name", .ofText? bound.name), ("indexerNamePrefix", .ofText? bound.indexerNamePrefix),
       ("displayName", .ofText? bound.displayName)]
  | none => .null

/-- The type of a component's attribute. -/
def NodeKind.typeName? : NodeKind → Option String
  | .componentAttribute _ typeName _ => typeName
  | _ => none

/-- The content of a node as a JSON value. -/
def NodeContent.toJson (content : NodeContent) : Json :=
  let kind := content.kind
  .ofMembers
    [("label", .ofText kind.label), ("isComponent", .bool kind.isComponent),
     ("isMarkupElement", .bool kind.isMarkupElement), ("isToken", .bool kind.isToken),
     ("attributeName", .ofText? kind.attributeName?),
     ("isDirectiveUsage", .bool kind.isDirectiveUsage),
     ("tagHelper", .ofText? (kind.helper?.map TagHelper.name)),
     ("boundAttribute", BoundAttribute.briefJson? kind.boundAttribute?),
     ("typeName", .ofText? kind.typeName?), ("source", SourceSpan.toJson? content.source),
     ("diagnostics", Diagnostic.listToJson content.diagnostics),
     ("hasDiagnostics", .bool !content.diagnostics.isEmpty)]

namespace MarkupTree

/-- The contents of all nodes, attached or not. -/
def contentsJson (tree : MarkupTree) : Json :=
  .array (tree.nodes.map fun node => node.content.toJson)

/-- The links of all nodes, attached or not. -/
def linksJson (tree : MarkupTree) : Json :=
  .array (tree.nodes.map fun node =>
    .array [.ofNat? node.parent, .array (node.children.map Json.ofNat)])

end MarkupTree

end ComponentMarkup
