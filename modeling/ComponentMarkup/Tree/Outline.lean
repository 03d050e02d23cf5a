/-
  ComponentMarkup.Tree.Outline
  ────────────────────────────────
  **A tree as indented text.**

  Every node has a line: its label, what it is in a few words, and the codes of its diagnostics.
  The text of a token stands in quotes, so that it cannot break its line.
-/
import ComponentMarkup.Text.Blank
import ComponentMarkup.Text.Quoted
import ComponentMarkup.Tree.Traversal

namespace ComponentMarkup

/-! ## §1. Lines. -/

/-- A text without its leading white space. -/
def trimmedStart (text : String) : String := String.ofList (Text.trimStart text.toList)

/-- What the node is, in a few words; empty for the kinds that need none. -/
def NodeKind.summary : NodeKind → String
  | .document documentKind => documentKind
  | .component tagName helper => tagName ++ " (" ++ helper.name ++ ")"
  | .markupElement tagName => tagName
  | .directiveAttribute name helper _ => name ++ " (" ++ helper.name ++ ")"
  | .helperProperty name _ _ isDirective => if isDirective then name ++ " directive" else name
  | .componentAttribute name typeName isSplat =>
    let typed := match typeName with
      | some typeName => " : " ++ typeName
      | none => ""
    trimmedStart (name.getD "" ++ typed ++ if isSplat then " splat" else "")
  | .htmlAttribute name isSplat =>
    trimmedStart (name.getD "" ++ if isSplat then " splat" else "")
  | .token kind text => kind.label ++ " " ++ Text.quote text
  | .embeddedExpression | .expressionValue => ""

/-- The line of a node without its indentation. -/
def NodeContent.summaryLine (content : NodeContent) : String :=
  let summary := content.kind.summary
  content.kind.label ++ (if summary.isEmpty then "" else " " ++ summary)
    ++ (if content.diagnostics.isEmpty then ""
      else " [" ++ ", ".intercalate (content.diagnostics.map Diagnostic.id) ++ "]")

/-- The line of a node that stands some levels below the top. -/
def NodeContent.line (depth : Nat) (content : NodeContent) : String :=
  String.ofList (List.replicate (2 * depth) ' ') ++ content.summaryLine ++ "\n"

/-! ## §2. Trees. -/

namespace MarkupTree

/-- The lines of a node and of the nodes below it, for the given number of levels. -/
def linesBelow (tree : MarkupTree) : Nat → Nat → NodeId → List String
  | 0, _, _ => []
  | levels + 1, depth, id =>
    (tree.content id).line depth
      :: (tree.children id).flatMap fun child => tree.linesBelow levels (depth + 1) child

/-- The outline of a node and the nodes below it. -/
def outlineOf (tree : MarkupTree) (id : NodeId) : String :=
  String.join (tree.linesBelow tree.size 0 id)

/-- The outline of the whole tree. -/
def outline (tree : MarkupTree) : String := tree.outlineOf root

end MarkupTree

end ComponentMarkup
