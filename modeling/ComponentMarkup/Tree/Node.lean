/-
  ComponentMarkup.Tree.Node
  ────────────────────────────────
  **Nodes of a document.**

  A node has a content (what it is, where it was written, what is reported about it) and its
  links: its parent, if it is attached, and its children in order.  The content alone decides how
  passes treat a node; the links alone make the tree.
-/
import ComponentMarkup.TagHelper.Basic
import ComponentMarkup.Tree.Fault

namespace ComponentMarkup

/-! ## §1. Kinds. -/

/-- What a token is a piece of. -/
inductive TokenKind where
  | code
  | markup
deriving DecidableEq, Repr

/-- The word for a kind of token. -/
def TokenKind.label : TokenKind → String
  | .code => "Code"
  | .markup => "Markup"

/-- What a node stands for. -/
inductive NodeKind where
  /-- The root of a document. -/
  | document (documentKind : String)
  /-- A usage of a component. -/
  | component (tagName : String) (helper : TagHelper)
  /-- An element that no component is bound to. -/
  | markupElement (tagName : String)
  /-- A usage of a directive attribute. -/
  | directiveAttribute (attributeName : String) (helper : TagHelper) (boundName : String)
  /-- An attribute that is bound to a property of a tag helper. -/
  | helperProperty (attributeName : String) (helper : TagHelper) (boundName : String)
      (isDirective : Bool)
  /-- An attribute of a component. -/
  | componentAttribute (attributeName typeName : Option String) (isSplat : Bool)
  /-- An attribute of an element. -/
  | htmlAttribute (attributeName : Option String) (isSplat : Bool)
  /-- A piece of code that is evaluated where it stands. -/
  | embeddedExpression
  /-- A value of an attribute that code produces. -/
  | expressionValue
  /-- A piece of text, in code or in markup. -/
  | token (kind : TokenKind) (text : String)
deriving DecidableEq

namespace NodeKind

/-- The word for a kind of node. -/
def label : NodeKind → String
  | .document .. => "Document"
  | .component .. => "Component"
  | .markupElement .. => "MarkupElement"
  | .directiveAttribute .. => "DirectiveAttribute"
  | .helperProperty .. => "TagHelperProperty"
  | .componentAttribute .. => "ComponentAttribute"
  | .htmlAttribute .. => "HtmlAttribute"
  | .embeddedExpression => "EmbeddedExpression"
  | .expressionValue => "ExpressionAttributeValue"
  | .token .. => "Token"

/-- Whether the node is the root of a document. -/
def isDocument : NodeKind → Bool
  | .document .. => true
  | _ => false

/-- Whether the node is a usage of a component. -/
def isComponent : NodeKind → Bool
  | .component .. => true
  | _ => false

/-- Whether the node is a plain element. -/
def isMarkupElement : NodeKind → Bool
  | .markupElement .. => true
  | _ => false

/-- Whether the node is a token. -/
def isToken : NodeKind → Bool
  | .token .. => true
  | _ => false

/-- The name under which an attribute was written. -/
def attributeName? : NodeKind → Option String
  | .directiveAttribute name .. | .helperProperty name .. => some name
  | .componentAttribute name .. | .htmlAttribute name .. => name
  | _ => none

/-- Whether the node is an attribute that was written as a directive. -/
def isDirectiveUsage : NodeKind → Bool
  | .directiveAttribute .. => true
  | .helperProperty _ _ _ isDirective => isDirective
  | _ => false

/-- The tag helper that is bound at this usage. -/
def helper? : NodeKind → Option TagHelper
  | .component _ helper | .directiveAttribute _ helper _ | .helperProperty _ helper _ _ =>
    some helper
  | _ => none

/-- The bound attribute behind a directive or a property. -/
def boundAttribute? : NodeKind → Option BoundAttribute
  | .directiveAttribute _ helper name | .helperProperty _ helper name _ =>
    helper.findAttribute? name
  | _ => none

end NodeKind

/-! ## §2. Contents and nodes. -/

/-- What a node is, where it was written and what is reported about it. -/
structure NodeContent where
  kind : NodeKind
  source : Option SourceSpan := none
  diagnostics : List Diagnostic := []
deriving DecidableEq

instance : Inhabited NodeContent := ⟨{ kind := .document "" }⟩

namespace NodeContent

/-- The content with one more report, unless the same one is there already. -/
def addReport (content : NodeContent) (report : Diagnostic) : NodeContent :=
  if report ∈ content.diagnostics then content
  else { content with diagnostics := content.diagnostics ++ [report] }

end NodeContent

/-- A node of a document tree. -/
structure Node where
  content : NodeContent
  parent : Option NodeId := none
  children : List NodeId := []
deriving DecidableEq

instance : Inhabited Node := ⟨{ content := default }⟩

end ComponentMarkup
