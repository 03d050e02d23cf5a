/-
  ComponentMarkup.Document
  ────────────────────────────────
  **A document on its way through the compiler.**

  A document is a tree with what passes may ask about it: the kind of its file, its language
  version, the capabilities that follow from both, and the catalog.
-/
import ComponentMarkup.Capabilities
import ComponentMarkup.Catalog.Basic
import ComponentMarkup.Tree.Basic

namespace ComponentMarkup

/-- A document on its way through the compiler. -/
structure Document where
  fileKind : FileKind
  languageVersion : LanguageVersion
  capabilities : Capabilities
  tree : MarkupTree
  catalog : Catalog
deriving DecidableEq

namespace Document

/-- A document with the capabilities of its version and its file kind. -/
def ofTree (tree : MarkupTree) (fileKind : FileKind) (languageVersion : LanguageVersion)
    (catalog : Catalog) : Document where
  fileKind := fileKind
  languageVersion := languageVersion
  capabilities := Capabilities.granted languageVersion fileKind
  tree := tree
  catalog := catalog

/-- Whether the document holds a component. -/
def isComponent (document : Document) : Bool :=
  document.tree.documentKind == componentDocumentKind

/-- Whether the passes for components run on the document. -/
def admitsComponentPasses (document : Document) : Bool :=
  document.isComponent && document.capabilities.has .componentFileKind

end Document

end ComponentMarkup
