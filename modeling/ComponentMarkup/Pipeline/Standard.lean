/-
  ComponentMarkup.Pipeline.Standard
  ────────────────────────────────
  **The passes that every compiler has.**

  Captured attributes are lowered first, then attributes that are given twice are reported.  Both
  passes are for components only.
-/
import ComponentMarkup.Pipeline.Basic
import ComponentMarkup.Tree.DuplicateAttributes
import ComponentMarkup.Tree.SplatLowering

namespace ComponentMarkup

namespace Pass

/-- Applies to every document. -/
def always (_ : Document) : Bool := true

/-- Lowers captured attributes. -/
def splatLowering : Pass where
  name := "component_splat_lowering"
  order := 50
  applies := Document.admitsComponentPasses
  run document :=
    match TreeEdit.lowerAllSplats document.tree with
    | .ok _ tree => { document := { document with tree := tree } }
    | .error fault tree =>
      { document := { document with tree := tree }, failure := some (.malformedTree fault) }

/-- Reports attributes that are given twice. -/
def duplicateReporting : Pass where
  name := "component_markup_diagnostics"
  order := 100
  applies := Document.admitsComponentPasses
  run document := { document := { document with tree := document.tree.reportDuplicates.2 } }

end Pass

/-- The passes that every compiler has. -/
def Pipeline.standard : Pipeline :=
  Pipeline.empty.registerAll [Pass.splatLowering, Pass.duplicateReporting]

end ComponentMarkup
