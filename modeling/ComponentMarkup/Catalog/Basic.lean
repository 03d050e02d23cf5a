/-
  ComponentMarkup.Catalog.Basic
  ────────────────────────────────
  **Catalogs of tag helpers.**

  A catalog is the list of tag helpers that documents are compiled against.  It is built from
  definitions all at once: the first one that lacks a mandatory text fails the whole catalog.
  Tag helpers with diagnostics stay in it.
-/
import ComponentMarkup.Catalog.Json
import ComponentMarkup.LoadFailure

namespace ComponentMarkup

/-- The tag helpers that a compilation knows. -/
structure Catalog where
  tagHelpers : List TagHelper
deriving DecidableEq

namespace Catalog

/-- The catalog without tag helpers. -/
def empty : Catalog := ⟨[]⟩

instance : Inhabited Catalog := ⟨empty⟩

/-! ## §1. Building. -/

/-- The catalog of a list of definitions. -/
def ofDefinitions (definitions : List TagHelperDefinition) : Except CompileError Catalog := do
  return ⟨← definitions.mapM (·.build)⟩

/-- The catalog that a JSON value holds: a list of definitions. -/
def ofJson (value : Option Json) : Except LoadFailure Catalog := do
  let definitions ← LoadFailure.within "catalog is not a list of tag helper definitions"
    (LoadFailure.ofReading (value.bind (Json.list? TagHelperDefinition.ofJson?)))
  LoadFailure.ofCompileError (ofDefinitions definitions)

/-- The catalog that a JSON text holds. -/
def ofJsonText (text : String) : Except LoadFailure Catalog := ofJson (Json.parse? text)

/-! ## §2. Reading. -/

/-- The first tag helper with a given name. -/
def find? (catalog : Catalog) (name : String) : Option TagHelper :=
  catalog.tagHelpers.find? (·.name == name)

/-- Every diagnostic in the catalog, with the tag helper that it belongs to. -/
def diagnostics (catalog : Catalog) : List (TagHelper × Diagnostic) :=
  catalog.tagHelpers.flatMap fun helper => helper.diagnosticsWithin.map fun report =>
    (helper, report)

/-- Whether some tag helper has an error. -/
def hasErrors (catalog : Catalog) : Bool :=
  catalog.tagHelpers.any fun helper => ComponentMarkup.hasErrors helper.diagnosticsWithin

end Catalog

end ComponentMarkup
