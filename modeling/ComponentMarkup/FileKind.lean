/-
  ComponentMarkup.FileKind
  ────────────────────────────────
  **Kinds of files.**

  The kind of the file that is compiled decides which document kind the root of its tree carries
  and which capabilities its parser has.
-/
import ComponentMarkup.CompileError

namespace ComponentMarkup

/-- The document kind at the root of component documents. -/
def componentDocumentKind : String := "component.1.0"

/-- The document kind at the root of legacy views. -/
def legacyDocumentKind : String := "mvc.1.0.view"

/-- The kind of a file that is compiled. -/
inductive FileKind where
  | legacy
  | component
  | componentImport
deriving DecidableEq, Repr

namespace FileKind

instance : Inhabited FileKind := ⟨.component⟩

/-- Whether files of this kind hold components. -/
def isComponent : FileKind → Bool
  | .legacy => false
  | .component | .componentImport => true

/-- The document kind at the root of such a file's tree. -/
def documentKind (kind : FileKind) : String :=
  if kind.isComponent then componentDocumentKind else legacyDocumentKind

/-- The name of the kind. -/
def name : FileKind → String
  | .legacy => "legacy"
  | .component => "component"
  | .componentImport => "componentImport"

/-- The kind with a given name. -/
def ofName? (text : String) : Option FileKind :=
  [legacy, component, componentImport].find? fun kind => kind.name == text

@[simp] theorem ofName?_name (kind : FileKind) : ofName? kind.name = some kind := by
  cases kind <;> rfl

/-- The kind that a text names; legacy views have a second name. -/
def ofText (text : String) : Except CompileError FileKind :=
  if text = "mvc" then .ok legacy
  else match ofName? text with
    | some kind => .ok kind
    | none => .error (.unknownFileKind text)

end FileKind

end ComponentMarkup
