/-
  ComponentMarkup.Catalog.Definition
  ────────────────────────────────
  **Entries of a catalog as they are written.**

  A definition is a tag helper in the words of a catalog file.  Nothing in it is mandatory while
  it is read; what a tag helper cannot do without is asked for when the definition is built.  It
  says nothing of diagnostics: those come from validation alone.
-/
import ComponentMarkup.Declaration.Build

namespace ComponentMarkup

/-! ## §1. The parts of a definition. -/

/-- A parameter as a catalog defines it. -/
structure ParameterDefinition where
  name : Option String := none
  typeName : Option String := none
  isEnum : Bool := false
  documentation : Option String := none
  displayName : Option String := none
  metadata : Metadata := .empty
deriving DecidableEq

/-- A bound attribute as a catalog defines it. -/
structure AttributeDefinition where
  name : Option String := none
  typeName : Option String := none
  isEnum : Bool := false
  indexerNamePrefix : Option String := none
  indexerTypeName : Option String := none
  documentation : Option String := none
  displayName : Option String := none
  metadata : Metadata := .empty
  parameters : List ParameterDefinition := []
deriving DecidableEq

/-- A required attribute as a catalog defines it. -/
structure RequirementDefinition where
  name : Option String := none
  comparison : NameComparison := .fullMatch
  value : Option String := none
deriving DecidableEq

/-- A rule as a catalog defines it. -/
structure RuleDefinition where
  tagName : Option String := none
  parentTag : Option String := none
  requirements : List RequirementDefinition := []
deriving DecidableEq

/-- A tag helper as a catalog defines it. -/
structure TagHelperDefinition where
  kind : Option String := none
  name : Option String := none
  assemblyName : Option String := none
  displayName : Option String := none
  documentation : Option String := none
  tagOutputHint : Option String := none
  metadata : Metadata := .empty
  attributes : List AttributeDefinition := []
  rules : List RuleDefinition := []
deriving DecidableEq

/-! ## §2. From definitions to declarations. -/

/-- The declaration of a parameter of the given kind. -/
def ParameterDefinition.declaration (kind : String) (defined : ParameterDefinition) :
    ParameterDeclaration where
  kind := kind
  name := defined.name
  typeName := defined.typeName
  isEnum := defined.isEnum
  documentation := defined.documentation
  displayName := defined.displayName
  metadata := defined.metadata

/-- The declaration of a bound attribute of the given kind.  The type of an indexer counts only
if there is a prefix for it. -/
def AttributeDefinition.declaration (kind : String) (defined : AttributeDefinition) :
    AttributeDeclaration where
  kind := kind
  name := defined.name
  typeName := defined.typeName
  isEnum := defined.isEnum
  indexer := defined.indexerNamePrefix.map fun namePrefix =>
    ⟨namePrefix, defined.indexerTypeName.getD ""⟩
  documentation := defined.documentation
  displayName := defined.displayName
  metadata := defined.metadata
  parameters := defined.parameters.map (·.declaration kind)

/-- The declaration of a required attribute. -/
def RequirementDefinition.declaration (defined : RequirementDefinition) :
    RequirementDeclaration where
  name := defined.name
  comparison := defined.comparison
  value := defined.value

/-- The declaration of a rule. -/
def RuleDefinition.declaration (defined : RuleDefinition) : RuleDeclaration where
  tagName := defined.tagName
  parentTag := defined.parentTag
  requirements := defined.requirements.map (·.declaration)

/-- A text that must be there, though it may still be empty. -/
def presentText (argument : RequiredArgument) : Option String → Except CompileError String
  | some text => .ok text
  | none => .error (.missingArgument argument)

namespace TagHelperDefinition

/-- The declaration of a tag helper.  Missing texts are reported before empty ones. -/
def declaration (defined : TagHelperDefinition) : Except CompileError TagHelperDeclaration := do
  let kind ← presentText .kind defined.kind
  let name ← presentText .name defined.name
  let assemblyName ← presentText .assemblyName defined.assemblyName
  -- All three texts are there; only now may one of them turn out to be empty.
  let declared ← TagHelperDeclaration.create kind name assemblyName
  return { declared with
    displayName := defined.displayName
    documentation := defined.documentation
    tagOutputHint := defined.tagOutputHint
    metadata := defined.metadata
    attributes := defined.attributes.map (·.declaration kind)
    rules := defined.rules.map (·.declaration) }

/-- The tag helper that is defined. -/
def build (defined : TagHelperDefinition) : Except CompileError TagHelper := do
  return (← defined.declaration).build

end TagHelperDefinition

end ComponentMarkup
