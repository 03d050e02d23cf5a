/-
  ComponentMarkup.Declaration.Build
  ────────────────────────────────
  **From declarations to descriptors.**

  Building a declaration works out its display name, turns its problems into diagnostics and
  collapses repetitions: of equal parameters (letter case counts), bound attributes and rules
  (letter case does not count) the first one stays, and so it does of equal diagnostics, except
  in rules, which keep every one.  Building never fails.
-/
import ComponentMarkup.Declaration.Validation
import ComponentMarkup.TagHelper.Equality

namespace ComponentMarkup

/-- The diagnostics that report a list of problems. -/
def reportAll (problems : List Problem) : List Diagnostic := problems.map fun p => p.report

/-! ## §1. Parameters and bound attributes. -/

namespace ParameterDeclaration

/-- The name under which the parameter is shown: the chosen one, or one made of its types. -/
def shownName (owner : Owner) (declared : ParameterDeclaration) : Option String :=
  declared.displayName <|> DisplayName.compute declared.typeName owner.typeName
    (declared.metadata.get? Metadata.propertyNameKey) declared.name

/-- The descriptor of a parameter of the attribute that is shown under the given name. -/
def build (owner : Owner) (attributeName : String) (declared : ParameterDeclaration) :
    AttributeParameter where
  kind := declared.kind
  name := declared.name
  typeName := declared.typeName
  documentation := declared.documentation
  displayName := declared.shownName owner
  isEnum := declared.isEnum
  metadata := declared.metadata
  diagnostics := (reportAll (declared.problems attributeName) ++ declared.diagnostics).eraseDups

end ParameterDeclaration

namespace AttributeDeclaration

/-- The name under which the attribute is shown: the chosen one, or one made of its types. -/
def shownName (owner : Owner) (declared : AttributeDeclaration) : Option String :=
  declared.displayName <|> DisplayName.compute declared.typeName owner.typeName
    (declared.metadata.get? Metadata.propertyNameKey) declared.name

/-- The name that messages give the attribute. -/
def citedName (owner : Owner) (declared : AttributeDeclaration) : String :=
  (declared.shownName owner).getD ""

/-- The declared parameters, each built on its own. -/
def builtParameters (owner : Owner) (declared : AttributeDeclaration) : List AttributeParameter :=
  declared.parameters.map (·.build owner (declared.citedName owner))

/-- The descriptor of a bound attribute of the given tag helper. -/
def build (owner : Owner) (declared : AttributeDeclaration) : BoundAttribute where
  kind := declared.kind
  name := declared.name
  typeName := declared.typeName
  documentation := declared.documentation
  displayName := declared.shownName owner
  isEnum := declared.isEnum
  indexer := declared.indexer
  parameters := (declared.builtParameters owner).eraseDupsBy (AttributeParameter.same .exact)
  metadata := declared.metadata
  diagnostics :=
    (reportAll (declared.problems owner.displayName (declared.citedName owner))
      ++ declared.diagnostics).eraseDups

end AttributeDeclaration

/-! ## §2. Rules. -/

/-- The descriptor of a required attribute. -/
def RequirementDeclaration.build (declared : RequirementDeclaration) : RequiredAttribute where
  name := declared.name
  comparison := declared.comparison
  value := declared.value
  diagnostics := reportAll declared.problems

/-- The descriptor of a rule. -/
def RuleDeclaration.build (declared : RuleDeclaration) : ElementRule where
  tagName := declared.tagName
  parentTag := declared.parentTag
  attributes := declared.requirements.map (·.build)
  diagnostics := reportAll declared.problems

/-! ## §3. Tag helpers. -/

namespace TagHelperDeclaration

/-- The name under which the tag helper is shown. -/
def shownName (declared : TagHelperDeclaration) : String :=
  declared.displayName.getD declared.name

/-- What the bound attributes have to know of the tag helper, once all its clauses are read. -/
def owner (declared : TagHelperDeclaration) : Owner :=
  ⟨declared.shownName, declared.metadata.get? Metadata.typeNameKey⟩

/-- The declared bound attributes, each built on its own. -/
def builtAttributes (declared : TagHelperDeclaration) : List BoundAttribute :=
  declared.attributes.map (·.build declared.owner)

/-- The declared rules, each built on its own. -/
def builtRules (declared : TagHelperDeclaration) : List ElementRule :=
  declared.rules.map (·.build)

/-- The descriptor of a tag helper. -/
def build (declared : TagHelperDeclaration) : TagHelper where
  kind := declared.kind
  name := declared.name
  assemblyName := declared.assemblyName
  displayName := declared.shownName
  documentation := declared.documentation
  tagOutputHint := declared.tagOutputHint
  attributes := declared.builtAttributes.eraseDupsBy (BoundAttribute.same .ignoringCase)
  rules := declared.builtRules.eraseDupsBy (ElementRule.same .ignoringCase)
  metadata := declared.metadata
  diagnostics := declared.diagnostics.eraseDups

end TagHelperDeclaration

end ComponentMarkup
