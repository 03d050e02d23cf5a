/-
  ComponentMarkup.TagHelper.Json
  ────────────────────────────────
  **Descriptors as JSON.**

  A descriptor is shown as a record of its fields and of what follows from them.  Metadata is a
  list of pairs, which keeps its order.
-/
import ComponentMarkup.Diagnostic.Json
import ComponentMarkup.TagHelper.Basic

namespace ComponentMarkup

/-- The entries of some metadata as a JSON list of pairs. -/
def Metadata.toJson (metadata : Metadata) : Json :=
  .array (metadata.entries.map fun entry => .ofTexts [entry.1, entry.2])

/-- The parameter as a JSON value. -/
def AttributeParameter.toJson (parameter : AttributeParameter) : Json :=
  .ofMembers
    [("kind", .ofText parameter.kind), ("name", .ofText? parameter.name),
     ("typeName", .ofText? parameter.typeName), ("documentation", .ofText? parameter.documentation),
     ("displayName", .ofText? parameter.displayName), ("isEnum", .bool parameter.isEnum),
     ("isString", .bool parameter.isString), ("isBoolean", .bool parameter.isBoolean),
     ("propertyName", .ofText? parameter.propertyName), ("metadata", parameter.metadata.toJson),
     ("diagnostics", Diagnostic.listToJson parameter.diagnostics),
     ("hasErrors", .bool (hasErrors parameter.diagnostics))]

/-- The members of the bound attribute's JSON object. -/
def BoundAttribute.jsonMembers (bound : BoundAttribute) : List (String × Json) :=
  [("kind", .ofText bound.kind), ("name", .ofText? bound.name),
   ("typeName", .ofText? bound.typeName), ("documentation", .ofText? bound.documentation),
   ("displayName", .ofText? bound.displayName), ("isEnum", .bool bound.isEnum),
   ("isString", .bool bound.isString), ("isBoolean", .bool bound.isBoolean),
   ("isDictionary", .bool bound.indexer.isSome), ("hasIndexer", .bool bound.indexer.isSome),
   ("indexerNamePrefix", .ofText? bound.indexerNamePrefix),
   ("indexerValueTypeName", .ofText? bound.indexerValueTypeName),
   ("isIndexerString", .bool (DisplayName.isStringType bound.indexerValueTypeName)),
   ("isIndexerBoolean", .bool (DisplayName.isBooleanType bound.indexerValueTypeName)),
   ("isDirectiveAttribute", .bool bound.isDirective),
   ("propertyName", .ofText? bound.propertyName),
   ("parameters", .array (bound.parameters.map AttributeParameter.toJson)),
   ("metadata", bound.metadata.toJson), ("diagnostics", Diagnostic.listToJson bound.diagnostics),
   ("hasErrors", .bool (hasErrors bound.diagnostics))]

/-- The required attribute as a JSON value. -/
def RequiredAttribute.toJson (required : RequiredAttribute) : Json :=
  .ofMembers
    [("name", .ofText? required.name), ("value", .ofText? required.value),
     ("nameComparison", .ofText required.comparison.name),
     ("diagnostics", Diagnostic.listToJson required.diagnostics)]

/-- The rule as a JSON value. -/
def ElementRule.toJson (rule : ElementRule) : Json :=
  .ofMembers
    [("tagName", .ofText? rule.tagName), ("parentTag", .ofText? rule.parentTag),
     ("isCatchAll", .bool rule.isCatchAll),
     ("attributes", .array (rule.attributes.map RequiredAttribute.toJson)),
     ("diagnostics", Diagnostic.listToJson rule.diagnostics),
     ("hasErrors", .bool (hasErrors rule.diagnosticsWithin)),
     ("allDiagnosticIds", Diagnostic.idsToJson rule.diagnosticsWithin)]

namespace TagHelper

/-- The words for what a tag helper can be, each with the test for it. -/
def roles : List (String × (TagHelper → Bool)) :=
  [("component", isComponent), ("splat", isSplat), ("bind", (·.standsFor .bind)),
   ("eventHandler", (·.standsFor .eventHandler)), ("key", (·.standsFor .key)),
   ("ref", (·.standsFor .ref)), ("childContent", (·.standsFor .childContent)),
   ("genericTyped", isGeneric)]

/-- The members of the tag helper's JSON object. -/
def jsonMembers (helper : TagHelper) : List (String × Json) :=
  [("kind", .ofText helper.kind), ("name", .ofText helper.name),
   ("assemblyName", .ofText helper.assemblyName), ("displayName", .ofText helper.displayName),
   ("documentation", .ofText? helper.documentation),
   ("tagOutputHint", .ofText? helper.tagOutputHint), ("typeName", .ofText? helper.typeName),
   ("is", .ofTexts ((roles.filter fun role => role.2 helper).map Prod.fst)),
   ("metadata", helper.metadata.toJson),
   ("boundAttributes",
    .array (helper.attributes.map fun bound => .ofMembers bound.jsonMembers)),
   ("tagMatchingRules", .array (helper.rules.map ElementRule.toJson)),
   ("diagnostics", Diagnostic.listToJson helper.diagnostics),
   ("hasErrors", .bool (hasErrors helper.diagnosticsWithin)),
   ("allDiagnosticIds", Diagnostic.idsToJson helper.diagnosticsWithin)]

end TagHelper

end ComponentMarkup
