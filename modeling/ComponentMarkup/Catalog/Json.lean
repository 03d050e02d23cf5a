/-
  ComponentMarkup.Catalog.Json
  ────────────────────────────────
  **Definitions from JSON.**

  Each part of a definition is a record.  A text may be missing or null; a flag, a map or a list
  may be missing, and has a value of its own then, but must not be null.
-/
import ComponentMarkup.Catalog.Definition
import ComponentMarkup.Json.Reader
import ComponentMarkup.Json.Record

namespace ComponentMarkup

/-- A map from keys to texts; of equal keys the last value counts, in the place of the first. -/
def Metadata.ofJson? (value : Json) : Option Metadata :=
  (Json.textEntries? value).map Metadata.ofList

namespace ParameterDefinition

/-- The keys of a parameter, in order. -/
def jsonKeys : List String :=
  ["name", "typeName", "isEnum", "documentation", "displayName", "metadata"]

/-- The parameter that a JSON value defines. -/
def ofJson? (value : Json) : Option ParameterDefinition :=
  match Json.fields? jsonKeys value with
  | some [name, typeName, isEnum, documentation, displayName, metadata] => do
    return {
      name := ← Json.optional Json.text? name
      typeName := ← Json.optional Json.text? typeName
      isEnum := ← Json.withDefault false Json.bool? isEnum
      documentation := ← Json.optional Json.text? documentation
      displayName := ← Json.optional Json.text? displayName
      metadata := ← Json.withDefault .empty Metadata.ofJson? metadata }
  | _ => none

end ParameterDefinition

namespace AttributeDefinition

/-- The keys of a bound attribute, in order. -/
def jsonKeys : List String :=
  ["name", "typeName", "isEnum", "indexerNamePrefix", "indexerTypeName", "documentation",
   "displayName", "metadata", "parameters"]

/-- The bound attribute that a JSON value defines. -/
def ofJson? (value : Json) : Option AttributeDefinition :=
  match Json.fields? jsonKeys value with
  | some [name, typeName, isEnum, indexerNamePrefix, indexerTypeName, documentation, displayName,
      metadata, parameters] => do
    return {
      name := ← Json.optional Json.text? name
      typeName := ← Json.optional Json.text? typeName
      isEnum := ← Json.withDefault false Json.bool? isEnum
      indexerNamePrefix := ← Json.optional Json.text? indexerNamePrefix
      indexerTypeName := ← Json.optional Json.text? indexerTypeName
      documentation := ← Json.optional Json.text? documentation
      displayName := ← Json.optional Json.text? displayName
      metadata := ← Json.withDefault .empty Metadata.ofJson? metadata
      parameters := ← Json.withDefault [] (Json.list? ParameterDefinition.ofJson?) parameters }
  | _ => none

end AttributeDefinition

namespace RequirementDefinition

/-- The keys of a required attribute, in order. -/
def jsonKeys : List String := ["name", "nameComparison", "value"]

/-- The required attribute that a JSON value defines. -/
def ofJson? (value : Json) : Option RequirementDefinition :=
  match Json.fields? jsonKeys value with
  | some [name, comparison, text] => do
    return {
      name := ← Json.optional Json.text? name
      comparison := ←
        Json.withDefault .fullMatch (Json.choice? NameComparison.ofName?) comparison
      value := ← Json.optional Json.text? text }
  | _ => none

end RequirementDefinition

namespace RuleDefinition

/-- The keys of a rule, in order. -/
def jsonKeys : List String := ["tagName", "parentTag", "attributes"]

/-- The rule that a JSON value defines. -/
def ofJson? (value : Json) : Option RuleDefinition :=
  match Json.fields? jsonKeys value with
  | some [tagName, parentTag, requirements] => do
    return {
      tagName := ← Json.optional Json.text? tagName
      parentTag := ← Json.optional Json.text? parentTag
      requirements := ←
        Json.withDefault [] (Json.list? RequirementDefinition.ofJson?) requirements }
  | _ => none

end RuleDefinition

namespace TagHelperDefinition

/-- The keys of a tag helper, in order. -/
def jsonKeys : List String :=
  ["kind", "name", "assemblyName", "displayName", "documentation", "tagOutputHint", "metadata",
   "boundAttributes", "tagMatchingRules"]

/-- The tag helper that a JSON value defines. -/
def ofJson? (value : Json) : Option TagHelperDefinition :=
  match Json.fields? jsonKeys value with
  | some [kind, name, assemblyName, displayName, documentation, tagOutputHint, metadata,
      attributes, rules] => do
    return {
      kind := ← Json.optional Json.text? kind
      name := ← Json.optional Json.text? name
      assemblyName := ← Json.optional Json.text? assemblyName
      displayName := ← Json.optional Json.text? displayName
      documentation := ← Json.optional Json.text? documentation
      tagOutputHint := ← Json.optional Json.text? tagOutputHint
      metadata := ← Json.withDefault .empty Metadata.ofJson? metadata
      attributes := ← Json.withDefault [] (Json.list? AttributeDefinition.ofJson?) attributes
      rules := ← Json.withDefault [] (Json.list? RuleDefinition.ofJson?) rules }
  | _ => none

end TagHelperDefinition

end ComponentMarkup
