/-
  ComponentMarkup.TagHelper.Basic
  ────────────────────────────────
  **What is known of a tag helper.**

  A tag helper is a custom markup construct: a component, or a feature of the component model
  such as two-way binding.  It lists the attributes that it binds and the rules for the elements
  it applies to; attributes have parameters and rules require attributes.  All five are called
  descriptors, and each carries the diagnostics that its declaration earned.
-/
import ComponentMarkup.Diagnostic.Basic
import ComponentMarkup.DisplayName
import ComponentMarkup.Metadata
import ComponentMarkup.Text.Utf8

namespace ComponentMarkup

/-! ## §1. Parameters. -/

/-- A qualifier of a bound attribute at a usage, such as the format of a binding. -/
structure AttributeParameter where
  kind : String
  name : Option String
  typeName : Option String
  documentation : Option String
  displayName : Option String
  isEnum : Bool
  metadata : Metadata
  diagnostics : List Diagnostic
deriving DecidableEq, Inhabited

namespace AttributeParameter

/-- The property that the parameter writes to. -/
def propertyName (parameter : AttributeParameter) : Option String :=
  parameter.metadata.get? Metadata.propertyNameKey

/-- Whether the parameter holds a text. -/
def isString (parameter : AttributeParameter) : Bool :=
  DisplayName.isStringType parameter.typeName

/-- Whether the parameter holds a truth value. -/
def isBoolean (parameter : AttributeParameter) : Bool :=
  DisplayName.isBooleanType parameter.typeName

end AttributeParameter

/-! ## §2. Bound attributes. -/

/-- How one bound attribute binds every attribute whose name starts in the same way, each to
an entry of a dictionary. -/
structure Indexer where
  namePrefix : String
  valueTypeName : String
deriving DecidableEq, Inhabited

/-- An attribute that a tag helper binds to a property. -/
structure BoundAttribute where
  kind : String
  name : Option String
  typeName : Option String
  documentation : Option String
  displayName : Option String
  isEnum : Bool
  indexer : Option Indexer
  parameters : List AttributeParameter
  metadata : Metadata
  diagnostics : List Diagnostic
deriving DecidableEq, Inhabited

namespace BoundAttribute

/-- The property that the attribute writes to. -/
def propertyName (bound : BoundAttribute) : Option String :=
  bound.metadata.get? Metadata.propertyNameKey

/-- Whether the attribute is a directive attribute, written with a marker. -/
def isDirective (bound : BoundAttribute) : Bool :=
  bound.metadata.isSet Metadata.directiveAttributeKey

/-- Whether the attribute holds a text. -/
def isString (bound : BoundAttribute) : Bool :=
  DisplayName.isStringType bound.typeName

/-- Whether the attribute holds a truth value. -/
def isBoolean (bound : BoundAttribute) : Bool :=
  DisplayName.isBooleanType bound.typeName

/-- The start of the names that the indexer binds. -/
def indexerNamePrefix (bound : BoundAttribute) : Option String :=
  bound.indexer.map Indexer.namePrefix

/-- The type of the values that the indexer binds. -/
def indexerValueTypeName (bound : BoundAttribute) : Option String :=
  bound.indexer.map Indexer.valueTypeName

/-- Whether an attribute written at a usage is the one with this name, up to the case of ASCII
letters. -/
def matchesOwnName (bound : BoundAttribute) (written : String) : Bool :=
  bound.name.any fun name =>
    Text.sameIgnoringCase (Text.utf8 name.toList) (Text.utf8 written.toList)

/-- The test whether an attribute written at a usage is bound by the indexer: its name starts with
the indexer's prefix and goes on after it. -/
def matchesIndexer? (bound : BoundAttribute) (written : String) : Option Bool :=
  match bound.indexerNamePrefix with
  | some start =>
    if (Text.utf8 start.toList).length < (Text.utf8 written.toList).length then
      Text.startsIgnoringCase? written.toList start.toList
    else some false
  | none => some false

/-- The test whether an attribute written at a usage is bound by this one.  The indexer is asked
only about other names than the attribute's own. -/
def matchesName? (bound : BoundAttribute) (written : String) : Option Bool :=
  if bound.matchesOwnName written then some true else bound.matchesIndexer? written

/-- Whether an attribute written at a usage is bound by this one. -/
def matchesName (bound : BoundAttribute) (written : String) : Bool :=
  (bound.matchesName? written).getD false

/-- The attribute's diagnostics, followed by those of its parameters. -/
def diagnosticsWithin (bound : BoundAttribute) : List Diagnostic :=
  bound.diagnostics ++ bound.parameters.flatMap AttributeParameter.diagnostics

end BoundAttribute

/-! ## §3. Rules for elements. -/

/-- How the name of a required attribute is compared with the names at a usage. -/
inductive NameComparison where
  | fullMatch
  | prefixMatch
deriving DecidableEq, Repr

namespace NameComparison

instance : Inhabited NameComparison := ⟨.fullMatch⟩

/-- The name of a comparison. -/
def name : NameComparison → String
  | .fullMatch => "fullMatch"
  | .prefixMatch => "prefixMatch"

/-- The comparison with a given name. -/
def ofName? (text : String) : Option NameComparison :=
  [fullMatch, prefixMatch].find? fun comparison => comparison.name == text

@[simp] theorem ofName?_name (comparison : NameComparison) :
    ofName? comparison.name = some comparison := by
  cases comparison <;> rfl

end NameComparison

/-- An attribute that an element must have for a rule to match it. -/
structure RequiredAttribute where
  name : Option String
  comparison : NameComparison
  value : Option String
  diagnostics : List Diagnostic
deriving DecidableEq, Inhabited

/-- Which elements a tag helper applies to. -/
structure ElementRule where
  tagName : Option String
  parentTag : Option String
  attributes : List RequiredAttribute
  diagnostics : List Diagnostic
deriving DecidableEq, Inhabited

namespace ElementRule

/-- The tag name that stands for every element. -/
def catchAll : String := "*"

/-- Whether the rule matches every element. -/
def isCatchAll (rule : ElementRule) : Bool := rule.tagName == some catchAll

/-- The rule's diagnostics, followed by those of the attributes it requires. -/
def diagnosticsWithin (rule : ElementRule) : List Diagnostic :=
  rule.diagnostics ++ rule.attributes.flatMap RequiredAttribute.diagnostics

end ElementRule

/-! ## §4. Tag helpers. -/

/-- A custom markup construct. -/
structure TagHelper where
  kind : String
  name : String
  assemblyName : String
  displayName : String
  documentation : Option String
  tagOutputHint : Option String
  attributes : List BoundAttribute
  rules : List ElementRule
  metadata : Metadata
  diagnostics : List Diagnostic
deriving DecidableEq, Inhabited

/-- A feature of the component model that tag helpers stand for. -/
inductive ModelFeature where
  | splat
  | bind
  | eventHandler
  | key
  | ref
  | childContent
deriving DecidableEq, Repr

/-- The metadata value that names a feature. -/
def ModelFeature.text : ModelFeature → String
  | .splat => "Components.Splat"
  | .bind => "Components.Bind"
  | .eventHandler => "Components.EventHandler"
  | .key => "Components.Key"
  | .ref => "Components.Ref"
  | .childContent => "Components.ChildContent"

namespace TagHelper

/-- The kind of the tag helpers that are components. -/
def componentKind : String := "Components.Component"

/-- The full name of the type that implements the tag helper. -/
def typeName (helper : TagHelper) : Option String :=
  helper.metadata.get? Metadata.typeNameKey

/-- What the attributes have to know of the tag helper. -/
def owner (helper : TagHelper) : Owner :=
  ⟨helper.displayName, helper.typeName⟩

/-- Whether the tag helper is a component, and not a feature of the component model. -/
def isComponent (helper : TagHelper) : Bool :=
  helper.kind == componentKind && !helper.metadata.contains Metadata.featureKey

/-- Whether the tag helper stands for a feature. -/
def standsFor (helper : TagHelper) (feature : ModelFeature) : Bool :=
  helper.metadata.get? Metadata.featureKey == some feature.text

/-- Whether the tag helper captures all attributes that nothing else binds. -/
def isSplat (helper : TagHelper) : Bool := helper.standsFor .splat

/-- Whether the tag helper is a generic component. -/
def isGeneric (helper : TagHelper) : Bool :=
  helper.isComponent && helper.metadata.isSet Metadata.genericKey

/-- The first attribute that binds an attribute written at a usage. -/
def findAttribute? (helper : TagHelper) (written : String) : Option BoundAttribute :=
  helper.attributes.find? (·.matchesName written)

/-- The tag helper's diagnostics, followed by those of its attributes and then of its rules. -/
def diagnosticsWithin (helper : TagHelper) : List Diagnostic :=
  helper.diagnostics ++ helper.attributes.flatMap BoundAttribute.diagnosticsWithin
    ++ helper.rules.flatMap ElementRule.diagnosticsWithin

end TagHelper

end ComponentMarkup
