/-
  ComponentMarkup.TagHelper.Equality
  ────────────────────────────────
  **When two descriptors describe the same thing.**

  Descriptors are compared field by field, except that diagnostics do not count and metadata may
  stand in any order.  Names are compared exactly or up to letter case, where each character is
  replaced by its lower case on its own.
-/
import ComponentMarkup.TagHelper.Basic
import ComponentMarkup.Text.LowerCase

namespace ComponentMarkup

/-! ## §1. Names. -/

/-- Whether letter case counts in names. -/
inductive NameCasing where
  | ignoringCase
  | exact
deriving DecidableEq, Repr

namespace NameCasing

/-- What of a name counts. -/
def fold : NameCasing → String → List Char
  | .ignoringCase, name => Text.lowerEach name.toList
  | .exact, name => name.toList

/-- Whether two names are the same, or both missing. -/
def sameName (casing : NameCasing) (x y : Option String) : Bool :=
  x.map casing.fold == y.map casing.fold

@[simp] theorem fold_exact (name : String) : exact.fold name = name.toList := rfl

@[simp] theorem fold_ignoringCase (name : String) :
    ignoringCase.fold name = Text.lowerEach name.toList := rfl

theorem sameName_iff (casing : NameCasing) (x y : Option String) :
    casing.sameName x y = true ↔ x.map casing.fold = y.map casing.fold := by
  simp [sameName]

end NameCasing

/-! ## §2. Descriptors. -/

/-- Whether two parameters are the same. -/
def AttributeParameter.same (casing : NameCasing) (x y : AttributeParameter) : Bool :=
  x.kind == y.kind && x.isEnum == y.isEnum && casing.sameName x.name y.name
    && x.typeName == y.typeName && x.documentation == y.documentation
    && x.displayName == y.displayName && x.metadata.agrees y.metadata

/-- Whether two bound attributes are the same. -/
def BoundAttribute.same (casing : NameCasing) (x y : BoundAttribute) : Bool :=
  x.kind == y.kind && x.isEnum == y.isEnum && casing.sameName x.name y.name
    && casing.sameName x.indexerNamePrefix y.indexerNamePrefix
    && x.indexerValueTypeName == y.indexerValueTypeName
    && x.typeName == y.typeName && x.documentation == y.documentation
    && x.displayName == y.displayName && x.metadata.agrees y.metadata
    && x.parameters.isEqv y.parameters (AttributeParameter.same casing)

/-- Whether two required attributes are the same. -/
def RequiredAttribute.same (casing : NameCasing) (x y : RequiredAttribute) : Bool :=
  x.comparison == y.comparison && casing.sameName x.name y.name && x.value == y.value

/-- Whether two rules are the same. -/
def ElementRule.same (casing : NameCasing) (x y : ElementRule) : Bool :=
  casing.sameName x.tagName y.tagName && casing.sameName x.parentTag y.parentTag
    && x.attributes.isEqv y.attributes (RequiredAttribute.same casing)

/-- Whether two tag helpers are the same. -/
def TagHelper.same (casing : NameCasing) (x y : TagHelper) : Bool :=
  x.kind == y.kind && casing.sameName (some x.name) (some y.name)
    && x.assemblyName == y.assemblyName && x.documentation == y.documentation
    && x.displayName == y.displayName && x.tagOutputHint == y.tagOutputHint
    && x.metadata.agrees y.metadata
    && x.attributes.isEqv y.attributes (BoundAttribute.same casing)
    && x.rules.isEqv y.rules (ElementRule.same casing)

end ComponentMarkup
