/-
  ComponentMarkup.Declaration.Basic
  ────────────────────────────────
  **What an author declares.**

  A tag helper is declared clause by clause, and so are its bound attributes, their parameters
  and its rules.  A clause sets a field, adds an entry, or opens a declaration inside another one.
  Clauses are read from left to right, so that of two clauses for the same field the later one
  counts.
-/
import ComponentMarkup.CompileError
import ComponentMarkup.TagHelper.Basic

namespace ComponentMarkup

/-! ## §1. Parameters. -/

/-- The declaration of a parameter. -/
structure ParameterDeclaration where
  kind : String
  name : Option String := none
  typeName : Option String := none
  isEnum : Bool := false
  documentation : Option String := none
  displayName : Option String := none
  metadata : Metadata := .empty
  diagnostics : List Diagnostic := []
deriving DecidableEq

/-- A clause in the declaration of a parameter. -/
inductive ParameterClause where
  | name (text : String)
  | typeName (text : String)
  | isEnum (value : Bool)
  | documentation (text : String)
  | displayName (text : String)
  | metadata (key value : String)
  | propertyName (text : String)
  | diagnostic (report : Diagnostic)
deriving DecidableEq

namespace ParameterDeclaration

/-- A declaration that says nothing but its kind, which must not be empty. -/
def create (kind : String) : Except CompileError ParameterDeclaration := do
  return { kind := ← requireText .kind kind }

/-- The declaration with one more clause. -/
def withClause (declared : ParameterDeclaration) : ParameterClause → ParameterDeclaration
  | .name text => { declared with name := some text }
  | .typeName text => { declared with typeName := some text }
  | .isEnum value => { declared with isEnum := value }
  | .documentation text => { declared with documentation := some text }
  | .displayName text => { declared with displayName := some text }
  | .metadata key value => { declared with metadata := declared.metadata.insert key value }
  | .propertyName text =>
    { declared with metadata := declared.metadata.insert Metadata.propertyNameKey text }
  | .diagnostic report => { declared with diagnostics := declared.diagnostics ++ [report] }

/-- The declaration with more clauses, from first to last. -/
def withClauses (declared : ParameterDeclaration) (clauses : List ParameterClause) :
    ParameterDeclaration :=
  clauses.foldl withClause declared

end ParameterDeclaration

/-! ## §2. Bound attributes. -/

/-- The declaration of a bound attribute. -/
structure AttributeDeclaration where
  kind : String
  name : Option String := none
  typeName : Option String := none
  isEnum : Bool := false
  indexer : Option Indexer := none
  documentation : Option String := none
  displayName : Option String := none
  metadata : Metadata := .empty
  parameters : List ParameterDeclaration := []
  diagnostics : List Diagnostic := []
deriving DecidableEq

/-- A clause in the declaration of a bound attribute. -/
inductive AttributeClause where
  | name (text : String)
  | typeName (text : String)
  | isEnum (value : Bool)
  | dictionary (namePrefix valueTypeName : String)
  | documentation (text : String)
  | displayName (text : String)
  | metadata (key value : String)
  | propertyName (text : String)
  | directive
  | parameter (clauses : List ParameterClause)
  | diagnostic (report : Diagnostic)
deriving DecidableEq

namespace AttributeDeclaration

/-- A declaration that says nothing but its kind, which must not be empty. -/
def create (kind : String) : Except CompileError AttributeDeclaration := do
  return { kind := ← requireText .kind kind }

/-- Whether the attribute is declared as a directive attribute. -/
def isDirective (declared : AttributeDeclaration) : Bool :=
  declared.metadata.isSet Metadata.directiveAttributeKey

/-- The declaration with one more clause.  A parameter is of the kind of its attribute. -/
def withClause (declared : AttributeDeclaration) : AttributeClause → AttributeDeclaration
  | .name text => { declared with name := some text }
  | .typeName text => { declared with typeName := some text }
  | .isEnum value => { declared with isEnum := value }
  | .dictionary namePrefix valueTypeName =>
    { declared with indexer := some ⟨namePrefix, valueTypeName⟩ }
  | .documentation text => { declared with documentation := some text }
  | .displayName text => { declared with displayName := some text }
  | .metadata key value => { declared with metadata := declared.metadata.insert key value }
  | .propertyName text =>
    { declared with metadata := declared.metadata.insert Metadata.propertyNameKey text }
  | .directive =>
    { declared with
      metadata := declared.metadata.insert Metadata.directiveAttributeKey Metadata.trueText }
  | .parameter clauses =>
    let parameter : ParameterDeclaration := { kind := declared.kind }
    { declared with parameters := declared.parameters ++ [parameter.withClauses clauses] }
  | .diagnostic report => { declared with diagnostics := declared.diagnostics ++ [report] }

/-- The declaration with more clauses, from first to last. -/
def withClauses (declared : AttributeDeclaration) (clauses : List AttributeClause) :
    AttributeDeclaration :=
  clauses.foldl withClause declared

end AttributeDeclaration

/-! ## §3. Rules. -/

/-- The declaration of a required attribute. -/
structure RequirementDeclaration where
  name : Option String := none
  comparison : NameComparison := .fullMatch
  value : Option String := none
deriving DecidableEq

/-- A clause in the declaration of a required attribute. -/
inductive RequirementClause where
  | name (text : String)
  | value (text : String)
  | comparison (choice : NameComparison)
deriving DecidableEq

namespace RequirementDeclaration

/-- The declaration with one more clause. -/
def withClause (declared : RequirementDeclaration) : RequirementClause → RequirementDeclaration
  | .name text => { declared with name := some text }
  | .value text => { declared with value := some text }
  | .comparison choice => { declared with comparison := choice }

/-- The declaration with more clauses, from first to last. -/
def withClauses (declared : RequirementDeclaration) (clauses : List RequirementClause) :
    RequirementDeclaration :=
  clauses.foldl withClause declared

end RequirementDeclaration

/-- The declaration of a rule. -/
structure RuleDeclaration where
  tagName : Option String := none
  parentTag : Option String := none
  requirements : List RequirementDeclaration := []
deriving DecidableEq

/-- A clause in the declaration of a rule. -/
inductive RuleClause where
  | tagName (text : String)
  | parentTag (text : String)
  | requirement (clauses : List RequirementClause)
deriving DecidableEq

namespace RuleDeclaration

/-- The declaration with one more clause. -/
def withClause (declared : RuleDeclaration) : RuleClause → RuleDeclaration
  | .tagName text => { declared with tagName := some text }
  | .parentTag text => { declared with parentTag := some text }
  | .requirement clauses =>
    let required : RequirementDeclaration := {}
    { declared with requirements := declared.requirements ++ [required.withClauses clauses] }

/-- The declaration with more clauses, from first to last. -/
def withClauses (declared : RuleDeclaration) (clauses : List RuleClause) : RuleDeclaration :=
  clauses.foldl withClause declared

end RuleDeclaration

/-! ## §4. Tag helpers. -/

/-- The declaration of a tag helper. -/
structure TagHelperDeclaration where
  kind : String
  name : String
  assemblyName : String
  displayName : Option String := none
  documentation : Option String := none
  tagOutputHint : Option String := none
  metadata : Metadata := .empty
  attributes : List AttributeDeclaration := []
  rules : List RuleDeclaration := []
  diagnostics : List Diagnostic := []
deriving DecidableEq

/-- A clause in the declaration of a tag helper. -/
inductive TagHelperClause where
  | displayName (text : String)
  | documentation (text : String)
  | tagOutputHint (text : String)
  | metadata (key value : String)
  | typeName (text : String)
  | boundAttribute (clauses : List AttributeClause)
  | matchingRule (clauses : List RuleClause)
  | diagnostic (report : Diagnostic)
deriving DecidableEq

namespace TagHelperDeclaration

/-- A declaration that says nothing but its kind, its name and its assembly's name, none of which
may be empty. -/
def create (kind name assemblyName : String) : Except CompileError TagHelperDeclaration := do
  return {
    kind := ← requireText .kind kind
    name := ← requireText .name name
    assemblyName := ← requireText .assemblyName assemblyName }

/-- The declaration with one more clause.  A bound attribute is of the kind of its tag helper. -/
def withClause (declared : TagHelperDeclaration) : TagHelperClause → TagHelperDeclaration
  | .displayName text => { declared with displayName := some text }
  | .documentation text => { declared with documentation := some text }
  | .tagOutputHint text => { declared with tagOutputHint := some text }
  | .metadata key value => { declared with metadata := declared.metadata.insert key value }
  | .typeName text =>
    { declared with metadata := declared.metadata.insert Metadata.typeNameKey text }
  | .boundAttribute clauses =>
    let bound : AttributeDeclaration := { kind := declared.kind }
    { declared with attributes := declared.attributes ++ [bound.withClauses clauses] }
  | .matchingRule clauses =>
    let rule : RuleDeclaration := {}
    { declared with rules := declared.rules ++ [rule.withClauses clauses] }
  | .diagnostic report => { declared with diagnostics := declared.diagnostics ++ [report] }

/-- The declaration with more clauses, from first to last. -/
def withClauses (declared : TagHelperDeclaration) (clauses : List TagHelperClause) :
    TagHelperDeclaration :=
  clauses.foldl withClause declared

end TagHelperDeclaration

end ComponentMarkup
