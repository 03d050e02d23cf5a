/-
  ComponentMarkup.Diagnostic.Problem
  ────────────────────────────────
  **The problems that are reported, and their wording.**

  A problem holds the names that its message cites.  `report` turns it into a diagnostic, always
  an error; problems of a usage take along the place of the usage.
-/
import ComponentMarkup.Diagnostic.Basic

namespace ComponentMarkup

/-- The start of attribute names that belong to client script. -/
def dataDash : String := "data-"

/-- Something wrong in a declaration or at a usage.  Texts are given from the outside inwards:
tag helper, bound attribute, offending name, offending character. -/
inductive Problem where
  /-- A rule targets no tag name. -/
  | blankTagName
  /-- A rule targets a tag name with an illegal character. -/
  | illegalTagName (tagName : String) (character : Char)
  /-- A rule requires an attribute without a name. -/
  | blankRequiredAttribute
  /-- A rule requires an attribute whose name has an illegal character. -/
  | illegalRequiredAttribute (attributeName : String) (character : Char)
  /-- A bound attribute has neither a name nor a usable indexer prefix. -/
  | blankBoundAttribute (tagHelper property : String)
  /-- The name of a bound attribute has an illegal character. -/
  | illegalBoundAttribute (tagHelper property attributeName : String) (character : Char)
  /-- The name of a bound attribute belongs to client script. -/
  | reservedBoundAttribute (tagHelper property attributeName : String)
  /-- An indexer prefix has an illegal character. -/
  | illegalIndexerPrefix (tagHelper property namePrefix : String) (character : Char)
  /-- An indexer prefix belongs to client script. -/
  | reservedIndexerPrefix (tagHelper property namePrefix : String)
  /-- The name of a directive attribute lacks its marker. -/
  | unmarkedDirectiveName (tagHelper property attributeName : String)
  /-- The indexer prefix of a directive attribute lacks its marker. -/
  | unmarkedDirectivePrefix (tagHelper property namePrefix : String)
  /-- A parameter has no name. -/
  | blankParameter (attributeName : String)
  /-- The name of a parameter has an illegal character. -/
  | illegalParameter (attributeName parameterName : String) (character : Char)
  /-- A component is given the same parameter again. -/
  | duplicateComponentParameter (parameterName : String)
  /-- An element is given the same attribute again. -/
  | duplicateMarkupAttribute (attributeName : String)
  /-- An attribute is given as well as the directive attribute that produces it. -/
  | duplicateDirectiveAttribute (attributeName directiveName : String)
deriving DecidableEq, Repr

namespace Problem

/-- The code under which the problem is reported. -/
def code : Problem → DiagnosticCode
  | .blankTagName => .blankTagName
  | .illegalTagName .. => .illegalTagName
  | .blankRequiredAttribute => .blankRequiredAttribute
  | .illegalRequiredAttribute .. => .illegalRequiredAttribute
  | .blankBoundAttribute .. => .blankBoundAttribute
  | .illegalBoundAttribute .. => .illegalBoundAttribute
  | .reservedBoundAttribute .. => .reservedBoundAttribute
  | .illegalIndexerPrefix .. => .illegalIndexerPrefix
  | .reservedIndexerPrefix .. => .reservedIndexerPrefix
  | .unmarkedDirectiveName .. => .unmarkedDirectiveName
  | .unmarkedDirectivePrefix .. => .unmarkedDirectivePrefix
  | .blankParameter .. => .blankParameter
  | .illegalParameter .. => .illegalParameter
  | .duplicateComponentParameter .. => .duplicateComponentParameter
  | .duplicateMarkupAttribute .. => .duplicateMarkupAttribute
  | .duplicateDirectiveAttribute .. => .duplicateDirectiveAttribute

/-- How a message opens that is about the property behind a bound attribute. -/
def propertyOpening (tagHelper property : String) : String :=
  "Invalid tag helper bound property '" ++ property ++ "' on tag helper '" ++ tagHelper ++ "'. "

/-- How a message opens that is about a directive attribute. -/
def directiveOpening (tagHelper property : String) : String :=
  "Invalid tag helper bound attribute '" ++ property ++ "' on tag helper '" ++ tagHelper ++ "'. "

/-- The wording of the problem. -/
def message : Problem → String
  | .blankTagName => "Targeted tag name cannot be null or whitespace."
  | .illegalTagName tagName character =>
    "Tag helpers cannot target tag name '" ++ tagName ++ "' because it contains a '"
      ++ character.toString ++ "' character."
  | .blankRequiredAttribute => "Targeted attribute name cannot be null or whitespace."
  | .illegalRequiredAttribute attributeName character =>
    "Tag helpers cannot target attribute name '" ++ attributeName ++ "' because it contains a '"
      ++ character.toString ++ "' character."
  | .blankBoundAttribute tagHelper property =>
    propertyOpening tagHelper property
      ++ "Tag helpers cannot bind to HTML attributes with a null or empty name."
  | .illegalBoundAttribute tagHelper property attributeName character =>
    propertyOpening tagHelper property
      ++ "Tag helpers cannot bind to HTML attributes with name '" ++ attributeName
      ++ "' because the name contains a '" ++ character.toString ++ "' character."
  | .reservedBoundAttribute tagHelper property attributeName =>
    propertyOpening tagHelper property
      ++ "Tag helpers cannot bind to HTML attributes with name '" ++ attributeName
      ++ "' because the name starts with '" ++ dataDash ++ "'."
  | .illegalIndexerPrefix tagHelper property namePrefix character =>
    propertyOpening tagHelper property
      ++ "Tag helpers cannot bind to HTML attributes with prefix '" ++ namePrefix
      ++ "' because the prefix contains a '" ++ character.toString ++ "' character."
  | .reservedIndexerPrefix tagHelper property namePrefix =>
    propertyOpening tagHelper property
      ++ "Tag helpers cannot bind to HTML attributes with prefix '" ++ namePrefix
      ++ "' because the prefix starts with '" ++ dataDash ++ "'."
  | .unmarkedDirectiveName tagHelper property attributeName =>
    directiveOpening tagHelper property
      ++ "Tag helpers cannot bind to directive attributes with name '" ++ attributeName
      ++ "' because the name does not start with '@'."
  | .unmarkedDirectivePrefix tagHelper property namePrefix =>
    directiveOpening tagHelper property
      ++ "Tag helpers cannot bind to directive attributes with prefix '" ++ namePrefix
      ++ "' because the prefix does not start with '@'."
  | .blankParameter attributeName =>
    "Invalid bound attribute parameter on bound attribute '" ++ attributeName
      ++ "'. Parameters cannot have a null or empty name."
  | .illegalParameter attributeName parameterName character =>
    "Invalid bound attribute parameter '" ++ parameterName ++ "' on bound attribute '"
      ++ attributeName ++ "'. Parameter names cannot contain a '" ++ character.toString
      ++ "' character."
  | .duplicateComponentParameter parameterName =>
    "The component parameter '" ++ parameterName
      ++ "' is used two or more times for this component. "
      ++ "Parameters must be unique (case-sensitive)."
  | .duplicateMarkupAttribute attributeName =>
    "The attribute '" ++ attributeName ++ "' is used two or more times for this element. "
      ++ "Attributes must be unique (case-insensitive)."
  | .duplicateDirectiveAttribute attributeName directiveName =>
    "The attribute '" ++ attributeName ++ "' is used two or more times for this element. "
      ++ "Attributes must be unique (case-insensitive). The attribute '" ++ attributeName
      ++ "' is used by the '" ++ directiveName ++ "' directive attribute."

/-- The diagnostic that reports the problem. -/
def report (problem : Problem) (span : Option SourceSpan := none) : Diagnostic :=
  ⟨problem.code, .error, problem.message, span⟩

@[simp] theorem report_code (problem : Problem) (span : Option SourceSpan) :
    (problem.report span).code = problem.code := rfl

@[simp] theorem report_span (problem : Problem) (span : Option SourceSpan) :
    (problem.report span).span = span := rfl

@[simp] theorem isError_report (problem : Problem) (span : Option SourceSpan) :
    (problem.report span).isError = true := rfl

end Problem

end ComponentMarkup
