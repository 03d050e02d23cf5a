/-
  ComponentMarkup.Diagnostic.Basic
  ────────────────────────────────
  **Reports about authored markup.**

  A diagnostic has a code, a severity, a message and, when it is about a usage, the place of that
  usage.  Two diagnostics are the same report when all four agree.
-/
import ComponentMarkup.SourceSpan

namespace ComponentMarkup

/-- What a diagnostic is about. -/
inductive DiagnosticCode where
  | blankTagName
  | illegalTagName
  | blankRequiredAttribute
  | illegalRequiredAttribute
  | blankBoundAttribute
  | illegalBoundAttribute
  | reservedBoundAttribute
  | illegalIndexerPrefix
  | reservedIndexerPrefix
  | unmarkedDirectiveName
  | unmarkedDirectivePrefix
  | blankParameter
  | illegalParameter
  | duplicateComponentParameter
  | duplicateMarkupAttribute
  | duplicateDirectiveAttribute
deriving DecidableEq, Repr

/-- The number under which a code is documented. -/
def DiagnosticCode.number : DiagnosticCode → Nat
  | .blankTagName => 3001
  | .illegalTagName => 3002
  | .blankRequiredAttribute => 3003
  | .illegalRequiredAttribute => 3004
  | .blankBoundAttribute => 3005
  | .illegalBoundAttribute => 3006
  | .reservedBoundAttribute => 3007
  | .illegalIndexerPrefix => 3008
  | .reservedIndexerPrefix => 3009
  | .unmarkedDirectiveName => 3010
  | .unmarkedDirectivePrefix => 3011
  | .blankParameter => 3012
  | .illegalParameter => 3013
  | .duplicateComponentParameter => 9985
  | .duplicateMarkupAttribute => 10007
  | .duplicateDirectiveAttribute => 10008

/-- How grave a report is. -/
inductive Severity where
  | warning
  | error
deriving DecidableEq, Repr

/-- The word for a severity. -/
def Severity.word : Severity → String
  | .warning => "warning"
  | .error => "error"

/-- A report about authored markup. -/
structure Diagnostic where
  code : DiagnosticCode
  severity : Severity
  message : String
  span : Option SourceSpan
deriving DecidableEq, Repr

namespace Diagnostic

/-- The code as it is shown. -/
def id (diagnostic : Diagnostic) : String := "RZ" ++ Nat.repr diagnostic.code.number

/-- Whether the report is an error. -/
def isError (diagnostic : Diagnostic) : Bool := diagnostic.severity == .error

/-- The report on one line. -/
def display (diagnostic : Diagnostic) : String :=
  let report := diagnostic.severity.word ++ " " ++ diagnostic.id ++ ": " ++ diagnostic.message
  match diagnostic.span with
  | some span => report ++ " " ++ span.display
  | none => report

end Diagnostic

/-- Whether one of the reports is an error. -/
def hasErrors (diagnostics : List Diagnostic) : Bool := diagnostics.any Diagnostic.isError

@[simp] theorem hasErrors_append (first second : List Diagnostic) :
    hasErrors (first ++ second) = (hasErrors first || hasErrors second) := by
  simp [hasErrors]

end ComponentMarkup
