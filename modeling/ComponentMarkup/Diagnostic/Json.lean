/-
  ComponentMarkup.Diagnostic.Json
  ────────────────────────────────
  **Diagnostics as JSON.**

  A diagnostic is shown as a record of its code, its severity, its message and its place, which is
  null when there is none.
-/
import ComponentMarkup.Diagnostic.Basic
import ComponentMarkup.SourceSpan.Json

namespace ComponentMarkup

/-- A place that may be missing as a JSON value. -/
def SourceSpan.toJson? : Option SourceSpan → Json
  | some span => span.toJson
  | none => .null

namespace Diagnostic

/-- The diagnostic as a JSON value. -/
def toJson (report : Diagnostic) : Json :=
  .ofMembers
    [("id", .ofText report.id), ("severity", .ofText report.severity.word),
     ("message", .ofText report.message), ("span", SourceSpan.toJson? report.span)]

/-- Diagnostics as a JSON list. -/
def listToJson (reports : List Diagnostic) : Json := .array (reports.map toJson)

/-- The codes of diagnostics as a JSON list. -/
def idsToJson (reports : List Diagnostic) : Json := .ofTexts (reports.map id)

end Diagnostic

end ComponentMarkup
