/-
  ComponentMarkup.SourceSpan.Json
  ────────────────────────────────
  **Spans as JSON.**

  A span is written as a record of its five fields.  When it is read, the file may be missing,
  the four numbers may not.
-/
import ComponentMarkup.Json.Reader
import ComponentMarkup.Json.Record
import ComponentMarkup.SourceSpan

namespace ComponentMarkup.SourceSpan

/-- The keys of a span, in order. -/
def jsonKeys : List String :=
  ["filePath", "absoluteIndex", "lineIndex", "characterIndex", "length"]

/-- The span as a JSON value. -/
def toJson (span : SourceSpan) : Json :=
  .ofMembers
    [("filePath", .ofText? span.filePath),
     ("absoluteIndex", .ofNat span.absoluteIndex.toNat),
     ("lineIndex", .ofNat span.lineIndex.toNat),
     ("characterIndex", .ofNat span.characterIndex.toNat),
     ("length", .ofNat span.length.toNat)]

/-- The span that a JSON value holds. -/
def ofJson? (value : Json) : Option SourceSpan :=
  match Json.fields? jsonKeys value with
  | some [filePath, absoluteIndex, lineIndex, characterIndex, length] => do
    return {
      filePath := ← Json.optional Json.text? filePath
      absoluteIndex := ← Json.required Json.word64? absoluteIndex
      lineIndex := ← Json.required Json.word64? lineIndex
      characterIndex := ← Json.required Json.word64? characterIndex
      length := ← Json.required Json.word64? length }
  | _ => none

/-- The span that a JSON text holds. -/
def ofJsonText? (text : String) : Option SourceSpan := (Json.parse? text).bind ofJson?

end ComponentMarkup.SourceSpan
