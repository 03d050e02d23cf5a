/-
  ComponentMarkup.SourceSpan
  ────────────────────────────────
  **Places in source text.**

  A span is a stretch of one file, or of a text without a file.  Lines and characters count from
  zero; all positions are 64-bit words.
-/
import ComponentMarkup.Text.Decimal

namespace ComponentMarkup

/-- A stretch of source text. -/
structure SourceSpan where
  filePath : Option String
  absoluteIndex : UInt64
  lineIndex : UInt64
  characterIndex : UInt64
  length : UInt64
deriving DecidableEq, Repr

namespace SourceSpan

/-- The position just after the span. -/
def endIndex (span : SourceSpan) : Nat := span.absoluteIndex.toNat + span.length.toNat

/-- Whether another span of the same file lies inside this one. -/
def contains (span other : SourceSpan) : Bool :=
  span.filePath == other.filePath && decide (span.absoluteIndex ≤ other.absoluteIndex)
    && decide (other.endIndex ≤ span.endIndex)

/-- The span as it is shown: position, line and character, length, file. -/
def display (span : SourceSpan) : String :=
  "(" ++ Nat.repr span.absoluteIndex.toNat ++ ":" ++ Nat.repr span.lineIndex.toNat ++ ","
    ++ Nat.repr span.characterIndex.toNat ++ " [" ++ Nat.repr span.length.toNat ++ "] "
    ++ span.filePath.getD "" ++ ")"

end SourceSpan

end ComponentMarkup
