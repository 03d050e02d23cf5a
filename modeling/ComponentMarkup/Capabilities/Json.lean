/-
  ComponentMarkup.Capabilities.Json
  ────────────────────────────────
  **Capabilities as JSON.**

  A set of capabilities is shown as its bits and as a record with a flag for every capability.
-/
import ComponentMarkup.Capabilities
import ComponentMarkup.Json.Value

namespace ComponentMarkup

/-- Every capability, in the order of the bits. -/
def Capability.all : List Capability :=
  [.minimizedBooleanTagHelperAttributes, .htmlCommentsInTagHelpers, .componentFileKind,
   .codeInAllCodeBlocks, .usingVariableDeclarations, .conditionalDataDashAttributes,
   .codeInMarkupAttributeArea]

/-- The name of a capability. -/
def Capability.name : Capability → String
  | .minimizedBooleanTagHelperAttributes => "minimizedBooleanTagHelperAttributes"
  | .htmlCommentsInTagHelpers => "htmlCommentsInTagHelpers"
  | .componentFileKind => "componentFileKind"
  | .codeInAllCodeBlocks => "codeInAllCodeBlocks"
  | .usingVariableDeclarations => "usingVariableDeclarations"
  | .conditionalDataDashAttributes => "conditionalDataDashAttributes"
  | .codeInMarkupAttributeArea => "codeInMarkupAttributeArea"

theorem Capability.mem_all (c : Capability) : c ∈ all := by cases c <;> decide

/-- The capabilities as a JSON value. -/
def Capabilities.toJson (flags : Capabilities) : Json :=
  .ofMembers (("bits", .ofNat flags.bits.toNat)
    :: Capability.all.map fun c => (c.name, .bool (flags.has c)))

end ComponentMarkup
