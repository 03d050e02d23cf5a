/-
  ComponentMarkup.Capabilities
  ────────────────────────────────
  **What the parser may do.**

  The capabilities of a document follow from its language version and file kind.  Every version
  threshold that is reached adds capabilities; the file kind has the last word on two of them.
  `Capabilities` is a set of capabilities, seen through `has`.
-/
import ComponentMarkup.FileKind
import ComponentMarkup.LanguageVersion

namespace ComponentMarkup

/-! ## §1. Capabilities and sets of them. -/

/-- Something that the parser, or a pass, may do. -/
inductive Capability where
  | minimizedBooleanTagHelperAttributes
  | htmlCommentsInTagHelpers
  | componentFileKind
  | codeInAllCodeBlocks
  | usingVariableDeclarations
  | conditionalDataDashAttributes
  | codeInMarkupAttributeArea
deriving DecidableEq, Repr

/-- The bit that stands for a capability. -/
def Capability.position : Capability → Nat
  | .minimizedBooleanTagHelperAttributes => 0
  | .htmlCommentsInTagHelpers => 1
  | .componentFileKind => 2
  | .codeInAllCodeBlocks => 3
  | .usingVariableDeclarations => 4
  | .conditionalDataDashAttributes => 5
  | .codeInMarkupAttributeArea => 6

/-- The bit set that holds one capability. -/
def Capability.mask (c : Capability) : BitVec 7 := BitVec.twoPow 7 c.position

/-- A set of capabilities. -/
structure Capabilities where
  bits : BitVec 7
deriving DecidableEq, Repr

namespace Capabilities

/-- Whether the capability is in the set. -/
def has (flags : Capabilities) (c : Capability) : Bool := flags.bits.getLsbD c.position

/-- The set with one more capability. -/
def insert (flags : Capabilities) (c : Capability) : Capabilities := ⟨flags.bits ||| c.mask⟩

/-- The set without a capability. -/
def erase (flags : Capabilities) (c : Capability) : Capabilities := ⟨flags.bits &&& ~~~c.mask⟩

/-- The capabilities of a list. -/
def ofList (capabilities : List Capability) : Capabilities := capabilities.foldl insert ⟨0⟩

/-- The capabilities of either set. -/
def union (flags more : Capabilities) : Capabilities := ⟨flags.bits ||| more.bits⟩

@[simp] theorem has_union (flags more : Capabilities) (c : Capability) :
    (flags.union more).has c = (flags.has c || more.has c) := by
  simp [has, union]

@[simp] theorem has_insert (flags : Capabilities) (added c : Capability) :
    (flags.insert added).has c = (flags.has c || added == c) := by
  cases added <;> cases c <;> simp [has, insert, Capability.mask, Capability.position]

@[simp] theorem has_erase (flags : Capabilities) (removed c : Capability) :
    (flags.erase removed).has c = (flags.has c && !(removed == c)) := by
  cases removed <;> cases c <;> simp [has, erase, Capability.mask, Capability.position]

/-! ## §2. The capabilities of a document. -/

/-- The thresholds in ascending order, each with the capabilities that it adds. -/
def thresholds : List (LanguageVersion × Capabilities) :=
  [(.v2_1, ofList [.minimizedBooleanTagHelperAttributes, .htmlCommentsInTagHelpers]),
   (.v3_0, ofList [.componentFileKind, .codeInAllCodeBlocks, .usingVariableDeclarations]),
   (.experimental, ofList [.conditionalDataDashAttributes])]

/-- The capabilities that a version has under every file kind. -/
def ofVersion (version : LanguageVersion) : Capabilities :=
  thresholds.foldl
    (fun flags tier => if tier.1 ≤ version then flags.union tier.2 else flags)
    (ofList [.codeInMarkupAttributeArea])

/-- The capabilities of a document.  Components always treat `data-` attributes as conditional,
and never allow code between the attributes of an element. -/
def granted (version : LanguageVersion) (kind : FileKind) : Capabilities :=
  if kind.isComponent then
    ((ofVersion version).insert .conditionalDataDashAttributes).erase .codeInMarkupAttributeArea
  else ofVersion version

end Capabilities

end ComponentMarkup
