/-
  ComponentMarkup.Declaration.Validation
  ────────────────────────────────
  **What is wrong with a declaration.**

  Each declaration has a list of problems, in the order in which they are reported.  A declaration
  with problems is still accepted; the problems become diagnostics of what is built from it.
-/
import ComponentMarkup.AttributeName
import ComponentMarkup.Declaration.Basic

namespace ComponentMarkup

/-! ## §1. Parameters. -/

/-- The problems of a parameter of the attribute with the given name: it needs a name, and every
illegal character in it is a problem. -/
def ParameterDeclaration.problems (attributeName : String) (declared : ParameterDeclaration) :
    List Problem :=
  match Text.nonBlank? declared.name with
  | none => [.blankParameter attributeName]
  | some name =>
    (AttributeName.illegalCharacters name).map (.illegalParameter attributeName name)

/-! ## §2. Bound attributes. -/

namespace AttributeName

/-- The part of a name or an indexer prefix that must be free of illegal characters: all of it,
but for the marker of a directive attribute. -/
def checkedPart (isDirective : Bool) (text : String) : String :=
  if isDirective then bare text else text

/-- Whether the name or the indexer prefix of a directive attribute is without its marker. -/
def lacksMarker (isDirective : Bool) (text : String) : Bool :=
  isDirective && (stripMarker? text).isNone

end AttributeName

namespace AttributeDeclaration

/-- The problems of the attribute's name.  A missing name is none if there is an indexer. -/
def nameProblems (ownerName shownName : String) (declared : AttributeDeclaration) : List Problem :=
  match Text.nonBlank? declared.name with
  | none => if declared.indexer.isNone then [.blankBoundAttribute ownerName shownName] else []
  | some name =>
    let checked := AttributeName.checkedPart declared.isDirective name
    -- A reserved name can have other problems besides, unlike a reserved prefix.
    (if AttributeName.isReserved name then [.reservedBoundAttribute ownerName shownName name]
      else [])
    ++ (if AttributeName.lacksMarker declared.isDirective name then
      [.unmarkedDirectiveName ownerName shownName name] else [])
    ++ (AttributeName.illegalCharacters checked).map
      (.illegalBoundAttribute ownerName shownName checked)

/-- The problems of an indexer prefix.  The empty prefix is legal; a reserved or blank one has no
other problem besides. -/
def indexerProblems (ownerName shownName : String) (isDirective : Bool) (namePrefix : String) :
    List Problem :=
  if AttributeName.isReserved namePrefix then
    [.reservedIndexerPrefix ownerName shownName namePrefix]
  else if !namePrefix.isEmpty && Text.isAbsentOrBlank (some namePrefix) then
    [.blankBoundAttribute ownerName shownName]
  else
    let checked := AttributeName.checkedPart isDirective namePrefix
    (if AttributeName.lacksMarker isDirective namePrefix then
      [.unmarkedDirectivePrefix ownerName shownName namePrefix] else [])
    ++ (AttributeName.illegalCharacters checked).map
      (.illegalIndexerPrefix ownerName shownName checked)

/-- The problems of a bound attribute: those of its name, then those of its indexer prefix. -/
def problems (ownerName shownName : String) (declared : AttributeDeclaration) : List Problem :=
  declared.nameProblems ownerName shownName
    ++ match declared.indexer with
      | none => []
      | some indexer =>
        indexerProblems ownerName shownName declared.isDirective indexer.namePrefix

end AttributeDeclaration

/-! ## §3. Rules. -/

/-- The problems of a required attribute.  A directive attribute may be required, so one marker at
the start of the name is legal. -/
def RequirementDeclaration.problems (declared : RequirementDeclaration) : List Problem :=
  match Text.nonBlank? declared.name with
  | none => [.blankRequiredAttribute]
  | some name =>
    (AttributeName.illegalCharacters (AttributeName.bare name)).map (.illegalRequiredAttribute name)

/-- The problems of a rule's tag name, which may also be the one that stands for every element. -/
def RuleDeclaration.problems (declared : RuleDeclaration) : List Problem :=
  match Text.nonBlank? declared.tagName with
  | none => [.blankTagName]
  | some tagName =>
    if tagName = ElementRule.catchAll then []
    else (AttributeName.illegalCharacters tagName).map (.illegalTagName tagName)

end ComponentMarkup
