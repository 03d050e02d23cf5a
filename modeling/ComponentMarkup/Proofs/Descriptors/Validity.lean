/-
  ComponentMarkup.Proofs.Descriptors.Validity
  ────────────────────────────────
  **Which declarations are accepted.**

  A declaration has no problems exactly if its descriptor is well named: every name in it passes
  the tests for its place.  The names and the indexer prefixes of bound attributes pass the same
  three tests (`Admissible`), except that a name may be missing if there is an indexer, and that a
  prefix may be empty; that a blank prefix has a test of its own changes the message and not the
  outcome.  Owners and display names are cited in messages and decide nothing.

  Main statements: `AttributeName.isReserved_iff`, one `WellNamed` for each kind of descriptor that
  is validated and one `build_diagnostics_eq_nil_iff` for each kind of declaration.
-/
import ComponentMarkup.Declaration.Build
import ComponentMarkup.Proofs.Text.Utf8

namespace ComponentMarkup

/-! ## §1. Names. -/

namespace Text

theorem nonBlank?_eq_some_iff {name : Option String} {text : String} :
    nonBlank? name = some text ↔ name = some text ∧ text.toList.all isBlank = false := by
  rw [nonBlank?, Option.filter_eq_some_iff, Bool.not_eq_true']

end Text

namespace AttributeName

/-- The test for reserved names has a value for every name, and tells whether the characters of the
name start with `data-`, up to the case of ASCII letters. -/
theorem isReserved?_eq (name : String) :
    isReserved? name = some (decide (dataDash.toList <+: name.toList.map Char.toLower)) := by
  have small : dataDash.toList.map Char.toLower = dataDash.toList := by decide
  unfold isReserved?
  split
  · rw [Text.startsIgnoringCase?_eq, small]
  · next short =>
    -- A name with too few bytes has no such start.
    rw [Option.some.injEq, eq_comm, decide_eq_false_iff_not]
    intro starts
    rw [← small] at starts
    exact short (Text.length_utf8_le_of_starts starts)

/-- A name is reserved if its characters start with `data-`, up to the case of ASCII letters. -/
theorem isReserved_iff (name : String) :
    isReserved name = true ↔ dataDash.toList <+: name.toList.map Char.toLower := by
  rw [isReserved, isReserved?_eq, Option.getD_some, decide_eq_true_iff]

theorem stripMarker?_eq_some_iff {name rest : String} :
    stripMarker? name = some rest ↔ name.toList = '@' :: rest.toList := by
  unfold stripMarker?
  split
  · next others start =>
    rw [start, Option.some.injEq, List.cons.injEq, and_iff_right rfl]
    constructor
    · rintro rfl
      exact String.toList_ofList.symm
    · rintro rfl
      exact String.ofList_toList
  · next unmarked => simpa using unmarked rest.toList

/-- A name without one leading marker. -/
def unmarked : List Char → List Char
  | '@' :: rest => rest
  | name => name

theorem toList_bare (name : String) : (bare name).toList = unmarked name.toList := by
  unfold bare stripMarker?
  split
  · next rest marked =>
    rw [marked]
    exact String.toList_ofList
  · next plain =>
    unfold unmarked
    split
    · next rest marked => exact absurd marked (plain rest)
    · rfl

theorem illegalCharacters_eq_nil_iff (name : String) :
    illegalCharacters name = [] ↔ ∀ c ∈ name.toList, isIllegal c = false := by
  simp [illegalCharacters, List.filter_eq_nil_iff]

/-- What is asked of the name and of the indexer prefix of a bound attribute. -/
structure Admissible (isDirective : Bool) (text : String) : Prop where
  unreserved : isReserved text = false
  marked : lacksMarker isDirective text = false
  legal : illegalCharacters (checkedPart isDirective text) = []

/-- A blank prefix that is not empty fails the test for illegal characters, too. -/
theorem Admissible.not_blank {isDirective : Bool} {text : String}
    (admissible : Admissible isDirective text) (blank : text.toList.all Text.isBlank = true) :
    text.isEmpty = true := by
  have unmarked : bare text = text := by
    unfold bare
    cases found : stripMarker? text with
    | none => rfl
    | some rest =>
      rw [stripMarker?_eq_some_iff.mp found, List.all_cons] at blank
      exact absurd blank (by simp [show Text.isBlank '@' = false by decide])
  have checked : checkedPart isDirective text = text := by
    unfold checkedPart
    split
    · exact unmarked
    · rfl
  have legal := admissible.legal
  rw [checked, illegalCharacters_eq_nil_iff] at legal
  rw [String.isEmpty_iff, ← String.toList_eq_nil_iff, List.eq_nil_iff_forall_not_mem]
  intro c mem
  have illegal : isIllegal c = true := by
    rw [isIllegal, List.all_eq_true.mp blank c mem, Bool.true_or]
  rw [legal c mem] at illegal
  exact absurd illegal (by simp)

end AttributeName

/-! ## §2. Descriptors with admissible names. -/

open AttributeName

/-- Whether the name of a parameter passes the tests for it. -/
def AttributeParameter.WellNamed (parameter : AttributeParameter) : Prop :=
  ∃ name, Text.nonBlank? parameter.name = some name ∧ illegalCharacters name = []

/-- Whether a bound attribute has a name or an indexer, and each of the two that is there is
admissible. -/
structure BoundAttribute.WellNamed (bound : BoundAttribute) : Prop where
  named_or_indexed : Text.nonBlank? bound.name = none → bound.indexerNamePrefix.isSome = true
  name : ∀ name, Text.nonBlank? bound.name = some name → Admissible bound.isDirective name
  indexer : ∀ start, bound.indexerNamePrefix = some start → Admissible bound.isDirective start

/-- Whether the name of a required attribute passes the tests for it, without its marker. -/
def RequiredAttribute.WellNamed (required : RequiredAttribute) : Prop :=
  ∃ name, Text.nonBlank? required.name = some name ∧ illegalCharacters (bare name) = []

/-- Whether the tag name of a rule is the one for every element or passes the tests for it. -/
def ElementRule.WellNamed (rule : ElementRule) : Prop :=
  ∃ tagName, Text.nonBlank? rule.tagName = some tagName
    ∧ (tagName = ElementRule.catchAll ∨ illegalCharacters tagName = [])

/-! ## §3. Problems. -/

theorem ParameterDeclaration.problems_eq_nil_iff (declared : ParameterDeclaration) (owner : Owner)
    (attributeName : String) :
    declared.problems attributeName = [] ↔ (declared.build owner attributeName).WellNamed := by
  unfold problems AttributeParameter.WellNamed
  show _ ↔ ∃ name, Text.nonBlank? declared.name = some name ∧ _
  cases Text.nonBlank? declared.name <;> simp

theorem RequirementDeclaration.problems_eq_nil_iff (declared : RequirementDeclaration) :
    declared.problems = [] ↔ declared.build.WellNamed := by
  unfold problems RequiredAttribute.WellNamed
  show _ ↔ ∃ name, Text.nonBlank? declared.name = some name ∧ _
  cases Text.nonBlank? declared.name <;> simp

theorem RuleDeclaration.problems_eq_nil_iff (declared : RuleDeclaration) :
    declared.problems = [] ↔ declared.build.WellNamed := by
  unfold problems ElementRule.WellNamed
  show _ ↔ ∃ tagName, Text.nonBlank? declared.tagName = some tagName ∧ _
  cases Text.nonBlank? declared.tagName with
  | none => simp
  | some tagName =>
    by_cases every : tagName = ElementRule.catchAll <;> simp [every]

namespace AttributeDeclaration

theorem nameProblems_eq_nil_iff (declared : AttributeDeclaration) (ownerName shownName : String) :
    declared.nameProblems ownerName shownName = []
      ↔ (Text.nonBlank? declared.name = none → declared.indexer.isSome = true)
        ∧ ∀ name, Text.nonBlank? declared.name = some name →
          Admissible declared.isDirective name := by
  unfold nameProblems
  cases Text.nonBlank? declared.name with
  | none => cases declared.indexer <;> simp
  | some name =>
    have tests : Admissible declared.isDirective name ↔ isReserved name = false
        ∧ lacksMarker declared.isDirective name = false
        ∧ illegalCharacters (checkedPart declared.isDirective name) = [] :=
      ⟨fun ⟨unreserved, marked, legal⟩ => ⟨unreserved, marked, legal⟩,
        fun ⟨unreserved, marked, legal⟩ => ⟨unreserved, marked, legal⟩⟩
    simp [tests]

theorem indexerProblems_eq_nil_iff (ownerName shownName : String) (isDirective : Bool)
    (namePrefix : String) :
    indexerProblems ownerName shownName isDirective namePrefix = []
      ↔ Admissible isDirective namePrefix := by
  unfold indexerProblems
  split
  · next reserved =>
    refine ⟨fun none => absurd none (by simp), fun admissible => ?_⟩
    exact absurd (reserved.symm.trans admissible.unreserved) (by simp)
  · next unreserved =>
    split
    · next blank =>
      rw [Bool.and_eq_true, Text.isAbsentOrBlank_some] at blank
      refine ⟨fun none => absurd none (by simp), fun admissible => ?_⟩
      exact absurd blank.1 (by simp [admissible.not_blank blank.2])
    · constructor
      · intro none
        simp only [List.append_eq_nil_iff, ite_eq_right_iff, List.map_eq_nil_iff] at none
        exact ⟨Bool.eq_false_iff.mpr unreserved,
          Bool.eq_false_iff.mpr fun lacks => absurd (none.1 lacks) (by simp), none.2⟩
      · intro admissible
        simp [admissible.marked, admissible.legal]

/-- **A bound attribute without problems is a well-named one.** -/
theorem problems_eq_nil_iff (declared : AttributeDeclaration) (owner : Owner)
    (ownerName shownName : String) :
    declared.problems ownerName shownName = [] ↔ (declared.build owner).WellNamed := by
  have directive : (declared.build owner).isDirective = declared.isDirective := rfl
  have named : (declared.build owner).name = declared.name := rfl
  have indexed : (declared.build owner).indexerNamePrefix
      = declared.indexer.map Indexer.namePrefix := rfl
  rw [problems, List.append_eq_nil_iff, nameProblems_eq_nil_iff]
  constructor
  · intro ⟨⟨present, name⟩, indexer⟩
    refine ⟨?_, ?_, ?_⟩
    · rw [named, indexed, Option.isSome_map]
      exact present
    · rw [named, directive]
      exact name
    · intro start eq
      rw [indexed] at eq
      obtain ⟨found, is_indexer, rfl⟩ := Option.map_eq_some_iff.mp eq
      rw [is_indexer] at indexer
      exact (indexerProblems_eq_nil_iff _ _ _ _).mp indexer
  · intro well_named
    refine ⟨⟨?_, ?_⟩, ?_⟩
    · have present := well_named.named_or_indexed
      rwa [named, indexed, Option.isSome_map] at present
    · exact well_named.name
    · cases is_indexer : declared.indexer with
      | none => rfl
      | some found =>
        rw [is_indexer] at indexed
        exact (indexerProblems_eq_nil_iff _ _ _ _).mpr (well_named.indexer _ indexed)

end AttributeDeclaration

/-! ## §4. Diagnostics. -/

theorem reportAll_eq_nil_iff {problems : List Problem} : reportAll problems = [] ↔ problems = [] :=
  List.map_eq_nil_iff

/-- Collapsing repetitions leaves something of every list that has something in it. -/
theorem eraseDups_eq_nil_iff {α : Type} [BEq α] {list : List α} :
    list.eraseDups = [] ↔ list = [] := by
  cases list with
  | nil => simp
  | cons head rest => simp [List.eraseDups_cons]

theorem ParameterDeclaration.build_diagnostics_eq_nil_iff (declared : ParameterDeclaration)
    (owner : Owner) (attributeName : String) :
    (declared.build owner attributeName).diagnostics = []
      ↔ (declared.build owner attributeName).WellNamed ∧ declared.diagnostics = [] := by
  show List.eraseDups (_ ++ _) = [] ↔ _
  rw [eraseDups_eq_nil_iff, List.append_eq_nil_iff, reportAll_eq_nil_iff, problems_eq_nil_iff]

theorem AttributeDeclaration.build_diagnostics_eq_nil_iff (declared : AttributeDeclaration)
    (owner : Owner) :
    (declared.build owner).diagnostics = []
      ↔ (declared.build owner).WellNamed ∧ declared.diagnostics = [] := by
  show List.eraseDups (_ ++ _) = [] ↔ _
  rw [eraseDups_eq_nil_iff, List.append_eq_nil_iff, reportAll_eq_nil_iff, problems_eq_nil_iff]

theorem RequirementDeclaration.build_diagnostics_eq_nil_iff (declared : RequirementDeclaration) :
    declared.build.diagnostics = [] ↔ declared.build.WellNamed :=
  reportAll_eq_nil_iff.trans declared.problems_eq_nil_iff

theorem RuleDeclaration.build_diagnostics_eq_nil_iff (declared : RuleDeclaration) :
    declared.build.diagnostics = [] ↔ declared.build.WellNamed :=
  reportAll_eq_nil_iff.trans declared.problems_eq_nil_iff

end ComponentMarkup
