/-
  ComponentMarkup.Proofs.Descriptors.CaseBlindness
  ────────────────────────────────
  **Validation does not see letter case.**

  Descriptors that are the same up to letter case are well named or not together.  The characters
  that the tests ask for have no case, and no character has one of them in its lower case: white
  space, the delimiters, the directive marker, the tag name `*`, and the letters and the dash of
  `data-`, which are all plain.

  Main statements: one `WellNamed.of_identity` for each kind of descriptor that is validated.
-/
import ComponentMarkup.Proofs.Descriptors.Equality
import ComponentMarkup.Proofs.Descriptors.Validity
import ComponentMarkup.Proofs.Text.LowerCase

namespace ComponentMarkup

open NameCasing

/-! ## §1. Tests on names. -/

namespace Text

theorem caseBlind_isBlank : CaseBlind isBlank := caseBlind_has (by decide +kernel)

/-- A blank name is blank in every spelling. -/
theorem nonBlank?_congr {x y : Option String}
    (alike : x.map ignoringCase.fold = y.map ignoringCase.fold) :
    (nonBlank? x).map ignoringCase.fold = (nonBlank? y).map ignoringCase.fold := by
  cases x with
  | none =>
    cases y with
    | none => rfl
    | some y => exact absurd alike (by simp)
  | some x =>
    cases y with
    | none => exact absurd alike (by simp)
    | some y =>
      have folded : lowerEach x.toList = lowerEach y.toList := Option.some.inj alike
      have blank : x.toList.all isBlank = y.toList.all isBlank := by
        rw [← caseBlind_isBlank.all_lowerEach, folded, caseBlind_isBlank.all_lowerEach]
      unfold nonBlank?
      rw [Option.filter_some, Option.filter_some, blank]
      split
      · exact alike
      · rfl

end Text

namespace AttributeName

variable {x y : String}

theorem caseBlind_isIllegal : Text.CaseBlind isIllegal :=
  Text.caseBlind_isBlank.or (Text.caseBlind_contains (by decide +kernel))

theorem illegalCharacters_eq_nil_congr (alike : ignoringCase.fold x = ignoringCase.fold y) :
    illegalCharacters x = [] ↔ illegalCharacters y = [] := by
  have legal (name : String) :
      illegalCharacters name = [] ↔ name.toList.all (fun c => !isIllegal c) = true := by
    simp [illegalCharacters_eq_nil_iff]
  have blind := caseBlind_isIllegal.not.all_lowerEach
  have folded : Text.lowerEach x.toList = Text.lowerEach y.toList := alike
  rw [legal, legal, ← blind x.toList, folded, blind y.toList]

theorem isReserved_congr_fold (alike : ignoringCase.fold x = ignoringCase.fold y) :
    isReserved x = isReserved y := by
  have plain : ∀ d ∈ dataDash.toList, Text.IsPlain d := by
    -- A test on the list: the bounded quantifier may be decided by going through all characters.
    have each : dataDash.toList.all (fun d => decide (Text.IsPlain d)) = true := by decide
    exact fun d mem => of_decide_eq_true (List.all_eq_true.mp each d mem)
  have folded (name : String) : isReserved name = true
      ↔ dataDash.toList <+: ignoringCase.fold name := by
    rw [isReserved_iff]
    exact (Text.plain_prefix_lowerEach_iff plain).symm
  rw [Bool.eq_iff_iff, folded, folded, alike]

/-- A marker is there in every spelling, and what follows it is spelled alike. -/
theorem exists_stripMarker?_eq_some {rest : String}
    (alike : ignoringCase.fold x = ignoringCase.fold y) (found : stripMarker? x = some rest) :
    ∃ other, stripMarker? y = some other ∧ ignoringCase.fold other = ignoringCase.fold rest := by
  have marked : Text.lowerEach y.toList = '@' :: Text.lowerEach rest.toList := by
    have lowered : Text.lowerChar '@' = ['@'] := Text.lowerChar_of_ascii (by decide)
    have folded : Text.lowerEach x.toList = Text.lowerEach y.toList := alike
    rw [← folded, stripMarker?_eq_some_iff.mp found, Text.lowerEach_cons, lowered,
      List.singleton_append]
  -- The marker is plain and no small letter, so it can only be the lower case of itself.
  obtain ⟨back, eq, below⟩ := Text.exists_of_lowerEach_eq_cons (by decide) (by decide) marked
  refine ⟨String.ofList back, stripMarker?_eq_some_iff.mpr ?_, ?_⟩
  · rw [String.toList_ofList]
    exact eq
  · rw [fold_ignoringCase, String.toList_ofList]
    exact below

theorem stripMarker?_congr (alike : ignoringCase.fold x = ignoringCase.fold y) :
    (stripMarker? x).map ignoringCase.fold = (stripMarker? y).map ignoringCase.fold := by
  cases found : stripMarker? x with
  | some rest =>
    obtain ⟨other, other_found, folded⟩ := exists_stripMarker?_eq_some alike found
    rw [other_found, Option.map_some, Option.map_some, folded]
  | none =>
    cases other_found : stripMarker? y with
    | none => rfl
    | some other =>
      obtain ⟨rest, also_found, -⟩ := exists_stripMarker?_eq_some alike.symm other_found
      exact absurd (found.symm.trans also_found) (by simp)

theorem bare_congr (alike : ignoringCase.fold x = ignoringCase.fold y) :
    ignoringCase.fold (bare x) = ignoringCase.fold (bare y) := by
  have stripped := stripMarker?_congr alike
  unfold bare
  cases found : stripMarker? x with
  | none =>
    rw [found, Option.map_none, eq_comm, Option.map_eq_none_iff] at stripped
    rw [stripped]
    exact alike
  | some rest =>
    rw [found, Option.map_some, eq_comm, Option.map_eq_some_iff] at stripped
    obtain ⟨other, other_found, folded⟩ := stripped
    rw [other_found]
    exact folded.symm

theorem lacksMarker_congr (isDirective : Bool)
    (alike : ignoringCase.fold x = ignoringCase.fold y) :
    lacksMarker isDirective x = lacksMarker isDirective y := by
  have stripped := congrArg Option.isNone (stripMarker?_congr alike)
  rw [Option.isNone_map, Option.isNone_map] at stripped
  rw [lacksMarker, lacksMarker, stripped]

theorem Admissible.of_alike {isDirective : Bool} (admissible : Admissible isDirective x)
    (alike : ignoringCase.fold x = ignoringCase.fold y) : Admissible isDirective y where
  unreserved := (isReserved_congr_fold alike).symm.trans admissible.unreserved
  marked := (lacksMarker_congr isDirective alike).symm.trans admissible.marked
  legal := by
    have checked : ignoringCase.fold (checkedPart isDirective x)
        = ignoringCase.fold (checkedPart isDirective y) := by
      unfold checkedPart
      split
      · exact bare_congr alike
      · exact alike
    exact (illegalCharacters_eq_nil_congr checked).mp admissible.legal

end AttributeName

/-- The tag name for every element has one spelling. -/
theorem ElementRule.eq_catchAll_of_alike {tagName : String}
    (alike : ignoringCase.fold tagName = ignoringCase.fold catchAll) : tagName = catchAll := by
  have folded : Text.lowerEach tagName.toList = ['*'] := by
    have lowered : Text.lowerEach catchAll.toList = ['*'] := by decide
    exact alike.trans lowered
  obtain ⟨back, eq, nothing⟩ := Text.exists_of_lowerEach_eq_cons (by decide) (by decide) folded
  rw [Text.lowerEach_eq_nil_iff.mp nothing] at eq
  exact String.toList_injective eq

/-! ## §2. Descriptors. -/

/-- What holds of a name in every spelling holds of the other name, if there is one. -/
theorem exists_of_map_fold_eq {x y : Option String}
    (alike : x.map ignoringCase.fold = y.map ignoringCase.fold) {p : String → Prop}
    (transfer : ∀ a b, ignoringCase.fold a = ignoringCase.fold b → p a → p b)
    (holds : ∃ name, x = some name ∧ p name) : ∃ name, y = some name ∧ p name := by
  obtain ⟨name, rfl, here⟩ := holds
  obtain ⟨other, rfl, folded⟩ := Option.map_eq_some_iff.mp alike.symm
  exact ⟨other, rfl, transfer name other folded.symm here⟩

theorem AttributeParameter.WellNamed.of_identity {x y : AttributeParameter}
    (well_named : x.WellNamed) (identical : x.identity ignoringCase = y.identity ignoringCase) :
    y.WellNamed := by
  have names := Text.nonBlank?_congr (congrArg ParameterIdentity.name identical)
  apply exists_of_map_fold_eq names ?_ well_named
  intro name other alike legal
  exact (AttributeName.illegalCharacters_eq_nil_congr alike).mp legal

theorem RequiredAttribute.WellNamed.of_identity {x y : RequiredAttribute}
    (well_named : x.WellNamed) (identical : x.identity ignoringCase = y.identity ignoringCase) :
    y.WellNamed := by
  have names := Text.nonBlank?_congr (congrArg RequiredAttributeIdentity.name identical)
  apply exists_of_map_fold_eq names ?_ well_named
  intro name other alike legal
  exact (AttributeName.illegalCharacters_eq_nil_congr (AttributeName.bare_congr alike)).mp legal

theorem ElementRule.WellNamed.of_identity {x y : ElementRule} (well_named : x.WellNamed)
    (identical : x.identity ignoringCase = y.identity ignoringCase) : y.WellNamed := by
  have names := Text.nonBlank?_congr (congrArg RuleIdentity.tagName identical)
  apply exists_of_map_fold_eq names ?_ well_named
  intro tagName other alike passes
  rcases passes with rfl | legal
  · exact .inl (eq_catchAll_of_alike alike.symm)
  · exact .inr ((AttributeName.illegalCharacters_eq_nil_congr alike).mp legal)

/-- Metadata with the same facts has the same marks set. -/
theorem Metadata.isSet_congr {x y : Metadata} (facts : x.facts = y.facts) (key : String) :
    x.isSet key = y.isSet key := by
  have entries := facts_eq_iff.mp facts
  rw [Bool.eq_iff_iff]
  unfold isSet
  rw [beq_iff_eq, beq_iff_eq, get?_eq_some_iff, get?_eq_some_iff, entries.mem_iff]

theorem BoundAttribute.WellNamed.of_identity {x y : BoundAttribute} (well_named : x.WellNamed)
    (identical : x.identity ignoringCase = y.identity ignoringCase) : y.WellNamed := by
  have names : (Text.nonBlank? y.name).map ignoringCase.fold
      = (Text.nonBlank? x.name).map ignoringCase.fold :=
    Text.nonBlank?_congr (congrArg BoundAttributeIdentity.name identical.symm)
  have starts : y.indexerNamePrefix.map ignoringCase.fold
      = x.indexerNamePrefix.map ignoringCase.fold :=
    congrArg BoundAttributeIdentity.indexerNamePrefix identical.symm
  have directive : x.isDirective = y.isDirective :=
    Metadata.isSet_congr (congrArg BoundAttributeIdentity.facts identical) _
  constructor
  -- The tests are those of the other attribute, on its spelling of the name and of the prefix.
  · intro nameless
    rw [nameless, Option.map_none, eq_comm, Option.map_eq_none_iff] at names
    have indexed := congrArg Option.isSome starts
    rw [Option.isSome_map, Option.isSome_map] at indexed
    exact indexed.trans (well_named.named_or_indexed names)
  · intro name named
    rw [named, Option.map_some, eq_comm, Option.map_eq_some_iff] at names
    obtain ⟨other, other_named, alike⟩ := names
    exact directive ▸ (well_named.name other other_named).of_alike alike
  · intro start indexed
    rw [indexed, Option.map_some, eq_comm, Option.map_eq_some_iff] at starts
    obtain ⟨other, other_indexed, alike⟩ := starts
    exact directive ▸ (well_named.indexer other other_indexed).of_alike alike

end ComponentMarkup
