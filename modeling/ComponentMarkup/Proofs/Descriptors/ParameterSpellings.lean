/-
  ComponentMarkup.Proofs.Descriptors.ParameterSpellings
  ────────────────────────────────
  **Parameters that are lost with their attribute.**

  Inside one attribute only exact repetitions of a parameter collapse.  But whole attributes
  collapse up to letter case, and that of their parameters as well: so an attribute can be dropped
  for one whose parameters are spelled in another case, and the spelling is lost.  Display names
  count in every comparison, and a parameter for which nothing else was chosen is shown under its
  own name, in its own case; so it takes a chosen or a computed display name to lose a parameter,
  and a name with a second spelling.

  Main statements: `TagHelperDeclaration.keepsParameter_iff_not_loses`, `keepsParameter_of_names`
  and `keepsParameters_iff`.
-/
import ComponentMarkup.Proofs.Descriptors.Shadowing

namespace ComponentMarkup

open NameCasing

/-! ## §1. Parameters of attributes that are the same. -/

namespace AttributeParameter

theorem same_trans {casing : NameCasing} {x y z : AttributeParameter}
    (first : x.same casing y = true) (second : y.same casing z = true) :
    x.same casing z = true := by
  rw [same_iff] at first second ⊢
  exact first.trans second

/-- Only the case of the name can keep parameters that are the same from being so exactly. -/
theorem same_exact_of_name {x y : AttributeParameter} (same : x.same .ignoringCase y = true)
    (name : x.name = y.name) : x.same .exact y = true := by
  simp only [AttributeParameter.same, Bool.and_eq_true, and_assoc] at same ⊢
  obtain ⟨kind, isEnum, -, rest⟩ := same
  exact ⟨kind, isEnum, (sameName_iff _ _ _).mpr (congrArg _ name), rest⟩

end AttributeParameter

/-- The parameters of attributes that are the same are the same, one by one. -/
theorem BoundAttribute.exists_parameter_same {casing : NameCasing} {x y : BoundAttribute}
    (same : x.same casing y = true) {p : AttributeParameter} (mem : p ∈ x.parameters) :
    ∃ q ∈ y.parameters, p.same casing q = true := by
  have parameters : x.parameters.map (AttributeParameter.identity casing)
      = y.parameters.map (AttributeParameter.identity casing) :=
    congrArg BoundAttributeIdentity.parameters ((same_iff casing x y).mp same)
  obtain ⟨q, among, identical⟩ := List.mem_map.mp (parameters ▸ List.mem_map_of_mem mem)
  exact ⟨q, among, (AttributeParameter.same_iff casing p q).mpr identical.symm⟩

namespace AttributeDeclaration

variable (owner : Owner) (declared : AttributeDeclaration)

/-- The descriptor of one of the declared parameters by itself. -/
def builtParameter (parameter : ParameterDeclaration) : AttributeParameter :=
  parameter.build owner (declared.citedName owner)

/-- **Inside its attribute no parameter is lost**: one that is exactly the same is left. -/
theorem exists_left_same {parameter : ParameterDeclaration} (mem : parameter ∈ declared.parameters) :
    ∃ left ∈ (declared.build owner).parameters,
      (declared.builtParameter owner parameter).same .exact left = true := by
  have built : declared.builtParameter owner parameter ∈ declared.builtParameters owner :=
    List.mem_map_of_mem mem
  obtain ⟨left, kept, -, same⟩ := exists_mem_eraseDupsBy (AttributeParameter.same_iff .exact) built
  exact ⟨left, kept, same⟩

/-- What is left was declared. -/
theorem exists_declared {left : AttributeParameter}
    (kept : left ∈ (declared.build owner).parameters) :
    ∃ parameter ∈ declared.parameters, declared.builtParameter owner parameter = left :=
  List.mem_map.mp (mem_of_mem_eraseDupsBy kept)

end AttributeDeclaration

/-! ## §2. Parameters that are kept and parameters that are lost. -/

namespace TagHelperDeclaration

variable (declared : TagHelperDeclaration) (bound : AttributeDeclaration)
  (parameter : ParameterDeclaration)

/-- Whether the built tag helper has an attribute that is the same as the declared one up to letter
case and a parameter of it that is exactly the same as the declared one. -/
def KeepsParameter : Prop :=
  ∃ kept ∈ declared.build.attributes, (bound.build declared.owner).same .ignoringCase kept = true
    ∧ ∃ left ∈ kept.parameters,
      (bound.builtParameter declared.owner parameter).same .exact left = true

/-- Whether the first attribute that is the same up to letter case declares no parameter that is
exactly the same. -/
def LosesParameter : Prop :=
  ∃ first ∈ declared.attributes,
    declared.builtAttributes.find? ((bound.build declared.owner).same .ignoringCase)
        = some (first.build declared.owner)
      ∧ ∀ other ∈ first.parameters, (bound.builtParameter declared.owner parameter).same .exact
        (first.builtParameter declared.owner other) = false

variable {declared bound parameter}

/-- A declared attribute is the same as the first one like it, which stays. -/
theorem exists_first_same (mem : bound ∈ declared.attributes) :
    ∃ first ∈ declared.attributes, first.build declared.owner ∈ declared.build.attributes
      ∧ declared.builtAttributes.find? ((bound.build declared.owner).same .ignoringCase)
        = some (first.build declared.owner)
      ∧ (bound.build declared.owner).same .ignoringCase (first.build declared.owner) = true := by
  have built : bound.build declared.owner ∈ declared.builtAttributes := List.mem_map_of_mem mem
  obtain ⟨kept, left, found, same⟩ :=
    exists_mem_eraseDupsBy (BoundAttribute.same_iff .ignoringCase) built
  obtain ⟨first, among, rfl⟩ := List.mem_map.mp (mem_of_mem_eraseDupsBy left)
  exact ⟨first, among, left, found, same⟩

/-- **A parameter is lost exactly if its attribute is dropped for one that declares no parameter
that is exactly the same.** -/
theorem keepsParameter_iff_not_loses (mem : bound ∈ declared.attributes) :
    declared.KeepsParameter bound parameter ↔ ¬ declared.LosesParameter bound parameter := by
  constructor
  · intro ⟨kept, left, same, p, among, exactly⟩ ⟨first, _, found, unlike⟩
    -- What is left of the same attributes is the first of them, for which this one was dropped.
    have identical := (BoundAttribute.same_iff .ignoringCase _ _).mp same
    have alike : (bound.build declared.owner).same .ignoringCase = kept.same .ignoringCase := by
      funext other
      rw [Bool.eq_iff_iff, BoundAttribute.same_iff, BoundAttribute.same_iff, identical]
    rw [alike, (mem_eraseDupsBy_iff (BoundAttribute.same_iff .ignoringCase)).mp left] at found
    obtain rfl := Option.some.inj found
    obtain ⟨other, declared_there, rfl⟩ := first.exists_declared declared.owner among
    rw [unlike other declared_there] at exactly
    exact absurd exactly (by simp)
  · intro not_lost
    obtain ⟨first, among, left, found, same⟩ := exists_first_same mem
    refine ⟨_, left, same, ?_⟩
    by_contra none_left
    apply not_lost
    refine ⟨first, among, found, ?_⟩
    intro other declared_there
    rw [Bool.eq_false_iff]
    intro exactly
    obtain ⟨p, kept, same_p⟩ := first.exists_left_same declared.owner declared_there
    exact none_left ⟨p, kept, AttributeParameter.same_trans exactly same_p⟩

/-- A parameter is kept if no parameter that is the same up to letter case has another name. -/
theorem keepsParameter_of_names (mem : bound ∈ declared.attributes)
    (among : parameter ∈ bound.parameters)
    (names : ∀ first ∈ declared.attributes, ∀ other ∈ first.parameters,
      (bound.builtParameter declared.owner parameter).same .ignoringCase
        (first.builtParameter declared.owner other) = true → parameter.name = other.name) :
    declared.KeepsParameter bound parameter := by
  obtain ⟨first, first_mem, left, -, same⟩ := exists_first_same mem
  obtain ⟨p, p_mem, exactly⟩ := bound.exists_left_same declared.owner among
  obtain ⟨q, q_mem, alike⟩ := BoundAttribute.exists_parameter_same same p_mem
  obtain ⟨other, other_mem, rfl⟩ := first.exists_declared declared.owner q_mem
  have same_up_to_case := AttributeParameter.same_trans
    (AttributeParameter.same_of_exact exactly .ignoringCase) alike
  exact ⟨_, left, same, _, q_mem, AttributeParameter.same_exact_of_name same_up_to_case
    (names first first_mem other other_mem same_up_to_case)⟩

end TagHelperDeclaration

/-! ## §3. Names in one case. -/

/-- Whether full lower case tells a name from every other one. -/
def HasOneCase (name : Option String) : Prop :=
  ∀ other : Option String, other.map ignoringCase.fold = name.map ignoringCase.fold → other = name

/-- Whether every declared parameter is shown under its own name. -/
def TagHelperDeclaration.ShowsParameterNames (declared : TagHelperDeclaration) : Prop :=
  ∀ bound ∈ declared.attributes, ∀ parameter ∈ bound.parameters,
    parameter.shownName declared.owner = parameter.name

/-- An attribute `@bind` with a parameter that is shown as `p`. -/
def boundWith (parameterName : String) : AttributeDeclaration :=
  ({ kind := "K" } : AttributeDeclaration).withClauses
    [.name "@bind", .parameter [.name parameterName, .displayName "p"]]

/-- A tag helper with two such attributes, which differ in nothing but the parameter's name. -/
def boundTwice (first second : String) : TagHelperDeclaration :=
  ({ kind := "K", name := "N", assemblyName := "A" } : TagHelperDeclaration).withClauses
    [.boundAttribute [.name "@bind", .parameter [.name first, .displayName "p"]],
      .boundAttribute [.name "@bind", .parameter [.name second, .displayName "p"]]]

theorem isAuthored_boundTwice (first second : String) : (boundTwice first second).IsAuthored :=
  ⟨"K", "N", "A", _, _, rfl, rfl⟩

theorem same_boundWith {first second : String}
    (alike : Text.lowerEach first.toList = Text.lowerEach second.toList) (owner : Owner) :
    ((boundWith first).build owner).same .ignoringCase ((boundWith second).build owner) = true := by
  rw [BoundAttribute.same_iff]
  have identity_eq (name : String) :
      ((boundWith name).build owner).identity .ignoringCase =
        { kind := "K", isEnum := false, name := some (Text.lowerEach "@bind".toList),
          indexerNamePrefix := none, indexerValueTypeName := none, typeName := none,
          documentation := none, displayName := some "@bind", facts := Metadata.empty.facts,
          parameters := [{
            kind := "K", isEnum := false, name := some (Text.lowerEach name.toList),
            typeName := none, documentation := none, displayName := some "p",
            facts := Metadata.empty.facts }] } := rfl
  rw [identity_eq, identity_eq, alike]

/-- A second spelling that is declared first takes the place of the name. -/
theorem loses_boundTwice {other name : String}
    (alike : Text.lowerEach other.toList = Text.lowerEach name.toList) (different : other ≠ name) :
    ∃ bound ∈ (boundTwice other name).attributes, ∃ parameter ∈ bound.parameters,
      parameter.name = some name ∧ ¬ (boundTwice other name).KeepsParameter bound parameter := by
  have listed : (boundTwice other name).attributes = [boundWith other, boundWith name] := rfl
  have mem : boundWith name ∈ (boundTwice other name).attributes := by simp [listed]
  refine ⟨boundWith name, mem, _, List.mem_singleton_self _, rfl, ?_⟩
  rw [TagHelperDeclaration.keepsParameter_iff_not_loses mem, not_not]
  refine ⟨boundWith other, by simp [listed], ?_, ?_⟩
  · show List.find? _ [(boundWith other).build _, _] = _
    rw [List.find?_cons, same_boundWith alike.symm]
  · intro spelled among
    obtain rfl := List.mem_singleton.mp among
    rw [Bool.eq_false_iff]
    intro exactly
    have names := congrArg ParameterIdentity.name
      ((AttributeParameter.same_iff .exact _ _).mp exactly)
    have spelled_alike : some name.toList = some other.toList := names
    exact different (String.toList_injective (Option.some.inj spelled_alike)).symm

/-- **Which parameters are kept.**  In one declaration these are the parameters that are not lost
with their attribute; in all declarations that can be written, those with a name in one case; and
none is lost as long as every parameter is shown under its own name. -/
theorem keepsParameters_iff (declared : TagHelperDeclaration) (name : Option String) :
    (∀ bound ∈ declared.attributes, ∀ parameter ∈ bound.parameters,
        declared.KeepsParameter bound parameter ↔ ¬ declared.LosesParameter bound parameter)
      ∧ ((∀ authored : TagHelperDeclaration, authored.IsAuthored → ∀ bound ∈ authored.attributes,
          ∀ parameter ∈ bound.parameters, parameter.name = name →
            authored.KeepsParameter bound parameter)
        ↔ HasOneCase name)
      ∧ (declared.ShowsParameterNames → ∀ bound ∈ declared.attributes,
        ∀ parameter ∈ bound.parameters, declared.KeepsParameter bound parameter) := by
  refine ⟨?lost, ?spelled, ?shown⟩
  case lost =>
    intro bound mem parameter _
    exact TagHelperDeclaration.keepsParameter_iff_not_loses mem
  case spelled =>
    constructor
    · intro keeps other alike
      cases name with
      | none => exact Option.map_eq_none_iff.mp alike
      | some name =>
        rw [Option.map_some, Option.map_eq_some_iff] at alike
        obtain ⟨other, rfl, folded⟩ := alike
        by_contra different
        obtain ⟨bound, mem, parameter, among, named, not_kept⟩ :=
          loses_boundTwice folded fun same => different (congrArg some same)
        exact not_kept (keeps _ (isAuthored_boundTwice _ _) bound mem parameter among named)
    · intro one authored _ bound mem parameter among named
      apply TagHelperDeclaration.keepsParameter_of_names mem among
      intro first _ other _ same
      have names := congrArg ParameterIdentity.name
        ((AttributeParameter.same_iff .ignoringCase _ _).mp same)
      have folded : parameter.name.map ignoringCase.fold = other.name.map ignoringCase.fold := names
      rw [named] at folded ⊢
      exact (one other.name folded.symm).symm
  case shown =>
    intro shows_names bound mem parameter among
    apply TagHelperDeclaration.keepsParameter_of_names mem among
    intro first first_mem other other_mem same
    have shown := congrArg ParameterIdentity.displayName
      ((AttributeParameter.same_iff .ignoringCase _ _).mp same)
    have shown_alike : parameter.shownName declared.owner = other.shownName declared.owner := shown
    rwa [shows_names bound mem parameter among, shows_names first first_mem other other_mem]
      at shown_alike

/-- An attribute that is declared again in capitals, with a parameter in both cases each time. -/
def boundShouted : TagHelperDeclaration :=
  ({ kind := "K", name := "N", assemblyName := "A" } : TagHelperDeclaration).withClauses
    [.boundAttribute [.name "@bind", .displayName "v", .parameter [.name "format"],
        .parameter [.name "FORMAT"]],
      .boundAttribute [.name "@BIND", .displayName "v", .parameter [.name "format"],
        .parameter [.name "FORMAT"]]]

/-- One attribute is left, and it has both spellings of the parameter. -/
theorem keepsParameters_boundShouted :
    boundShouted.build.attributes.length = 1
      ∧ ∀ bound ∈ boundShouted.attributes, ∀ parameter ∈ bound.parameters,
        boundShouted.KeepsParameter bound parameter := by
  have shows_names : boundShouted.ShowsParameterNames := by
    unfold TagHelperDeclaration.ShowsParameterNames
    decide
  exact ⟨by decide, (keepsParameters_iff boundShouted none).2.2 shows_names⟩

/-- **A capital is enough**: of two attributes with the parameters `format` and `FORMAT` the first
one stays, and nothing is left of `FORMAT`. -/
theorem keepsParameters_fails_boundTwice :
    (boundTwice "format" "FORMAT").IsAuthored
      ∧ ∃ bound ∈ (boundTwice "format" "FORMAT").attributes, ∃ parameter ∈ bound.parameters,
        parameter.name = some "FORMAT"
          ∧ ¬ (boundTwice "format" "FORMAT").KeepsParameter bound parameter :=
  ⟨isAuthored_boundTwice _ _, loses_boundTwice (by decide) (by decide)⟩

end ComponentMarkup
