/-
  ComponentMarkup.Proofs.Descriptors.OrderBlindness
  ────────────────────────────────
  **What is built does not show in which order the clauses stood.**

  Display names, owners, problems and the flag of directive attributes are worked out when all
  clauses are read, from the fields and from single keys of the metadata.  So declarations that
  agree build descriptors that differ in nothing but the order of the metadata, theirs and that of
  the attributes and parameters inside.  Comparisons do not see this order, so it is the same
  attributes and parameters that collapse, and the same diagnostics that are reported.

  Main statements: one `Agrees.build` for each kind of declaration whose metadata counts,
  `TagHelper.Reorders.coincides` and `rearranged_builds_coincide`.
-/
import ComponentMarkup.Proofs.Descriptors.ClauseOrder
import ComponentMarkup.Proofs.Descriptors.Collapse

namespace ComponentMarkup

/-! ## §1. What declarations that agree build. -/

section Builds

variable (owner : Owner)

theorem ParameterDeclaration.Agrees.build {x y : ParameterDeclaration} (agrees : x.Agrees y)
    (attributeName : String) :
    (x.build owner attributeName).Reorders (y.build owner attributeName) := by
  have kind_eq : x.kind = y.kind := agrees .kind
  have name_eq : x.name = y.name := agrees .name
  have type_eq : x.typeName = y.typeName := agrees .typeName
  have enum_eq : x.isEnum = y.isEnum := agrees .isEnum
  have documentation_eq : x.documentation = y.documentation := agrees .documentation
  have display_eq : x.displayName = y.displayName := agrees .displayName
  have values_eq : ∀ key, x.metadata.get? key = y.metadata.get? key := fun key =>
    agrees (.metadata key)
  have diagnostics_eq : x.diagnostics = y.diagnostics := agrees .diagnostics
  refine ⟨y.metadata, Metadata.perm_of_get?_eq values_eq, ?_⟩
  simp only [ParameterDeclaration.build, shownName, problems, kind_eq, name_eq, type_eq, enum_eq,
    documentation_eq, display_eq, values_eq, diagnostics_eq]

namespace AttributeDeclaration

variable {x y : AttributeDeclaration}

theorem Agrees.shownName_eq (agrees : x.Agrees y) : x.shownName owner = y.shownName owner := by
  have name_eq : x.name = y.name := agrees .name
  have type_eq : x.typeName = y.typeName := agrees .typeName
  have display_eq : x.displayName = y.displayName := agrees .displayName
  have property_eq : x.metadata.get? Metadata.propertyNameKey
      = y.metadata.get? Metadata.propertyNameKey := agrees (.metadata _)
  rw [shownName, shownName, name_eq, type_eq, display_eq, property_eq]

theorem Agrees.problems_eq (agrees : x.Agrees y) (ownerName shownName : String) :
    x.problems ownerName shownName = y.problems ownerName shownName := by
  have name_eq : x.name = y.name := agrees .name
  have indexer_eq : x.indexer = y.indexer := agrees .indexer
  have flag_eq : x.metadata.get? Metadata.directiveAttributeKey
      = y.metadata.get? Metadata.directiveAttributeKey := agrees (.metadata _)
  have directive_eq : x.isDirective = y.isDirective := by
    rw [isDirective, isDirective, Metadata.isSet, Metadata.isSet, flag_eq]
  rw [problems, problems, nameProblems, nameProblems, name_eq, indexer_eq, directive_eq]

theorem Agrees.builtParameters (agrees : x.Agrees y) :
    List.Forall₂ AttributeParameter.Reorders (x.builtParameters owner)
      (y.builtParameters owner) := by
  obtain ⟨-, parameters⟩ := agrees .parameters
  rw [AttributeDeclaration.builtParameters, AttributeDeclaration.builtParameters, citedName,
    citedName, agrees.shownName_eq, List.forall₂_map_left_iff, List.forall₂_map_right_iff]
  exact parameters.imp fun _ _ inside => inside.build owner _

theorem Agrees.build (agrees : x.Agrees y) : (x.build owner).Reorders (y.build owner) := by
  have kind_eq : x.kind = y.kind := agrees .kind
  have name_eq : x.name = y.name := agrees .name
  have type_eq : x.typeName = y.typeName := agrees .typeName
  have enum_eq : x.isEnum = y.isEnum := agrees .isEnum
  have indexer_eq : x.indexer = y.indexer := agrees .indexer
  have documentation_eq : x.documentation = y.documentation := agrees .documentation
  have diagnostics_eq : x.diagnostics = y.diagnostics := agrees .diagnostics
  have parameters := forall₂_eraseDupsBy (AttributeParameter.same_iff .exact)
    (fun _ _ => AttributeParameter.Reorders.identity_eq .exact) (agrees.builtParameters owner)
  refine ⟨y.metadata, _, Metadata.perm_of_get?_eq fun key => agrees (.metadata key),
    parameters, ?_⟩
  simp only [AttributeDeclaration.build, citedName, agrees.shownName_eq, agrees.problems_eq,
    kind_eq, name_eq, type_eq, enum_eq, indexer_eq, documentation_eq, diagnostics_eq]

end AttributeDeclaration

end Builds

namespace TagHelperDeclaration

variable {x y : TagHelperDeclaration}

theorem Agrees.owner_eq (agrees : x.Agrees y) : x.owner = y.owner := by
  have name_eq : x.name = y.name := agrees .name
  have display_eq : x.displayName = y.displayName := agrees .displayName
  have type_eq : x.metadata.get? Metadata.typeNameKey = y.metadata.get? Metadata.typeNameKey :=
    agrees (.metadata _)
  rw [owner, owner, shownName, shownName, name_eq, display_eq, type_eq]

theorem Agrees.builtAttributes (agrees : x.Agrees y) :
    List.Forall₂ BoundAttribute.Reorders x.builtAttributes y.builtAttributes := by
  obtain ⟨-, attributes⟩ := agrees .attributes
  rw [TagHelperDeclaration.builtAttributes, TagHelperDeclaration.builtAttributes,
    agrees.owner_eq, List.forall₂_map_left_iff, List.forall₂_map_right_iff]
  exact attributes.imp fun _ _ inside => inside.build y.owner

/-- **Declarations that agree build the same tag helper**, up to the order of the metadata. -/
theorem Agrees.build (agrees : x.Agrees y) : x.build.Reorders y.build := by
  have kind_eq : x.kind = y.kind := agrees .kind
  have name_eq : x.name = y.name := agrees .name
  have assembly_eq : x.assemblyName = y.assemblyName := agrees .assemblyName
  have display_eq : x.displayName = y.displayName := agrees .displayName
  have documentation_eq : x.documentation = y.documentation := agrees .documentation
  have hint_eq : x.tagOutputHint = y.tagOutputHint := agrees .tagOutputHint
  have rules_eq : x.rules = y.rules := agrees .rules
  have diagnostics_eq : x.diagnostics = y.diagnostics := agrees .diagnostics
  have attributes := forall₂_eraseDupsBy (BoundAttribute.same_iff .ignoringCase)
    (fun _ _ => BoundAttribute.Reorders.identity_eq .ignoringCase) agrees.builtAttributes
  refine ⟨y.metadata, _, Metadata.perm_of_get?_eq fun key => agrees (.metadata key),
    attributes, ?_⟩
  simp only [TagHelperDeclaration.build, shownName, builtRules, kind_eq, name_eq, assembly_eq,
    display_eq, documentation_eq, hint_eq, rules_eq, diagnostics_eq]

end TagHelperDeclaration

/-! ## §2. Descriptors that coincide. -/

/-- Whether two parameters **coincide**: they are the same, with letter case counted, and have the
same diagnostics. -/
structure AttributeParameter.Coincides (x y : AttributeParameter) : Prop where
  same : x.same .exact y = true
  diagnostics_eq : x.diagnostics = y.diagnostics

/-- Whether two bound attributes coincide, and so do their parameters, one by one. -/
structure BoundAttribute.Coincides (x y : BoundAttribute) : Prop where
  same : x.same .exact y = true
  diagnostics_eq : x.diagnostics = y.diagnostics
  parameters : List.Forall₂ AttributeParameter.Coincides x.parameters y.parameters

/-- Whether two required attributes coincide. -/
structure RequiredAttribute.Coincides (x y : RequiredAttribute) : Prop where
  same : x.same .exact y = true
  diagnostics_eq : x.diagnostics = y.diagnostics

/-- Whether two rules coincide, and so do the attributes that they require, one by one. -/
structure ElementRule.Coincides (x y : ElementRule) : Prop where
  same : x.same .exact y = true
  diagnostics_eq : x.diagnostics = y.diagnostics
  attributes : List.Forall₂ RequiredAttribute.Coincides x.attributes y.attributes

/-- Whether two tag helpers coincide, and so do their attributes and their rules, one by one. -/
structure TagHelper.Coincides (x y : TagHelper) : Prop where
  same : x.same .exact y = true
  diagnostics_eq : x.diagnostics = y.diagnostics
  attributes : List.Forall₂ BoundAttribute.Coincides x.attributes y.attributes
  rules : List.Forall₂ ElementRule.Coincides x.rules y.rules

theorem AttributeParameter.Reorders.coincides {x y : AttributeParameter}
    (reorders : x.Reorders y) : x.Coincides y where
  same := (AttributeParameter.same_iff .exact x y).mpr (reorders.identity_eq .exact)
  diagnostics_eq := by
    obtain ⟨_, -, rfl⟩ := reorders
    rfl

theorem BoundAttribute.Reorders.coincides {x y : BoundAttribute} (reorders : x.Reorders y) :
    x.Coincides y where
  same := (BoundAttribute.same_iff .exact x y).mpr (reorders.identity_eq .exact)
  diagnostics_eq := by
    obtain ⟨_, _, -, -, rfl⟩ := reorders
    rfl
  parameters := by
    obtain ⟨_, _, -, inside, rfl⟩ := reorders
    exact inside.imp fun _ _ => AttributeParameter.Reorders.coincides

theorem RequiredAttribute.coincides_refl (x : RequiredAttribute) : x.Coincides x where
  same := (RequiredAttribute.same_iff .exact x x).mpr rfl
  diagnostics_eq := rfl

theorem ElementRule.coincides_refl (x : ElementRule) : x.Coincides x where
  same := (ElementRule.same_iff .exact x x).mpr rfl
  diagnostics_eq := rfl
  attributes := List.forall₂_same.mpr fun required _ => required.coincides_refl

/-- **The order of the metadata** makes no difference at any level. -/
theorem TagHelper.Reorders.coincides {x y : TagHelper} (reorders : x.Reorders y) :
    x.Coincides y where
  same := (TagHelper.same_iff .exact x y).mpr (reorders.identity_eq .exact)
  diagnostics_eq := by
    obtain ⟨_, _, -, -, rfl⟩ := reorders
    rfl
  attributes := by
    obtain ⟨_, _, -, inside, rfl⟩ := reorders
    exact inside.imp fun _ _ => BoundAttribute.Reorders.coincides
  rules := by
    obtain ⟨_, _, -, -, rfl⟩ := reorders
    exact List.forall₂_same.mpr fun rule _ => rule.coincides_refl

/-! ## §3. Rearranged clauses. -/

/-- **Clauses for different fields commute.**  Whatever a declaration says already, rearranged
clauses make descriptors of it that coincide, and whose attributes, parameters, rules and required
attributes coincide one by one.  So an attribute can be bound before or after the tag helper is
given the type and the name that it is shown with. -/
theorem rearranged_builds_coincide (declared : TagHelperDeclaration) :
    (∀ xs ys, Rearranged TagHelperClause.field TagHelperClause.Alike xs ys →
        (declared.withClauses xs).build.Coincides (declared.withClauses ys).build)
      ∧ ∀ (typeName displayName : String) (clauses : List AttributeClause)
        (front back : List TagHelperClause),
        (declared.withClauses (front ++ .boundAttribute clauses
            :: ([.typeName typeName, .displayName displayName] ++ back))).build.Coincides
          (declared.withClauses (front ++ ([.typeName typeName, .displayName displayName]
            ++ .boundAttribute clauses :: back))).build := by
  have coincide (xs ys : List TagHelperClause)
      (rearranged : Rearranged TagHelperClause.field TagHelperClause.Alike xs ys) :
      (declared.withClauses xs).build.Coincides (declared.withClauses ys).build :=
    (declared.agrees_withClauses rearranged).build.coincides
  refine ⟨coincide, ?_⟩
  intro typeName displayName clauses front back
  apply coincide
  apply Rearranged.of_reordered .same
  exact .of_move _ _ front back (by simp [TagHelperClause.field])

/-- With the clauses at all three levels in another order, the metadata of the attribute inside is
written in another order, and still the tag helpers coincide. -/
theorem rearranged_builds_coincide_flaggedProperty :
    let format : List ParameterClause := [.propertyName "Format", .metadata "origin" "bind"]
    let format' : List ParameterClause := [.metadata "origin" "bind", .propertyName "Format"]
    let bound : List AttributeClause := [.propertyName "Value", .directive, .parameter format]
    let bound' : List AttributeClause := [.directive, .parameter format', .propertyName "Value"]
    let declared : TagHelperDeclaration := { kind := "K", name := "N", assemblyName := "A" }
    let helper := (declared.withClauses [.boundAttribute bound, .typeName "T"]).build
    let helper' := (declared.withClauses [.typeName "T", .boundAttribute bound']).build
    helper.Coincides helper' ∧ ¬ helper = helper' := by
  intro format format' bound bound' declared helper helper'
  have formats : Reordered ParameterClause.field format format' := .of_move _ [_] [] [] (by decide)
  have moved : Reordered AttributeClause.field bound
      [.directive, .parameter format, .propertyName "Value"] :=
    .of_move _ [_, _] [] [] (by decide)
  have values : Rearranged AttributeClause.field AttributeClause.Alike bound bound' :=
    ⟨_, moved, .cons (.same _) (.cons (.parameter formats) (.cons (.same _) .nil))⟩
  have typed : Reordered TagHelperClause.field [.boundAttribute bound, .typeName "T"]
      [.typeName "T", .boundAttribute bound] := .of_move _ [_] [] [] (by decide)
  refine ⟨(rearranged_builds_coincide declared).1 _ _ ?_, by decide⟩
  exact ⟨_, typed, .cons (.same _) (.cons (.boundAttribute values) .nil)⟩

end ComponentMarkup
