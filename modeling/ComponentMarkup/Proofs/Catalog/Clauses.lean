/-
  ComponentMarkup.Proofs.Catalog.Clauses
  ────────────────────────────────
  **Definitions as clauses.**

  A definition lists the fields of a declaration; a declaration is made clause by clause.  Every
  field that a definition gives is a clause, and so is every entry of its lists; what it leaves out
  is none.  The declaration of a definition is the one that its clauses make.

  Main statements: `Metadata.ofList_entries`, one `withClauses_clauses` for each kind of definition.
-/
import ComponentMarkup.Catalog.Definition
import Mathlib.Data.List.Basic

namespace ComponentMarkup

/-! ## §1. Runs of clauses of one kind. -/

namespace Metadata

theorem eq_of_entries_eq {x y : Metadata} (same : x.entries = y.entries) : x = y := by
  cases x
  cases y
  rw [mk.injEq]
  exact same

/-- A new key goes to the end. -/
theorem write_of_not_mem {key value : String} {entries : List (String × String)}
    (fresh : key ∉ entries.map Prod.fst) :
    write key value entries = entries ++ [(key, value)] := by
  induction entries with
  | nil => rfl
  | cons entry rest ih =>
    rw [List.map_cons, List.mem_cons, not_or] at fresh
    rw [write, if_neg (Ne.symm fresh.1), ih fresh.2, List.cons_append]

/-- Writing entries with keys that are new puts them at the end. -/
theorem entries_foldl_insert (m : Metadata) {entries : List (String × String)}
    (nodup : ((m.entries ++ entries).map Prod.fst).Nodup) :
    (entries.foldl (fun m entry => m.insert entry.1 entry.2) m).entries = m.entries ++ entries := by
  induction entries generalizing m with
  | nil => rw [List.foldl_nil, List.append_nil]
  | cons entry rest ih =>
    -- All keys are different, so that no write finds an earlier one to replace.
    have fresh : entry.1 ∉ m.entries.map Prod.fst := by
      rw [List.map_append, List.map_cons] at nodup
      exact (List.nodup_cons.mp (List.perm_middle.nodup_iff.mp nodup)).1 ∘ List.mem_append_left _
    have written : (m.insert entry.1 entry.2).entries = m.entries ++ [entry] :=
      write_of_not_mem fresh
    rw [List.append_cons, ← written] at nodup
    rw [List.foldl_cons, ih _ nodup, written, List.append_assoc, List.singleton_append]

/-- **A map is what its entries write**, since no two of them have the same key. -/
theorem ofList_entries (m : Metadata) : ofList m.entries = m :=
  eq_of_entries_eq (entries_foldl_insert empty m.nodup)

end Metadata

section Runs

variable {σ κ τ α : Type} (step : σ → κ → σ)

/-- Clauses that write a map into a place, entry by entry. -/
theorem foldl_metadata_clauses (put : Metadata → σ) (clause : String × String → κ)
    (puts : ∀ m entry, step (put m) (clause entry) = put (m.insert entry.1 entry.2))
    (m : Metadata) : (m.entries.map clause).foldl step (put .empty) = put m := by
  rw [List.foldl_map, List.foldl_hom put puts]
  exact congrArg put m.ofList_entries

/-- Clauses that put a list into a place, one after the other. -/
theorem foldl_list_clauses (put : List α → σ) (clause : τ → κ) (entry : τ → α)
    (puts : ∀ entries x, step (put entries) (clause x) = put (entries ++ [entry x]))
    (list : List τ) : (list.map clause).foldl step (put []) = put (list.map entry) := by
  have appended : list.foldl (fun entries x => entries ++ [entry x]) [] =
      [] ++ (list.map fun x => [entry x]).flatten := List.foldl_append_eq_append
  rw [List.foldl_map, List.foldl_hom put puts, appended, List.nil_append, ← List.flatMap_def,
    ← List.map_eq_flatMap]

end Runs

/-! ## §2. Parameters and bound attributes. -/

namespace ParameterDefinition

/-- The clauses for what a parameter has one of. -/
def fieldClauses (defined : ParameterDefinition) : List ParameterClause :=
  defined.name.toList.map .name ++ defined.typeName.toList.map .typeName
    ++ [.isEnum defined.isEnum] ++ defined.documentation.toList.map .documentation
    ++ defined.displayName.toList.map .displayName

/-- The clauses of a parameter. -/
def clauses (defined : ParameterDefinition) : List ParameterClause :=
  defined.fieldClauses ++ defined.metadata.entries.map fun entry => .metadata entry.1 entry.2

theorem withClauses_fieldClauses (kind : String) (defined : ParameterDefinition) :
    ({ kind } : ParameterDeclaration).withClauses defined.fieldClauses =
      { kind
        name := defined.name
        typeName := defined.typeName
        isEnum := defined.isEnum
        documentation := defined.documentation
        displayName := defined.displayName } := by
  obtain ⟨name, typeName, isEnum, documentation, displayName, metadata⟩ := defined
  cases name <;> cases typeName <;> cases documentation <;> cases displayName <;> rfl

theorem withClauses_clauses (kind : String) (defined : ParameterDefinition) :
    ({ kind } : ParameterDeclaration).withClauses defined.clauses = defined.declaration kind := by
  have fields := defined.withClauses_fieldClauses kind
  unfold clauses ParameterDeclaration.withClauses at *
  rw [List.foldl_append, fields]
  exact foldl_metadata_clauses ParameterDeclaration.withClause
    (fun metadata => { defined.declaration kind with metadata })
    (fun entry => .metadata entry.1 entry.2) (fun _ _ => rfl) defined.metadata

end ParameterDefinition

namespace AttributeDefinition

/-- The clauses for what a bound attribute has one of.  The type of an indexer counts only if there
is a prefix for it. -/
def fieldClauses (defined : AttributeDefinition) : List AttributeClause :=
  defined.name.toList.map .name ++ defined.typeName.toList.map .typeName
    ++ [.isEnum defined.isEnum]
    ++ defined.indexerNamePrefix.toList.map (.dictionary · (defined.indexerTypeName.getD ""))
    ++ defined.documentation.toList.map .documentation
    ++ defined.displayName.toList.map .displayName

/-- The clauses of a bound attribute. -/
def clauses (defined : AttributeDefinition) : List AttributeClause :=
  defined.fieldClauses
    ++ (defined.metadata.entries.map fun entry => .metadata entry.1 entry.2)
    ++ defined.parameters.map fun parameter => .parameter parameter.clauses

theorem withClauses_fieldClauses (kind : String) (defined : AttributeDefinition) :
    ({ kind } : AttributeDeclaration).withClauses defined.fieldClauses =
      { kind
        name := defined.name
        typeName := defined.typeName
        isEnum := defined.isEnum
        indexer := (defined.declaration kind).indexer
        documentation := defined.documentation
        displayName := defined.displayName } := by
  obtain ⟨name, typeName, isEnum, namePrefix, valueType, documentation, displayName, _⟩ := defined
  cases name <;> cases typeName <;> cases namePrefix <;> cases documentation
    <;> cases displayName <;> rfl

theorem withClauses_clauses (kind : String) (defined : AttributeDefinition) :
    ({ kind } : AttributeDeclaration).withClauses defined.clauses = defined.declaration kind := by
  have fields := defined.withClauses_fieldClauses kind
  have entries := foldl_metadata_clauses AttributeDeclaration.withClause
    (fun metadata => { defined.declaration kind with metadata, parameters := [] })
    (fun entry => .metadata entry.1 entry.2) (fun _ _ => rfl) defined.metadata
  have parameters := foldl_list_clauses AttributeDeclaration.withClause
    (fun parameters => { defined.declaration kind with parameters })
    (fun parameter => .parameter parameter.clauses) (·.declaration kind)
    (fun _ parameter => by rw [← parameter.withClauses_clauses kind]; rfl) defined.parameters
  unfold clauses AttributeDeclaration.withClauses at *
  rw [List.foldl_append, List.foldl_append, fields]
  exact (congrArg (List.foldl _ · _) entries).trans parameters

end AttributeDefinition

/-! ## §3. Rules. -/

/-- The clauses of a required attribute. -/
def RequirementDefinition.clauses (defined : RequirementDefinition) : List RequirementClause :=
  defined.name.toList.map .name ++ defined.value.toList.map .value
    ++ [.comparison defined.comparison]

theorem RequirementDefinition.withClauses_clauses (defined : RequirementDefinition) :
    ({} : RequirementDeclaration).withClauses defined.clauses = defined.declaration := by
  obtain ⟨name, comparison, value⟩ := defined
  cases name <;> cases value <;> rfl

namespace RuleDefinition

/-- The clauses for what a rule has one of. -/
def fieldClauses (defined : RuleDefinition) : List RuleClause :=
  defined.tagName.toList.map .tagName ++ defined.parentTag.toList.map .parentTag

/-- The clauses of a rule. -/
def clauses (defined : RuleDefinition) : List RuleClause :=
  defined.fieldClauses ++ defined.requirements.map fun required => .requirement required.clauses

theorem withClauses_fieldClauses (defined : RuleDefinition) :
    ({} : RuleDeclaration).withClauses defined.fieldClauses =
      { tagName := defined.tagName, parentTag := defined.parentTag } := by
  obtain ⟨tagName, parentTag, _⟩ := defined
  cases tagName <;> cases parentTag <;> rfl

theorem withClauses_clauses (defined : RuleDefinition) :
    ({} : RuleDeclaration).withClauses defined.clauses = defined.declaration := by
  have fields := defined.withClauses_fieldClauses
  have requirements := foldl_list_clauses RuleDeclaration.withClause
    (fun requirements => { defined.declaration with requirements })
    (fun required => .requirement required.clauses) (·.declaration)
    (fun _ required => by rw [← required.withClauses_clauses]; rfl) defined.requirements
  unfold clauses RuleDeclaration.withClauses at *
  rw [List.foldl_append, fields]
  exact requirements

end RuleDefinition

/-! ## §4. Tag helpers. -/

namespace TagHelperDefinition

/-- The clauses for what a tag helper has one of, apart from the texts that it cannot do without. -/
def fieldClauses (defined : TagHelperDefinition) : List TagHelperClause :=
  defined.displayName.toList.map .displayName ++ defined.documentation.toList.map .documentation
    ++ defined.tagOutputHint.toList.map .tagOutputHint

/-- The clauses of a tag helper. -/
def clauses (defined : TagHelperDefinition) : List TagHelperClause :=
  defined.fieldClauses
    ++ (defined.metadata.entries.map fun entry => .metadata entry.1 entry.2)
    ++ (defined.attributes.map fun bound => .boundAttribute bound.clauses)
    ++ defined.rules.map fun rule => .matchingRule rule.clauses

/-- The declaration of a definition under the texts that it cannot do without. -/
def declarationUnder (kind name assemblyName : String) (defined : TagHelperDefinition) :
    TagHelperDeclaration where
  kind := kind
  name := name
  assemblyName := assemblyName
  displayName := defined.displayName
  documentation := defined.documentation
  tagOutputHint := defined.tagOutputHint
  metadata := defined.metadata
  attributes := defined.attributes.map (·.declaration kind)
  rules := defined.rules.map (·.declaration)

variable (kind name assemblyName : String) (defined : TagHelperDefinition)

theorem withClauses_fieldClauses :
    ({ kind, name, assemblyName } : TagHelperDeclaration).withClauses defined.fieldClauses =
      { kind, name, assemblyName
        displayName := defined.displayName
        documentation := defined.documentation
        tagOutputHint := defined.tagOutputHint } := by
  obtain ⟨_, _, _, displayName, documentation, tagOutputHint, _, _, _⟩ := defined
  cases displayName <;> cases documentation <;> cases tagOutputHint <;> rfl

/-- **The declaration of a definition is the one that its clauses make.** -/
theorem withClauses_clauses :
    ({ kind, name, assemblyName } : TagHelperDeclaration).withClauses defined.clauses =
      defined.declarationUnder kind name assemblyName := by
  let declared := defined.declarationUnder kind name assemblyName
  have fields := defined.withClauses_fieldClauses kind name assemblyName
  have entries := foldl_metadata_clauses TagHelperDeclaration.withClause
    (fun metadata => { declared with metadata, attributes := [], rules := [] })
    (fun entry => .metadata entry.1 entry.2) (fun _ _ => rfl) defined.metadata
  have attributes := foldl_list_clauses TagHelperDeclaration.withClause
    (fun attributes => { declared with attributes, rules := [] })
    (fun bound => .boundAttribute bound.clauses) (·.declaration kind)
    (fun _ bound => by rw [← bound.withClauses_clauses kind]; rfl) defined.attributes
  have rules := foldl_list_clauses TagHelperDeclaration.withClause
    (fun rules => { declared with rules })
    (fun rule => .matchingRule rule.clauses) (·.declaration)
    (fun _ rule => by rw [← rule.withClauses_clauses]; rfl) defined.rules
  unfold clauses TagHelperDeclaration.withClauses at *
  rw [List.foldl_append, List.foldl_append, List.foldl_append, fields]
  -- Each run of clauses starts where the one before it ends.
  calc
    _ = List.foldl _ (List.foldl _ { declared with attributes := [], rules := [] } _) _ :=
      congrArg (fun after => List.foldl _ (List.foldl _ after _) _) entries
    _ = List.foldl _ { declared with rules := [] } _ :=
      congrArg (List.foldl _ · _) attributes
    _ = declared := rules

end TagHelperDefinition

end ComponentMarkup
