/-
  ComponentMarkup.Proofs.Descriptors.Equality
  ────────────────────────────────
  **Comparing descriptors is comparing what counts of them.**

  Each kind of descriptor has an identity: its fields without the diagnostics, with every name
  folded to the part of it that counts, with the metadata as a multiset of facts, and with the
  descriptors inside replaced by their own identities.  Two descriptors are the same exactly if
  their identities are equal, so what holds of equality holds of the comparison.

  That the metadata of two descriptors agrees is decided by looking up the entries of one of them
  in the other.  This is symmetric because no key is written twice (`Metadata.nodup`).

  Main statements: `Metadata.agrees_iff`, one `same_iff` for each kind of descriptor, and
  `descriptors_lawfulComparison`.
-/
import ComponentMarkup.TagHelper.Equality
import Mathlib.Data.List.Nodup
import Mathlib.Data.Multiset.Defs

namespace ComponentMarkup

/-! ## §1. Metadata. -/

namespace Metadata

/-- The entries without their order. -/
def facts (m : Metadata) : Multiset (String × String) := ↑m.entries

/-- Two maps have the same facts if the entries of one are those of the other in some order. -/
theorem facts_eq_iff {x y : Metadata} : x.facts = y.facts ↔ x.entries.Perm y.entries :=
  Multiset.coe_eq_coe

/-- In a list of entries without a repeated key, looking up a key finds its one entry. -/
theorem lookup_eq_some_iff_mem {entries : List (String × String)}
    (nodup : (entries.map Prod.fst).Nodup) (key value : String) :
    entries.lookup key = some value ↔ (key, value) ∈ entries := by
  induction entries with
  | nil => simp
  | cons entry rest ih =>
    obtain ⟨first, text⟩ := entry
    rw [List.map_cons, List.nodup_cons] at nodup
    by_cases same : key = first
    · subst same
      have absent : (key, value) ∉ rest := fun mem =>
        nodup.1 (List.mem_map.mpr ⟨(key, value), mem, rfl⟩)
      simp [absent, eq_comm]
    · have unequal : (key == first) = false := beq_eq_false_iff_ne.mpr same
      simp [List.lookup_cons, unequal, same, ih nodup.2]

theorem get?_eq_some_iff (m : Metadata) (key value : String) :
    m.get? key = some value ↔ (key, value) ∈ m.entries :=
  lookup_eq_some_iff_mem m.nodup key value

/-- Maps with the same value for every key have the same entries, in some order. -/
theorem perm_of_get?_eq {x y : Metadata} (same : ∀ key, x.get? key = y.get? key) :
    x.entries.Perm y.entries := by
  rw [List.perm_ext_iff_of_nodup (.of_map _ x.nodup) (.of_map _ y.nodup)]
  rintro ⟨key, value⟩
  rw [← get?_eq_some_iff, ← get?_eq_some_iff, same]

/-- **Agreement is equality of the facts.**  The entries of one map are among those of the other,
there are as many of them, and none is there twice. -/
theorem agrees_iff (x y : Metadata) : x.agrees y = true ↔ x.facts = y.facts := by
  rw [facts_eq_iff]
  unfold agrees
  simp only [Bool.and_eq_true, beq_iff_eq, List.all_eq_true, get?_eq_some_iff]
  constructor
  · rintro ⟨length_eq, found⟩
    have within : x.entries.Subperm y.entries := (List.Nodup.of_map _ x.nodup).subperm found
    exact within.perm_of_length_le (Nat.le_of_eq length_eq.symm)
  · intro perm
    exact ⟨perm.length_eq, fun entry mem => perm.mem_iff.mp mem⟩

end Metadata

/-! ## §2. Names and lists. -/

/-- A name that is the same when letter case counts is the same when it does not. -/
theorem NameCasing.sameName_of_exact {x y : Option String}
    (same : NameCasing.sameName .exact x y = true) (casing : NameCasing) :
    casing.sameName x y = true := by
  rw [sameName_iff] at same ⊢
  have eq : x = y := Option.map_injective (fun _ _ => String.toList_injective) same
  rw [eq]

/-- Lists are compared element by element, so they are the same if the lists of identities are. -/
theorem isEqv_iff_map_eq {α β : Type} {same : α → α → Bool} {identity : α → β}
    (same_iff : ∀ x y, same x y = true ↔ identity x = identity y) (xs ys : List α) :
    xs.isEqv ys same = true ↔ xs.map identity = ys.map identity := by
  induction xs generalizing ys with
  | nil => cases ys <;> simp
  | cons x xs ih =>
    cases ys with
    | nil => simp
    | cons y ys => simp [List.isEqv_cons_cons, same_iff, ih]

/-- Lists that are the same stay so under a coarser comparison of their elements. -/
theorem isEqv_mono {α : Type} {fine coarse : α → α → Bool}
    (coarser : ∀ x y, fine x y = true → coarse x y = true) {xs ys : List α}
    (same : xs.isEqv ys fine = true) : xs.isEqv ys coarse = true := by
  induction xs generalizing ys with
  | nil => cases ys <;> simp_all
  | cons x xs ih =>
    cases ys with
    | nil => simp at same
    | cons y ys =>
      rw [List.isEqv_cons_cons, Bool.and_eq_true] at same ⊢
      exact ⟨coarser x y same.1, ih same.2⟩

/-- Elements with the same identities, one by one, make lists with the same identities. -/
theorem map_eq_map_of_forall₂ {α β : Type} {r : α → α → Prop} (identity : α → β)
    (keeps : ∀ x y, r x y → identity x = identity y) {xs ys : List α}
    (related : List.Forall₂ r xs ys) : xs.map identity = ys.map identity := by
  induction related with
  | nil => rfl
  | cons head _ ih => rw [List.map_cons, List.map_cons, keeps _ _ head, ih]

/-! ## §3. Identities. -/

/-- What counts of a parameter. -/
structure ParameterIdentity where
  kind : String
  isEnum : Bool
  name : Option (List Char)
  typeName : Option String
  documentation : Option String
  displayName : Option String
  facts : Multiset (String × String)

/-- What counts of a bound attribute. -/
structure BoundAttributeIdentity where
  kind : String
  isEnum : Bool
  name : Option (List Char)
  indexerNamePrefix : Option (List Char)
  indexerValueTypeName : Option String
  typeName : Option String
  documentation : Option String
  displayName : Option String
  facts : Multiset (String × String)
  parameters : List ParameterIdentity

/-- What counts of a required attribute. -/
structure RequiredAttributeIdentity where
  comparison : NameComparison
  name : Option (List Char)
  value : Option String

/-- What counts of a rule. -/
structure RuleIdentity where
  tagName : Option (List Char)
  parentTag : Option (List Char)
  attributes : List RequiredAttributeIdentity

/-- What counts of a tag helper. -/
structure TagHelperIdentity where
  kind : String
  name : List Char
  assemblyName : String
  documentation : Option String
  displayName : String
  tagOutputHint : Option String
  facts : Multiset (String × String)
  attributes : List BoundAttributeIdentity
  rules : List RuleIdentity

section Identities

variable (casing : NameCasing)

/-- What a casing lets count of a parameter. -/
def AttributeParameter.identity (x : AttributeParameter) : ParameterIdentity where
  kind := x.kind
  isEnum := x.isEnum
  name := x.name.map casing.fold
  typeName := x.typeName
  documentation := x.documentation
  displayName := x.displayName
  facts := x.metadata.facts

/-- What a casing lets count of a bound attribute. -/
def BoundAttribute.identity (x : BoundAttribute) : BoundAttributeIdentity where
  kind := x.kind
  isEnum := x.isEnum
  name := x.name.map casing.fold
  indexerNamePrefix := x.indexerNamePrefix.map casing.fold
  indexerValueTypeName := x.indexerValueTypeName
  typeName := x.typeName
  documentation := x.documentation
  displayName := x.displayName
  facts := x.metadata.facts
  parameters := x.parameters.map (AttributeParameter.identity casing)

/-- What a casing lets count of a required attribute. -/
def RequiredAttribute.identity (x : RequiredAttribute) : RequiredAttributeIdentity where
  comparison := x.comparison
  name := x.name.map casing.fold
  value := x.value

/-- What a casing lets count of a rule. -/
def ElementRule.identity (x : ElementRule) : RuleIdentity where
  tagName := x.tagName.map casing.fold
  parentTag := x.parentTag.map casing.fold
  attributes := x.attributes.map (RequiredAttribute.identity casing)

/-- What a casing lets count of a tag helper. -/
def TagHelper.identity (x : TagHelper) : TagHelperIdentity where
  kind := x.kind
  name := casing.fold x.name
  assemblyName := x.assemblyName
  documentation := x.documentation
  displayName := x.displayName
  tagOutputHint := x.tagOutputHint
  facts := x.metadata.facts
  attributes := x.attributes.map (BoundAttribute.identity casing)
  rules := x.rules.map (ElementRule.identity casing)

/-! ## §4. Sameness is equality of identities. -/

theorem AttributeParameter.same_iff (x y : AttributeParameter) :
    x.same casing y = true ↔ x.identity casing = y.identity casing := by
  unfold AttributeParameter.same AttributeParameter.identity
  simp only [Bool.and_eq_true, beq_iff_eq, NameCasing.sameName_iff, Metadata.agrees_iff,
    ParameterIdentity.mk.injEq, and_assoc]

theorem BoundAttribute.same_iff (x y : BoundAttribute) :
    x.same casing y = true ↔ x.identity casing = y.identity casing := by
  unfold BoundAttribute.same BoundAttribute.identity
  simp only [Bool.and_eq_true, beq_iff_eq, NameCasing.sameName_iff, Metadata.agrees_iff,
    isEqv_iff_map_eq (AttributeParameter.same_iff casing), BoundAttributeIdentity.mk.injEq,
    and_assoc]

theorem RequiredAttribute.same_iff (x y : RequiredAttribute) :
    x.same casing y = true ↔ x.identity casing = y.identity casing := by
  unfold RequiredAttribute.same RequiredAttribute.identity
  simp only [Bool.and_eq_true, beq_iff_eq, NameCasing.sameName_iff,
    RequiredAttributeIdentity.mk.injEq, and_assoc]

theorem ElementRule.same_iff (x y : ElementRule) :
    x.same casing y = true ↔ x.identity casing = y.identity casing := by
  unfold ElementRule.same ElementRule.identity
  simp only [Bool.and_eq_true, NameCasing.sameName_iff,
    isEqv_iff_map_eq (RequiredAttribute.same_iff casing), RuleIdentity.mk.injEq, and_assoc]

theorem TagHelper.same_iff (x y : TagHelper) :
    x.same casing y = true ↔ x.identity casing = y.identity casing := by
  unfold TagHelper.same TagHelper.identity
  simp only [Bool.and_eq_true, beq_iff_eq, NameCasing.sameName_iff, Metadata.agrees_iff,
    isEqv_iff_map_eq (BoundAttribute.same_iff casing),
    isEqv_iff_map_eq (ElementRule.same_iff casing), Option.map_some, Option.some.injEq,
    TagHelperIdentity.mk.injEq, and_assoc]

end Identities

/-! ## §5. Letter case. -/

theorem AttributeParameter.same_of_exact {x y : AttributeParameter} (exactly : x.same .exact y)
    (casing : NameCasing) : x.same casing y := by
  simp only [AttributeParameter.same, Bool.and_eq_true, and_assoc] at exactly ⊢
  obtain ⟨kind, isEnum, name, rest⟩ := exactly
  exact ⟨kind, isEnum, NameCasing.sameName_of_exact name casing, rest⟩

theorem BoundAttribute.same_of_exact {x y : BoundAttribute} (exactly : x.same .exact y)
    (casing : NameCasing) : x.same casing y := by
  simp only [BoundAttribute.same, Bool.and_eq_true, and_assoc] at exactly ⊢
  obtain ⟨kind, isEnum, name, indexer, valueType, type, doc, display, metadata, inside⟩ := exactly
  exact ⟨kind, isEnum, NameCasing.sameName_of_exact name casing,
    NameCasing.sameName_of_exact indexer casing, valueType, type, doc, display, metadata,
    isEqv_mono (fun _ _ same => AttributeParameter.same_of_exact same casing) inside⟩

theorem RequiredAttribute.same_of_exact {x y : RequiredAttribute} (exactly : x.same .exact y)
    (casing : NameCasing) : x.same casing y := by
  simp only [RequiredAttribute.same, Bool.and_eq_true, and_assoc] at exactly ⊢
  obtain ⟨comparison, name, value⟩ := exactly
  exact ⟨comparison, NameCasing.sameName_of_exact name casing, value⟩

theorem ElementRule.same_of_exact {x y : ElementRule} (exactly : x.same .exact y)
    (casing : NameCasing) : x.same casing y := by
  simp only [ElementRule.same, Bool.and_eq_true, and_assoc] at exactly ⊢
  obtain ⟨tagName, parentTag, inside⟩ := exactly
  exact ⟨NameCasing.sameName_of_exact tagName casing, NameCasing.sameName_of_exact parentTag casing,
    isEqv_mono (fun _ _ same => RequiredAttribute.same_of_exact same casing) inside⟩

theorem TagHelper.same_of_exact {x y : TagHelper} (exactly : x.same .exact y)
    (casing : NameCasing) : x.same casing y := by
  simp only [TagHelper.same, Bool.and_eq_true, and_assoc] at exactly ⊢
  obtain ⟨kind, name, assembly, doc, display, hint, metadata, attributes, rules⟩ := exactly
  exact ⟨kind, NameCasing.sameName_of_exact name casing, assembly, doc, display, hint, metadata,
    isEqv_mono (fun _ _ same => BoundAttribute.same_of_exact same casing) attributes,
    isEqv_mono (fun _ _ same => ElementRule.same_of_exact same casing) rules⟩

/-! ## §6. The order of metadata. -/

/-- The second parameter is the first with the entries of its metadata in some order. -/
def AttributeParameter.Reorders (x x' : AttributeParameter) : Prop :=
  ∃ metadata : Metadata, x.metadata.entries.Perm metadata.entries
    ∧ x' = { x with metadata := metadata }

/-- The second bound attribute is the first with the entries of its metadata in some order, and
those of each of its parameters. -/
def BoundAttribute.Reorders (x x' : BoundAttribute) : Prop :=
  ∃ (metadata : Metadata) (parameters : List AttributeParameter),
    x.metadata.entries.Perm metadata.entries
      ∧ List.Forall₂ AttributeParameter.Reorders x.parameters parameters
      ∧ x' = { x with metadata := metadata, parameters := parameters }

/-- The second tag helper is the first with the entries of its metadata in some order, and those
of each of its attributes and of their parameters. -/
def TagHelper.Reorders (x x' : TagHelper) : Prop :=
  ∃ (metadata : Metadata) (attributes : List BoundAttribute),
    x.metadata.entries.Perm metadata.entries
      ∧ List.Forall₂ BoundAttribute.Reorders x.attributes attributes
      ∧ x' = { x with metadata := metadata, attributes := attributes }

section Orders

variable (casing : NameCasing)

theorem AttributeParameter.Reorders.identity_eq {x x' : AttributeParameter}
    (reorders : x.Reorders x') : x.identity casing = x'.identity casing := by
  obtain ⟨metadata, perm, rfl⟩ := reorders
  unfold AttributeParameter.identity
  rw [Metadata.facts_eq_iff.mpr perm]

theorem BoundAttribute.Reorders.identity_eq {x x' : BoundAttribute} (reorders : x.Reorders x') :
    x.identity casing = x'.identity casing := by
  obtain ⟨metadata, parameters, perm, inside, rfl⟩ := reorders
  unfold BoundAttribute.identity
  rw [Metadata.facts_eq_iff.mpr perm, map_eq_map_of_forall₂ (AttributeParameter.identity casing)
    (fun _ _ => AttributeParameter.Reorders.identity_eq casing) inside]
  rfl

theorem TagHelper.Reorders.identity_eq {x x' : TagHelper} (reorders : x.Reorders x') :
    x.identity casing = x'.identity casing := by
  obtain ⟨metadata, attributes, perm, inside, rfl⟩ := reorders
  unfold TagHelper.identity
  rw [Metadata.facts_eq_iff.mpr perm, map_eq_map_of_forall₂ (BoundAttribute.identity casing)
    (fun _ _ => BoundAttribute.Reorders.identity_eq casing) inside]

end Orders

/-! ## §7. All five kinds. -/

/-- A comparison of descriptors **behaves like equality** under either casing, and what is the same
when letter case counts is the same when it does not. -/
structure LawfulComparison {α : Type} (same : NameCasing → α → α → Bool) : Prop where
  equivalence : ∀ casing, Equivalence fun x y => same casing x y = true
  of_exact : ∀ x y, same .exact x y = true → same .ignoringCase x y = true

/-- A comparison of descriptors **does not see** a change if what has changed is the same as
whatever it was the same as before. -/
def Overlooks {α : Type} (same : NameCasing → α → α → Bool) (change : α → α → Prop) : Prop :=
  ∀ casing x x', change x x' → ∀ y, same casing x y = same casing x' y

section Identified

variable {α ι : Type} {same : NameCasing → α → α → Bool} {identity : NameCasing → α → ι}
  (same_iff : ∀ casing x y, same casing x y = true ↔ identity casing x = identity casing y)

include same_iff

/-- A comparison of identities is an equivalence, as equality is one. -/
theorem LawfulComparison.of_identity
    (of_exact : ∀ x y, same .exact x y = true → same .ignoringCase x y = true) :
    LawfulComparison same where
  equivalence casing := by
    simp only [same_iff]
    exact eq_equivalence.comap (identity casing)
  of_exact := of_exact

/-- A comparison of identities does not see what keeps the identity. -/
theorem Overlooks.of_identity {change : α → α → Prop}
    (keeps : ∀ casing x x', change x x' → identity casing x = identity casing x') :
    Overlooks same change := by
  intro casing x x' changed y
  rw [Bool.eq_iff_iff, same_iff, same_iff, keeps casing x x' changed]

end Identified

/-- **Structural equality is an equivalence** on each of the five kinds of descriptors, under both
casings; exact equality is the finer one; and neither sees the order of the metadata, of the
descriptor itself or of one inside it. -/
theorem descriptors_lawfulComparison :
    (LawfulComparison AttributeParameter.same
        ∧ LawfulComparison BoundAttribute.same
        ∧ LawfulComparison RequiredAttribute.same
        ∧ LawfulComparison ElementRule.same
        ∧ LawfulComparison TagHelper.same)
      ∧ Overlooks AttributeParameter.same AttributeParameter.Reorders
      ∧ Overlooks BoundAttribute.same BoundAttribute.Reorders
      ∧ Overlooks TagHelper.same TagHelper.Reorders := by
  refine ⟨⟨?parameter, ?bound, ?required, ?rule, ?helper⟩, ?ofParameter, ?ofBound, ?ofHelper⟩
  case parameter =>
    exact .of_identity AttributeParameter.same_iff fun _ _ same =>
      AttributeParameter.same_of_exact same _
  case bound =>
    exact .of_identity BoundAttribute.same_iff fun _ _ same => BoundAttribute.same_of_exact same _
  case required =>
    exact .of_identity RequiredAttribute.same_iff fun _ _ same =>
      RequiredAttribute.same_of_exact same _
  case rule =>
    exact .of_identity ElementRule.same_iff fun _ _ same => ElementRule.same_of_exact same _
  case helper =>
    exact .of_identity TagHelper.same_iff fun _ _ same => TagHelper.same_of_exact same _
  case ofParameter =>
    exact .of_identity AttributeParameter.same_iff fun casing _ _ => (·.identity_eq casing)
  case ofBound =>
    exact .of_identity BoundAttribute.same_iff fun casing _ _ => (·.identity_eq casing)
  case ofHelper =>
    exact .of_identity TagHelper.same_iff fun casing _ _ => (·.identity_eq casing)

/-- A parameter with a name and metadata. -/
def AttributeParameter.named (name : String) (metadata : Metadata) : AttributeParameter where
  kind := "Components.Bind"
  name := some name
  typeName := some "string"
  documentation := none
  displayName := none
  isEnum := false
  metadata := metadata
  diagnostics := []

/-- A bound attribute with one parameter. -/
def BoundAttribute.withParameter (parameter : AttributeParameter) : BoundAttribute where
  kind := "Components.Bind"
  name := some "@bind"
  typeName := some "string"
  documentation := none
  displayName := none
  isEnum := false
  indexer := none
  parameters := [parameter]
  metadata := .empty
  diagnostics := []

/-- A dotted capital I is the same as its two-character lower case, unless letter case counts, and
stays so when the metadata of the parameter inside is reordered. -/
theorem same_reordered_dottedCapitalI :
    let written : Metadata := .ofList [("Common.PropertyName", "P"), ("origin", "bind")]
    let swapped : Metadata := .ofList [("origin", "bind"), ("Common.PropertyName", "P")]
    let bound := BoundAttribute.withParameter (.named "format-\u0130" written)
    let reordered := BoundAttribute.withParameter (.named "format-\u0130" swapped)
    let lowered := BoundAttribute.withParameter (.named "format-i\u0307" written)
    reordered.same .ignoringCase lowered = true ∧ bound.same .exact lowered = false := by
  intro written swapped bound reordered lowered
  have reorders : bound.Reorders reordered :=
    ⟨.empty, _, .nil, .cons ⟨swapped, .swap _ _ _, rfl⟩ .nil, rfl⟩
  have unseen := descriptors_lawfulComparison.2.2.1 .ignoringCase bound reordered reorders lowered
  have same : bound.same .ignoringCase lowered = true := by decide
  exact ⟨unseen ▸ same, by decide⟩

end ComponentMarkup
