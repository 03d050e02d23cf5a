/-
  ComponentMarkup.Proofs.Versions.Growth
  ────────────────────────────────
  **Later versions grant no less.**

  The scan over the thresholds collects what the reached ones add to what every version has.  A
  later version has reached every threshold that an earlier one has, so a capability that is
  granted once stays granted.  The kind of the file has the last word on two capabilities, in the
  same way under every version, and does not touch the others.  One of these others is what the
  passes for components ask for, so that the version alone decides about them.

  Main statements: `has_ofVersion_iff`, `granted_within_of_le`, `admitsComponentPasses_ofTree_iff`
  and `granted_grows`.
-/
import ComponentMarkup.Document
import ComponentMarkup.Proofs.Versions.Spellings

namespace ComponentMarkup

namespace Capabilities

/-! ## §1. The scan over the thresholds. -/

/-- Whether every capability of a set is in another one. -/
def Within (flags more : Capabilities) : Prop := ∀ c, flags.has c = true → more.has c = true

/-- **What a scan over thresholds collects**: what was there before, and what the reached ones
add. -/
theorem has_foldl_union_iff (version : LanguageVersion)
    (tiers : List (LanguageVersion × Capabilities)) (flags : Capabilities) (c : Capability) :
    (tiers.foldl (fun flags tier => if tier.1 ≤ version then flags.union tier.2 else flags)
        flags).has c = true
      ↔ flags.has c = true ∨ ∃ tier ∈ tiers, tier.1 ≤ version ∧ tier.2.has c = true := by
  induction tiers generalizing flags with
  | nil => simp
  | cons tier rest ih =>
    rw [List.foldl_cons, ih, List.exists_mem_cons_iff]
    by_cases reached : tier.1 ≤ version
    · rw [if_pos reached, has_union, Bool.or_eq_true, and_iff_right reached, or_assoc]
    · rw [if_neg reached]
      simp only [reached, false_and, false_or]

/-- A version has what all versions have and what its thresholds add. -/
theorem has_ofVersion_iff (version : LanguageVersion) (c : Capability) :
    (ofVersion version).has c = true
      ↔ c = .codeInMarkupAttributeArea
        ∨ ∃ tier ∈ thresholds, tier.1 ≤ version ∧ tier.2.has c = true := by
  have start : (ofList [.codeInMarkupAttributeArea]).has c = true
      ↔ c = .codeInMarkupAttributeArea := by
    cases c <;> decide
  rw [ofVersion, has_foldl_union_iff, start]

theorem ofVersion_within_of_le {v w : LanguageVersion} (later : v ≤ w) :
    (ofVersion v).Within (ofVersion w) := by
  intro c
  rw [has_ofVersion_iff, has_ofVersion_iff]
  rintro (always | ⟨tier, mem, reached, adds⟩)
  · exact .inl always
  · exact .inr ⟨tier, mem, LanguageVersion.le_trans reached later, adds⟩

/-! ## §2. The kind of the file. -/

theorem has_granted_of_component {kind : FileKind} (component : kind.isComponent = true)
    (version : LanguageVersion) (c : Capability) :
    (granted version kind).has c
      = (((ofVersion version).has c || Capability.conditionalDataDashAttributes == c)
        && !(Capability.codeInMarkupAttributeArea == c)) := by
  rw [granted, if_pos component, has_erase, has_insert]

/-- **The kind of the file decides about two capabilities** and leaves the others to the
version. -/
theorem has_granted_of_ne {c : Capability} (not_dash : c ≠ .conditionalDataDashAttributes)
    (not_area : c ≠ .codeInMarkupAttributeArea) (version : LanguageVersion) (kind : FileKind) :
    (granted version kind).has c = (ofVersion version).has c := by
  cases component : kind.isComponent with
  | false => rw [granted, component, if_neg Bool.false_ne_true]
  | true =>
    rw [has_granted_of_component component, beq_false_of_ne not_dash.symm,
      beq_false_of_ne not_area.symm, Bool.or_false, Bool.not_false, Bool.and_true]

/-- **Later versions grant no less**, under every file kind. -/
theorem granted_within_of_le {v w : LanguageVersion} (later : v ≤ w) (kind : FileKind) :
    (granted v kind).Within (granted w kind) := by
  intro c has
  cases component : kind.isComponent with
  | false =>
    rw [granted, component, if_neg Bool.false_ne_true] at has ⊢
    exact ofVersion_within_of_le later c has
  | true =>
    rw [has_granted_of_component component, Bool.and_eq_true, Bool.or_eq_true] at has ⊢
    exact ⟨has.1.imp_left (ofVersion_within_of_le later c), has.2⟩

end Capabilities

/-! ## §3. Passes for components. -/

/-- The capability that the passes for components ask for comes with version 3.0. -/
theorem Capabilities.has_componentFileKind_iff (version : LanguageVersion) (kind : FileKind) :
    (granted version kind).has .componentFileKind = true ↔ LanguageVersion.v3_0 ≤ version := by
  rw [has_granted_of_ne (by decide) (by decide), has_ofVersion_iff]
  constructor
  · rintro (other | ⟨tier, mem, reached, adds⟩)
    · cases other
    · have only : ∀ tier ∈ thresholds, tier.2.has .componentFileKind = true →
          tier.1 = LanguageVersion.v3_0 := by decide
      exact only tier mem adds ▸ reached
  · intro reached
    have adds : ∃ tier ∈ thresholds, tier.1 = LanguageVersion.v3_0
        ∧ tier.2.has .componentFileKind = true := by decide
    obtain ⟨tier, mem, same, has⟩ := adds
    exact .inr ⟨tier, mem, same ▸ reached, has⟩

/-- **Which documents the passes for components run on**: those with a component at the root, from
version 3.0 on, whatever the kind of the file. -/
theorem Document.admitsComponentPasses_ofTree_iff (tree : MarkupTree) (kind : FileKind)
    (version : LanguageVersion) (catalog : Catalog) :
    (Document.ofTree tree kind version catalog).admitsComponentPasses = true
      ↔ tree.documentKind = componentDocumentKind ∧ LanguageVersion.v3_0 ≤ version := by
  rw [admitsComponentPasses, Bool.and_eq_true, isComponent, beq_iff_eq]
  exact and_congr_right fun _ => Capabilities.has_componentFileKind_iff version kind

/-- **Capabilities grow with the version, and the kind of the file has the last word.**  A later
version grants all that an earlier one does; both kinds of component files are granted the same, of
which two capabilities do not depend on the version and the others not on the kind; and a document
that the passes for components run on is one under every later version, as a file of any kind. -/
theorem Capabilities.granted_grows :
    (∀ (v w : LanguageVersion) (kind : FileKind), v ≤ w →
        (granted v kind).Within (granted w kind))
      ∧ (∀ v : LanguageVersion,
        granted v .component = granted v .componentImport
          ∧ (granted v .component).has .conditionalDataDashAttributes = true
          ∧ (granted v .component).has .codeInMarkupAttributeArea = false
          ∧ ∀ c, c ≠ .conditionalDataDashAttributes → c ≠ .codeInMarkupAttributeArea →
            (granted v .component).has c = (granted v .legacy).has c)
      ∧ ∀ (tree : MarkupTree) (catalog catalog' : Catalog) (kind kind' : FileKind)
        (v w : LanguageVersion), v ≤ w →
        (Document.ofTree tree kind v catalog).admitsComponentPasses = true →
          (Document.ofTree tree kind' w catalog').admitsComponentPasses = true := by
  refine ⟨fun _ _ kind later => granted_within_of_le later kind, ?kinds, ?passes⟩
  case kinds =>
    intro v
    refine ⟨rfl, ?_, ?_, ?_⟩
    · rw [has_granted_of_component rfl]
      simp
    · rw [has_granted_of_component rfl]
      simp
    · intro c not_dash not_area
      rw [has_granted_of_ne not_dash not_area, has_granted_of_ne not_dash not_area]
  case passes =>
    intro tree catalog catalog' kind kind' v w later
    rw [Document.admitsComponentPasses_ofTree_iff, Document.admitsComponentPasses_ofTree_iff]
    exact fun ⟨component, reached⟩ => ⟨component, LanguageVersion.le_trans reached later⟩

/-- The major number comes first: what version 2.1 is granted, version 4.0 is granted as well, and a
component of version 3.7 keeps its passes as a legacy file of version 1337.0. -/
theorem granted_grows_acrossMajors :
    (Capabilities.granted ⟨4, 0⟩ .legacy).has .htmlCommentsInTagHelpers = true
      ∧ (Document.ofTree (.ofDocumentKind componentDocumentKind) .legacy ⟨1337, 0⟩
        .empty).admitsComponentPasses = true := by
  obtain ⟨grows, -, passes⟩ := Capabilities.granted_grows
  exact ⟨grows ⟨2, 1⟩ ⟨4, 0⟩ .legacy (by decide) .htmlCommentsInTagHelpers (by decide),
    passes _ .empty .empty .component .legacy ⟨3, 7⟩ ⟨1337, 0⟩ (by decide) (by decide)⟩

end ComponentMarkup
