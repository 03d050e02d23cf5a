/-
  ComponentMarkup.Proofs.Descriptors.ClauseOrder
  ────────────────────────────────
  **Clauses for different fields can be written in any order.**

  Every clause writes one field of a declaration, where metadata has a field for each key and a
  list of nested declarations is one field.  So what a run of clauses leaves in a field depends on
  the clauses that write it, and not on where the others stand between them.  Clauses are
  rearranged if they stand in another order, those for the same field as before, and those inside
  of nested declarations are rearranged in turn.  Rearranged clauses declare the same in every
  field; nothing but the order of the metadata can differ.

  Main statements: `WritesOneField.run` for one field, `WritesOneField.run_rearranged` for all of
  them, and `withClauses_eq` or `agrees_withClauses` for each kind of declaration.
-/
import ComponentMarkup.Declaration.Basic
import Mathlib.Data.List.Forall2

namespace ComponentMarkup

/-! ## §1. Runs of clauses that write one field each. -/

section Runs

variable {σ κ ι : Type} {step : σ → κ → σ} {field : κ → ι} {alike : κ → κ → Prop}
  {agreesAt : σ → σ → ι → Prop} {x y : σ} {i : ι} {xs ys : List κ}

/-- Whether a step **writes one field**, that of its clause: where two states agree in another
field, they still do after it, and after steps with clauses that are alike they agree in this
one. -/
structure WritesOneField (step : σ → κ → σ) (field : κ → ι) (alike : κ → κ → Prop)
    (agreesAt : σ → σ → ι → Prop) : Prop where
  field_eq : ∀ {c d}, alike c d → field c = field d
  spares : ∀ {x y c i}, field c ≠ i → agreesAt x y i →
    agreesAt (step x c) y i ∧ agreesAt x (step y c) i
  writes : ∀ {x y c d}, alike c d → agreesAt x y (field c) →
    agreesAt (step x c) (step y d) (field c)

/-- Clauses for other fields do not disturb an agreement. -/
theorem WritesOneField.spares_run (one : WritesOneField step field alike agreesAt)
    (others : ∀ d ∈ ys, field d ≠ i) (agrees : agreesAt x y i) :
    agreesAt x (ys.foldl step y) i := by
  induction ys generalizing y with
  | nil => exact agrees
  | cons d rest ih =>
    have later := (List.forall_mem_cons.mp others).2
    exact ih later (one.spares (others d List.mem_cons_self) agrees).2

variable [DecidableEq ι]

/-- **What a run leaves in a field** depends on the clauses that write it: if these are alike, one
by one, then two runs leave the same. -/
theorem WritesOneField.run (one : WritesOneField step field alike agreesAt)
    (writers : List.Forall₂ alike (xs.filter fun c => field c = i)
      (ys.filter fun c => field c = i)) (agrees : agreesAt x y i) :
    agreesAt (xs.foldl step x) (ys.foldl step y) i := by
  induction xs generalizing x y ys with
  | nil =>
    rw [List.filter_nil, List.forall₂_nil_left_iff, List.filter_eq_nil_iff] at writers
    simp only [decide_eq_true_eq] at writers
    exact one.spares_run writers agrees
  | cons c rest ih =>
    by_cases here : field c = i
    · -- In the other run, clauses for other fields may stand before the one that is alike.
      rw [List.filter_cons_of_pos (by simp [here]), List.forall₂_cons_left_iff] at writers
      obtain ⟨d, later, c_like_d, rest_like, split⟩ := writers
      obtain ⟨front, back, rfl, others, -, rfl⟩ := List.filter_eq_cons_iff.mp split
      simp only [decide_eq_true_eq] at others
      rw [List.foldl_append, List.foldl_cons, List.foldl_cons]
      subst here
      exact ih rest_like (one.writes c_like_d (one.spares_run others agrees))
    · rw [List.filter_cons_of_neg (by simp [here])] at writers
      exact ih writers (one.spares here agrees).1

/-- Whether two lists hold the same clauses, each field being written in the same order. -/
structure Reordered (field : κ → ι) (xs ys : List κ) : Prop where
  perm : xs.Perm ys
  filter_eq : ∀ i, (xs.filter fun c => field c = i) = ys.filter fun c => field c = i

theorem Reordered.refl (field : κ → ι) (xs : List κ) : Reordered field xs xs :=
  ⟨.refl _, fun _ => rfl⟩

/-- A clause can be moved behind clauses for other fields. -/
theorem Reordered.of_move (c : κ) (middle front back : List κ)
    (others : ∀ d ∈ middle, field d ≠ field c) :
    Reordered field (front ++ c :: (middle ++ back)) (front ++ (middle ++ c :: back)) where
  perm := List.perm_middle.symm.append_left front
  filter_eq i := by
    simp only [List.filter_append, List.filter_cons]
    split
    · next writes =>
      have none_between : (middle.filter fun d => field d = i) = [] := by
        rw [List.filter_eq_nil_iff]
        intro d mem
        rw [← of_decide_eq_true writes]
        simpa using others d mem
      rw [none_between, List.nil_append, List.nil_append]
    · rfl

/-- Whether one list becomes the other one when its clauses are reordered and then, each in its
place, exchanged for clauses that are alike. -/
def Rearranged (field : κ → ι) (alike : κ → κ → Prop) (xs ys : List κ) : Prop :=
  ∃ between, Reordered field xs between ∧ List.Forall₂ alike between ys

theorem Rearranged.of_reordered (refl : ∀ c, alike c c) (reordered : Reordered field xs ys) :
    Rearranged field alike xs ys :=
  ⟨ys, reordered, List.forall₂_same.mpr fun c _ => refl c⟩

/-- **Rearranged runs agree in every field.** -/
theorem WritesOneField.run_rearranged (one : WritesOneField step field alike agreesAt)
    (rearranged : Rearranged field alike xs ys) (agrees : ∀ i, agreesAt x y i) (i : ι) :
    agreesAt (xs.foldl step x) (ys.foldl step y) i := by
  obtain ⟨between, reordered, exchanged⟩ := rearranged
  have same_field : ∀ ⦃c d⦄, alike c d → (decide (field c = i) ↔ decide (field d = i)) := by
    intro c d c_like_d
    rw [one.field_eq c_like_d]
  refine one.run ?_ (agrees i)
  rw [reordered.filter_eq]
  exact List.rel_filter same_field exchanged

end Runs

/-! ## §2. Required attributes. -/

/-- A field of the declaration of a required attribute. -/
inductive RequirementField where
  | name
  | value
  | comparison
deriving DecidableEq

/-- The field that a clause writes. -/
def RequirementClause.field : RequirementClause → RequirementField
  | .name _ => .name
  | .value _ => .value
  | .comparison _ => .comparison

namespace RequirementDeclaration

/-- Whether two declarations say the same in a field. -/
def AgreesAt (x y : RequirementDeclaration) : RequirementField → Prop
  | .name => x.name = y.name
  | .value => x.value = y.value
  | .comparison => x.comparison = y.comparison

theorem writesOneField : WritesOneField withClause RequirementClause.field Eq AgreesAt where
  field_eq := congrArg _
  spares {x y c i} other agrees := by
    cases c <;> cases i <;> simp_all [withClause, AgreesAt, RequirementClause.field]
  writes {x y c d} same _ := by
    subst same
    cases c <;> rfl

theorem eq_iff_agreesAt {x y : RequirementDeclaration} :
    x = y ↔ ∀ field, x.AgreesAt y field := by
  constructor
  · rintro rfl field
    cases field <;> rfl
  · intro agrees
    cases x
    cases y
    rw [mk.injEq]
    exact ⟨agrees .name, agrees .comparison, agrees .value⟩

/-- **Reordered clauses require the same attribute.** -/
theorem withClauses_eq (declared : RequirementDeclaration) {xs ys : List RequirementClause}
    (reordered : Reordered RequirementClause.field xs ys) :
    declared.withClauses xs = declared.withClauses ys := by
  rw [eq_iff_agreesAt]
  exact writesOneField.run_rearranged (.of_reordered (fun _ => rfl) reordered)
    (eq_iff_agreesAt.mp rfl)

end RequirementDeclaration

/-! ## §3. Rules. -/

/-- A field of the declaration of a rule. -/
inductive RuleField where
  | tagName
  | parentTag
  | requirements
deriving DecidableEq

namespace RuleClause

/-- The field that a clause writes. -/
def field : RuleClause → RuleField
  | .tagName _ => .tagName
  | .parentTag _ => .parentTag
  | .requirement _ => .requirements

/-- Whether two clauses are the same, up to the order of the clauses inside. -/
inductive Alike : RuleClause → RuleClause → Prop where
  | same (c : RuleClause) : Alike c c
  | requirement {xs ys : List RequirementClause}
      (inside : Reordered RequirementClause.field xs ys) :
      Alike (.requirement xs) (.requirement ys)

end RuleClause

namespace RuleDeclaration

/-- Whether two declarations say the same in a field. -/
def AgreesAt (x y : RuleDeclaration) : RuleField → Prop
  | .tagName => x.tagName = y.tagName
  | .parentTag => x.parentTag = y.parentTag
  | .requirements => x.requirements = y.requirements

theorem writesOneField :
    WritesOneField withClause RuleClause.field RuleClause.Alike AgreesAt where
  field_eq c_like_d := by cases c_like_d <;> rfl
  spares {x y c i} other agrees := by
    cases c <;> cases i <;> simp_all [withClause, AgreesAt, RuleClause.field]
  writes {x y c d} c_like_d agrees := by
    cases c_like_d with
    | same => cases c <;> simp_all [withClause, AgreesAt, RuleClause.field]
    | requirement inside =>
      simp only [withClause, AgreesAt, RuleClause.field] at agrees ⊢
      rw [agrees, RequirementDeclaration.withClauses_eq _ inside]

theorem eq_iff_agreesAt {x y : RuleDeclaration} : x = y ↔ ∀ field, x.AgreesAt y field := by
  constructor
  · rintro rfl field
    cases field <;> rfl
  · intro agrees
    cases x
    cases y
    rw [mk.injEq]
    exact ⟨agrees .tagName, agrees .parentTag, agrees .requirements⟩

/-- **Rearranged clauses declare the same rule.** -/
theorem withClauses_eq (declared : RuleDeclaration) {xs ys : List RuleClause}
    (rearranged : Rearranged RuleClause.field RuleClause.Alike xs ys) :
    declared.withClauses xs = declared.withClauses ys := by
  rw [eq_iff_agreesAt]
  exact writesOneField.run_rearranged rearranged (eq_iff_agreesAt.mp rfl)

end RuleDeclaration

/-! ## §4. Parameters. -/

/-- A field of the declaration of a parameter.  No clause writes the kind. -/
inductive ParameterField where
  | kind
  | name
  | typeName
  | isEnum
  | documentation
  | displayName
  | metadata (key : String)
  | diagnostics
deriving DecidableEq

/-- The field that a clause writes. -/
def ParameterClause.field : ParameterClause → ParameterField
  | .name _ => .name
  | .typeName _ => .typeName
  | .isEnum _ => .isEnum
  | .documentation _ => .documentation
  | .displayName _ => .displayName
  | .metadata key _ => .metadata key
  | .propertyName _ => .metadata Metadata.propertyNameKey
  | .diagnostic _ => .diagnostics

namespace ParameterDeclaration

/-- Whether two declarations say the same in a field. -/
def AgreesAt (x y : ParameterDeclaration) : ParameterField → Prop
  | .kind => x.kind = y.kind
  | .name => x.name = y.name
  | .typeName => x.typeName = y.typeName
  | .isEnum => x.isEnum = y.isEnum
  | .documentation => x.documentation = y.documentation
  | .displayName => x.displayName = y.displayName
  | .metadata key => x.metadata.get? key = y.metadata.get? key
  | .diagnostics => x.diagnostics = y.diagnostics

/-- Whether two declarations say the same, up to the order of the metadata. -/
def Agrees (x y : ParameterDeclaration) : Prop := ∀ field, x.AgreesAt y field

theorem writesOneField : WritesOneField withClause ParameterClause.field Eq AgreesAt where
  field_eq := congrArg _
  spares {x y c i} other agrees := by
    cases c <;> cases i <;> simp_all [withClause, AgreesAt, ParameterClause.field, eq_comm]
  writes {x y c d} same agrees := by
    subst same
    cases c <;> simp_all [withClause, AgreesAt, ParameterClause.field]

theorem agrees_refl (x : ParameterDeclaration) : x.Agrees x := by
  intro field
  cases field <;> rfl

/-- **Reordered clauses declare parameters that agree.** -/
theorem agrees_withClauses (declared : ParameterDeclaration) {xs ys : List ParameterClause}
    (reordered : Reordered ParameterClause.field xs ys) :
    (declared.withClauses xs).Agrees (declared.withClauses ys) :=
  writesOneField.run_rearranged (.of_reordered (fun _ => rfl) reordered) declared.agrees_refl

end ParameterDeclaration

/-! ## §5. Bound attributes. -/

/-- A field of the declaration of a bound attribute.  No clause writes the kind. -/
inductive AttributeField where
  | kind
  | name
  | typeName
  | isEnum
  | indexer
  | documentation
  | displayName
  | metadata (key : String)
  | parameters
  | diagnostics
deriving DecidableEq

namespace AttributeClause

/-- The field that a clause writes. -/
def field : AttributeClause → AttributeField
  | .name _ => .name
  | .typeName _ => .typeName
  | .isEnum _ => .isEnum
  | .dictionary _ _ => .indexer
  | .documentation _ => .documentation
  | .displayName _ => .displayName
  | .metadata key _ => .metadata key
  | .propertyName _ => .metadata Metadata.propertyNameKey
  | .directive => .metadata Metadata.directiveAttributeKey
  | .parameter _ => .parameters
  | .diagnostic _ => .diagnostics

/-- Whether two clauses are the same, up to the order of the clauses inside. -/
inductive Alike : AttributeClause → AttributeClause → Prop where
  | same (c : AttributeClause) : Alike c c
  | parameter {xs ys : List ParameterClause} (inside : Reordered ParameterClause.field xs ys) :
      Alike (.parameter xs) (.parameter ys)

end AttributeClause

namespace AttributeDeclaration

/-- Whether two declarations say the same in a field. -/
def AgreesAt (x y : AttributeDeclaration) : AttributeField → Prop
  | .kind => x.kind = y.kind
  | .name => x.name = y.name
  | .typeName => x.typeName = y.typeName
  | .isEnum => x.isEnum = y.isEnum
  | .indexer => x.indexer = y.indexer
  | .documentation => x.documentation = y.documentation
  | .displayName => x.displayName = y.displayName
  | .metadata key => x.metadata.get? key = y.metadata.get? key
  -- A further parameter would be of the kind of its attribute.
  | .parameters =>
    x.kind = y.kind ∧ List.Forall₂ ParameterDeclaration.Agrees x.parameters y.parameters
  | .diagnostics => x.diagnostics = y.diagnostics

/-- Whether two declarations say the same, up to the order of the metadata. -/
def Agrees (x y : AttributeDeclaration) : Prop := ∀ field, x.AgreesAt y field

/-- One more parameter, its clauses in either order. -/
theorem agreesAt_withParameter {x y : AttributeDeclaration} (agrees : x.AgreesAt y .parameters)
    {xs ys : List ParameterClause} (inside : Reordered ParameterClause.field xs ys) :
    (x.withClause (.parameter xs)).AgreesAt (y.withClause (.parameter ys)) .parameters := by
  obtain ⟨same_kind, parameters⟩ := agrees
  refine ⟨same_kind, List.rel_append parameters (.cons ?_ .nil)⟩
  rw [same_kind]
  exact ParameterDeclaration.agrees_withClauses _ inside

theorem writesOneField :
    WritesOneField withClause AttributeClause.field AttributeClause.Alike AgreesAt where
  field_eq c_like_d := by cases c_like_d <;> rfl
  spares {x y c i} other agrees := by
    cases c <;> cases i <;> simp_all [withClause, AgreesAt, AttributeClause.field, eq_comm]
  writes {x y c d} c_like_d agrees := by
    cases c_like_d with
    | parameter inside => exact agreesAt_withParameter agrees inside
    | same =>
      cases c with
      | parameter clauses => exact agreesAt_withParameter agrees (.refl _ clauses)
      | _ => simp_all [withClause, AgreesAt, AttributeClause.field]

theorem agrees_refl (x : AttributeDeclaration) : x.Agrees x := by
  intro field
  cases field with
  | parameters => exact ⟨rfl, List.forall₂_same.mpr fun p _ => p.agrees_refl⟩
  | _ => rfl

/-- **Rearranged clauses declare attributes that agree.** -/
theorem agrees_withClauses (declared : AttributeDeclaration) {xs ys : List AttributeClause}
    (rearranged : Rearranged AttributeClause.field AttributeClause.Alike xs ys) :
    (declared.withClauses xs).Agrees (declared.withClauses ys) :=
  writesOneField.run_rearranged rearranged declared.agrees_refl

end AttributeDeclaration

/-! ## §6. Tag helpers. -/

/-- A field of the declaration of a tag helper.  No clause writes the first three. -/
inductive TagHelperField where
  | kind
  | name
  | assemblyName
  | displayName
  | documentation
  | tagOutputHint
  | metadata (key : String)
  | attributes
  | rules
  | diagnostics
deriving DecidableEq

namespace TagHelperClause

/-- The field that a clause writes. -/
def field : TagHelperClause → TagHelperField
  | .displayName _ => .displayName
  | .documentation _ => .documentation
  | .tagOutputHint _ => .tagOutputHint
  | .metadata key _ => .metadata key
  | .typeName _ => .metadata Metadata.typeNameKey
  | .boundAttribute _ => .attributes
  | .matchingRule _ => .rules
  | .diagnostic _ => .diagnostics

/-- Whether two clauses are the same, up to the order of the clauses inside. -/
inductive Alike : TagHelperClause → TagHelperClause → Prop where
  | same (c : TagHelperClause) : Alike c c
  | boundAttribute {xs ys : List AttributeClause}
      (inside : Rearranged AttributeClause.field AttributeClause.Alike xs ys) :
      Alike (.boundAttribute xs) (.boundAttribute ys)
  | matchingRule {xs ys : List RuleClause}
      (inside : Rearranged RuleClause.field RuleClause.Alike xs ys) :
      Alike (.matchingRule xs) (.matchingRule ys)

end TagHelperClause

namespace TagHelperDeclaration

/-- Whether two declarations say the same in a field. -/
def AgreesAt (x y : TagHelperDeclaration) : TagHelperField → Prop
  | .kind => x.kind = y.kind
  | .name => x.name = y.name
  | .assemblyName => x.assemblyName = y.assemblyName
  | .displayName => x.displayName = y.displayName
  | .documentation => x.documentation = y.documentation
  | .tagOutputHint => x.tagOutputHint = y.tagOutputHint
  | .metadata key => x.metadata.get? key = y.metadata.get? key
  -- A further attribute would be of the kind of its tag helper.
  | .attributes =>
    x.kind = y.kind ∧ List.Forall₂ AttributeDeclaration.Agrees x.attributes y.attributes
  | .rules => x.rules = y.rules
  | .diagnostics => x.diagnostics = y.diagnostics

/-- Whether two declarations say the same, up to the order of the metadata. -/
def Agrees (x y : TagHelperDeclaration) : Prop := ∀ field, x.AgreesAt y field

/-- One more attribute, its clauses in either order. -/
theorem agreesAt_withAttribute {x y : TagHelperDeclaration} (agrees : x.AgreesAt y .attributes)
    {xs ys : List AttributeClause}
    (inside : Rearranged AttributeClause.field AttributeClause.Alike xs ys) :
    (x.withClause (.boundAttribute xs)).AgreesAt (y.withClause (.boundAttribute ys))
      .attributes := by
  obtain ⟨same_kind, attributes⟩ := agrees
  refine ⟨same_kind, List.rel_append attributes (.cons ?_ .nil)⟩
  rw [same_kind]
  exact AttributeDeclaration.agrees_withClauses _ inside

theorem writesOneField :
    WritesOneField withClause TagHelperClause.field TagHelperClause.Alike AgreesAt where
  field_eq c_like_d := by cases c_like_d <;> rfl
  spares {x y c i} other agrees := by
    cases c <;> cases i <;> simp_all [withClause, AgreesAt, TagHelperClause.field, eq_comm]
  writes {x y c d} c_like_d agrees := by
    cases c_like_d with
    | boundAttribute inside => exact agreesAt_withAttribute agrees inside
    | matchingRule inside =>
      simp only [withClause, AgreesAt, TagHelperClause.field] at agrees ⊢
      rw [agrees, RuleDeclaration.withClauses_eq _ inside]
    | same =>
      cases c with
      | boundAttribute clauses =>
        exact agreesAt_withAttribute agrees (.of_reordered .same (.refl _ clauses))
      | _ => simp_all [withClause, AgreesAt, TagHelperClause.field]

theorem agrees_refl (x : TagHelperDeclaration) : x.Agrees x := by
  intro field
  cases field with
  | attributes => exact ⟨rfl, List.forall₂_same.mpr fun bound _ => bound.agrees_refl⟩
  | _ => rfl

/-- **Rearranged clauses declare tag helpers that agree.** -/
theorem agrees_withClauses (declared : TagHelperDeclaration) {xs ys : List TagHelperClause}
    (rearranged : Rearranged TagHelperClause.field TagHelperClause.Alike xs ys) :
    (declared.withClauses xs).Agrees (declared.withClauses ys) :=
  writesOneField.run_rearranged rearranged declared.agrees_refl

end TagHelperDeclaration

end ComponentMarkup
