/-
  ComponentMarkup.Proofs.Descriptors.CollapsedErrors
  ────────────────────────────────
  **Collapsing repetitions hides no error.**

  What is built from a catalog carries the diagnostics of validation and no others, all of them
  errors.  Validation does not see letter case, so of two attributes, parameters or rules that are
  the same both have diagnostics or neither has, and so have the descriptors inside them: the
  parameters that are left of one attribute are, one by one, the same as those that are left of
  the other.  So the one that stays accounts for those that are dropped.

  Main statements: `BoundAttribute.Validated.ne_nil_congr`, `ElementRule.Validated.ne_nil_congr`
  and `TagHelperDefinition.hidesNoError_of_build`.
-/
import ComponentMarkup.Catalog.Definition
import ComponentMarkup.Proofs.Descriptors.CaseBlindness
import ComponentMarkup.Proofs.Descriptors.Collapse

namespace ComponentMarkup

open NameCasing

/-! ## §1. The diagnostics of validation. -/

/-- Whether diagnostics are all errors and there are some exactly if a descriptor is unsound. -/
structure Diagnoses (diagnostics : List Diagnostic) (sound : Prop) : Prop where
  eq_nil_iff : diagnostics = [] ↔ sound
  errors : ∀ report ∈ diagnostics, report.isError = true

theorem Diagnoses.ne_nil_congr {first second : List Diagnostic} {p q : Prop}
    (of_first : Diagnoses first p) (of_second : Diagnoses second q) (equivalent : p ↔ q) :
    first ≠ [] ↔ second ≠ [] :=
  not_congr (of_first.eq_nil_iff.trans (equivalent.trans of_second.eq_nil_iff.symm))

theorem isError_of_mem_reportAll {problems : List Problem} {report : Diagnostic}
    (mem : report ∈ reportAll problems) : report.isError = true := by
  obtain ⟨problem, -, rfl⟩ := List.mem_map.mp mem
  exact problem.isError_report none

/-- Errors are noticed. -/
theorem hasErrors_iff_ne_nil {diagnostics : List Diagnostic}
    (errors : ∀ report ∈ diagnostics, report.isError = true) :
    hasErrors diagnostics = true ↔ diagnostics ≠ [] := by
  unfold hasErrors
  cases diagnostics with
  | nil => simp
  | cons report rest => simp [errors report List.mem_cons_self]

/-- **Errors are noticed after a collapse**, if descriptors that are the same are erroneous
together. -/
theorem hasErrors_collapsed_iff {α β : Type} {same : α → α → Bool} {identity : α → β}
    (same_iff : ∀ x y, same x y = true ↔ identity x = identity y) {list : List α}
    {within : α → List Diagnostic}
    (errors : ∀ x ∈ list, ∀ report ∈ within x, report.isError = true)
    (together : ∀ x ∈ list, ∀ y ∈ list, same x y = true → within x ≠ [] → within y ≠ []) :
    hasErrors ((list.eraseDupsBy same).flatMap within) = true ↔ ∃ x ∈ list, within x ≠ [] := by
  have all_errors : ∀ report ∈ (list.eraseDupsBy same).flatMap within, report.isError = true := by
    intro report mem
    obtain ⟨x, kept, here⟩ := List.mem_flatMap.mp mem
    exact errors x (mem_of_mem_eraseDupsBy kept) report here
  rw [hasErrors_iff_ne_nil all_errors, ne_eq, List.flatMap_eq_nil_iff,
    ← exists_mem_eraseDupsBy_iff same_iff together]
  simp only [not_forall, exists_prop, ne_eq]

theorem isError_of_mem_eraseDups {problems : List Problem} {added : List Diagnostic}
    (silent : added = []) {report : Diagnostic}
    (mem : report ∈ (reportAll problems ++ added).eraseDups) : report.isError = true := by
  rw [List.mem_eraseDups, silent, List.append_nil] at mem
  exact isError_of_mem_reportAll mem

theorem ParameterDeclaration.diagnoses_build {declared : ParameterDeclaration} (owner : Owner)
    (attributeName : String) (silent : declared.diagnostics = []) :
    Diagnoses (declared.build owner attributeName).diagnostics
      (declared.build owner attributeName).WellNamed where
  eq_nil_iff := by rw [build_diagnostics_eq_nil_iff, and_iff_left silent]
  errors := fun _ => isError_of_mem_eraseDups silent

theorem AttributeDeclaration.diagnoses_build {declared : AttributeDeclaration} (owner : Owner)
    (silent : declared.diagnostics = []) :
    Diagnoses (declared.build owner).diagnostics (declared.build owner).WellNamed where
  eq_nil_iff := by rw [build_diagnostics_eq_nil_iff, and_iff_left silent]
  errors := fun _ => isError_of_mem_eraseDups silent

theorem RequirementDeclaration.diagnoses_build (declared : RequirementDeclaration) :
    Diagnoses declared.build.diagnostics declared.build.WellNamed :=
  ⟨declared.build_diagnostics_eq_nil_iff, fun _ mem => isError_of_mem_reportAll mem⟩

theorem RuleDeclaration.diagnoses_build (declared : RuleDeclaration) :
    Diagnoses declared.build.diagnostics declared.build.WellNamed :=
  ⟨declared.build_diagnostics_eq_nil_iff, fun _ mem => isError_of_mem_reportAll mem⟩

/-! ## §2. Descriptors with others inside. -/

/-- Lists that are the same element by element have the same to show. -/
theorem exists_mem_iff_of_map_eq {α β : Type} {identity : α → β} {xs ys : List α}
    (identical : xs.map identity = ys.map identity) {p : α → Prop}
    (congr : ∀ x ∈ xs, ∀ y ∈ ys, identity x = identity y → (p x ↔ p y)) :
    (∃ x ∈ xs, p x) ↔ ∃ y ∈ ys, p y := by
  constructor
  · intro ⟨x, mem, holds⟩
    obtain ⟨y, among, same⟩ := List.mem_map.mp (identical ▸ List.mem_map_of_mem mem)
    exact ⟨y, among, (congr x mem y among same.symm).mp holds⟩
  · intro ⟨y, among, holds⟩
    obtain ⟨x, mem, same⟩ := List.mem_map.mp (identical.symm ▸ List.mem_map_of_mem among)
    exact ⟨x, mem, (congr x mem y among same).mpr holds⟩

section Parts

variable {γ β : Type} {reports : γ → List Diagnostic} {soundPart : γ → Prop}
  {own own' : List Diagnostic} {sound sound' : Prop} {parts parts' : List γ}

/-- Whether the diagnostics of a descriptor and those of the descriptors inside it all tell
whether it is sound. -/
structure DiagnosesWithin (own : List Diagnostic) (sound : Prop) (parts : List γ)
    (reports : γ → List Diagnostic) (soundPart : γ → Prop) : Prop where
  own : Diagnoses own sound
  parts : ∀ part ∈ parts, Diagnoses (reports part) (soundPart part)

theorem within_ne_nil_iff :
    own ++ parts.flatMap reports ≠ [] ↔ own ≠ [] ∨ ∃ part ∈ parts, reports part ≠ [] := by
  rw [ne_eq, List.append_eq_nil_iff, List.flatMap_eq_nil_iff, not_and_or]
  simp only [not_forall, exists_prop, ne_eq]

theorem DiagnosesWithin.errors (within : DiagnosesWithin own sound parts reports soundPart) :
    ∀ report ∈ own ++ parts.flatMap reports, report.isError = true := by
  intro report mem
  rcases List.mem_append.mp mem with outside | inside
  · exact within.own.errors report outside
  · obtain ⟨part, among, here⟩ := List.mem_flatMap.mp inside
    exact (within.parts part among).errors report here

/-- **Descriptors that are sound together, with parts that are the same one by one,** have
diagnostics within or have not. -/
theorem DiagnosesWithin.ne_nil_congr (of_first : DiagnosesWithin own sound parts reports soundPart)
    (of_second : DiagnosesWithin own' sound' parts' reports soundPart)
    (equivalent : sound ↔ sound') {identity : γ → β}
    (identical : parts.map identity = parts'.map identity)
    (sound_of_identity : ∀ x y, soundPart x → identity x = identity y → soundPart y) :
    own ++ parts.flatMap reports ≠ [] ↔ own' ++ parts'.flatMap reports ≠ [] := by
  rw [within_ne_nil_iff, within_ne_nil_iff, of_first.own.ne_nil_congr of_second.own equivalent]
  apply or_congr_right
  apply exists_mem_iff_of_map_eq identical
  intro x mem y among alike
  apply (of_first.parts x mem).ne_nil_congr (of_second.parts y among)
  exact ⟨(sound_of_identity x y · alike), (sound_of_identity y x · alike.symm)⟩

end Parts

/-- Whether the diagnostics of an attribute and of its parameters are those of validation. -/
def BoundAttribute.Validated (bound : BoundAttribute) : Prop :=
  DiagnosesWithin bound.diagnostics bound.WellNamed bound.parameters
    AttributeParameter.diagnostics AttributeParameter.WellNamed

/-- Whether the diagnostics of a rule and of the attributes it requires are those of
validation. -/
def ElementRule.Validated (rule : ElementRule) : Prop :=
  DiagnosesWithin rule.diagnostics rule.WellNamed rule.attributes
    RequiredAttribute.diagnostics RequiredAttribute.WellNamed

theorem BoundAttribute.Validated.errors {bound : BoundAttribute} (validated : bound.Validated) :
    ∀ report ∈ bound.diagnosticsWithin, report.isError = true :=
  DiagnosesWithin.errors validated

theorem ElementRule.Validated.errors {rule : ElementRule} (validated : rule.Validated) :
    ∀ report ∈ rule.diagnosticsWithin, report.isError = true :=
  DiagnosesWithin.errors validated

/-- **Attributes that are the same are erroneous together**, by themselves and within. -/
theorem BoundAttribute.Validated.ne_nil_congr {x y : BoundAttribute} (of_x : x.Validated)
    (of_y : y.Validated) (same : x.same .ignoringCase y = true) :
    (x.diagnostics ≠ [] ↔ y.diagnostics ≠ [])
      ∧ (x.diagnosticsWithin ≠ [] ↔ y.diagnosticsWithin ≠ []) := by
  have identical := (BoundAttribute.same_iff _ x y).mp same
  have equivalent : x.WellNamed ↔ y.WellNamed :=
    ⟨(·.of_identity identical), (·.of_identity identical.symm)⟩
  have parameters : x.parameters.map (AttributeParameter.identity ignoringCase)
      = y.parameters.map (AttributeParameter.identity ignoringCase) :=
    congrArg BoundAttributeIdentity.parameters identical
  exact ⟨of_x.own.ne_nil_congr of_y.own equivalent,
    DiagnosesWithin.ne_nil_congr of_x of_y equivalent parameters fun _ _ => (·.of_identity)⟩

/-- **Rules that are the same are erroneous together**, by themselves and within. -/
theorem ElementRule.Validated.ne_nil_congr {x y : ElementRule} (of_x : x.Validated)
    (of_y : y.Validated) (same : x.same .ignoringCase y = true) :
    (x.diagnostics ≠ [] ↔ y.diagnostics ≠ [])
      ∧ (x.diagnosticsWithin ≠ [] ↔ y.diagnosticsWithin ≠ []) := by
  have identical := (ElementRule.same_iff _ x y).mp same
  have equivalent : x.WellNamed ↔ y.WellNamed :=
    ⟨(·.of_identity identical), (·.of_identity identical.symm)⟩
  have attributes : x.attributes.map (RequiredAttribute.identity ignoringCase)
      = y.attributes.map (RequiredAttribute.identity ignoringCase) :=
    congrArg RuleIdentity.attributes identical
  exact ⟨of_x.own.ne_nil_congr of_y.own equivalent,
    DiagnosesWithin.ne_nil_congr of_x of_y equivalent attributes fun _ _ => (·.of_identity)⟩

/-! ## §3. What a catalog defines. -/

/-- The descriptor of a defined attribute by itself, for the tag helper that is built. -/
def AttributeDefinition.buildFor (helper : TagHelper) (defined : AttributeDefinition) :
    BoundAttribute :=
  (defined.declaration helper.kind).build helper.owner

/-- The descriptor of a defined parameter by itself, for the tag helper that is built. -/
def ParameterDefinition.buildFor (helper : TagHelper) (bound : AttributeDefinition)
    (defined : ParameterDefinition) : AttributeParameter :=
  (defined.declaration helper.kind).build helper.owner
    ((bound.declaration helper.kind).citedName helper.owner)

theorem ParameterDefinition.diagnoses_buildFor (helper : TagHelper)
    (bound : AttributeDefinition) (defined : ParameterDefinition) :
    Diagnoses (defined.buildFor helper bound).diagnostics
      (defined.buildFor helper bound).WellNamed :=
  ParameterDeclaration.diagnoses_build _ _ rfl

namespace AttributeDefinition

variable (helper : TagHelper) (defined : AttributeDefinition)

theorem parameters_buildFor : (defined.buildFor helper).parameters =
    (defined.parameters.map (·.buildFor helper defined)).eraseDupsBy
      (AttributeParameter.same .exact) := by
  show List.eraseDupsBy _ (List.map _ (List.map _ _)) = _
  rw [List.map_map]
  rfl

theorem validated_buildFor : (defined.buildFor helper).Validated where
  own := AttributeDeclaration.diagnoses_build _ rfl
  parts := by
    intro parameter kept
    rw [parameters_buildFor] at kept
    obtain ⟨source, -, rfl⟩ := List.mem_map.mp (mem_of_mem_eraseDupsBy kept)
    exact source.diagnoses_buildFor helper defined

/-- Parameters that are the same, letter case included, are erroneous together. -/
theorem parameter_ne_nil_congr {p q : ParameterDefinition}
    (same : (p.buildFor helper defined).same .exact (q.buildFor helper defined) = true) :
    (p.buildFor helper defined).diagnostics ≠ [] ↔ (q.buildFor helper defined).diagnostics ≠ [] := by
  have identical := (AttributeParameter.same_iff ignoringCase _ _).mp
    (AttributeParameter.same_of_exact same _)
  exact (p.diagnoses_buildFor helper defined).ne_nil_congr (q.diagnoses_buildFor helper defined)
    ⟨(·.of_identity identical), (·.of_identity identical.symm)⟩

/-- **No error of a parameter is lost** inside its attribute. -/
theorem diagnosticsWithin_buildFor_ne_nil_iff :
    (defined.buildFor helper).diagnosticsWithin ≠ []
      ↔ (defined.buildFor helper).diagnostics ≠ []
        ∨ ∃ p ∈ defined.parameters, (p.buildFor helper defined).diagnostics ≠ [] := by
  unfold BoundAttribute.diagnosticsWithin
  rw [within_ne_nil_iff, parameters_buildFor]
  apply or_congr_right
  -- Parameters collapse with letter case counted, which is more than validation sees.
  rw [exists_mem_eraseDupsBy_iff (AttributeParameter.same_iff .exact)]
  · simp only [List.mem_map, exists_exists_and_eq_and]
  · intro x mem y among same
    obtain ⟨p, -, rfl⟩ := List.mem_map.mp mem
    obtain ⟨q, -, rfl⟩ := List.mem_map.mp among
    exact (defined.parameter_ne_nil_congr helper same).mp

end AttributeDefinition

theorem RuleDefinition.validated_build (defined : RuleDefinition) :
    defined.declaration.build.Validated where
  own := RuleDeclaration.diagnoses_build _
  parts := by
    intro required mem
    obtain ⟨source, -, rfl⟩ := List.mem_map.mp mem
    exact source.diagnoses_build

theorem RuleDefinition.diagnosticsWithin_build_ne_nil_iff (defined : RuleDefinition) :
    defined.declaration.build.diagnosticsWithin ≠ []
      ↔ defined.declaration.build.diagnostics ≠ []
        ∨ ∃ required ∈ defined.requirements, required.declaration.build.diagnostics ≠ [] := by
  have attributes : defined.declaration.build.attributes
      = defined.requirements.map (·.declaration.build) := by
    show List.map _ (List.map _ _) = _
    rw [List.map_map]
    rfl
  unfold ElementRule.diagnosticsWithin
  rw [within_ne_nil_iff, attributes]
  simp only [List.mem_map, exists_exists_and_eq_and]

/-- A computation that succeeds does so step by step. -/
theorem exists_of_bind_eq_ok {ε α β : Type} {first : Except ε α} {next : α → Except ε β}
    {result : β} (ran : first >>= next = .ok result) :
    ∃ value, first = .ok value ∧ next value = .ok result := by
  cases first with
  | error fault => exact absurd ran (by simp [bind, Except.bind])
  | ok value => exact ⟨value, rfl, ran⟩

theorem eq_of_requireText {argument : RequiredArgument} {text accepted : String}
    (ran : requireText argument text = .ok accepted) : accepted = text := by
  unfold requireText at ran
  split at ran
  · exact absurd ran (by simp)
  · exact (Except.ok.inj ran).symm

theorem TagHelperDeclaration.eq_of_create {kind name assemblyName : String}
    {fresh : TagHelperDeclaration} (created : create kind name assemblyName = .ok fresh) :
    fresh = { kind := kind, name := name, assemblyName := assemblyName } := by
  obtain ⟨_, checked_kind, created⟩ := exists_of_bind_eq_ok created
  obtain ⟨_, checked_name, created⟩ := exists_of_bind_eq_ok created
  obtain ⟨_, checked_assembly, created⟩ := exists_of_bind_eq_ok created
  rw [← Except.ok.inj created, eq_of_requireText checked_kind, eq_of_requireText checked_name,
    eq_of_requireText checked_assembly]

namespace TagHelperDefinition

variable {defined : TagHelperDefinition} {helper : TagHelper}

/-- What is left of the attributes and the rules of a definition, which brings no diagnostics of
its own. -/
theorem parts_of_build (built : defined.build = .ok helper) :
    helper.attributes = (defined.attributes.map (·.buildFor helper)).eraseDupsBy
        (BoundAttribute.same .ignoringCase)
      ∧ helper.rules = (defined.rules.map (·.declaration.build)).eraseDupsBy
        (ElementRule.same .ignoringCase)
      ∧ helper.diagnostics = [] := by
  obtain ⟨declared, read, built⟩ := exists_of_bind_eq_ok built
  obtain ⟨kind, -, read⟩ := exists_of_bind_eq_ok read
  obtain ⟨name, -, read⟩ := exists_of_bind_eq_ok read
  obtain ⟨assemblyName, -, read⟩ := exists_of_bind_eq_ok read
  obtain ⟨fresh, created, read⟩ := exists_of_bind_eq_ok read
  obtain rfl := TagHelperDeclaration.eq_of_create created
  obtain rfl := Except.ok.inj read
  obtain rfl := Except.ok.inj built
  refine ⟨?_, ?_, rfl⟩
  · show List.eraseDupsBy _ (List.map _ (List.map _ _)) = _
    rw [List.map_map]
    rfl
  · show List.eraseDupsBy _ (List.map _ (List.map _ _)) = _
    rw [List.map_map]
    rfl

/-- An error among the attributes that are left is one among all that are defined. -/
theorem hasErrors_attributes_iff (defined : TagHelperDefinition) (helper : TagHelper) :
    hasErrors (((defined.attributes.map (·.buildFor helper)).eraseDupsBy
        (BoundAttribute.same .ignoringCase)).flatMap BoundAttribute.diagnosticsWithin) = true
      ↔ ∃ bound ∈ defined.attributes, (bound.buildFor helper).diagnosticsWithin ≠ [] := by
  have validated : ∀ x ∈ defined.attributes.map (·.buildFor helper), x.Validated := by
    intro x mem
    obtain ⟨bound, -, rfl⟩ := List.mem_map.mp mem
    exact bound.validated_buildFor helper
  rw [hasErrors_collapsed_iff (BoundAttribute.same_iff .ignoringCase)
    fun x mem => (validated x mem).errors]
  · simp only [List.mem_map, exists_exists_and_eq_and]
  · intro x mem y among same
    exact ((validated x mem).ne_nil_congr (validated y among) same).2.mp

/-- An error among the rules that are left is one among all that are defined. -/
theorem hasErrors_rules_iff (defined : TagHelperDefinition) :
    hasErrors (((defined.rules.map (·.declaration.build)).eraseDupsBy
        (ElementRule.same .ignoringCase)).flatMap ElementRule.diagnosticsWithin) = true
      ↔ ∃ rule ∈ defined.rules, rule.declaration.build.diagnosticsWithin ≠ [] := by
  have validated : ∀ x ∈ defined.rules.map (·.declaration.build), x.Validated := by
    intro x mem
    obtain ⟨rule, -, rfl⟩ := List.mem_map.mp mem
    exact rule.validated_build
  rw [hasErrors_collapsed_iff (ElementRule.same_iff .ignoringCase)
    fun x mem => (validated x mem).errors]
  · simp only [List.mem_map, exists_exists_and_eq_and]
  · intro x mem y among same
    exact ((validated x mem).ne_nil_congr (validated y among) same).2.mp

/-- Whether a tag helper has an error exactly if one of the attributes, parameters, rules and
required attributes that are defined has a diagnostic by itself, and those of them that collapse
into one have diagnostics together. -/
structure HidesNoError (defined : TagHelperDefinition) (helper : TagHelper) : Prop where
  hasErrors_iff : hasErrors helper.diagnosticsWithin = true
    ↔ (∃ bound ∈ defined.attributes, (bound.buildFor helper).diagnostics ≠ [])
      ∨ (∃ bound ∈ defined.attributes, ∃ parameter ∈ bound.parameters,
        (parameter.buildFor helper bound).diagnostics ≠ [])
      ∨ (∃ rule ∈ defined.rules, rule.declaration.build.diagnostics ≠ [])
      ∨ ∃ rule ∈ defined.rules, ∃ required ∈ rule.requirements,
        required.declaration.build.diagnostics ≠ []
  attributes : ∀ x ∈ defined.attributes, ∀ y ∈ defined.attributes,
    (x.buildFor helper).same .ignoringCase (y.buildFor helper) = true →
      ((x.buildFor helper).diagnostics ≠ [] ↔ (y.buildFor helper).diagnostics ≠ [])
      ∧ ((x.buildFor helper).diagnosticsWithin ≠ [] ↔ (y.buildFor helper).diagnosticsWithin ≠ [])
  parameters : ∀ bound ∈ defined.attributes, ∀ x ∈ bound.parameters, ∀ y ∈ bound.parameters,
    (x.buildFor helper bound).same .exact (y.buildFor helper bound) = true →
      ((x.buildFor helper bound).diagnostics ≠ [] ↔ (y.buildFor helper bound).diagnostics ≠ [])
  rules : ∀ x ∈ defined.rules, ∀ y ∈ defined.rules,
    x.declaration.build.same .ignoringCase y.declaration.build = true →
      (x.declaration.build.diagnostics ≠ [] ↔ y.declaration.build.diagnostics ≠ [])
      ∧ (x.declaration.build.diagnosticsWithin ≠ [] ↔ y.declaration.build.diagnosticsWithin ≠ [])

/-- **Collapsing repetitions hides no error** of a catalog. -/
theorem hidesNoError_of_build (built : defined.build = .ok helper) :
    defined.HidesNoError helper := by
  obtain ⟨attributes, rules, silent⟩ := parts_of_build built
  constructor
  case hasErrors_iff =>
    unfold TagHelper.diagnosticsWithin
    rw [silent, List.nil_append, hasErrors_append, Bool.or_eq_true, attributes, rules,
      hasErrors_attributes_iff, hasErrors_rules_iff]
    simp only [AttributeDefinition.diagnosticsWithin_buildFor_ne_nil_iff,
      RuleDefinition.diagnosticsWithin_build_ne_nil_iff, and_or_left, exists_or, or_assoc]
  case attributes =>
    intro x _ y _ same
    exact (x.validated_buildFor helper).ne_nil_congr (y.validated_buildFor helper) same
  case parameters =>
    intro bound _ x _ y _ same
    exact bound.parameter_ne_nil_congr helper same
  case rules =>
    intro x _ y _ same
    exact x.validated_build.ne_nil_congr y.validated_build same

end TagHelperDefinition

/-- A component that defines an attribute and a rule twice, and misnames both. -/
def shoutedTwice : TagHelperDefinition where
  kind := some "Components.Component"
  name := some "Counter"
  assemblyName := some "App"
  attributes := [{ name := some "data-count", displayName := some "Count" },
    { name := some "DATA-COUNT", displayName := some "Count" }]
  rules := [{ tagName := some "my counter" }, { tagName := some "MY COUNTER" }]

/-- One attribute and one rule are left, and there still are errors. -/
theorem hidesNoError_shoutedTwice : ∃ helper, shoutedTwice.build = .ok helper
    ∧ helper.attributes.length = 1 ∧ helper.rules.length = 1
    ∧ hasErrors helper.diagnosticsWithin = true := by
  refine ⟨_, rfl, by decide, by decide, ?_⟩
  have hides : shoutedTwice.HidesNoError _ := TagHelperDefinition.hidesNoError_of_build rfl
  apply hides.hasErrors_iff.mpr
  exact .inl ⟨_, List.mem_cons_self, by decide⟩

end ComponentMarkup
