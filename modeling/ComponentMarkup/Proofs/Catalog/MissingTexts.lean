/-
  ComponentMarkup.Proofs.Catalog.MissingTexts
  ────────────────────────────────
  **What a catalog is refused for.**

  A definition can be built if its kind, its name and the name of its assembly are there and not
  empty, whatever else it says.  Otherwise the error names the first of them that is missing; only
  if all are there it names the first that is empty.  Of several definitions that cannot be built
  the earliest one is the one that is blamed.

  A catalog that is not refused has a tag helper for every definition, in the same order: the one
  that the clauses of the definition declare.  It shows the diagnostics of every descriptor inside
  it.

  Main statements: `mapM_eq_ok_iff`, `mapM_eq_error_iff`, `TagHelperDefinition.exists_build_iff`,
  `TagHelperDefinition.build_eq_error_iff` and `Catalog.ofDefinitions_exact`.
-/
import ComponentMarkup.Catalog.Basic
import ComponentMarkup.Proofs.Catalog.Clauses
import Mathlib.Data.List.Forall2

namespace ComponentMarkup

/-! ## §1. One computation after another. -/

section Sequence

variable {α β γ ε : Type} {f : α → Except ε β}

theorem mapM_cons_of_error {x : α} {error : ε} (fails : f x = .error error) (rest : List α) :
    (x :: rest).mapM f = .error error := by
  rw [List.mapM_cons, fails]
  rfl

theorem mapM_cons_of_ok {x : α} {value : β} (succeeds : f x = .ok value) (rest : List α) :
    (x :: rest).mapM f = (rest.mapM f).map (value :: ·) := by
  rw [List.mapM_cons, succeeds]
  show (rest.mapM f >>= fun values => Except.ok (value :: values)) = _
  cases rest.mapM f <;> rfl

/-- **All computations succeed** exactly if each of them gives its own result. -/
theorem mapM_eq_ok_iff {list : List α} {values : List β} :
    list.mapM f = .ok values ↔ list.map f = values.map .ok := by
  induction list generalizing values with
  | nil =>
    cases values with
    | nil => simp [pure, Except.pure]
    | cons value values => simp [pure, Except.pure]
  | cons x rest ih =>
    cases here : f x with
    | error error =>
      rw [mapM_cons_of_error here, List.map_cons, here]
      cases values <;> simp
    | ok value =>
      rw [mapM_cons_of_ok here, List.map_cons, here]
      cases values with
      | nil => cases rest.mapM f <;> simp [Except.map]
      | cons first others =>
        rw [List.map_cons, List.cons.injEq, ← ih, Except.ok.injEq]
        cases rest.mapM f <;> simp [Except.map]

/-- **The first computation that fails** is the one whose error is given. -/
theorem mapM_eq_error_iff {list : List α} {error : ε} :
    list.mapM f = .error error ↔ ∃ before x after, list = before ++ x :: after
      ∧ (∀ y ∈ before, ∃ value, f y = .ok value) ∧ f x = .error error := by
  constructor
  · intro failed
    induction list with
    | nil => cases failed
    | cons x rest ih =>
      -- Either this computation fails, or a later one does and this one is among those before it.
      cases here : f x with
      | error fault =>
        rw [mapM_cons_of_error here] at failed
        cases failed
        exact ⟨[], x, rest, rfl, List.forall_mem_nil _, here⟩
      | ok value =>
        rw [mapM_cons_of_ok here] at failed
        have later : rest.mapM f = .error error := by
          cases ran : rest.mapM f with
          | error fault =>
            rw [ran] at failed
            cases failed
            rfl
          | ok values =>
            rw [ran] at failed
            cases failed
        obtain ⟨before, y, after, parts, succeed, fails⟩ := ih later
        refine ⟨x :: before, y, after, by rw [parts, List.cons_append], ?_, fails⟩
        exact List.forall_mem_cons.mpr ⟨⟨value, here⟩, succeed⟩
  · intro ⟨before, x, after, parts, succeed, fails⟩
    subst parts
    induction before with
    | nil => exact mapM_cons_of_error fails after
    | cons y before ih =>
      obtain ⟨⟨value, here⟩, later⟩ := List.forall_mem_cons.mp succeed
      rw [List.cons_append, mapM_cons_of_ok here, ih later]
      rfl

theorem map_eq_map_iff_forall₂ {g : α → γ} {h : β → γ} {xs : List α} {ys : List β} :
    xs.map g = ys.map h ↔ List.Forall₂ (fun x y => g x = h y) xs ys := by
  rw [← List.forall₂_eq_eq_eq, List.forall₂_map_left_iff, List.forall₂_map_right_iff]

end Sequence

/-! ## §2. One definition. -/

/-- The mandatory texts, in the order in which they are asked for. -/
def RequiredArgument.all : List RequiredArgument := [.kind, .name, .assemblyName]

/-- A mandatory text of a tag helper. -/
def TagHelper.mandatory (helper : TagHelper) : RequiredArgument → String
  | .kind => helper.kind
  | .name => helper.name
  | .assemblyName => helper.assemblyName

theorem RequiredArgument.mem_all (argument : RequiredArgument) : argument ∈ all := by
  cases argument <;> decide

namespace TagHelperDefinition

/-- What a definition says for a mandatory text. -/
def mandatory? (defined : TagHelperDefinition) : RequiredArgument → Option String
  | .kind => defined.kind
  | .name => defined.name
  | .assemblyName => defined.assemblyName

/-- **A definition is complete** if every mandatory text is there and not empty. -/
def Complete (defined : TagHelperDefinition) : Prop :=
  ∀ argument, ∃ text, defined.mandatory? argument = some text ∧ text ≠ ""

/-- **The text that a definition lacks**: the first one that is missing, or the first one that is
empty if none is missing. -/
def Lacks (defined : TagHelperDefinition) (argument : RequiredArgument) : Prop :=
  RequiredArgument.all.find? (fun a => defined.mandatory? a == none) = some argument
    ∨ (∀ a, defined.mandatory? a ≠ none)
      ∧ RequiredArgument.all.find? (fun a => defined.mandatory? a == some "") = some argument

variable {defined : TagHelperDefinition}

/-- **The first wave**: the first text that is missing is named, whatever the others are. -/
theorem build_of_missing {argument : RequiredArgument}
    (missing : RequiredArgument.all.find? (fun a => defined.mandatory? a == none) = some argument) :
    defined.build = .error (.missingArgument argument) := by
  unfold build declaration
  simp only [RequiredArgument.all, List.find?_cons, List.find?_nil, mandatory?] at missing
  -- The texts are asked for in the order in which they are searched, so the cases follow it.
  cases has_kind : defined.kind with
  | none =>
    rw [has_kind] at missing
    cases missing
    rfl
  | some kind =>
    rw [has_kind] at missing
    cases has_name : defined.name with
    | none =>
      rw [has_name] at missing
      cases missing
      rfl
    | some name =>
      rw [has_name] at missing
      cases has_assembly : defined.assemblyName with
      | none =>
        rw [has_assembly] at missing
        cases missing
        rfl
      | some assemblyName =>
        rw [has_assembly] at missing
        cases missing

theorem exists_texts (none_missing : ∀ a, defined.mandatory? a ≠ none) :
    ∃ kind name assemblyName, defined.kind = some kind ∧ defined.name = some name
      ∧ defined.assemblyName = some assemblyName := by
  obtain ⟨kind, has_kind⟩ := Option.ne_none_iff_exists'.mp (none_missing .kind)
  obtain ⟨name, has_name⟩ := Option.ne_none_iff_exists'.mp (none_missing .name)
  obtain ⟨assemblyName, has_assembly⟩ := Option.ne_none_iff_exists'.mp (none_missing .assemblyName)
  exact ⟨kind, name, assemblyName, has_kind, has_name, has_assembly⟩

/-- **The second wave**: if no text is missing, then the first one that is empty is named. -/
theorem build_of_empty {argument : RequiredArgument}
    (none_missing : ∀ a, defined.mandatory? a ≠ none)
    (empty : RequiredArgument.all.find? (fun a => defined.mandatory? a == some "")
      = some argument) : defined.build = .error (.missingArgument argument) := by
  obtain ⟨kind, name, assemblyName, has_kind, has_name, has_assembly⟩ := exists_texts none_missing
  simp only [RequiredArgument.all, List.find?_cons, List.find?_nil, mandatory?, has_kind, has_name,
    has_assembly, Option.some_beq_some] at empty
  unfold build declaration TagHelperDeclaration.create requireText
  rw [has_kind, has_name, has_assembly]
  -- Each text that turns out not to be empty hands the search and the check on to the next one.
  by_cases no_kind : kind = ""
  · subst no_kind
    cases empty
    rfl
  rw [beq_false_of_ne no_kind] at empty
  by_cases no_name : name = ""
  · subst no_name
    cases empty
    simp [presentText, no_kind, bind, Except.bind]
  rw [beq_false_of_ne no_name] at empty
  by_cases no_assembly : assemblyName = ""
  · subst no_assembly
    cases empty
    simp [presentText, no_kind, no_name, bind, Except.bind]
  · rw [beq_false_of_ne no_assembly] at empty
    cases empty

/-- The tag helper that the clauses of a definition declare, under the given texts. -/
def helperUnder (defined : TagHelperDefinition) (kind name assemblyName : String) : TagHelper :=
  (({ kind, name, assemblyName } : TagHelperDeclaration).withClauses defined.clauses).build

/-- **Nothing that a definition says beyond its texts fails it**: the attributes and the rules are
added only when the texts are found to be good. -/
theorem build_of_texts {kind name assemblyName : String} (has_kind : defined.kind = some kind)
    (has_name : defined.name = some name) (has_assembly : defined.assemblyName = some assemblyName)
    (some_kind : kind ≠ "") (some_name : name ≠ "") (some_assembly : assemblyName ≠ "") :
    defined.build = .ok (defined.helperUnder kind name assemblyName) := by
  unfold helperUnder build declaration TagHelperDeclaration.create requireText
  rw [withClauses_clauses, has_kind, has_name, has_assembly]
  simp only [presentText, String.isEmpty_iff, some_kind, some_name, some_assembly, if_false, bind,
    Except.bind, pure, Except.pure, declarationUnder]

/-- Whether a tag helper is the one of a definition: it has the texts that the definition says, and
is what the clauses of the definition declare under them. -/
structure Gives (defined : TagHelperDefinition) (helper : TagHelper) : Prop where
  texts : ∀ argument, defined.mandatory? argument = some (helper.mandatory argument)
  eq_helperUnder : helper = defined.helperUnder helper.kind helper.name helper.assemblyName

theorem exists_build_of_complete (complete : defined.Complete) :
    ∃ helper, defined.build = .ok helper ∧ defined.Gives helper := by
  obtain ⟨kind, has_kind, some_kind⟩ := complete .kind
  obtain ⟨name, has_name, some_name⟩ := complete .name
  obtain ⟨assemblyName, has_assembly, some_assembly⟩ := complete .assemblyName
  refine ⟨_, build_of_texts has_kind has_name has_assembly some_kind some_name some_assembly, ?_⟩
  -- The clauses leave the texts alone that the declaration starts with.
  unfold helperUnder
  rw [withClauses_clauses]
  constructor
  case texts =>
    intro argument
    cases argument with
    | kind => exact has_kind
    | name => exact has_name
    | assemblyName => exact has_assembly
  case eq_helperUnder =>
    unfold helperUnder
    rw [withClauses_clauses]
    rfl

theorem Lacks.build {argument : RequiredArgument} (lacks : defined.Lacks argument) :
    defined.build = .error (.missingArgument argument) := by
  cases lacks with
  | inl missing => exact build_of_missing missing
  | inr empty => exact build_of_empty empty.1 empty.2

/-- A definition that is not complete lacks one of its texts. -/
theorem complete_or_lacks (defined : TagHelperDefinition) :
    defined.Complete ∨ ∃ argument, defined.Lacks argument := by
  cases first_missing : RequiredArgument.all.find? (fun a => defined.mandatory? a == none) with
  | some argument => exact Or.inr ⟨argument, Or.inl first_missing⟩
  | none =>
    have none_missing : ∀ a, defined.mandatory? a ≠ none := by
      intro a
      have present := List.find?_eq_none.mp first_missing a a.mem_all
      simpa using present
    cases first_empty : RequiredArgument.all.find? (fun a => defined.mandatory? a == some "") with
    | some argument => exact Or.inr ⟨argument, Or.inr ⟨none_missing, first_empty⟩⟩
    | none =>
      left
      intro a
      obtain ⟨text, said⟩ := Option.ne_none_iff_exists'.mp (none_missing a)
      have nonempty := List.find?_eq_none.mp first_empty a a.mem_all
      exact ⟨text, said, by simpa [said] using nonempty⟩

/-- A text that is lacked is missing or empty. -/
theorem Lacks.not_complete {argument : RequiredArgument} (lacks : defined.Lacks argument) :
    ¬ defined.Complete := by
  intro complete
  obtain ⟨text, said, nonempty⟩ := complete argument
  cases lacks with
  | inl missing =>
    have unsaid := List.find?_some missing
    rw [said] at unsaid
    simp at unsaid
  | inr empty =>
    have unsaid := List.find?_some empty.2
    rw [said] at unsaid
    exact nonempty (by simpa using unsaid)

/-- **A definition can be built** exactly if its mandatory texts are there and not empty. -/
theorem exists_build_iff (defined : TagHelperDefinition) :
    (∃ helper, defined.build = .ok helper) ↔ defined.Complete := by
  constructor
  · intro ⟨helper, built⟩
    cases complete_or_lacks defined with
    | inl complete => exact complete
    | inr some_lacked =>
      obtain ⟨argument, lacks⟩ := some_lacked
      rw [lacks.build] at built
      cases built
  · intro complete
    obtain ⟨helper, built, _⟩ := exists_build_of_complete complete
    exact ⟨helper, built⟩

/-- **What a definition is refused for** is the text that it lacks. -/
theorem build_eq_error_iff (defined : TagHelperDefinition) (error : CompileError) :
    defined.build = .error error
      ↔ ∃ argument, defined.Lacks argument ∧ error = .missingArgument argument := by
  constructor
  · intro refused
    cases complete_or_lacks defined with
    | inl complete =>
      obtain ⟨helper, built, _⟩ := exists_build_of_complete complete
      rw [built] at refused
      cases refused
    | inr some_lacked =>
      obtain ⟨argument, lacks⟩ := some_lacked
      rw [lacks.build] at refused
      exact ⟨argument, lacks, (Except.error.inj refused).symm⟩
  · intro ⟨argument, lacks, same⟩
    rw [same]
    exact lacks.build

example : ({ kind := some "" } : TagHelperDefinition).build = .error (.missingArgument .name) :=
  rfl

/-- The tag helper that is built is the one of its definition. -/
theorem gives_of_build {helper : TagHelper} (built : defined.build = .ok helper) :
    defined.Gives helper := by
  have complete := (exists_build_iff defined).mp ⟨helper, built⟩
  obtain ⟨same, built_same, gives⟩ := exists_build_of_complete complete
  rw [Except.ok.inj (built.symm.trans built_same)]
  exact gives

end TagHelperDefinition

/-! ## §3. Whole catalogs. -/

/-- **A catalog is made of definitions** if it has the tag helper of each definition in the place
of the definition, and if nothing that is reported in a descriptor is dropped or moved. -/
structure Catalog.MadeOf (catalog : Catalog) (definitions : List TagHelperDefinition) : Prop where
  /-- The tag helpers are those of the definitions, in the same order. -/
  helpers : definitions.map (·.build) = catalog.tagHelpers.map .ok
  /-- Each has the kind, the name and the assembly that its definition says. -/
  texts : ∀ argument, definitions.map (·.mandatory? argument) =
    catalog.tagHelpers.map fun helper => some (helper.mandatory argument)
  /-- Under these, each is what the clauses of its definition declare. -/
  declared : List.Forall₂ (fun defined helper =>
    helper = defined.helperUnder helper.kind helper.name helper.assemblyName)
    definitions catalog.tagHelpers
  /-- What is reported comes tag helper by tag helper: its own reports, then those of each
  attribute and of its parameters, then those of each rule and of the attributes it requires. -/
  diagnostics : catalog.diagnostics = catalog.tagHelpers.flatMap fun helper =>
    (helper.diagnostics
      ++ helper.attributes.flatMap (fun bound =>
        bound.diagnostics ++ bound.parameters.flatMap (·.diagnostics))
      ++ helper.rules.flatMap (fun rule =>
        rule.diagnostics ++ rule.attributes.flatMap (·.diagnostics))).map (helper, ·)
  /-- The catalog has errors if one of these reports is an error. -/
  hasErrors_iff : catalog.hasErrors = true ↔ ∃ entry ∈ catalog.diagnostics, entry.2.isError = true

namespace Catalog

theorem hasErrors_eq_true_iff (catalog : Catalog) :
    catalog.hasErrors = true ↔ ∃ entry ∈ catalog.diagnostics, entry.2.isError = true := by
  unfold hasErrors diagnostics ComponentMarkup.hasErrors
  simp only [List.any_eq_true, List.mem_flatMap, List.mem_map]
  constructor
  · intro ⟨helper, listed, report, reported, is_error⟩
    exact ⟨(helper, report), ⟨helper, listed, report, reported, rfl⟩, is_error⟩
  · intro ⟨_, ⟨helper, listed, report, reported, same⟩, is_error⟩
    subst same
    exact ⟨helper, listed, report, reported, is_error⟩

theorem ofDefinitions_eq (definitions : List TagHelperDefinition) :
    ofDefinitions definitions = (definitions.mapM TagHelperDefinition.build).map Catalog.mk := by
  unfold ofDefinitions
  cases definitions.mapM TagHelperDefinition.build <;> rfl

/-- **The catalog of definitions** is the one that is made of them. -/
theorem ofDefinitions_eq_ok_iff (definitions : List TagHelperDefinition) (catalog : Catalog) :
    ofDefinitions definitions = .ok catalog ↔ catalog.MadeOf definitions := by
  have helpers : ofDefinitions definitions = .ok catalog
      ↔ definitions.map (·.build) = catalog.tagHelpers.map .ok := by
    rw [ofDefinitions_eq, ← mapM_eq_ok_iff]
    cases definitions.mapM TagHelperDefinition.build with
    | error error => simp [Except.map]
    | ok made =>
      obtain ⟨listed⟩ := catalog
      simp [Except.map]
  rw [helpers]
  constructor
  · intro same
    have gives : List.Forall₂ TagHelperDefinition.Gives definitions catalog.tagHelpers :=
      (map_eq_map_iff_forall₂.mp same).imp fun _ _ built => TagHelperDefinition.gives_of_build built
    exact {
      helpers := same
      texts := fun argument =>
        map_eq_map_iff_forall₂.mpr (gives.imp fun _ _ own => own.texts argument)
      declared := gives.imp fun _ _ own => own.eq_helperUnder
      diagnostics := rfl
      hasErrors_iff := hasErrors_eq_true_iff catalog }
  · intro made
    exact made.helpers

/-- **What definitions are refused for** is what the earliest incomplete one lacks. -/
theorem ofDefinitions_eq_error_iff (definitions : List TagHelperDefinition)
    (error : CompileError) :
    ofDefinitions definitions = .error error ↔ ∃ before faulty after argument,
      definitions = before ++ faulty :: after ∧ (∀ earlier ∈ before, earlier.Complete)
        ∧ faulty.Lacks argument ∧ error = .missingArgument argument := by
  have refused : ofDefinitions definitions = .error error
      ↔ definitions.mapM TagHelperDefinition.build = .error error := by
    rw [ofDefinitions_eq]
    cases definitions.mapM TagHelperDefinition.build <;> simp [Except.map]
  rw [refused, mapM_eq_error_iff]
  simp only [TagHelperDefinition.exists_build_iff, TagHelperDefinition.build_eq_error_iff]
  constructor
  · intro ⟨before, faulty, after, parts, complete, argument, lacks, same⟩
    exact ⟨before, faulty, after, argument, parts, complete, lacks, same⟩
  · intro ⟨before, faulty, after, argument, parts, complete, lacks, same⟩
    exact ⟨before, faulty, after, parts, complete, argument, lacks, same⟩

/-- Definitions make a catalog exactly if each of them is complete. -/
theorem exists_ofDefinitions_iff (definitions : List TagHelperDefinition) :
    (∃ catalog, ofDefinitions definitions = .ok catalog)
      ↔ ∀ defined ∈ definitions, defined.Complete := by
  constructor
  · intro ⟨catalog, made⟩ defined listed
    rw [ofDefinitions_eq_ok_iff] at made
    have built : defined.build ∈ catalog.tagHelpers.map Except.ok := by
      rw [← made.helpers]
      exact List.mem_map_of_mem listed
    obtain ⟨helper, _, same⟩ := List.mem_map.mp built
    exact (TagHelperDefinition.exists_build_iff defined).mp ⟨helper, same.symm⟩
  · intro complete
    cases made : ofDefinitions definitions with
    | ok catalog => exact ⟨catalog, rfl⟩
    | error error =>
      obtain ⟨before, faulty, after, argument, parts, _, lacks, _⟩ :=
        (ofDefinitions_eq_error_iff definitions error).mp made
      have listed : faulty ∈ definitions := by simp [parts]
      exact absurd (complete faulty listed) lacks.not_complete

/-- **A catalog is refused only for missing texts, and then precisely.**  Definitions make a catalog
exactly if each of them has its mandatory texts, whatever else it says; the catalog is then the one
that is made of them, with every report in it.  Otherwise the error names what the earliest
incomplete definition lacks. -/
theorem ofDefinitions_exact (definitions : List TagHelperDefinition) :
    ((∃ catalog, ofDefinitions definitions = .ok catalog)
        ↔ ∀ defined ∈ definitions, defined.Complete)
      ∧ (∀ catalog, ofDefinitions definitions = .ok catalog ↔ catalog.MadeOf definitions)
      ∧ ∀ error, ofDefinitions definitions = .error error ↔ ∃ before faulty after argument,
          definitions = before ++ faulty :: after ∧ (∀ earlier ∈ before, earlier.Complete)
            ∧ faulty.Lacks argument ∧ error = .missingArgument argument :=
  ⟨exists_ofDefinitions_iff definitions, ofDefinitions_eq_ok_iff definitions,
    ofDefinitions_eq_error_iff definitions⟩

end Catalog

end ComponentMarkup
