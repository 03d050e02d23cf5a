/-
  ComponentMarkup.Proofs.Descriptors.FirstOccurrences
  ────────────────────────────────
  **Built lists are the declared ones without repetitions.**

  Clauses add entries at the end of a list and never take one away.  What is built of such a list
  are the entries that are the same as none before them, where an entry that is left out counts as
  much as one that stays; since sameness is an equivalence, it is enough to compare an entry with
  those that stay.  For the same reason, and because descriptors that are the same are digested
  from the same bytes, it is enough to compare it with those that have its hash: a set that
  remembers the order of its entries keeps the same ones, with whatever it hashes the bytes.

  Main statements: `firstOccurrences_eq`, `foldl_insertHashed_eq`, `CollapsesTo.of_identity`, one
  `withClauses` lemma for each list that clauses write, and `builtLists_collapse`.
-/
import ComponentMarkup.Proofs.Descriptors.Collapse
import ComponentMarkup.Proofs.Descriptors.Digest

namespace ComponentMarkup

/-! ## §1. First occurrences. -/

section Lists

variable {α β : Type} {same : α → α → Bool} {identity : α → β}

/-- The elements of a list that are the same as none before them, if the `earlier` ones stand
before all of them. -/
def firstOccurrences (same : α → α → Bool) : List α → List α → List α
  | _, [] => []
  | earlier, x :: rest =>
    if earlier.any (same x) then firstOccurrences same (earlier ++ [x]) rest
    else x :: firstOccurrences same (earlier ++ [x]) rest

/-- A set that remembers the order in which its entries came, with one more entry.  The new entry
is compared only with those that have its hash. -/
def insertHashed (hash : α → UInt64) (same : α → α → Bool) (entries : List α) (x : α) : List α :=
  if entries.any fun entry => hash entry == hash x && same x entry then entries
  else entries ++ [x]

theorem not_any_concat (earlier : List α) (x y : α) :
    (!(earlier ++ [x]).any (same y)) = (!same y x && !earlier.any (same y)) := by
  rw [List.any_append, Bool.not_or, Bool.and_comm, List.any_cons, List.any_nil, Bool.or_false]

/-- Dropping what is the same as an earlier element or as a new one is dropping twice. -/
theorem filter_not_any_concat (earlier rest : List α) (x : α) :
    (rest.filter fun y => !(earlier ++ [x]).any (same y)) =
      (rest.filter fun y => !earlier.any (same y)).filter fun y => same y x = false := by
  rw [List.filter_filter]
  congr 1
  funext y
  rw [not_any_concat]
  cases same y x <;> rfl

/-- **First occurrences are what the collapse leaves.** -/
theorem firstOccurrences_eq (same_iff : ∀ x y, same x y = true ↔ identity x = identity y)
    (earlier list : List α) : firstOccurrences same earlier list =
      (list.filter fun x => !earlier.any (same x)).eraseDupsBy same := by
  induction list generalizing earlier with
  | nil => simp [firstOccurrences]
  | cons x rest ih =>
    rw [firstOccurrences, ih, filter_not_any_concat, List.filter_cons]
    cases met : earlier.any (same x) with
    | true =>
      -- What is the same as the repetition is the same as what it repeats.
      obtain ⟨first, mem, same_first⟩ := List.any_eq_true.mp met
      have nothing_more : ∀ y ∈ rest.filter (fun y => !earlier.any (same y)),
          decide (same y x = false) = true := by
        intro y kept
        have unmet := (List.mem_filter.mp kept).2
        rw [Bool.not_eq_true', List.any_eq_false] at unmet
        rw [decide_eq_true_eq, Bool.eq_false_iff]
        intro same_x
        apply unmet first mem
        rw [same_iff] at same_x same_first ⊢
        exact same_x.trans same_first
      simp only [Bool.not_true, Bool.false_eq_true, if_true, if_false]
      rw [List.filter_eq_self.mpr nothing_more]
    | false =>
      simp only [Bool.not_false, Bool.false_eq_true, if_true, if_false]
      rw [List.eraseDupsBy_cons]

theorem insertHashed_eq {hash : α → UInt64} (hash_eq : ∀ x y, same x y = true → hash x = hash y)
    (entries : List α) (x : α) : insertHashed hash same entries x =
      if entries.any (same x) then entries else entries ++ [x] := by
  have compared : (fun entry => hash entry == hash x && same x entry) = same x := by
    funext entry
    cases is_same : same x entry with
    | true => rw [hash_eq x entry is_same, beq_self_eq_true, Bool.and_true]
    | false => rw [Bool.and_false]
  rw [insertHashed, compared]

/-- **A set that goes by hashes keeps what the collapse leaves**, after what is there already. -/
theorem foldl_insertHashed_eq {hash : α → UInt64}
    (hash_eq : ∀ x y, same x y = true → hash x = hash y) (entries list : List α) :
    list.foldl (insertHashed hash same) entries =
      entries ++ (list.filter fun x => !entries.any (same x)).eraseDupsBy same := by
  induction list generalizing entries with
  | nil => simp
  | cons x rest ih =>
    rw [List.foldl_cons, insertHashed_eq hash_eq, List.filter_cons]
    cases met : entries.any (same x) with
    | true =>
      simp only [Bool.not_true, Bool.false_eq_true, if_true, if_false]
      exact ih entries
    | false =>
      simp only [Bool.not_false, Bool.false_eq_true, if_true, if_false]
      rw [ih, filter_not_any_concat, List.eraseDupsBy_cons, List.append_assoc,
        List.singleton_append]

theorem sublist_eraseDupsBy (same : α → α → Bool) (list : List α) :
    (list.eraseDupsBy same).Sublist list := by
  induction list using eraseDupsBy_induction same with
  | nil => exact .slnil
  | cons head rest ih =>
    rw [List.eraseDupsBy_cons]
    exact (ih.trans List.filter_sublist).cons_cons head

theorem pairwise_eraseDupsBy (same_iff : ∀ x y, same x y = true ↔ identity x = identity y)
    (list : List α) : (list.eraseDupsBy same).Pairwise fun x y => same x y = false := by
  induction list using eraseDupsBy_induction same with
  | nil => exact .nil
  | cons head rest ih =>
    rw [List.eraseDupsBy_cons, List.pairwise_cons]
    refine ⟨?_, ih⟩
    intro y kept
    have different : same y head = false := by
      simpa using (List.mem_filter.mp (mem_of_mem_eraseDupsBy kept)).2
    rw [Bool.eq_false_iff, ne_eq, same_iff] at different ⊢
    exact fun identical => different identical.symm

/-- Whether a built list is a declared one **without its repetitions**: every entry that is the
same as an earlier one is removed, and so an insertion-ordered set keeps the others, whatever it
hashes the digested part of an entry with.  What is left stands in the declared order, no two of
its entries are the same, and every declared entry is the same as one of them. -/
structure CollapsesTo (same : α → α → Bool) (digested : α → β) (declared built : List α) :
    Prop where
  eq_firstOccurrences : built = firstOccurrences same [] declared
  eq_foldl_insertHashed : ∀ hash : β → UInt64,
    built = declared.foldl (insertHashed (fun x => hash (digested x)) same) []
  sublist : built.Sublist declared
  distinct : built.Pairwise fun x y => same x y = false
  covers : ∀ x ∈ declared, ∃ first ∈ built, same x first = true

/-- A list collapses if sameness is equality of identities and decides what is digested. -/
theorem CollapsesTo.of_identity {δ : Type} {digested : α → δ}
    (same_iff : ∀ x y, same x y = true ↔ identity x = identity y)
    (digested_eq : ∀ x y, same x y = true → digested x = digested y) (declared : List α) :
    CollapsesTo same digested declared (declared.eraseDupsBy same) where
  eq_firstOccurrences := by simp [firstOccurrences_eq same_iff]
  eq_foldl_insertHashed hash := by
    rw [foldl_insertHashed_eq fun x y is_same => congrArg hash (digested_eq x y is_same)]
    simp
  sublist := sublist_eraseDupsBy same declared
  distinct := pairwise_eraseDupsBy same_iff declared
  covers x mem := by
    obtain ⟨first, kept, -, is_same⟩ := exists_mem_eraseDupsBy same_iff mem
    exact ⟨first, kept, is_same⟩

/-- Equal entries collapse, with whatever they are hashed. -/
theorem CollapsesTo.of_eq [DecidableEq α] (declared : List α) :
    CollapsesTo (· == ·) id declared declared.eraseDups :=
  .of_identity (fun _ _ => beq_iff_eq) (fun _ _ => eq_of_beq) declared

end Lists

/-! ## §2. Descriptors that are the same are digested from the same bytes. -/

section Bytes

variable {casing : NameCasing}

theorem AttributeParameter.hashedBytes_eq_of_same (x y : AttributeParameter)
    (same : x.same casing y = true) : x.hashedBytes casing = y.hashedBytes casing := by
  have identical := (AttributeParameter.same_iff casing x y).mp same
  exact (kind_name_bytes_eq_iff casing _ _ _ _).mpr ⟨congrArg ParameterIdentity.kind identical,
    (NameCasing.sameName_iff _ _ _).mpr (congrArg ParameterIdentity.name identical)⟩

theorem BoundAttribute.hashedBytes_eq_of_same (x y : BoundAttribute)
    (same : x.same casing y = true) : x.hashedBytes casing = y.hashedBytes casing := by
  have identical := (BoundAttribute.same_iff casing x y).mp same
  exact (kind_name_bytes_eq_iff casing _ _ _ _).mpr
    ⟨congrArg BoundAttributeIdentity.kind identical,
      (NameCasing.sameName_iff _ _ _).mpr (congrArg BoundAttributeIdentity.name identical)⟩

theorem ElementRule.hashedBytes_eq_of_same (x y : ElementRule) (same : x.same casing y = true) :
    x.hashedBytes casing = y.hashedBytes casing := by
  have identical := (ElementRule.same_iff casing x y).mp same
  exact (NameCasing.nameBytes_eq_iff casing _ _).mpr
    ((NameCasing.sameName_iff _ _ _).mpr (congrArg RuleIdentity.tagName identical))

end Bytes

/-! ## §3. What clauses add. -/

section Runs

variable {σ κ α : Type} {step : σ → κ → σ} {entries : σ → List α} {entry : κ → Option α}

/-- **A run adds what its steps add**, in order, if the steps keep what this depends on. -/
theorem foldl_adds {P : σ → Prop} (keeps : ∀ state clause, P state → P (step state clause))
    (adds : ∀ state clause, P state →
      entries (step state clause) = entries state ++ (entry clause).toList)
    (state : σ) (starts : P state) (clauses : List κ) :
    entries (clauses.foldl step state) = entries state ++ clauses.filterMap entry := by
  induction clauses generalizing state with
  | nil => simp
  | cons clause rest ih =>
    rw [List.foldl_cons, ih _ (keeps state clause starts), adds state clause starts,
      List.filterMap_cons]
    cases entry clause <;> simp

/-- What is added may depend on the clause alone. -/
theorem foldl_adds_of_clause
    (adds : ∀ state clause, entries (step state clause) = entries state ++ (entry clause).toList)
    (state : σ) (clauses : List κ) :
    entries (clauses.foldl step state) = entries state ++ clauses.filterMap entry := by
  apply foldl_adds (P := fun _ => True)
  case keeps =>
    intro state clause _
    trivial
  case adds =>
    intro state clause _
    exact adds state clause
  case starts => trivial

end Runs

/-- The diagnostic that a clause adds. -/
def ParameterClause.diagnostic? : ParameterClause → Option Diagnostic
  | .diagnostic report => some report
  | _ => none

namespace AttributeClause

/-- The parameter that a clause declares, of the kind of its attribute. -/
def parameter? (kind : String) : AttributeClause → Option ParameterDeclaration
  | .parameter clauses => some (({ kind := kind } : ParameterDeclaration).withClauses clauses)
  | _ => none

/-- The diagnostic that a clause adds. -/
def diagnostic? : AttributeClause → Option Diagnostic
  | .diagnostic report => some report
  | _ => none

end AttributeClause

namespace TagHelperClause

/-- The bound attribute that a clause declares, of the kind of its tag helper. -/
def attribute? (kind : String) : TagHelperClause → Option AttributeDeclaration
  | .boundAttribute clauses => some (({ kind := kind } : AttributeDeclaration).withClauses clauses)
  | _ => none

/-- The rule that a clause declares. -/
def rule? : TagHelperClause → Option RuleDeclaration
  | .matchingRule clauses => some (({} : RuleDeclaration).withClauses clauses)
  | _ => none

/-- The diagnostic that a clause adds. -/
def diagnostic? : TagHelperClause → Option Diagnostic
  | .diagnostic report => some report
  | _ => none

end TagHelperClause

theorem ParameterDeclaration.diagnostics_withClauses (declared : ParameterDeclaration)
    (clauses : List ParameterClause) : (declared.withClauses clauses).diagnostics =
      declared.diagnostics ++ clauses.filterMap ParameterClause.diagnostic? := by
  refine foldl_adds_of_clause ?_ declared clauses
  intro declared clause
  cases clause <;> simp [withClause, ParameterClause.diagnostic?]

namespace AttributeDeclaration

theorem kind_withClause (declared : AttributeDeclaration) (clause : AttributeClause) :
    (declared.withClause clause).kind = declared.kind := by
  cases clause <;> rfl

theorem parameters_withClauses (declared : AttributeDeclaration) (clauses : List AttributeClause) :
    (declared.withClauses clauses).parameters =
      declared.parameters ++ clauses.filterMap (AttributeClause.parameter? declared.kind) := by
  apply foldl_adds (P := fun state => state.kind = declared.kind)
  case keeps =>
    intro state clause same_kind
    rw [kind_withClause, same_kind]
  case adds =>
    intro state clause same_kind
    cases clause <;> simp [withClause, AttributeClause.parameter?, same_kind]
  case starts => rfl

theorem diagnostics_withClauses (declared : AttributeDeclaration) (clauses : List AttributeClause) :
    (declared.withClauses clauses).diagnostics =
      declared.diagnostics ++ clauses.filterMap AttributeClause.diagnostic? := by
  refine foldl_adds_of_clause ?_ declared clauses
  intro declared clause
  cases clause <;> simp [withClause, AttributeClause.diagnostic?]

end AttributeDeclaration

namespace TagHelperDeclaration

theorem kind_withClause (declared : TagHelperDeclaration) (clause : TagHelperClause) :
    (declared.withClause clause).kind = declared.kind := by
  cases clause <;> rfl

theorem attributes_withClauses (declared : TagHelperDeclaration) (clauses : List TagHelperClause) :
    (declared.withClauses clauses).attributes =
      declared.attributes ++ clauses.filterMap (TagHelperClause.attribute? declared.kind) := by
  apply foldl_adds (P := fun state => state.kind = declared.kind)
  case keeps =>
    intro state clause same_kind
    rw [kind_withClause, same_kind]
  case adds =>
    intro state clause same_kind
    cases clause <;> simp [withClause, TagHelperClause.attribute?, same_kind]
  case starts => rfl

theorem rules_withClauses (declared : TagHelperDeclaration) (clauses : List TagHelperClause) :
    (declared.withClauses clauses).rules =
      declared.rules ++ clauses.filterMap TagHelperClause.rule? := by
  refine foldl_adds_of_clause ?_ declared clauses
  intro declared clause
  cases clause <;> simp [withClause, TagHelperClause.rule?]

theorem diagnostics_withClauses (declared : TagHelperDeclaration) (clauses : List TagHelperClause) :
    (declared.withClauses clauses).diagnostics =
      declared.diagnostics ++ clauses.filterMap TagHelperClause.diagnostic? := by
  refine foldl_adds_of_clause ?_ declared clauses
  intro declared clause
  cases clause <;> simp [withClause, TagHelperClause.diagnostic?]

end TagHelperDeclaration

/-! ## §4. Built lists. -/

/-- **Every built list is what the clauses declare, without its repetitions.**  Parameters of an
attribute collapse with letter case counted, the bound attributes and the rules of a tag helper
without; diagnostics collapse if they are equal, those of validation before those of clauses. -/
theorem builtLists_collapse :
    (∀ (kind attributeName : String) (owner : Owner) (clauses : List ParameterClause),
      let declared := ({ kind := kind } : ParameterDeclaration).withClauses clauses
      CollapsesTo (· == ·) id
        (reportAll (declared.problems attributeName)
          ++ clauses.filterMap ParameterClause.diagnostic?)
        (declared.build owner attributeName).diagnostics)
      ∧ (∀ (kind : String) (owner : Owner) (clauses : List AttributeClause),
        let declared := ({ kind := kind } : AttributeDeclaration).withClauses clauses
        let bound := declared.build owner
        let shownName := bound.displayName.getD ""
        CollapsesTo (AttributeParameter.same .exact) (AttributeParameter.hashedBytes .exact)
            ((clauses.filterMap (AttributeClause.parameter? kind)).map (·.build owner shownName))
            bound.parameters
          ∧ CollapsesTo (· == ·) id
            (reportAll (declared.problems owner.displayName shownName)
              ++ clauses.filterMap AttributeClause.diagnostic?)
            bound.diagnostics)
      ∧ ∀ (kind name assemblyName : String) (clauses : List TagHelperClause),
        let declared : TagHelperDeclaration :=
          { kind := kind, name := name, assemblyName := assemblyName }
        let helper := (declared.withClauses clauses).build
        CollapsesTo (BoundAttribute.same .ignoringCase) (BoundAttribute.hashedBytes .ignoringCase)
            ((clauses.filterMap (TagHelperClause.attribute? kind)).map (·.build helper.owner))
            helper.attributes
          ∧ CollapsesTo (ElementRule.same .ignoringCase) (ElementRule.hashedBytes .ignoringCase)
            ((clauses.filterMap TagHelperClause.rule?).map (·.build)) helper.rules
          ∧ CollapsesTo (· == ·) id (clauses.filterMap TagHelperClause.diagnostic?)
            helper.diagnostics := by
  refine ⟨?parameter, ?bound, ?helper⟩
  case parameter =>
    intro kind attributeName owner clauses declared
    have added := ParameterDeclaration.diagnostics_withClauses { kind := kind } clauses
    rw [List.nil_append] at added
    rw [← added]
    exact .of_eq _
  case bound =>
    intro kind owner clauses declared bound shownName
    have parameters := AttributeDeclaration.parameters_withClauses { kind := kind } clauses
    have added := AttributeDeclaration.diagnostics_withClauses { kind := kind } clauses
    rw [List.nil_append] at parameters added
    rw [← parameters, ← added]
    exact ⟨.of_identity (AttributeParameter.same_iff .exact)
      AttributeParameter.hashedBytes_eq_of_same _, .of_eq _⟩
  case helper =>
    intro kind name assemblyName clauses declared helper
    have attributes := declared.attributes_withClauses clauses
    have rules := declared.rules_withClauses clauses
    have added := declared.diagnostics_withClauses clauses
    rw [List.nil_append] at attributes rules added
    rw [← attributes, ← rules, ← added]
    exact ⟨.of_identity (BoundAttribute.same_iff .ignoringCase)
      BoundAttribute.hashedBytes_eq_of_same _, .of_identity (ElementRule.same_iff .ignoringCase)
      ElementRule.hashedBytes_eq_of_same _, .of_eq _⟩

end ComponentMarkup
