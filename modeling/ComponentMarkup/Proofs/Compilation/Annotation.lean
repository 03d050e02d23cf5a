/-
  ComponentMarkup.Proofs.Compilation.Annotation
  ────────────────────────────────
  **Edits that only add reports.**

  `Annotates` says that a tree is another one with more reports at the ends of its nodes' lists:
  no link, no kind and no place in the source is different, and no report is lost or moved.
  Reporting attributes that are given twice is such an edit.

  Main statements: `annotates_reportDuplicates`, and for what is reported about the whole tree
  `Annotates.sublist_diagnostics` and `Annotates.exists_added`.
-/
import ComponentMarkup.Proofs.Links.Walk
import ComponentMarkup.Tree.DuplicateAttributes
import Mathlib.Data.List.Perm.Basic

namespace ComponentMarkup

open MarkupTree

/-! ## §1. Annotated trees. -/

/-- The second tree is the first one with some more reports, each of which has the property. -/
structure MarkupTree.Annotates (p : Diagnostic → Prop) (tree left : MarkupTree) : Prop where
  size_eq : left.size = tree.size
  parent_eq : ∀ id, left.parent id = tree.parent id
  children_eq : ∀ id, left.children id = tree.children id
  kind_eq : ∀ id, left.kind id = tree.kind id
  source_eq : ∀ id, (left.content id).source = (tree.content id).source
  diagnostics_eq : ∀ id, ∃ added,
    (left.content id).diagnostics = (tree.content id).diagnostics ++ added
      ∧ ∀ report ∈ added, p report

namespace MarkupTree.Annotates

variable {p : Diagnostic → Prop} {tree between left : MarkupTree}

theorem refl (p : Diagnostic → Prop) (tree : MarkupTree) : tree.Annotates p tree where
  size_eq := rfl
  parent_eq _ := rfl
  children_eq _ := rfl
  kind_eq _ := rfl
  source_eq _ := rfl
  diagnostics_eq _ := ⟨[], (List.append_nil _).symm, List.forall_mem_nil _⟩

theorem trans (first : Annotates p tree between) (second : Annotates p between left) :
    Annotates p tree left where
  size_eq := second.size_eq.trans first.size_eq
  parent_eq id := (second.parent_eq id).trans (first.parent_eq id)
  children_eq id := (second.children_eq id).trans (first.children_eq id)
  kind_eq id := (second.kind_eq id).trans (first.kind_eq id)
  source_eq id := (second.source_eq id).trans (first.source_eq id)
  diagnostics_eq id := by
    obtain ⟨early, early_eq, early_all⟩ := first.diagnostics_eq id
    obtain ⟨late, late_eq, late_all⟩ := second.diagnostics_eq id
    refine ⟨early ++ late, ?_, List.forall_mem_append.mpr ⟨early_all, late_all⟩⟩
    rw [late_eq, early_eq, List.append_assoc]

/-- A report goes to the end of a list, unless it is in it. -/
theorem diagnostics_addReport (content : NodeContent) (report : Diagnostic) :
    (content.addReport report).diagnostics = content.diagnostics
      ∨ (content.addReport report).diagnostics = content.diagnostics ++ [report] := by
  unfold NodeContent.addReport
  split
  · exact Or.inl rfl
  · exact Or.inr rfl

/-- A report changes nothing else of a content. -/
theorem kind_source_addReport (content : NodeContent) (report : Diagnostic) :
    (content.addReport report).kind = content.kind
      ∧ (content.addReport report).source = content.source := by
  unfold NodeContent.addReport
  split
  · exact ⟨rfl, rfl⟩
  · exact ⟨rfl, rfl⟩

/-- **One more report.** -/
theorem addReport (tree : MarkupTree) (id : NodeId) {report : Diagnostic} (has : p report) :
    Annotates p tree (tree.addReport id report) := by
  -- Only the content of the one node can be different, and only in its reports.
  have content_cases : ∀ other,
      (tree.addReport id report).content other = tree.content other
        ∨ (tree.addReport id report).content other = (tree.content other).addReport report := by
    intro other
    unfold MarkupTree.addReport
    rw [content_modifyContent]
    split
    · exact Or.inr rfl
    · exact Or.inl rfl
  refine ⟨size_modifyContent .., fun other => parent_modifyContent .., fun other =>
    children_modifyContent .., fun other => ?_, fun other => ?_, fun other => ?_⟩
  · unfold kind
    rcases content_cases other with same | reported
    · rw [same]
    · rw [reported, (kind_source_addReport _ _).1]
  · rcases content_cases other with same | reported
    · rw [same]
    · rw [reported, (kind_source_addReport _ _).2]
  · rcases content_cases other with same | reported
    · exact ⟨[], by rw [same, List.append_nil], List.forall_mem_nil _⟩
    · rcases diagnostics_addReport (tree.content other) report with there | new
      · refine ⟨[], ?_, List.forall_mem_nil _⟩
        rw [reported, there, List.append_nil]
      · refine ⟨[report], by rw [reported, new], fun other listed => ?_⟩
        exact List.mem_singleton.mp listed ▸ has

/-- **More reports**, one after the other. -/
theorem addReports (tree : MarkupTree) {reports : List (NodeId × Diagnostic)}
    (all : ∀ entry ∈ reports, p entry.2) : Annotates p tree (tree.addReports reports).2 := by
  induction reports generalizing tree with
  | nil => exact refl p tree
  | cons entry rest ih =>
    obtain ⟨first, others⟩ := List.forall_mem_cons.mp all
    exact (addReport tree entry.1 first).trans (ih (tree.addReport entry.1 entry.2) others)

/-! ## §2. What is the same in an annotated tree. -/

theorem linked (annotates : Annotates p tree left) (linked : tree.Linked) : left.Linked :=
  linked.of_links_eq (Nat.le_of_eq annotates.size_eq.symm) annotates.parent_eq
    annotates.children_eq

theorem walk_eq (annotates : Annotates p tree left) : left.walk = tree.walk := by
  -- The traversal looks at nothing but the children.
  have below_eq : ∀ levels id, left.below levels id = tree.below levels id := by
    intro levels
    induction levels with
    | zero => exact fun _ => rfl
    | succ levels ih =>
      intro id
      unfold below
      rw [annotates.children_eq, List.flatMap_def, List.flatMap_def]
      refine congrArg List.flatten (List.map_congr_left fun child _ => ?_)
      rw [ih]
  unfold walk descendants
  rw [annotates.size_eq, below_eq]

/-- Validation does not look at reports. -/
theorem validate_iff (annotates : Annotates p tree left) (linked : tree.Linked) :
    left.validate = .ok () ↔ tree.validate = .ok () := by
  rw [(annotates.linked linked).validate_eq_ok_iff_documents, linked.validate_eq_ok_iff_documents,
    annotates.walk_eq, annotates.kind_eq]
  refine and_congr_right fun _ => forall_congr' fun id => ?_
  rw [annotates.kind_eq]

/-- **What was reported before** is still reported, in the same order. -/
theorem sublist_diagnostics (annotates : Annotates p tree left) :
    tree.diagnostics.Sublist left.diagnostics := by
  unfold diagnostics
  rw [annotates.walk_eq]
  induction tree.walk with
  | nil => exact List.Sublist.slnil
  | cons id rest ih =>
    obtain ⟨added, added_eq, -⟩ := annotates.diagnostics_eq id
    rw [List.flatMap_cons, List.flatMap_cons, added_eq]
    exact (List.sublist_append_left _ _).append ih

/-- **What is reported in addition** has the property. -/
theorem exists_added (annotates : Annotates p tree left) :
    ∃ added, left.diagnostics.Perm (tree.diagnostics ++ added) ∧ ∀ report ∈ added, p report := by
  unfold diagnostics
  rw [annotates.walk_eq]
  induction tree.walk with
  | nil => exact ⟨[], .refl _, List.forall_mem_nil _⟩
  | cons id rest ih =>
    obtain ⟨here, here_eq, here_all⟩ := annotates.diagnostics_eq id
    obtain ⟨later, perm, later_all⟩ := ih
    refine ⟨here ++ later, ?_, List.forall_mem_append.mpr ⟨here_all, later_all⟩⟩
    rw [List.flatMap_cons, List.flatMap_cons, here_eq, List.append_assoc, List.append_assoc]
    refine List.Perm.append_left _ ?_
    generalize (rest.flatMap fun id => (left.content id).diagnostics) = after at perm ⊢
    generalize (rest.flatMap fun id => (tree.content id).diagnostics) = before at perm ⊢
    -- The reports that are new here go past the old ones of the later nodes.
    calc
      List.Perm (here ++ after) (here ++ (before ++ later)) := perm.append_left here
      List.Perm _ (here ++ before ++ later) := .of_eq (List.append_assoc ..).symm
      List.Perm _ (before ++ here ++ later) := List.perm_append_comm.append_right later
      List.Perm _ (before ++ (here ++ later)) := .of_eq (List.append_assoc ..)

end MarkupTree.Annotates

/-! ## §3. Attributes that are given twice. -/

/-- The report is about an attribute that is given twice: its code is that of a repeated parameter,
a repeated attribute or a repeated directive. -/
def IsDuplicateReport (report : Diagnostic) : Prop := report.code.number ∈ [9985, 10007, 10008]

namespace MarkupTree

theorem isDuplicateReport_duplicateReport (tree : MarkupTree) (host : AttributeHost)
    (first later : NodeId) : IsDuplicateReport (tree.duplicateReport host first later) := by
  have codes : (tree.duplicateProblem host first later).code.number ∈ [9985, 10007, 10008] := by
    unfold duplicateProblem
    dsimp only
    split
    · exact List.mem_cons_of_mem _ (List.mem_cons_of_mem _ List.mem_cons_self)
    · exact List.mem_cons_self
    · exact List.mem_cons_of_mem _ List.mem_cons_self
  exact codes

theorem isDuplicateReport_of_mem_among {tree : MarkupTree} {host : AttributeHost}
    {met : List (List Char × NodeId)} {children : List NodeId} {entry : NodeId × Diagnostic}
    (listed : entry ∈ tree.duplicatesAmong host met children) : IsDuplicateReport entry.2 := by
  induction children generalizing met with
  | nil => exact absurd listed List.not_mem_nil
  | cons child rest ih =>
    unfold duplicatesAmong at listed
    split at listed
    · exact ih listed
    · dsimp only at listed
      split at listed
      · rcases List.mem_cons.mp listed with same | later
        · exact same ▸ isDuplicateReport_duplicateReport ..
        · exact ih later
      · exact ih listed

theorem isDuplicateReport_of_mem {tree : MarkupTree} {entry : NodeId × Diagnostic}
    (listed : entry ∈ tree.duplicates) : IsDuplicateReport entry.2 := by
  obtain ⟨id, -, among⟩ := List.mem_flatMap.mp listed
  unfold duplicatesUnder at among
  split at among
  · exact isDuplicateReport_of_mem_among among
  · exact absurd among List.not_mem_nil

/-- **Reporting attributes that are given twice** only adds such reports. -/
theorem annotates_reportDuplicates (tree : MarkupTree) :
    tree.Annotates IsDuplicateReport tree.reportDuplicates.2 :=
  .addReports tree fun _ listed => isDuplicateReport_of_mem listed

end MarkupTree

end ComponentMarkup
