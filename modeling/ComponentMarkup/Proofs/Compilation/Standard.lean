/-
  ComponentMarkup.Proofs.Compilation.Standard
  ────────────────────────────────
  **Compilation with the passes that every compiler has.**

  A pass is careful if it never fails, never asks for cancellation, and changes neither whether a
  tree is valid nor what was reported about it: it may only report attributes that are given
  twice.  Both standard passes are careful, and so is any run of careful passes.  The compiler
  then accepts a document exactly if its tree was valid to begin with.

  Main statements: `careful_splatLowering`, `careful_duplicateReporting`, `elaborates_applyAll`
  and `Compiler.compile_standard`.
-/
import ComponentMarkup.Compiler
import ComponentMarkup.Proofs.Compilation.Annotation
import ComponentMarkup.Proofs.Lowering.Simulation

namespace ComponentMarkup

open MarkupTree

/-! ## §1. What compilation promises about a tree. -/

/-- The second tree is as valid as the first one, and of its reports all that are not the first
one's, which stand in their old order, are about attributes that are given twice. -/
structure MarkupTree.Elaborates (tree left : MarkupTree) : Prop where
  linked : left.Linked
  validate_iff : left.validate = .ok () ↔ tree.validate = .ok ()
  sublist : tree.diagnostics.Sublist left.diagnostics
  exists_added : ∃ added, left.diagnostics.Perm (tree.diagnostics ++ added)
    ∧ ∀ report ∈ added, IsDuplicateReport report

namespace MarkupTree.Elaborates

variable {tree between left : MarkupTree}

theorem refl (linked : tree.Linked) : tree.Elaborates tree where
  linked := linked
  validate_iff := Iff.rfl
  sublist := List.Sublist.refl _
  exists_added := ⟨[], .of_eq (List.append_nil _).symm, List.forall_mem_nil _⟩

theorem trans (first : tree.Elaborates between) (second : between.Elaborates left) :
    tree.Elaborates left where
  linked := second.linked
  validate_iff := second.validate_iff.trans first.validate_iff
  sublist := first.sublist.trans second.sublist
  exists_added := by
    obtain ⟨early, early_perm, early_all⟩ := first.exists_added
    obtain ⟨late, late_perm, late_all⟩ := second.exists_added
    refine ⟨early ++ late, ?_, List.forall_mem_append.mpr ⟨early_all, late_all⟩⟩
    rw [← List.append_assoc]
    exact late_perm.trans (early_perm.append_right late)

end MarkupTree.Elaborates

/-! ## §2. Lowering. -/

namespace RoseTree

/-- The kinds of all documents in a tree, its top included. -/
def documents (t : ContentTree) : List NodeKind :=
  t.labels.flatMap fun content => if content.kind.isDocument then [content.kind] else []

/-- Lowering adds no document and takes none away. -/
theorem documents_kept (t : ContentTree) : documents t.kept = documents t :=
  flatMap_labels_kept blind_isDocument t

end RoseTree

open RoseTree

/-- **What is reported about a tree** stands in its contents. -/
theorem MarkupTree.Linked.diagnostics_eq {tree : MarkupTree} (linked : tree.Linked) :
    tree.diagnostics = tree.contentTree.labels.flatMap NodeContent.diagnostics := by
  rw [linked.labels_contentTree, List.flatMap_map]
  rfl

/-- **Whether a tree is valid** can be told from its contents: the root is the only document. -/
theorem MarkupTree.Linked.validate_iff_documents {tree : MarkupTree} (linked : tree.Linked) :
    tree.validate = .ok () ↔ tree.contentTree.label.kind.isDocument = true
      ∧ documents tree.contentTree = [tree.contentTree.label.kind] := by
  have label_eq : tree.contentTree.label.kind = tree.kind root := by
    unfold contentTree
    rw [linked.contentTreeAt_eq linked.root_lt_size]
    rfl
  -- The walk meets the root first and never again.
  have root_once : root ∉ tree.descendants root := (List.nodup_cons.mp linked.nodup_walk).1
  have documents_eq : documents tree.contentTree =
      (if (tree.kind root).isDocument then [tree.kind root] else [])
        ++ (tree.descendants root).flatMap
          fun id => if (tree.kind id).isDocument then [tree.kind id] else [] := by
    unfold documents
    rw [linked.labels_contentTree]
    unfold walk
    rw [List.map_cons, List.flatMap_cons, List.flatMap_map]
    rfl
  rw [linked.validate_eq_ok_iff_documents, label_eq, documents_eq]
  refine and_congr_right fun root_document => ?_
  rw [if_pos root_document, List.singleton_append, List.cons_eq_cons, and_iff_right rfl,
    List.flatMap_eq_nil_iff]
  constructor
  · intro no_other id below
    exact if_neg (no_other id (List.mem_cons_of_mem _ below) fun same => root_once (same ▸ below))
  · intro no_other id met other
    have below : id ∈ tree.descendants root := (List.mem_cons.mp met).resolve_left other
    have nothing := no_other id below
    intro is_document
    rw [if_pos is_document] at nothing
    cases nothing

/-- A tree that was lowered is as valid as before, and the same is reported about it. -/
theorem MarkupTree.Linked.elaborates_of_kept {tree left : MarkupTree} (linked : tree.Linked)
    (left_linked : left.Linked) (rewritten : left.contentTree = tree.contentTree.kept) :
    tree.Elaborates left := by
  have same : left.diagnostics = tree.diagnostics := by
    rw [left_linked.diagnostics_eq, linked.diagnostics_eq, rewritten,
      flatMap_labels_kept blind_diagnostics]
  refine ⟨left_linked, ?_, same ▸ List.Sublist.refl _, [], ?_,
    List.forall_mem_nil _⟩
  · rw [left_linked.validate_iff_documents, linked.validate_iff_documents, rewritten, label_kept,
      documents_kept]
  · rw [same, List.append_nil]

/-! ## §3. Careful passes. -/

/-- The pass never fails, never asks for cancellation, and does no more to a tree than compilation
promises. -/
structure Pass.Careful (pass : Pass) : Prop where
  failure_eq : ∀ document : Document, document.tree.Linked → (pass.run document).failure = none
  asksToCancel_eq : ∀ document : Document, document.tree.Linked →
    (pass.run document).asksToCancel = false
  elaborates : ∀ document : Document, document.tree.Linked →
    document.tree.Elaborates (pass.run document).document.tree

/-- **Lowering is careful.** -/
theorem careful_splatLowering : Pass.splatLowering.Careful := by
  have outcome : ∀ document : Document, document.tree.Linked → ∃ left,
      Pass.splatLowering.run document = { document := { document with tree := left } }
        ∧ document.tree.Elaborates left := by
    intro document linked
    obtain ⟨count, left, ran, left_linked, rewritten⟩ := linked.lowerAllSplats
    exact ⟨left, Pass.splatLowering_run ran, linked.elaborates_of_kept left_linked rewritten⟩
  refine ⟨fun document linked => ?_, fun document linked => ?_, fun document linked => ?_⟩
  · obtain ⟨left, outcome_eq, -⟩ := outcome document linked
    rw [outcome_eq]
  · obtain ⟨left, outcome_eq, -⟩ := outcome document linked
    rw [outcome_eq]
  · obtain ⟨left, outcome_eq, elaborates⟩ := outcome document linked
    rw [outcome_eq]
    exact elaborates

/-- **Reporting attributes that are given twice is careful.** -/
theorem careful_duplicateReporting : Pass.duplicateReporting.Careful := by
  refine ⟨fun _ _ => rfl, fun _ _ => rfl, fun document linked => ?_⟩
  have annotates := annotates_reportDuplicates document.tree
  exact ⟨annotates.linked linked, annotates.validate_iff linked, annotates.sublist_diagnostics,
    annotates.exists_added⟩

/-! ## §4. Runs of careful passes. -/

/-- The document after a pass that may not apply to it. -/
def Pass.applyTo (pass : Pass) (document : Document) : Document :=
  if pass.applies document then (pass.run document).document else document

/-- The document after some passes. -/
def Pass.applyAll (passes : List Pass) (document : Document) : Document :=
  passes.foldl (fun document pass => pass.applyTo document) document

theorem Pass.Careful.elaborates_applyTo {pass : Pass} (careful : pass.Careful)
    {document : Document} (linked : document.tree.Linked) :
    document.tree.Elaborates (pass.applyTo document).tree := by
  unfold Pass.applyTo
  split
  · exact careful.elaborates document linked
  · exact .refl linked

/-- **A run of careful passes** does no more than one of them. -/
theorem elaborates_applyAll {passes : List Pass} (careful : ∀ pass ∈ passes, pass.Careful)
    {document : Document} (linked : document.tree.Linked) :
    document.tree.Elaborates (Pass.applyAll passes document).tree := by
  induction passes generalizing document with
  | nil => exact .refl linked
  | cons pass rest ih =>
    obtain ⟨first, others⟩ := List.forall_mem_cons.mp careful
    -- What one pass leaves is linked again, as the next one needs it.
    have once := first.elaborates_applyTo linked
    exact once.trans (ih others once.linked)

/-- A token that nobody sets stays as it is. -/
theorem Cancellation.heed_false (token : Option Cancellation) :
    token.map (·.heed false) = token := by
  cases token with
  | none => rfl
  | some token =>
    show some (token.heed false) = some token
    unfold heed
    rw [Bool.or_false]

/-- **One careful pass** lets the run go on. -/
theorem Pass.Careful.runPasses_cons {pass : Pass} (careful : pass.Careful) {document : Document}
    (linked : document.tree.Linked) {token : Option Cancellation}
    (unset : token.any (·.requested) = false) (check : Nat) (rest : List Pass) :
    Pipeline.runPasses (fun _ => false) check token document (pass :: rest) =
      Pipeline.runPasses (fun _ => false) (check + 1) token (pass.applyTo document) rest := by
  rw [Pipeline.runPasses]
  unfold Pass.applyTo
  dsimp only
  rw [Cancellation.heed_false, unset, if_neg Bool.false_ne_true]
  split
  · rw [careful.failure_eq document linked, careful.asksToCancel_eq document linked,
      Cancellation.heed_false]
  · rfl

/-- **Nothing stops a run of careful passes** but a token that is set. -/
theorem Pipeline.runPasses_of_careful {passes : List Pass}
    (careful : ∀ pass ∈ passes, pass.Careful) {document : Document}
    (linked : document.tree.Linked) {token : Option Cancellation}
    (unset : token.any (·.requested) = false) (check : Nat) :
    Pipeline.runPasses (fun _ => false) check token document passes =
      ⟨Pass.applyAll passes document, token, none⟩ := by
  induction passes generalizing document check with
  | nil => rfl
  | cons pass rest ih =>
    obtain ⟨first, others⟩ := List.forall_mem_cons.mp careful
    rw [first.runPasses_cons linked unset]
    exact ih others (first.elaborates_applyTo linked).linked (check + 1)

/-- Passes that do not apply leave the document as it is. -/
theorem Pass.applyAll_of_not_applies {passes : List Pass} {document : Document}
    (none_apply : ∀ pass ∈ passes, pass.applies document = false) :
    Pass.applyAll passes document = document := by
  induction passes with
  | nil => rfl
  | cons pass rest ih =>
    obtain ⟨first, others⟩ := List.forall_mem_cons.mp none_apply
    have skipped : pass.applyTo document = document := by
      unfold Pass.applyTo
      rw [first]
      rfl
    show Pass.applyAll rest (pass.applyTo document) = document
    rw [skipped, ih others]

/-! ## §5. The standard pipeline. -/

/-- A pass of an order that no registered one exceeds goes to the end. -/
theorem Pipeline.passes_register_of_le {pipeline : Pipeline} {pass : Pass}
    (ordered : pipeline.passes.Pairwise fun first second => first.order ≤ second.order)
    (last : ∀ other ∈ pipeline.passes, other.order ≤ pass.order) :
    (pipeline.register pass).passes = pipeline.passes ++ [pass] := by
  unfold register
  refine List.mergeSort_of_pairwise (List.pairwise_append.mpr ⟨?_, List.pairwise_singleton _ _, ?_⟩)
  · exact ordered.imp fun le => decide_eq_true le
  · intro other registered new only
    exact List.mem_singleton.mp only ▸ decide_eq_true (last other registered)

/-- **Captured attributes are lowered first**, then repeated ones are reported. -/
theorem Pipeline.passes_standard : standard.passes = [.splatLowering, .duplicateReporting] := by
  have lowering : (empty.register .splatLowering).passes = [.splatLowering] :=
    passes_register_of_le List.Pairwise.nil (List.forall_mem_nil _)
  show ((empty.register .splatLowering).register .duplicateReporting).passes = _
  rw [passes_register_of_le, lowering, List.singleton_append]
  · rw [lowering]
    exact List.pairwise_singleton _ _
  · rw [lowering]
    intro other only
    have later : Pass.splatLowering.order ≤ Pass.duplicateReporting.order := by decide
    exact List.mem_singleton.mp only ▸ later

/-- What holds of lowering and of reporting holds of every standard pass. -/
theorem Pipeline.forall_mem_standard {p : Pass → Prop} (lowering : p .splatLowering)
    (reporting : p .duplicateReporting) : ∀ pass ∈ standard.passes, p pass := by
  rw [passes_standard, List.forall_mem_cons, List.forall_mem_singleton]
  exact ⟨lowering, reporting⟩

/-- **Standard passes are careful.** -/
theorem Pipeline.careful_of_mem_standard : ∀ pass ∈ standard.passes, pass.Careful :=
  forall_mem_standard careful_splatLowering careful_duplicateReporting

/-- **Nothing stops the standard passes**, with a token that is not set or without one. -/
theorem Pipeline.runPasses_standard {document : Document} (linked : document.tree.Linked)
    {token : Option Cancellation} (unset : token.any (·.requested) = false) :
    runPasses (fun _ => false) 0 token document standard.passes =
      ⟨Pass.applyAll standard.passes document, token, none⟩ :=
  runPasses_of_careful careful_of_mem_standard linked unset 0

/-! ## §6. Compilation. -/

/-- What is made of a document that is accepted. -/
def Compilation.ofDocument (document : Document) : Compilation where
  tree := document.tree
  catalog := document.catalog
  capabilities := document.capabilities
  fileKind := document.fileKind

/-- A run that nothing stopped is accepted if it left a valid tree. -/
theorem Compiler.finish_eq_ok_iff {run : PipelineRun} (unstopped : run.failure = none)
    {compiled : Compilation} :
    finish run = .ok compiled ↔
      run.document.tree.validate = .ok () ∧ compiled = .ofDocument run.document := by
  unfold finish
  rw [unstopped]
  show (run.document.tree.validate >>= fun _ => _) = _ ↔ _
  cases run.document.tree.validate with
  | error fault =>
    constructor
    · intro accepted
      cases accepted
    · rintro ⟨valid, -⟩
      cases valid
  | ok _ =>
    show Except.ok (Compilation.ofDocument run.document) = Except.ok compiled ↔ _
    rw [Except.ok.injEq, and_iff_right rfl, eq_comm]

/-- **Compilation with the standard passes.**  Nothing stops it but a token that is set, and a
document is accepted exactly if its tree was valid to begin with.  What was reported about the tree
is still reported, in the same order; everything else is about attributes that are given twice.
If the passes for components do not run on the document, its tree is as before. -/
theorem Compiler.compile_standard (compiler : Compiler) (standard : compiler.pipeline = .standard)
    {document : Document} (reachable : Reachable document.tree) {token : Cancellation}
    (unset : token.requested = false) :
    (compiler.compileUnder token document).1 = compiler.compile document
      ∧ (compiler.pipeline.run document).failure = none
      ∧ ((∃ compiled, compiler.compile document = .ok compiled) ↔
        document.tree.validate = .ok ())
      ∧ ∀ compiled, compiler.compile document = .ok compiled →
        document.tree.diagnostics.Sublist compiled.diagnostics
          ∧ (∃ added, compiled.diagnostics.Perm (document.tree.diagnostics ++ added)
            ∧ ∀ report ∈ added, report.code.number ∈ [9985, 10007, 10008])
          ∧ (document.admitsComponentPasses = false → compiled.tree = document.tree) := by
  have linked := reachable.linked
  have elaborates := elaborates_applyAll Pipeline.careful_of_mem_standard linked
  have unset_token : (some token).any (·.requested) = false := unset
  have run_eq : compiler.pipeline.run document =
      ⟨Pass.applyAll Pipeline.standard.passes document, none, none⟩ := by
    unfold Pipeline.run
    rw [standard, Pipeline.runPasses_standard linked rfl]
  have run_under_eq : compiler.pipeline.runUnder token document =
      ⟨Pass.applyAll Pipeline.standard.passes document, some token, none⟩ := by
    unfold Pipeline.runUnder
    rw [standard, Pipeline.runPasses_standard linked unset_token]
  -- The run is never stopped, so that only the last check can refuse the document.
  have accepted : ∀ compiled, compiler.compile document = .ok compiled ↔
      document.tree.validate = .ok ()
        ∧ compiled = .ofDocument (Pass.applyAll Pipeline.standard.passes document) := by
    intro compiled
    unfold compile
    rw [run_eq, finish_eq_ok_iff rfl, elaborates.validate_iff]
  refine ⟨?_, ?_, ?_, fun compiled ran => ?_⟩
  · unfold compileUnder compile
    rw [run_under_eq, run_eq]
    rfl
  · rw [run_eq]
  · constructor
    · rintro ⟨compiled, ran⟩
      exact ((accepted compiled).mp ran).1
    · intro valid
      exact ⟨_, (accepted _).mpr ⟨valid, rfl⟩⟩
  · obtain ⟨-, same⟩ := (accepted compiled).mp ran
    subst same
    refine ⟨elaborates.sublist, elaborates.exists_added, fun excluded => ?_⟩
    show (Pass.applyAll Pipeline.standard.passes document).tree = document.tree
    rw [Pass.applyAll_of_not_applies (Pipeline.forall_mem_standard excluded excluded)]

/-- A component with an element to which an attribute is given twice. -/
def repeatedAttribute : Document :=
  .ofTree ((((MarkupTree.ofDocumentKind componentDocumentKind).appendNew root
    { kind := .markupElement "div" }).appendNew 1
    { kind := .htmlAttribute (some "id") false }).appendNew 1
    { kind := .htmlAttribute (some "ID") false }) .component .latest .empty

/-- It is accepted, and the later one is reported. -/
theorem compile_repeatedAttribute :
    ∃ compiled, Compiler.compile ⟨{}, .empty, .standard⟩ repeatedAttribute = .ok compiled
      ∧ compiled.diagnostics.map (·.code.number) = [10007] := by
  have reachable : Reachable repeatedAttribute.tree :=
    (((Reachable.fresh _).appendNew (by decide) _).appendNew (by decide) _).appendNew (by decide) _
  have codes : (Compiler.compile ⟨{}, .empty, .standard⟩ repeatedAttribute).toOption.map
      (·.diagnostics.map (·.code.number)) = some [10007] := by
    unfold Compiler.compile Pipeline.run
    rw [Pipeline.passes_standard]
    decide
  obtain ⟨-, -, accepted, -⟩ := Compiler.compile_standard ⟨{}, .empty, .standard⟩ rfl reachable
    (rfl : (Cancellation.mk false).requested = false)
  obtain ⟨compiled, ran⟩ := accepted.mpr (by decide)
  rw [ran] at codes
  exact ⟨compiled, ran, Option.some.inj codes⟩

end ComponentMarkup
