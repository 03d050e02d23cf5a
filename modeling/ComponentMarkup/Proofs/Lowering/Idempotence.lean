/-
  ComponentMarkup.Proofs.Lowering.Idempotence
  ────────────────────────────────
  **When one run of the lowering pass is enough.**

  A usage moves out of the reach of its reference if it stands directly under another usage, or
  under an expression that is unwrapped because it stands directly under a usage outside a
  component.  It is then left as it is, and a second run finds it.  In every other tree the first
  run leaves no usage, and a second one changes nothing.

  Main statements: `Tangled`, the exception, `usageFree_kept_iff`, and
  `Reachable.splatLowering_idempotent_iff`.
-/
import ComponentMarkup.Proofs.Lowering.Simulation

namespace ComponentMarkup

open MarkupTree

namespace RoseTree

/-! ## §1. Usages out of reach. -/

/-- The node at the top is a usage that captures attributes. -/
def Captures (t : ContentTree) : Prop := t.label.kind.isSplatUsage = true

/-- No node is a usage that captures attributes. -/
def UsageFree (t : ContentTree) : Prop := ∀ content ∈ t.labels, content.kind.isSplatUsage = false

/-- No expression right below the top has a usage right below it. -/
def ExpressionsClear (t : ContentTree) : Prop :=
  ∀ expression ∈ t.branches, expression.label.kind = .embeddedExpression →
    ∀ inner ∈ expression.branches, ¬ Captures inner

/-- **Somewhere a usage is out of reach.** -/
inductive Tangled : ContentTree → Prop where
  /-- It stands directly under another usage. -/
  | usage {t inner : ContentTree} (captures : Captures t) (listed : inner ∈ t.branches)
      (inner_captures : Captures inner) : Tangled t
  /-- It stands under an expression directly under a usage outside a component. -/
  | expression {t usage : ContentTree} (elsewhere : t.label.kind.isComponent = false)
      (listed : usage ∈ t.branches) (captures : Captures usage)
      (unclear : ¬ ExpressionsClear usage) : Tangled t
  /-- It is further below. -/
  | deeper {t branch : ContentTree} (listed : branch ∈ t.branches) (tangled : Tangled branch) :
      Tangled t

/-- A tree without usages out of reach, one level at a time. -/
theorem not_tangled_iff {t : ContentTree} :
    ¬ Tangled t ↔ (Captures t → ∀ inner ∈ t.branches, ¬ Captures inner)
      ∧ (t.label.kind.isComponent = false →
        ∀ usage ∈ t.branches, Captures usage → ExpressionsClear usage)
      ∧ ∀ branch ∈ t.branches, ¬ Tangled branch := by
  constructor
  · intro clear
    refine ⟨fun captures inner listed inner_captures => ?_,
      fun elsewhere usage listed captures => ?_,
      fun branch listed tangled => clear (.deeper listed tangled)⟩
    · exact clear (.usage captures listed inner_captures)
    · by_contra unclear
      exact clear (.expression elsewhere listed captures unclear)
  · rintro ⟨usages, expressions, below⟩ tangled
    cases tangled with
    | usage captures listed inner_captures => exact usages captures _ listed inner_captures
    | expression elsewhere listed captures unclear =>
      exact unclear (expressions elsewhere _ listed captures)
    | deeper listed tangled => exact below _ listed tangled

/-! ## §2. What the rewrite leaves. -/

theorem usageFree_node {content : NodeContent} {branches : List ContentTree} :
    UsageFree (node content branches) ↔
      content.kind.isSplatUsage = false ∧ ∀ branch ∈ branches, UsageFree branch := by
  unfold UsageFree
  rw [labels_node, List.forall_mem_cons, List.forall_mem_flatMap]

theorem usageFree_node_map {content : NodeContent} {branches : List ContentTree}
    {rewrite : ContentTree → ContentTree} (other : content.kind.isSplatUsage = false) :
    UsageFree (node content (branches.map rewrite)) ↔
      ∀ branch ∈ branches, UsageFree (rewrite branch) := by
  rw [usageFree_node, List.forall_mem_map, and_iff_right other]

/-- What is known of the three parts of the rewrite. -/
structure LeavesTangled (t : ContentTree) : Prop where
  kept : UsageFree t.kept ↔ ¬ Captures t ∧ ¬ Tangled t
  lowered : Captures t → ∀ underComponent, UsageFree (t.lowered underComponent) ↔
    ¬ Tangled t ∧ (underComponent = false → ExpressionsClear t)
  wrapped : UsageFree t.wrapped ↔ ¬ Captures t ∧ ¬ Tangled t
    ∧ (t.label.kind = .embeddedExpression → ∀ inner ∈ t.branches, ¬ Captures inner)

section Step

variable {content : NodeContent} {branches : List ContentTree}

/-- A node that stays. -/
theorem usageFree_kept_of_branches (leaves : ∀ branch ∈ branches, LeavesTangled branch) :
    UsageFree (kept (node content branches)) ↔
      ¬ Captures (node content branches) ∧ ¬ Tangled (node content branches) := by
  -- A branch that is a usage becomes an attribute; any other one stays.
  have each : ∀ branch ∈ branches, UsageFree (branch.lowered content.kind.isComponent) ↔
      ¬ Tangled branch
        ∧ (content.kind.isComponent = false → Captures branch → ExpressionsClear branch) := by
    intro branch listed
    by_cases captures : Captures branch
    · rw [(leaves branch listed).lowered captures]
      exact ⟨fun both => ⟨both.1, fun elsewhere _ => both.2 elsewhere⟩,
        fun both => ⟨both.1, fun elsewhere => both.2 elsewhere captures⟩⟩
    · rw [lowered_of_not_usage (Bool.not_eq_true _ ▸ captures), (leaves branch listed).kept]
      exact ⟨fun both => ⟨both.2, fun _ again => absurd again captures⟩,
        fun both => ⟨captures, both.1⟩⟩
  rw [kept_node, usageFree_node, List.forall_mem_map, not_tangled_iff]
  unfold Captures
  rw [label_node, branches_node, Bool.not_eq_true]
  constructor
  · rintro ⟨other, free⟩
    refine ⟨other, fun captures => ?_, fun elsewhere usage listed => ?_, fun branch listed => ?_⟩
    · rw [other] at captures
      cases captures
    · exact ((each usage listed).mp (free usage listed)).2 elsewhere
    · exact ((each branch listed).mp (free branch listed)).1
  · rintro ⟨other, -, expressions, below⟩
    refine ⟨other, fun branch listed => (each branch listed).mpr ⟨below branch listed, ?_⟩⟩
    exact fun elsewhere => expressions elsewhere branch listed

/-- Branches that stay are free of usages if none of them is one and nothing is out of reach. -/
theorem usageFree_kept_each (leaves : ∀ branch ∈ branches, LeavesTangled branch) :
    (∀ branch ∈ branches, UsageFree branch.kept) ↔
      (∀ branch ∈ branches, ¬ Captures branch) ∧ ∀ branch ∈ branches, ¬ Tangled branch := by
  constructor
  · intro free
    exact ⟨fun branch listed => ((leaves branch listed).kept.mp (free branch listed)).1,
      fun branch listed => ((leaves branch listed).kept.mp (free branch listed)).2⟩
  · rintro ⟨others, clear⟩ branch listed
    exact (leaves branch listed).kept.mpr ⟨others branch listed, clear branch listed⟩

/-- Under a usage there is nothing more to ask than that no usage is right below it. -/
theorem not_tangled_of_no_usage (others : ∀ branch ∈ branches, ¬ Captures branch) :
    ¬ Tangled (node content branches) ↔ ∀ branch ∈ branches, ¬ Tangled branch := by
  rw [not_tangled_iff]
  refine ⟨fun all => all.2.2,
    fun below => ⟨fun _ => others, fun _ usage listed captures => ?_, below⟩⟩
  exact absurd captures (others usage listed)

/-- A usage that becomes an attribute. -/
theorem usageFree_lowered_of_branches (leaves : ∀ branch ∈ branches, LeavesTangled branch)
    (captures : Captures (node content branches)) (underComponent : Bool) :
    UsageFree (lowered underComponent (node content branches)) ↔
      ¬ Tangled (node content branches)
        ∧ (underComponent = false → ExpressionsClear (node content branches)) := by
  -- A usage right below this one would be out of reach.
  have no_usage : ¬ Tangled (node content branches) → ∀ branch ∈ branches, ¬ Captures branch :=
    fun clear => (not_tangled_iff.mp clear).1 captures
  have usage : content.kind.isSplatUsage = true := captures
  cases underComponent with
  | true =>
    rw [lowered_under_component usage, usageFree_node_map rfl, usageFree_kept_each leaves]
    constructor
    · rintro ⟨others, below⟩
      exact ⟨(not_tangled_of_no_usage others).mpr below, fun never => by cases never⟩
    · rintro ⟨clear, -⟩
      exact ⟨no_usage clear, (not_tangled_of_no_usage (no_usage clear)).mp clear⟩
  | false =>
    rw [lowered_elsewhere usage, usageFree_node_map rfl]
    constructor
    · intro free
      have parts := fun branch listed => (leaves branch listed).wrapped.mp (free branch listed)
      refine ⟨(not_tangled_of_no_usage fun branch listed => (parts branch listed).1).mpr
        fun branch listed => (parts branch listed).2.1, fun _ => ?_⟩
      exact fun expression listed => (parts expression listed).2.2
    · rintro ⟨clear, expressions⟩ branch listed
      refine (leaves branch listed).wrapped.mpr ⟨no_usage clear branch listed, ?_, ?_⟩
      · exact (not_tangled_of_no_usage (no_usage clear)).mp clear branch listed
      · exact expressions rfl branch listed

/-- A captured value. -/
theorem usageFree_wrapped_of_branches (leaves : ∀ branch ∈ branches, LeavesTangled branch) :
    UsageFree (wrapped (node content branches)) ↔
      ¬ Captures (node content branches) ∧ ¬ Tangled (node content branches)
        ∧ (content.kind = .embeddedExpression → ∀ inner ∈ branches, ¬ Captures inner) := by
  have kept_iff := @usageFree_kept_of_branches content branches leaves
  have value : ({ kind := .expressionValue } : NodeContent).kind.isSplatUsage = false := rfl
  rcases value_cases content.kind with ⟨kind, text, token⟩ | expression | ⟨not_token, not_expr⟩
  · rw [wrapped_of_token (t := node content branches) token, usageFree_node,
      and_iff_right value, List.forall_mem_singleton, kept_iff]
    refine and_congr_right fun _ => ⟨fun clear => ⟨clear, fun expression => ?_⟩, And.left⟩
    cases token.symm.trans expression
  · rw [wrapped_of_expression expression, usageFree_node_map rfl, usageFree_kept_each leaves]
    -- An expression is no usage, and its children are kept under the new value.
    have other : ¬ Captures (node content branches) := by
      unfold Captures
      rw [label_node, expression]
      exact fun never => by cases never
    constructor
    · rintro ⟨others, below⟩
      exact ⟨other, (not_tangled_of_no_usage others).mpr below, fun _ => others⟩
    · rintro ⟨-, clear, others⟩
      exact ⟨others expression, (not_tangled_of_no_usage (others expression)).mp clear⟩
  · rw [wrapped_of_other (t := node content branches) not_token not_expr, kept_iff]
    refine and_congr_right fun _ => ⟨fun clear => ⟨clear, fun expression => ?_⟩, And.left⟩
    exact absurd expression not_expr

end Step

/-- **The rewrite leaves a usage** exactly where one is out of reach, in each of its parts. -/
theorem leavesTangled (t : ContentTree) : LeavesTangled t := by
  induction t using RoseTree.induction with
  | node content branches ih =>
    exact ⟨usageFree_kept_of_branches ih, fun captures => usageFree_lowered_of_branches ih captures,
      usageFree_wrapped_of_branches ih⟩

/-- **A tree whose top is no usage is left without usages** exactly if none was out of reach. -/
theorem usageFree_kept_iff {t : ContentTree} (other : ¬ Captures t) :
    UsageFree t.kept ↔ ¬ Tangled t := by
  rw [(leavesTangled t).kept, and_iff_right other]

/-! ## §3. Trees without references. -/

/-- Some siblings have no references among and below them exactly if nothing there is wanted. -/
theorem referencesAmong_eq_nil_iff {wanted : NodeKind → Bool} {parent : NodeId}
    {siblings : List LocatedTree}
    (each : ∀ sibling ∈ siblings, sibling.referencesIn wanted = [] ↔
      ∀ branch ∈ sibling.branches, ∀ spot ∈ branch.labels, wanted spot.content.kind = false)
    (index : Nat) :
    referencesAmong wanted parent index siblings = [] ↔
      ∀ sibling ∈ siblings, ∀ spot ∈ sibling.labels, wanted spot.content.kind = false := by
  induction siblings generalizing index with
  | nil => exact ⟨fun _ => List.forall_mem_nil _, fun _ => rfl⟩
  | cons first rest ih =>
    obtain ⟨first_iff, rest_iff⟩ := List.forall_mem_cons.mp each
    have below_iff : (∀ spot ∈ first.labels, wanted spot.content.kind = false) ↔
        wanted first.kind = false ∧ first.referencesIn wanted = [] := by
      rw [first_iff]
      cases first with
      | node spot branches =>
        rw [labels_node, List.forall_mem_cons, List.forall_mem_flatMap]
        rfl
    rw [referencesAmong_cons, List.append_eq_nil_iff, List.append_eq_nil_iff, ih rest_iff,
      List.forall_mem_cons, below_iff]
    refine and_congr_left fun _ => and_congr_left fun _ => ?_
    cases wanted first.kind with
    | true =>
      constructor
      · intro none
        cases none
      · intro never
        cases never
    | false => exact ⟨fun _ => rfl, fun _ => rfl⟩

/-- There are no references exactly if nothing below the top is wanted. -/
theorem referencesIn_eq_nil_iff (wanted : NodeKind → Bool) (t : LocatedTree) :
    t.referencesIn wanted = [] ↔
      ∀ branch ∈ t.branches, ∀ spot ∈ branch.labels, wanted spot.content.kind = false := by
  induction t using RoseTree.induction with
  | node spot branches ih => exact referencesAmong_eq_nil_iff ih 0

end RoseTree

open RoseTree

/-- **A tree whose root is no usage has no references to usages** exactly if nothing in it is
one. -/
theorem MarkupTree.Linked.splatUsages_eq_nil_iff {tree : MarkupTree} (linked : tree.Linked)
    (other : ¬ Captures tree.contentTree) :
    tree.splatUsages = [] ↔ UsageFree tree.contentTree := by
  obtain ⟨t, top_eq, held⟩ := linked.exists_holds linked.root_lt_size
  have contents_eq : tree.contentTree = t.contents := by
    unfold contentTree
    rw [← held.contentTreeAt_eq linked, top_eq]
  unfold splatUsages references
  rw [← top_eq, held.referencesBelow_eq linked, referencesIn_eq_nil_iff, contents_eq]
  rw [contents_eq] at other
  cases t with
  | node spot branches =>
    rw [contents_node] at other ⊢
    rw [usageFree_node, List.forall_mem_map, branches_node,
      and_iff_right (Bool.not_eq_true _ ▸ other)]
    unfold UsageFree contents
    refine forall₂_congr fun branch _ => ?_
    rw [labels_map, List.forall_mem_map]

/-! ## §4. The pass. -/

/-- A component's root is no usage. -/
theorem Document.root_not_captures {document : Document} (linked : document.tree.Linked)
    (applies : document.admitsComponentPasses = true) : ¬ Captures document.tree.contentTree := by
  have component := (Bool.and_eq_true_iff.mp applies).1
  unfold isComponent documentKind at component
  unfold Captures contentTree
  rw [linked.contentTreeAt_eq linked.root_lt_size, label_node]
  intro captures
  change (document.tree.kind root).isSplatUsage = true at captures
  -- A component's root is a document, and no document is a usage.
  cases kind_eq : document.tree.kind root with
  | document documentKind =>
    rw [kind_eq] at captures
    cases captures
  | _ =>
    rw [kind_eq] at component
    exact absurd (show ("" == componentDocumentKind) = true from component) (by decide)

/-- Without usages there is nothing to lower. -/
theorem MarkupTree.lowerAllSplats_of_no_usages {tree : MarkupTree}
    (none_left : tree.splatUsages = []) :
    TreeEdit.lowerAllSplats tree = .ok 0 tree := by
  unfold TreeEdit.lowerAllSplats
  rw [TreeEdit.bind_get, none_left]
  rfl

/-- **The pass is idempotent exactly on the trees in which no usage is out of reach**: after one
run there is no usage left, so that a second run rewrites none and leaves the document as it is. -/
theorem Reachable.splatLowering_idempotent_iff {document : Document}
    (reachable : Reachable document.tree)
    (applies : Pass.splatLowering.applies document = true) :
    ((Pass.splatLowering.run document).document.tree.splatUsages = []
      ∧ TreeEdit.lowerAllSplats (Pass.splatLowering.run document).document.tree =
        .ok 0 (Pass.splatLowering.run document).document.tree
      ∧ (Pass.splatLowering.run (Pass.splatLowering.run document).document).document =
        (Pass.splatLowering.run document).document)
      ↔ ¬ Tangled document.tree.contentTree := by
  obtain ⟨count, left, ran, left_linked, rewritten⟩ := reachable.linked.lowerAllSplats
  have other := Document.root_not_captures reachable.linked applies
  have left_other : ¬ Captures left.contentTree := by
    unfold Captures
    rw [rewritten, label_kept]
    exact other
  have no_usages : left.splatUsages = [] ↔ ¬ Tangled document.tree.contentTree := by
    rw [left_linked.splatUsages_eq_nil_iff left_other, rewritten, usageFree_kept_iff other]
  rw [Pass.splatLowering_run ran, ← no_usages]
  refine ⟨And.left, fun none_left => ?_⟩
  have again := lowerAllSplats_of_no_usages none_left
  refine ⟨none_left, again, ?_⟩
  rw [@Pass.splatLowering_run { document with tree := left } 0 left again]

/-- A usage with a token, in a component's element. -/
def singleUsage : Document :=
  .ofTree ((((MarkupTree.ofDocumentKind componentDocumentKind).appendNew root
    { kind := .markupElement "div" }).appendNew 1 splatUsage).appendNew 2 (codeToken "first"))
    .component .latest .empty

/-- One run is enough, and so nothing was out of reach. -/
theorem splatLowering_idempotent_singleUsage :
    (Pass.splatLowering.run singleUsage).document.tree.splatUsages = []
      ∧ ¬ Tangled singleUsage.tree.contentTree := by
  have reachable : Reachable singleUsage.tree :=
    (((Reachable.fresh _).appendNew (by decide) _).appendNew (by decide) _).appendNew (by decide) _
  have none_left : (Pass.splatLowering.run singleUsage).document.tree.splatUsages = [] := by decide
  refine ⟨none_left, (Reachable.splatLowering_idempotent_iff reachable (by decide)).mp ?_⟩
  exact ⟨none_left, lowerAllSplats_of_no_usages none_left, by decide⟩

/-- A usage directly under another one, in a component's element. -/
def nestedUsages : Document :=
  .ofTree ((((MarkupTree.ofDocumentKind componentDocumentKind).appendNew root
    { kind := .markupElement "div" }).appendNew 1 splatUsage).appendNew 2 splatUsage)
    .component .latest .empty

theorem reachable_nestedUsages : Reachable nestedUsages.tree :=
  (((Reachable.fresh _).appendNew (by decide) _).appendNew (by decide) _).appendNew (by decide) _

/-- **The inner usage is left**, and a second run lowers it. -/
theorem splatLowering_leaves_nestedUsage :
    Reachable nestedUsages.tree ∧ Pass.splatLowering.applies nestedUsages = true
      ∧ (Pass.splatLowering.run nestedUsages).document.tree.splatUsages = [⟨4, 3, 0⟩]
      ∧ (Pass.splatLowering.run (Pass.splatLowering.run nestedUsages).document).document ≠
        (Pass.splatLowering.run nestedUsages).document := by
  refine ⟨reachable_nestedUsages, by decide, by decide, by decide⟩

end ComponentMarkup
