/-
  ComponentMarkup.Proofs.Links.Resolution
  ────────────────────────────────
  **Where a reference finds its node.**

  A reference is live exactly if its recorded parent lists its node.  In a linked tree no node is
  listed twice, so that the place where the node stands is the only one at which it can be found,
  and the place that the reference remembers does not matter.

  Main statements: `Reference.isLive_iff`, `Linked.presentIndex?_eq_some_iff`,
  `Linked.presentIndex?_eq_indexOf?` and `Reachable.references_resolve`.
-/
import ComponentMarkup.Proofs.Links.Edits

namespace ComponentMarkup

open MarkupTree

/-! ## §1. Live references. -/

/-- **A reference is live** exactly if its node is a child of the recorded parent. -/
theorem Reference.isLive_iff {reference : Reference} {tree : MarkupTree} :
    reference.isLive tree = true ↔ reference.node ∈ tree.children reference.parent := by
  unfold isLive
  rw [Option.isSome_iff_exists]
  constructor
  · rintro ⟨index, present⟩
    exact List.mem_of_getElem? (getElem?_of_presentIndex? present)
  · intro listed
    -- If the node has left the recorded place, it is looked up among the children.
    unfold presentIndex?
    split
    · exact ⟨reference.index, rfl⟩
    · rw [← Option.isSome_iff_exists]
      exact List.isSome_idxOf?.mpr listed

theorem Reference.isLive_of_present {reference : Reference} {tree : MarkupTree} {index : Nat}
    (present : reference.presentIndex? tree = some index) : reference.isLive tree := by
  unfold Reference.isLive
  rw [present]
  rfl

theorem Reference.not_isLive_of_missing {reference : Reference} {tree : MarkupTree}
    (missing : reference.presentIndex? tree = none) : ¬ reference.isLive tree := by
  unfold Reference.isLive
  rw [missing]
  decide

/-! ## §2. The place where a node stands. -/

/-- In a list without repetitions a node is found wherever it stands. -/
theorem idxOf?_eq_some_iff_of_nodup {ids : List NodeId} (nodup : ids.Nodup) {id : NodeId}
    {index : Nat} : ids.idxOf? id = some index ↔ ids[index]? = some id := by
  rw [List.idxOf?_eq_some_iff, List.getElem?_eq_some_iff]
  constructor
  · rintro ⟨inside, here, -⟩
    exact ⟨inside, here⟩
  · rintro ⟨inside, here⟩
    refine ⟨inside, here, fun other earlier same => ?_⟩
    have index_eq : other = index := nodup.getElem_inj_iff.mp (same.trans here.symm)
    omega

namespace MarkupTree

variable {tree : MarkupTree}

theorem Linked.indexOf?_eq_some_iff (linked : tree.Linked) {parent child : NodeId} {index : Nat} :
    tree.indexOf? parent child = some index ↔ (tree.children parent)[index]? = some child :=
  idxOf?_eq_some_iff_of_nodup (linked.nodup_children parent)

/-- **The present place of a reference's node** is the one where it stands, whatever place the
reference remembers. -/
theorem Linked.presentIndex?_eq_some_iff (linked : tree.Linked) {reference : Reference}
    {index : Nat} : reference.presentIndex? tree = some index ↔
      (tree.children reference.parent)[index]? = some reference.node := by
  refine ⟨getElem?_of_presentIndex?, fun stands => ?_⟩
  unfold Reference.presentIndex?
  split
  · next remembered =>
    obtain ⟨inside, -⟩ := List.getElem?_eq_some_iff.mp remembered
    exact congrArg some ((List.getElem?_inj inside (linked.nodup_children _)).mp
      (remembered.trans stands.symm))
  · exact linked.indexOf?_eq_some_iff.mpr stands

/-- **The remembered place does not matter**: the way through it ends where the search does. -/
theorem Linked.presentIndex?_eq_indexOf? (linked : tree.Linked) (reference : Reference) :
    reference.presentIndex? tree = tree.indexOf? reference.parent reference.node := by
  apply Option.ext
  intro index
  rw [linked.presentIndex?_eq_some_iff, linked.indexOf?_eq_some_iff]

/-- A reference is live exactly if its node names the recorded parent. -/
theorem Linked.isLive_iff_parent (linked : tree.Linked) {reference : Reference} :
    reference.isLive tree = true ↔ tree.parent reference.node = some reference.parent := by
  rw [Reference.isLive_iff, linked.mem_children_iff]

/-! ## §3. References to nodes. -/

/-- **The reference to a node** names its parent and the place where it stands. -/
theorem Linked.reference?_eq_some_iff (linked : tree.Linked) {id : NodeId}
    {reference : Reference} : tree.reference? id = some reference ↔
      reference.node = id ∧ tree.parent id = some reference.parent
        ∧ reference.presentIndex? tree = some reference.index := by
  obtain ⟨upper, node, place⟩ := reference
  rw [linked.presentIndex?_eq_indexOf?]
  simp only [reference?, Option.bind_eq_bind, Option.bind_eq_some_iff, Option.pure_def,
    Option.some.injEq, Reference.mk.injEq]
  constructor
  · rintro ⟨parent, named, index, found, rfl, rfl, rfl⟩
    exact ⟨rfl, named, found⟩
  · rintro ⟨rfl, named, found⟩
    exact ⟨upper, named, place, found, rfl, rfl, rfl⟩

/-- A node has a reference exactly if it has a parent. -/
theorem Linked.isSome_reference?_iff (linked : tree.Linked) {id : NodeId} :
    (tree.reference? id).isSome = true ↔ (tree.parent id).isSome = true := by
  rw [Option.isSome_iff_exists, Option.isSome_iff_exists]
  constructor
  · rintro ⟨reference, found⟩
    exact ⟨reference.parent, (linked.reference?_eq_some_iff.mp found).2.1⟩
  · rintro ⟨parent, named⟩
    -- The parent lists the node, so the node stands somewhere among its children.
    obtain ⟨index, stands⟩ := List.mem_iff_getElem?.mp (linked.mem_of_rightAbove named)
    exact ⟨⟨parent, id, index⟩, linked.reference?_eq_some_iff.mpr
      ⟨rfl, named, linked.presentIndex?_eq_some_iff.mpr stands⟩⟩

end MarkupTree

/-- **Where references lead after every run of edits.**  Whatever place a reference remembers, its
node is looked up among the children of the recorded parent, and is found there exactly if it names
that parent.  A node has a reference exactly if it has a parent, and this reference is live and
remembers the right place. -/
theorem Reachable.references_resolve {tree : MarkupTree} (reachable : Reachable tree) :
    (∀ reference : Reference,
        reference.presentIndex? tree = tree.indexOf? reference.parent reference.node
          ∧ ((reference.presentIndex? tree).isSome = true
            ↔ tree.parent reference.node = some reference.parent))
      ∧ ∀ id, ((tree.reference? id).isSome = true ↔ (tree.parent id).isSome = true)
        ∧ ∀ reference, tree.reference? id = some reference →
          reference.node = id ∧ reference.isLive tree = true
            ∧ reference.presentIndex? tree = some reference.index := by
  have linked := reachable.linked
  refine ⟨fun reference => ?_, fun id => ⟨linked.isSome_reference?_iff, fun reference found => ?_⟩⟩
  · exact ⟨linked.presentIndex?_eq_indexOf? reference, linked.isLive_iff_parent⟩
  · obtain ⟨rfl, named, place⟩ := linked.reference?_eq_some_iff.mp found
    exact ⟨rfl, linked.isLive_iff_parent.mpr named, place⟩

/-- The second of two expressions in a document, after the first one has been removed. -/
def remainingExpression : MarkupTree :=
  (⟨root, 1, 0⟩ : Reference).remove.after
    (((MarkupTree.ofDocumentKind componentDocumentKind).appendNew root
      { kind := .embeddedExpression }).appendNew root { kind := .embeddedExpression })

theorem reachable_remainingExpression : Reachable remainingExpression :=
  (((Reachable.fresh _).appendNew (by decide) _).appendNew (by decide) _).step
    (.remove ⟨root, 1, 0⟩) (by decide)

/-- The expression that is left has moved up to a place that no reference remembers, and the one
that was removed is not found at the place where the other one stands now. -/
theorem references_resolve_remainingExpression :
    (⟨root, 2, 1⟩ : Reference).presentIndex? remainingExpression = some 0
      ∧ (⟨root, 1, 0⟩ : Reference).presentIndex? remainingExpression = none
      ∧ (remainingExpression.reference? 2).isSome = true := by
  obtain ⟨resolves, references⟩ := Reachable.references_resolve reachable_remainingExpression
  exact ⟨(resolves ⟨root, 2, 1⟩).1.trans rfl, (resolves ⟨root, 1, 0⟩).1.trans rfl,
    (references 2).1.mpr rfl⟩

end ComponentMarkup
