/-
  ComponentMarkup.Proofs.Links.Descent
  ────────────────────────────────
  **Ways down along the child lists.**

  Only the child lists matter on the way down from a node; what the nodes record as their parents
  does not.  A node may be listed twice, or by several nodes, and is then met as often.  What is
  needed is that the lists name nodes of the tree and go round in no circle: then every way down
  ends within as many levels as the tree has nodes, and a traversal that is bounded by that number
  obeys the recursion that it has without a bound.

  Main statements: `Acyclic.induction_on_levels`, `Acyclic.levels_suffice`,
  `Acyclic.mem_descendants_iff` and, if nothing is listed twice, `Acyclic.nodup_cons_descendants`.
-/
import ComponentMarkup.Tree.Traversal
import Mathlib.Data.List.Nodup
import Mathlib.Logic.Relation

namespace ComponentMarkup.MarkupTree

open Relation

variable {tree : MarkupTree} {start : NodeId}

/-! ## §1. Ways down. -/

/-- The first node lists the second one among its children. -/
def Lists (tree : MarkupTree) (upper lower : NodeId) : Prop := lower ∈ tree.children upper

/-- The second node is the first one, or is met on a way down from it. -/
def Reaches (tree : MarkupTree) : NodeId → NodeId → Prop := ReflTransGen tree.Lists

/-- The child lists that are met on the way down from a node name nodes of the tree, and no way
down comes back to where it was. -/
structure Acyclic (tree : MarkupTree) (start : NodeId) : Prop where
  child_known : ∀ {upper lower}, tree.Reaches start upper → tree.Lists upper lower →
    lower < tree.size
  no_cycle : ∀ {id}, tree.Reaches start id → ¬ TransGen tree.Lists id id

theorem Acyclic.of_lists (acyclic : tree.Acyclic start) {child : NodeId}
    (listed : tree.Lists start child) : tree.Acyclic child where
  child_known reached := acyclic.child_known (reached.head listed)
  no_cycle reached := acyclic.no_cycle (reached.head listed)

/-! ## §2. How far down. -/

/-- **Induction from the children to their parent**, with a number of levels that is large enough:
as many as the tree has nodes at the start, and one less on each way down. -/
theorem Acyclic.induction_on_levels {motive : Nat → NodeId → Prop} (acyclic : tree.Acyclic start)
    (known : start < tree.size)
    (node : ∀ levels id, tree.Acyclic id → (∀ child ∈ tree.children id, motive levels child) →
      motive (levels + 1) id) :
    motive tree.size start := by
  -- With the nodes that were passed on the way down, there are at least as many levels as nodes.
  have on_the_way : ∀ levels id (passed : List NodeId), tree.Acyclic id → id < tree.size →
      passed.Nodup → (∀ upper ∈ passed, upper < tree.size ∧ TransGen tree.Lists upper id) →
      tree.size ≤ levels + passed.length → motive levels id := by
    intro levels
    induction levels with
    | zero =>
      intro id passed acyclic known nodup above enough
      -- The node is a new one, so that more nodes were met than there are.
      have fresh : id ∉ passed := fun again => acyclic.no_cycle .refl (above id again).2
      have inside : id :: passed ⊆ List.range tree.size := by
        intro upper met
        rw [List.mem_range]
        rcases List.mem_cons.mp met with same | earlier
        · exact same ▸ known
        · exact (above upper earlier).1
      have bound := (List.nodup_cons.mpr ⟨fresh, nodup⟩).length_le_of_subset inside
      rw [List.length_cons, List.length_range] at bound
      omega
    | succ levels ih =>
      intro id passed acyclic known nodup above enough
      have fresh : id ∉ passed := fun again => acyclic.no_cycle .refl (above id again).2
      refine node levels id acyclic fun child listed => ?_
      refine ih child (id :: passed) (acyclic.of_lists listed) (acyclic.child_known .refl listed)
        (List.nodup_cons.mpr ⟨fresh, nodup⟩) (List.forall_mem_cons.mpr ⟨?_, ?_⟩) ?_
      · exact ⟨known, .single listed⟩
      · intro upper earlier
        exact ⟨(above upper earlier).1, (above upper earlier).2.tail listed⟩
      · rw [List.length_cons]
        omega
  exact on_the_way tree.size start [] acyclic known List.nodup_nil (List.forall_mem_nil _)
    (Nat.le_refl _)

/-- Induction from the children to their parent. -/
@[elab_as_elim]
theorem Acyclic.induction_from_children {motive : ∀ id, tree.Acyclic id → Prop}
    (node : ∀ id (acyclic : tree.Acyclic id),
      (∀ child (listed : child ∈ tree.children id), motive child (acyclic.of_lists listed)) →
        motive id acyclic)
    (acyclic : tree.Acyclic start) : motive start acyclic := by
  refine node start acyclic fun child listed => ?_
  have result : ∀ below : tree.Acyclic child, motive child below := by
    refine (acyclic.of_lists listed).induction_on_levels
      (motive := fun _ id => ∀ below : tree.Acyclic id, motive id below)
      (acyclic.child_known .refl listed) ?_
    intro _ id _ each below
    exact node id below fun child listed => each child listed (below.of_lists listed)
  exact result _

/-- **A bound on the levels that is as large as the tree is never reached.**  The recursion may
be any one that asks for the results of the children only. -/
theorem Acyclic.levels_suffice (acyclic : tree.Acyclic start) (known : start < tree.size)
    {β : Type} (result : Nat → NodeId → β) (combine : NodeId → (NodeId → β) → β)
    (unfolds : ∀ levels id, result (levels + 1) id = combine id (result levels))
    (local_to_children : ∀ id f g, (∀ child ∈ tree.children id, f child = g child) →
      combine id f = combine id g) :
    result tree.size start = combine start (result tree.size) := by
  -- Where there are enough levels, one more makes no difference.
  have one_more : result (tree.size + 1) start = result tree.size start := by
    refine acyclic.induction_on_levels
      (motive := fun levels id => result (levels + 1) id = result levels id) known ?_
    intro levels id _ same
    rw [unfolds, unfolds]
    exact local_to_children id _ _ same
  rw [← one_more, unfolds]

/-! ## §3. What is met. -/

theorem descendants_of_size_le {id : NodeId} (outside : tree.size ≤ id) :
    tree.descendants id = [] := by
  unfold descendants
  cases tree.size with
  | zero => rfl
  | succ levels =>
    rw [below, children_eq_nil_of_size_le outside]
    rfl

/-- The recursion of the traversal, without a bound. -/
theorem Acyclic.descendants_eq (acyclic : tree.Acyclic start) :
    tree.descendants start =
      (tree.children start).flatMap fun child => child :: tree.descendants child := by
  by_cases known : start < tree.size
  · refine acyclic.levels_suffice known tree.below
      (fun id result => (tree.children id).flatMap fun child => child :: result child)
      (fun _ _ => rfl) ?_
    intro id f g same
    show List.flatMap _ _ = List.flatMap _ _
    rw [List.flatMap_def, List.flatMap_def]
    congr 1
    exact List.map_congr_left fun child listed => by rw [same child listed]
  · have outside := Nat.le_of_not_lt known
    rw [descendants_of_size_le outside, children_eq_nil_of_size_le outside]
    rfl

/-- **The traversal meets exactly the nodes below the start.** -/
theorem Acyclic.mem_descendants_iff (acyclic : tree.Acyclic start) {id : NodeId} :
    id ∈ tree.descendants start ↔ TransGen tree.Lists start id := by
  induction acyclic using Acyclic.induction_from_children with
  | node start acyclic ih =>
    rw [acyclic.descendants_eq, List.mem_flatMap, TransGen.head'_iff]
    constructor
    · rintro ⟨child, listed, met⟩
      refine ⟨child, listed, ?_⟩
      rcases List.mem_cons.mp met with same | later
      · exact same ▸ .refl
      · exact ((ih child listed).mp later).to_reflTransGen
    · rintro ⟨child, listed, rest⟩
      refine ⟨child, listed, List.mem_cons.mpr ?_⟩
      rcases reflTransGen_iff_eq_or_transGen.mp rest with same | later
      · exact Or.inl same
      · exact Or.inr ((ih child listed).mpr later)

theorem Acyclic.mem_cons_descendants_iff (acyclic : tree.Acyclic start) {id : NodeId} :
    id ∈ start :: tree.descendants start ↔ tree.Reaches start id := by
  unfold Reaches
  rw [List.mem_cons, acyclic.mem_descendants_iff, reflTransGen_iff_eq_or_transGen]

/-- What is met depends on the child lists on the way down only. -/
theorem Acyclic.descendants_congr {left : MarkupTree} (acyclic : tree.Acyclic start)
    (left_acyclic : left.Acyclic start)
    (same : ∀ id, tree.Reaches start id → left.children id = tree.children id) :
    left.descendants start = tree.descendants start := by
  induction acyclic using Acyclic.induction_from_children with
  | node start acyclic ih =>
    have children_eq := same start .refl
    rw [left_acyclic.descendants_eq, acyclic.descendants_eq, children_eq, List.flatMap_def,
      List.flatMap_def]
    refine congrArg List.flatten (List.map_congr_left fun child listed => ?_)
    have left_listed : child ∈ left.children start := children_eq ▸ listed
    rw [ih child listed (left_acyclic.of_lists left_listed)
      fun id reached => same id (reached.head listed)]

/-! ## §4. Nothing listed twice. -/

/-- Below the node no list has a repetition, and no node is listed by two others. -/
structure ListedOnce (tree : MarkupTree) (start : NodeId) : Prop where
  nodup : ∀ {id}, tree.Reaches start id → (tree.children id).Nodup
  lister_unique : ∀ {first second child}, tree.Reaches start first → tree.Reaches start second →
    tree.Lists first child → tree.Lists second child → first = second

namespace ListedOnce

theorem of_lists (once : tree.ListedOnce start) {child : NodeId}
    (listed : tree.Lists start child) : tree.ListedOnce child where
  nodup reached := once.nodup (reached.head listed)
  lister_unique reached reached' := once.lister_unique (reached.head listed) (reached'.head listed)

/-- Of two nodes on the way to a third one, one is on the way to the other. -/
theorem reaches_or_reaches (once : tree.ListedOnce start) {first second lower : NodeId}
    (first_met : tree.Reaches start first) (second_met : tree.Reaches start second)
    (from_first : tree.Reaches first lower) (from_second : tree.Reaches second lower) :
    tree.Reaches first second ∨ tree.Reaches second first := by
  induction from_first with
  | refl => exact Or.inr from_second
  | @tail upper lower chain last ih =>
    -- Both ways end with the same step, since one node only lists the last one.
    rcases from_second.cases_tail with same | ⟨other, chain', last'⟩
    · exact Or.inl (same ▸ chain.tail last)
    · have same : upper = other :=
        once.lister_unique (first_met.trans chain) (second_met.trans chain') last last'
      exact ih (same ▸ chain')

/-- Different children of a node have nothing below them in common. -/
theorem eq_of_common (once : tree.ListedOnce start) (acyclic : tree.Acyclic start)
    {first second lower : NodeId} (first_listed : tree.Lists start first)
    (second_listed : tree.Lists start second) (from_first : tree.Reaches first lower)
    (from_second : tree.Reaches second lower) : first = second := by
  have one_way : ∀ {upper lower}, tree.Lists start upper → tree.Lists start lower →
      tree.Reaches upper lower → upper = lower := by
    intro upper lower upper_listed lower_listed chain
    rcases chain.cases_tail with same | ⟨between, chain', last⟩
    · exact same.symm
    · -- The step to the lower child would start at the parent, below the upper child.
      have same : between = start :=
        once.lister_unique (.head upper_listed chain') .refl last lower_listed
      exact absurd (TransGen.head' upper_listed (same ▸ chain')) (acyclic.no_cycle .refl)
  rcases once.reaches_or_reaches (.single first_listed) (.single second_listed) from_first
    from_second with chain | chain
  · exact one_way first_listed second_listed chain
  · exact (one_way second_listed first_listed chain).symm

end ListedOnce

/-- **No node is met twice** if none is listed twice. -/
theorem Acyclic.nodup_cons_descendants (acyclic : tree.Acyclic start)
    (once : tree.ListedOnce start) : (start :: tree.descendants start).Nodup := by
  induction acyclic using Acyclic.induction_from_children with
  | node start acyclic ih =>
    refine List.nodup_cons.mpr ⟨fun again => ?_, ?_⟩
    · exact acyclic.no_cycle .refl (acyclic.mem_descendants_iff.mp again)
    · rw [acyclic.descendants_eq, List.nodup_flatMap]
      refine ⟨fun child listed => ih child listed (once.of_lists listed), ?_⟩
      refine (once.nodup .refl).imp_of_mem ?_
      intro first second listed listed' different id met met'
      exact different (once.eq_of_common acyclic listed listed'
        ((acyclic.of_lists listed).mem_cons_descendants_iff.mp met)
        ((acyclic.of_lists listed').mem_cons_descendants_iff.mp met'))

end ComponentMarkup.MarkupTree
