/-
  ComponentMarkup.Proofs.Links.Chains
  ────────────────────────────────
  **Chains of parents are short.**

  In a linked tree no chain of parents meets a node twice, so that none is longer than the number
  of nodes.  Hence the bounds that the library puts on the way up and on the way down are never
  reached: looking upwards finds everything that stands above a node, and every traversal obeys
  the recursion that it has without a bound.

  Main statements: `Linked.mem_upwards_iff`, `Linked.levels_suffice` and the induction from the
  children to their parent, `Linked.induction_from_children`.
-/
import ComponentMarkup.Proofs.Links.Descent
import ComponentMarkup.Proofs.Links.Linked

namespace ComponentMarkup.MarkupTree

open Relation

variable {tree : MarkupTree}

/-! ## §1. The way up. -/

theorem above_of_mem_chainUp {steps : Nat} {id upper : NodeId}
    (met : upper ∈ tree.chainUp steps id) : tree.Above upper id := by
  induction steps generalizing id with
  | zero => exact absurd met List.not_mem_nil
  | succ steps ih =>
    unfold chainUp at met
    rcases List.mem_cons.mp met with same | later
    · exact same ▸ ReflTransGen.refl
    · split at later
      · next parent recorded => exact (ih later).tail recorded
      · exact absurd later List.not_mem_nil

/-- Everything above a node of the tree is a node of the tree. -/
theorem Linked.lt_size_of_above (linked : tree.Linked) {upper lower : NodeId}
    (above : tree.Above upper lower) (known : lower < tree.size) : upper < tree.size := by
  rcases above.cases_head with same | ⟨next, first, -⟩
  · exact same ▸ known
  · exact linked.parent_lt_size first

theorem Linked.nodup_chainUp (linked : tree.Linked) (steps : Nat) (id : NodeId) :
    (tree.chainUp steps id).Nodup := by
  induction steps generalizing id with
  | zero => exact List.nodup_nil
  | succ steps ih =>
    unfold chainUp
    split
    · next parent recorded =>
      refine List.nodup_cons.mpr ⟨fun again => ?_, ih parent⟩
      exact linked.not_above_of_rightAbove recorded (above_of_mem_chainUp again)
    · exact List.nodup_singleton id

theorem Linked.length_chainUp_le (linked : tree.Linked) (steps : Nat) {id : NodeId}
    (known : id < tree.size) : (tree.chainUp steps id).length ≤ tree.size := by
  have inside : tree.chainUp steps id ⊆ List.range tree.size := by
    intro upper met
    rw [List.mem_range]
    exact linked.lt_size_of_above (above_of_mem_chainUp met) known
  -- No node twice, and all of them in the tree: there cannot be more than the tree has.
  have bound := (linked.nodup_chainUp steps id).length_le_of_subset inside
  rw [List.length_range] at bound
  exact bound

/-- A chain that ends within some steps is not longer with more steps. -/
theorem chainUp_succ_eq {steps : Nat} {id : NodeId}
    (ended : (tree.chainUp (steps + 1) id).length ≤ steps) :
    tree.chainUp (steps + 1) id = tree.chainUp steps id := by
  induction steps generalizing id with
  | zero => exact absurd ended (Nat.not_succ_le_zero _)
  | succ steps ih =>
    rw [chainUp, chainUp]
    rw [chainUp, List.length_cons] at ended
    -- The first node takes one step, so that the rest of the chain has ended one step earlier.
    cases recorded : tree.parent id with
    | none => rfl
    | some parent =>
      rw [recorded] at ended
      exact congrArg (id :: ·) (ih (Nat.le_of_succ_le_succ ended))

/-- A node without a parent has a chain of one. -/
theorem chainUp_of_parent_eq_none {steps : Nat} {id : NodeId} (top : tree.parent id = none) :
    tree.chainUp (steps + 1) id = [id] := by
  rw [chainUp, top]

/-- Looking upwards goes on until there is no parent. -/
theorem Linked.upwards_eq (linked : tree.Linked) (id : NodeId) :
    tree.upwards id = id :: match tree.parent id with
      | some parent => tree.upwards parent
      | none => [] := by
  have one_more : tree.chainUp (tree.size + 1) id = tree.chainUp tree.size id := by
    -- A chain in the tree is too short for its last step; a name from elsewhere has no parent.
    by_cases known : id < tree.size
    · exact chainUp_succ_eq (linked.length_chainUp_le _ known)
    · have top : tree.parent id = none := by
        rw [parent, node_of_size_le (Nat.le_of_not_lt known)]; rfl
      obtain ⟨others, size_eq⟩ := Nat.exists_eq_succ_of_ne_zero (Nat.ne_of_gt linked.root_lt_size)
      rw [size_eq, Nat.succ_eq_add_one, chainUp_of_parent_eq_none top,
        chainUp_of_parent_eq_none top]
  show tree.chainUp tree.size id = _
  rw [← one_more]
  rfl

/-- **Looking upwards finds exactly what stands above a node.** -/
theorem Linked.mem_upwards_iff (linked : tree.Linked) {upper id : NodeId} :
    upper ∈ tree.upwards id ↔ tree.Above upper id := by
  refine ⟨above_of_mem_chainUp, fun above => ?_⟩
  induction above with
  | refl =>
    rw [linked.upwards_eq]
    exact List.mem_cons_self
  | tail _ last ih =>
    rw [linked.upwards_eq, last]
    exact List.mem_cons_of_mem _ ih

/-! ## §2. Depth. -/

/-- The number of nodes on the way up from a node, itself included. -/
def depth (tree : MarkupTree) (id : NodeId) : Nat := (tree.upwards id).length

theorem Linked.depth_pos (linked : tree.Linked) (id : NodeId) : 0 < tree.depth id := by
  unfold depth
  rw [linked.upwards_eq]
  exact Nat.succ_pos _

theorem Linked.depth_of_rightAbove (linked : tree.Linked) {upper lower : NodeId}
    (above : tree.RightAbove upper lower) : tree.depth lower = tree.depth upper + 1 := by
  unfold depth
  rw [linked.upwards_eq lower, above]
  rfl

/-! ## §3. The way down. -/

/-- In a linked tree the way down is the way up, taken backwards. -/
theorem Linked.lists_eq (linked : tree.Linked) : tree.Lists = tree.RightAbove := by
  funext upper lower
  exact propext (linked.mem_children_iff upper lower)

theorem Linked.acyclic (linked : tree.Linked) (start : NodeId) : tree.Acyclic start where
  child_known _ listed := linked.lt_size_of_mem listed
  no_cycle := by
    intro id _ circle
    rw [linked.lists_eq] at circle
    exact linked.not_transGen_self id circle

theorem Linked.listedOnce (linked : tree.Linked) (start : NodeId) : tree.ListedOnce start where
  nodup _ := linked.nodup_children _
  lister_unique _ _ listed listed' := Option.some.inj
    ((linked.rightAbove_of_mem listed).symm.trans (linked.rightAbove_of_mem listed'))

/-- **Induction from the children to their parent.** -/
theorem Linked.induction_from_children (linked : tree.Linked) {motive : NodeId → Prop}
    (node : ∀ id, (∀ child ∈ tree.children id, motive child) → motive id) (id : NodeId) :
    motive id := by
  induction linked.acyclic id using Acyclic.induction_from_children with
  | node id _ ih => exact node id ih

/-- **A bound on the levels that is as large as the tree is never reached.**  The recursion may
be any one that asks for the results of the children only. -/
theorem Linked.levels_suffice (linked : tree.Linked) {β : Type} (result : Nat → NodeId → β)
    (combine : NodeId → (NodeId → β) → β)
    (unfolds : ∀ levels id, result (levels + 1) id = combine id (result levels))
    (local_to_children : ∀ id f g, (∀ child ∈ tree.children id, f child = g child) →
      combine id f = combine id g)
    {id : NodeId} (known : id < tree.size) :
    result tree.size id = combine id (result tree.size) :=
  (linked.acyclic id).levels_suffice known result combine unfolds local_to_children

end ComponentMarkup.MarkupTree
