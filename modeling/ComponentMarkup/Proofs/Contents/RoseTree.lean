/-
  ComponentMarkup.Proofs.Contents.RoseTree
  ────────────────────────────────
  **Trees with any number of branches.**

  A rose tree is a label with a list of branches.  What a document says, apart from the names of
  its nodes, is a rose tree of contents.

  Main statements: `RoseTree.induction`, and for each recursion here the equation that states it
  with the operations of lists.
-/
import Mathlib.Data.List.Basic

namespace ComponentMarkup

/-- A label with branches in order. -/
inductive RoseTree (α : Type) where
  | node (label : α) (branches : List (RoseTree α))

namespace RoseTree

variable {α β : Type}

/-- The label at the top. -/
def label : RoseTree α → α
  | .node label _ => label

/-- What stands right below the top. -/
def branches : RoseTree α → List (RoseTree α)
  | .node _ branches => branches

@[simp] theorem label_node (label : α) (branches : List (RoseTree α)) :
    (node label branches).label = label := rfl

@[simp] theorem branches_node (label : α) (branches : List (RoseTree α)) :
    (node label branches).branches = branches := rfl

/-- **Induction from all branches to the tree.** -/
@[elab_as_elim]
theorem induction {motive : RoseTree α → Prop}
    (node : ∀ label branches, (∀ branch ∈ branches, motive branch) → motive (.node label branches))
    (t : RoseTree α) : motive t :=
  t.rec (motive_2 := fun branches => ∀ branch ∈ branches, motive branch)
    node (List.forall_mem_nil _)
    fun _ _ first rest => List.forall_mem_cons.mpr ⟨first, rest⟩

/-! ## §1. Other labels. -/

mutual

/-- The tree with every label changed. -/
def map (f : α → β) : RoseTree α → RoseTree β
  | .node label branches => .node (f label) (mapEach f branches)

/-- Trees with every label changed. -/
def mapEach (f : α → β) : List (RoseTree α) → List (RoseTree β)
  | [] => []
  | first :: rest => first.map f :: mapEach f rest

end

theorem mapEach_eq_map (f : α → β) (trees : List (RoseTree α)) :
    mapEach f trees = trees.map (map f) := by
  induction trees with
  | nil => rfl
  | cons first rest ih =>
    show first.map f :: mapEach f rest = _
    rw [ih, List.map_cons]

@[simp] theorem map_node (f : α → β) (label : α) (branches : List (RoseTree α)) :
    (node label branches).map f = node (f label) (branches.map (map f)) := by
  show node (f label) (mapEach f branches) = _
  rw [mapEach_eq_map]

@[simp] theorem label_map (f : α → β) (t : RoseTree α) : (t.map f).label = f t.label := by
  cases t with
  | node label branches => rfl

/-! ## §2. All labels. -/

mutual

/-- All labels, those above before those below. -/
def labels : RoseTree α → List α
  | .node label branches => label :: labelsOfEach branches

/-- All labels of some trees, one tree after the other. -/
def labelsOfEach : List (RoseTree α) → List α
  | [] => []
  | first :: rest => first.labels ++ labelsOfEach rest

end

theorem labelsOfEach_eq_flatMap (trees : List (RoseTree α)) :
    labelsOfEach trees = trees.flatMap labels := by
  induction trees with
  | nil => rfl
  | cons first rest ih =>
    show first.labels ++ labelsOfEach rest = _
    rw [ih, List.flatMap_cons]

@[simp] theorem labels_node (label : α) (branches : List (RoseTree α)) :
    (node label branches).labels = label :: branches.flatMap labels := by
  show label :: labelsOfEach branches = _
  rw [labelsOfEach_eq_flatMap]

theorem label_mem_labels (t : RoseTree α) : t.label ∈ t.labels := by
  cases t with
  | node label branches =>
    rw [labels_node]
    exact List.mem_cons_self

theorem labels_map (f : α → β) (t : RoseTree α) : (t.map f).labels = t.labels.map f := by
  induction t using RoseTree.induction with
  | node label branches ih =>
    rw [map_node, labels_node, labels_node, List.map_cons, List.flatMap_map, List.map_flatMap]
    congr 1
    rw [List.flatMap_def, List.flatMap_def]
    exact congrArg List.flatten (List.map_congr_left ih)

end RoseTree

end ComponentMarkup
