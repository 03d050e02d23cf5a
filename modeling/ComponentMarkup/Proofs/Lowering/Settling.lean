/-
  ComponentMarkup.Proofs.Lowering.Settling
  ────────────────────────────────
  **What a run through some references does where it is.**

  `Settles` says what a list of references, gone through in order, makes of some trees, wherever
  in a larger tree they are held: what they hold becomes the given contents, the names at their
  tops stay, and nothing outside them changes.  It is known beforehand of some nodes that they
  have no children any more, so that references to what they had are skipped.

  Main statements: the rules `Settles.append`, `Settles.node` and `Settles.stale`, by which such
  facts about parts make one about the whole, and `Settles.run_one`, by which a fact is used.
-/
import ComponentMarkup.Proofs.Lowering.Step

namespace ComponentMarkup

open MarkupTree

/-! ## §1. Runs. -/

/-- Lowering usages one after the other turns the first tree into the second one. -/
def Lowers (references : List Reference) (tree left : MarkupTree) : Prop :=
  ∃ count, TreeEdit.lowerSplats references tree = .ok count left

namespace Lowers

variable {references later : List Reference} {tree between left : MarkupTree}

theorem nil (tree : MarkupTree) : Lowers [] tree tree := ⟨0, rfl⟩

/-- One usage, skipped or lowered, and then the others. -/
theorem cons {reference : Reference} {lowered : Bool}
    (first : TreeEdit.lowerSplat reference tree = .ok lowered between)
    (rest : Lowers references between left) : Lowers (reference :: references) tree left := by
  obtain ⟨count, ran⟩ := rest
  refine ⟨if lowered then count + 1 else count, ?_⟩
  unfold TreeEdit.lowerSplats
  rw [TreeEdit.bind_of_ok first, TreeEdit.bind_of_ok ran]
  rfl

/-- A stale reference makes no difference to a run. -/
theorem skip {reference : Reference} (stale : reference.node ∉ tree.children reference.parent)
    (rest : Lowers references tree left) : Lowers (reference :: references) tree left :=
  cons (TreeEdit.lowerSplat_of_stale stale) rest

theorem append (first : Lowers references tree between) (second : Lowers later between left) :
    Lowers (references ++ later) tree left := by
  induction references generalizing tree with
  | nil =>
    obtain ⟨count, ran⟩ := first
    cases ran
    exact second
  | cons reference rest ih =>
    -- The run that is given did not stop at the first reference, nor after it.
    obtain ⟨count, ran⟩ := first
    unfold TreeEdit.lowerSplats at ran
    cases start : TreeEdit.lowerSplat reference tree with
    | error fault stopped =>
      rw [TreeEdit.bind_of_error start] at ran
      cases ran
    | ok lowered next =>
      rw [TreeEdit.bind_of_ok start] at ran
      cases others : TreeEdit.lowerSplats rest next with
      | error fault stopped =>
        rw [TreeEdit.bind_of_error others] at ran
        cases ran
      | ok more after =>
        rw [TreeEdit.bind_of_ok others] at ran
        cases ran
        exact cons start (ih ⟨more, others⟩)

end Lowers

/-! ## §2. Facts about parts of a tree. -/

/-- How a tree looks after a run that was about some trees in it. -/
structure MarkupTree.Settled (tree left : MarkupTree) (befores afters : List LocatedTree)
    (results : List ContentTree) : Prop where
  linked : left.Linked
  held : ∀ t ∈ afters, left.Holds t
  tops_eq : afters.map RoseTree.top = befores.map RoseTree.top
  contents_eq : afters.map RoseTree.contents = results
  spares : tree.Spares left (befores.flatMap RoseTree.ids)
  names : ∀ id ∈ afters.flatMap RoseTree.ids, id ∈ befores.flatMap RoseTree.ids ∨ tree.size ≤ id

/-- **What the references make of some trees**, wherever these are held without sharing names, as
long as the idle nodes are without children and elsewhere. -/
def Settles (idle : List NodeId) (references : List Reference) (befores : List LocatedTree)
    (results : List ContentTree) : Prop :=
  ∀ tree : MarkupTree, tree.Linked → (∀ t ∈ befores, tree.Holds t) →
    (befores.flatMap RoseTree.ids).Nodup → (∀ id ∈ idle, tree.Retired befores id) →
    ∃ left afters, Lowers references tree left ∧ tree.Settled left befores afters results

namespace Settles

variable {idle : List NodeId} {references later : List Reference}
  {befores first rest : List LocatedTree} {results first_results rest_results : List ContentTree}

theorem nil (idle : List NodeId) : Settles idle [] [] [] := by
  intro tree linked _ _ _
  refine ⟨tree, [], .nil tree, linked, ?_, rfl, rfl, .refl tree _, ?_⟩
  · exact List.forall_mem_nil _
  · exact List.forall_mem_nil _

/-- More may be known of other nodes. -/
theorem mono {more : List NodeId} (settles : Settles idle references befores results)
    (all : ∀ id ∈ idle, id ∈ more) : Settles more references befores results := by
  intro tree linked held nodup retired
  exact settles tree linked held nodup fun id inside => retired id (all id inside)

/-- A reference to what an idle node had is skipped. -/
theorem stale {parent node : NodeId} {index : Nat} (inside : parent ∈ idle)
    (settles : Settles idle references befores results) :
    Settles idle (⟨parent, node, index⟩ :: references) befores results := by
  intro tree linked held nodup retired
  obtain ⟨left, afters, lowers, settled⟩ := settles tree linked held nodup retired
  refine ⟨left, afters, .skip ?_ lowers, settled⟩
  rw [(retired parent inside).no_children]
  exact List.not_mem_nil

/-- **One part after the other.** -/
theorem append (settles : Settles idle references first first_results)
    (settles' : Settles idle later rest rest_results) :
    Settles idle (references ++ later) (first ++ rest) (first_results ++ rest_results) := by
  intro tree linked held nodup retired
  rw [List.flatMap_append] at nodup
  obtain ⟨first_nodup, rest_nodup, disjoint⟩ := List.nodup_append.mp nodup
  obtain ⟨between, firsts, lowers, settled⟩ := settles tree linked
    (fun t listed => held t (List.mem_append_left _ listed)) first_nodup fun id inside => by
      obtain ⟨known, no_children, outside⟩ := retired id inside
      rw [List.flatMap_append] at outside
      exact ⟨known, no_children, fun here => outside (List.mem_append_left _ here)⟩
  -- What the second part needs is left alone by the first one.
  have rest_held : ∀ t ∈ rest, between.Holds t := by
    intro t listed
    refine (held t (List.mem_append_right _ listed)).of_spares settled.spares ?_
    intro id inside early
    exact disjoint id early id (List.mem_flatMap.mpr ⟨t, listed, inside⟩) rfl
  have rest_retired : ∀ id ∈ idle, between.Retired rest id := by
    intro id inside
    obtain ⟨known, no_children, outside⟩ := retired id inside
    rw [List.flatMap_append] at outside
    refine ⟨Nat.lt_of_lt_of_le known settled.spares.size_le, ?_,
      fun here => outside (List.mem_append_right _ here)⟩
    rw [settled.spares.children_eq known fun here => outside (List.mem_append_left _ here),
      no_children]
  obtain ⟨left, others, lowers', settled'⟩ :=
    settles' between settled.linked rest_held rest_nodup rest_retired
  -- What became of the first part shares no name with the second one.
  have apart : ∀ id ∈ firsts.flatMap RoseTree.ids, id ∉ rest.flatMap RoseTree.ids := by
    intro id inside late
    rcases settled.names id inside with old | new
    · exact disjoint id old id late rfl
    · obtain ⟨t, listed, there⟩ := List.mem_flatMap.mp late
      have known := (held t (List.mem_append_right _ listed)).lt_size_of_mem_ids there
      exact absurd known (Nat.not_lt_of_le new)
  refine ⟨left, firsts ++ others, lowers.append lowers', settled'.linked, ?_, ?_, ?_, ?_, ?_⟩
  · intro t listed
    rcases List.mem_append.mp listed with early | late
    · refine (settled.held t early).of_spares settled'.spares fun id inside => ?_
      exact apart id (List.mem_flatMap.mpr ⟨t, early, inside⟩)
    · exact settled'.held t late
  · rw [List.map_append, List.map_append, settled.tops_eq, settled'.tops_eq]
  · rw [List.map_append, settled.contents_eq, settled'.contents_eq]
  · rw [List.flatMap_append]
    exact settled.spares.trans settled'.spares (fun id inside _ => List.mem_append_left _ inside)
      fun id inside _ => List.mem_append_right _ inside
  · intro id inside
    rw [List.flatMap_append] at inside ⊢
    rcases List.mem_append.mp inside with early | late
    · exact (settled.names id early).imp_left (List.mem_append_left _)
    · rcases settled'.names id late with old | new
      · exact Or.inl (List.mem_append_right _ old)
      · exact Or.inr (Nat.le_trans settled.spares.size_le new)

/-- **A node over parts that settle** keeps its content. -/
theorem node {spot : Spot} {branches : List LocatedTree}
    (settles : Settles idle references branches results) :
    Settles idle references [.node spot branches] [.node spot.content results] := by
  intro tree linked held _ retired
  have top_held := held _ List.mem_cons_self
  have top_outside := top_held.top_not_mem_below linked
  obtain ⟨left, afters, lowers, settled⟩ := settles tree linked
    (fun t listed => top_held.branch listed) (top_held.nodup_below linked) fun id inside => by
      obtain ⟨known, no_children, outside⟩ := retired id inside
      rw [List.flatMap_singleton, RoseTree.ids_node] at outside
      exact ⟨known, no_children, fun here => outside (List.mem_cons_of_mem _ here)⟩
  refine ⟨left, [.node spot afters], lowers, settled.linked, ?_, rfl, ?_, ?_, ?_⟩
  · intro t listed
    rw [List.mem_singleton.mp listed]
    refine .node (Nat.lt_of_lt_of_le top_held.known settled.spares.size_le) ?_ ?_ settled.held
    · rw [settled.spares.content_eq top_held.known top_outside, top_held.content_eq]
    · rw [settled.spares.children_eq top_held.known top_outside, top_held.children_eq,
        settled.tops_eq]
  · rw [List.map_singleton, RoseTree.contents_node, settled.contents_eq]
  · refine settled.spares.mono fun id inside _ => ?_
    rw [List.flatMap_singleton, RoseTree.ids_node]
    exact List.mem_cons_of_mem _ inside
  · intro id inside
    rw [List.flatMap_singleton, RoseTree.ids_node] at inside ⊢
    rcases List.mem_cons.mp inside with same | below
    · exact Or.inl (same ▸ List.mem_cons_self)
    · exact (settled.names id below).imp_left (List.mem_cons_of_mem _)

/-- **Siblings that have moved away from an idle node**: references to themselves are skipped, and
what the references below each of them do is done. -/
theorem among {parent : NodeId} (inside : parent ∈ idle) {wanted : NodeKind → Bool}
    {values wraps : List LocatedTree} {result : LocatedTree → ContentTree}
    (each : List.Forall₂ (fun value wrap =>
      Settles idle (RoseTree.referencesIn wanted value) [wrap] [result value]) values wraps)
    (index : Nat) :
    Settles idle (RoseTree.referencesAmong wanted parent index values) wraps
      (values.map result) := by
  induction each generalizing index with
  | nil => exact nil idle
  | @cons value wrap values wraps first _ ih =>
    rw [RoseTree.referencesAmong_cons]
    show Settles idle _ ([wrap] ++ wraps) ([result value] ++ values.map result)
    refine append ?_ (ih (index + 1))
    cases wanted value.kind with
    | true => exact stale inside first
    | false => exact first

/-- How a tree looks after a run that was about one tree in it. -/
structure One (tree left : MarkupTree) (before after : LocatedTree) (result : ContentTree) :
    Prop where
  linked : left.Linked
  held : left.Holds after
  top_eq : after.top = before.top
  contents_eq : after.contents = result
  spares : tree.Spares left before.ids
  names : ∀ id ∈ after.ids, id ∈ before.ids ∨ tree.size ≤ id

/-- **A run that is about one tree** ends with one tree in its place. -/
theorem run_one {t : LocatedTree} {result : ContentTree}
    (settles : Settles idle references [t] [result]) {tree : MarkupTree} (linked : tree.Linked)
    (held : tree.Holds t) (retired : ∀ id ∈ idle, tree.Retired [t] id) :
    ∃ left after, Lowers references tree left ∧ One tree left t after result := by
  have only_held : ∀ other ∈ [t], tree.Holds other := by
    intro other only
    exact List.mem_singleton.mp only ▸ held
  have nodup : ([t].flatMap RoseTree.ids).Nodup := by
    rw [List.flatMap_singleton]
    exact held.nodup_ids linked
  obtain ⟨left, afters, lowers, settled⟩ := settles tree linked only_held nodup retired
  obtain ⟨after, only, contents_eq⟩ := List.map_eq_singleton_iff.mp settled.contents_eq
  subst only
  obtain ⟨left_linked, after_held, tops_eq, -, spares, names⟩ := settled
  rw [List.map_singleton, List.map_singleton] at tops_eq
  rw [List.flatMap_singleton] at spares
  rw [List.flatMap_singleton, List.flatMap_singleton] at names
  exact ⟨left, after, lowers, left_linked, after_held after List.mem_cons_self,
    List.head_eq_of_cons_eq tops_eq, contents_eq, spares, names⟩

end Settles

end ComponentMarkup
