/-
  ComponentMarkup.Proofs.Links.Walk
  ────────────────────────────────
  **What a walk through a reachable tree meets.**

  The walk lists every node whose chain of parents ends at the root, and no node twice.  A loop
  with a stack comes to an end with the same list.  Of all that validation looks for, only two
  faults can be found in a reachable tree: a root that is no document, and a document below it.

  Main statements: `Linked.mem_walk_iff`, `Linked.nodup_walk`, `Linked.turns_walk`,
  `listingFault?_eq_none_iff`, and all of them together for every run of edits in
  `Reachable.forest_walk_validate`.
-/
import ComponentMarkup.Proofs.Links.Edits
import ComponentMarkup.Tree.Validation
import Mathlib.Logic.Function.Iterate

namespace ComponentMarkup

open MarkupTree Relation

namespace MarkupTree

variable {tree : MarkupTree}

/-! ## §1. The nodes below a node. -/

/-- The recursion of the traversal, without a bound. -/
theorem Linked.descendants_eq (linked : tree.Linked) (id : NodeId) :
    tree.descendants id =
      (tree.children id).flatMap fun child => child :: tree.descendants child :=
  (linked.acyclic id).descendants_eq

/-- **The traversal meets exactly the nodes that the start stands above.** -/
theorem Linked.mem_descendants_iff (linked : tree.Linked) {start id : NodeId} :
    id ∈ tree.descendants start ↔ TransGen tree.RightAbove start id := by
  rw [(linked.acyclic start).mem_descendants_iff, linked.lists_eq]

theorem Linked.nodup_cons_descendants (linked : tree.Linked) (start : NodeId) :
    (start :: tree.descendants start).Nodup :=
  (linked.acyclic start).nodup_cons_descendants (linked.listedOnce start)

/-! ## §2. The walk. -/

/-- **The walk lists exactly the nodes whose chain of parents reaches the root.** -/
theorem Linked.mem_walk_iff (linked : tree.Linked) {id : NodeId} :
    id ∈ tree.walk ↔ tree.Above root id := by
  unfold walk Above
  rw [List.mem_cons, linked.mem_descendants_iff, reflTransGen_iff_eq_or_transGen]

/-- **The walk lists no node twice.** -/
theorem Linked.nodup_walk (linked : tree.Linked) : tree.walk.Nodup :=
  linked.nodup_cons_descendants root

/-- One turn of a walk with a stack: the node on top is listed, and its children take its place. -/
def turn (tree : MarkupTree) : List NodeId × List NodeId → List NodeId × List NodeId
  | (listed, []) => (listed, [])
  | (listed, top :: stack) => (listed ++ [top], tree.children top ++ stack)

/-- The turns for some nodes on the stack come one after the other. -/
theorem exists_turns_of_each {ids : List NodeId}
    (each : ∀ id ∈ ids, ∀ listed stack, ∃ turns,
      tree.turn^[turns] (listed, id :: stack) = (listed ++ id :: tree.descendants id, stack))
    (listed stack : List NodeId) :
    ∃ turns, tree.turn^[turns] (listed, ids ++ stack) =
      (listed ++ ids.flatMap (fun id => id :: tree.descendants id), stack) := by
  induction ids generalizing listed with
  | nil =>
    refine ⟨0, ?_⟩
    rw [List.flatMap_nil, List.append_nil]
    rfl
  | cons id rest ih =>
    obtain ⟨first, reached⟩ := each id List.mem_cons_self listed (rest ++ stack)
    obtain ⟨later, reached'⟩ := ih (fun other inRest => each other (List.mem_cons_of_mem _ inRest))
      (listed ++ id :: tree.descendants id)
    refine ⟨later + first, ?_⟩
    rw [Function.iterate_add_apply, List.cons_append, reached, reached', List.flatMap_cons,
      List.append_assoc]

theorem Acyclic.exists_turns {id : NodeId} (acyclic : tree.Acyclic id)
    (listed stack : List NodeId) :
    ∃ turns, tree.turn^[turns] (listed, id :: stack) =
      (listed ++ id :: tree.descendants id, stack) := by
  induction acyclic using Acyclic.induction_from_children generalizing listed stack with
  | node id acyclic ih =>
    -- One turn puts the children on the stack, and then each of them has its turns.
    obtain ⟨turns, reached⟩ := exists_turns_of_each ih (listed ++ [id]) stack
    refine ⟨turns + 1, ?_⟩
    rw [Function.iterate_succ_apply]
    show tree.turn^[turns] (listed ++ [id], tree.children id ++ stack) = _
    rw [reached, acyclic.descendants_eq, List.append_assoc]
    rfl

/-- **The loop with a stack ends**, and its list is the walk. -/
theorem Acyclic.turns_walk (acyclic : tree.Acyclic root) :
    ∃ turns, tree.turn^[turns] ([], [root]) = (tree.walk, []) :=
  acyclic.exists_turns [] []

theorem Linked.turns_walk (linked : tree.Linked) :
    ∃ turns, tree.turn^[turns] ([], [root]) = (tree.walk, []) :=
  (linked.acyclic root).turns_walk

/-! ## §3. Validation. -/

/-- **No fault is found in some listings** exactly if every child is listed for the first time, by
its recorded parent, and is no document. -/
theorem listingFault?_eq_none_iff {met : List NodeId} {listings : List (NodeId × NodeId)} :
    tree.listingFault? met listings = none ↔
      (listings.map Prod.snd).Nodup ∧ (∀ listing ∈ listings, listing.2 ∉ met)
        ∧ ∀ listing ∈ listings,
          tree.parent listing.2 = some listing.1 ∧ ¬ (tree.kind listing.2).isDocument := by
  induction listings generalizing met with
  | nil =>
    refine ⟨fun _ => ⟨List.nodup_nil, ?_, ?_⟩, fun _ => rfl⟩ <;>
      exact List.forall_mem_nil _
  | cons listing rest ih =>
    obtain ⟨id, child⟩ := listing
    unfold listingFault?
    constructor
    · intro clean
      split at clean
      · cases clean
      next first_time =>
      split at clean
      · cases clean
      next recorded =>
      split at clean
      · cases clean
      next no_document =>
      obtain ⟨nodup, fresh, good⟩ := ih.mp clean
      refine ⟨?_, List.forall_mem_cons.mpr ⟨first_time, fun other inRest => ?_⟩,
        List.forall_mem_cons.mpr ⟨⟨not_not.mp recorded, no_document⟩, good⟩⟩
      · refine List.nodup_cons.mpr ⟨fun again => ?_, nodup⟩
        obtain ⟨other, inRest, same⟩ := List.mem_map.mp again
        exact fresh other inRest (same ▸ List.mem_cons_self)
      · exact fun metBefore => fresh other inRest (List.mem_cons_of_mem _ metBefore)
    · rintro ⟨nodup, fresh, good⟩
      obtain ⟨once, nodup⟩ := List.nodup_cons.mp nodup
      obtain ⟨first_time, fresh⟩ := List.forall_mem_cons.mp fresh
      obtain ⟨⟨recorded, no_document⟩, good⟩ := List.forall_mem_cons.mp good
      rw [if_neg first_time, if_neg (not_not.mpr recorded), if_neg no_document]
      refine ih.mpr ⟨nodup, fun other inRest => ?_, good⟩
      intro metBefore
      rcases List.mem_cons.mp metBefore with same | before
      · exact once (List.mem_map.mpr ⟨other, inRest, same⟩)
      · exact fresh other inRest before

theorem mem_listings_iff {listing : NodeId × NodeId} :
    listing ∈ tree.listings ↔ listing.1 ∈ tree.walk ∧ listing.2 ∈ tree.children listing.1 := by
  obtain ⟨id, child⟩ := listing
  unfold listings
  rw [List.mem_flatMap]
  constructor
  · rintro ⟨upper, met, inMap⟩
    obtain ⟨lower, listed, same⟩ := List.mem_map.mp inMap
    cases same
    exact ⟨met, listed⟩
  · rintro ⟨met, listed⟩
    exact ⟨id, met, List.mem_map_of_mem listed⟩

theorem map_snd_listings (tree : MarkupTree) :
    tree.listings.map Prod.snd = tree.walk.flatMap tree.children := by
  unfold listings
  rw [List.map_flatMap]
  congr 1
  funext id
  rw [List.map_map]
  exact List.map_id _

theorem Acyclic.mem_walk_iff (acyclic : tree.Acyclic root) {id : NodeId} :
    id ∈ tree.walk ↔ tree.Reaches root id :=
  acyclic.mem_cons_descendants_iff

/-- No child is met twice among the listings if none is listed twice. -/
theorem Acyclic.nodup_listings (acyclic : tree.Acyclic root) (once : tree.ListedOnce root) :
    (tree.listings.map Prod.snd).Nodup := by
  rw [map_snd_listings, List.nodup_flatMap]
  refine ⟨fun id met => once.nodup (acyclic.mem_walk_iff.mp met), ?_⟩
  refine (acyclic.nodup_cons_descendants once).imp_of_mem ?_
  intro first second met met' different child listed listed'
  exact different (once.lister_unique (acyclic.mem_walk_iff.mp met) (acyclic.mem_walk_iff.mp met')
    listed listed')

/-- The attached nodes but the root are the listed ones. -/
theorem Linked.mem_walk_iff_listed (linked : tree.Linked) {child : NodeId} (below : child ≠ root) :
    child ∈ tree.walk ↔ ∃ id, (id, child) ∈ tree.listings := by
  constructor
  · intro met
    rcases (linked.mem_walk_iff.mp met).cases_tail with same | ⟨id, chain, last⟩
    · exact absurd same below
    · exact ⟨id, mem_listings_iff.mpr
        ⟨linked.mem_walk_iff.mpr chain, linked.mem_of_rightAbove last⟩⟩
  · rintro ⟨id, listing⟩
    obtain ⟨met, listed⟩ := mem_listings_iff.mp listing
    exact linked.mem_walk_iff.mpr
      ((linked.mem_walk_iff.mp met).tail (linked.rightAbove_of_mem listed))

theorem validate_eq_ok_iff : tree.validate = .ok () ↔ tree.fault? = none := by
  unfold validate
  cases tree.fault? with
  | none => exact ⟨fun _ => rfl, fun _ => rfl⟩
  | some fault =>
    constructor
    · intro accepted
      cases accepted
    · intro clean
      cases clean

/-- **Validation of a linked tree** looks at the kinds of the attached nodes and nothing else. -/
theorem Linked.validate_eq_ok_iff_documents (linked : tree.Linked) :
    tree.validate = .ok () ↔ (tree.kind root).isDocument
      ∧ ∀ id ∈ tree.walk, id ≠ root → ¬ (tree.kind id).isDocument := by
  rw [validate_eq_ok_iff]
  unfold fault?
  constructor
  · intro clean
    split at clean
    · cases clean
    next document =>
    split at clean
    · cases clean
    obtain ⟨-, -, good⟩ := listingFault?_eq_none_iff.mp clean
    refine ⟨by simpa using document, fun id met below => ?_⟩
    obtain ⟨upper, listing⟩ := (linked.mem_walk_iff_listed below).mp met
    exact (good _ listing).2
  · rintro ⟨document, no_other⟩
    -- In a linked tree only the last of the three checks of a listing can fail.
    rw [document, linked.parent_root]
    refine listingFault?_eq_none_iff.mpr
      ⟨(linked.acyclic root).nodup_listings (linked.listedOnce root), ?_, ?_⟩
    · rintro ⟨id, child⟩ listing again
      obtain ⟨-, listed⟩ := mem_listings_iff.mp listing
      exact linked.root_not_mem id (List.mem_singleton.mp again ▸ listed)
    · rintro ⟨id, child⟩ listing
      obtain ⟨-, listed⟩ := mem_listings_iff.mp listing
      have below : child ≠ root := fun same => linked.root_not_mem id (same ▸ listed)
      have met := (linked.mem_walk_iff_listed below).mpr ⟨id, listing⟩
      exact ⟨linked.rightAbove_of_mem listed, no_other child met below⟩

end MarkupTree

/-! ## §4. Every run of edits. -/

/-- **After every run of edits** the tree is a forest whose links agree in both directions; a walk
ends and lists exactly the nodes whose chain of parents reaches the root, each once; and
validation accepts the tree exactly if the root is a document and no other attached node is. -/
theorem Reachable.forest_walk_validate {tree : MarkupTree} (reachable : Reachable tree) :
    (∀ parent child, child ∈ tree.children parent ↔ tree.parent child = some parent)
      ∧ (∀ id, (tree.children id).Nodup)
      ∧ tree.parent root = none
      ∧ WellFounded tree.RightAbove
      ∧ (∃ turns, tree.turn^[turns] ([], [root]) = (tree.walk, []))
      ∧ (∀ id, id ∈ tree.walk ↔ tree.Above root id)
      ∧ tree.walk.Nodup
      ∧ (tree.validate = .ok () ↔ (tree.kind root).isDocument
        ∧ ∀ id ∈ tree.walk, id ≠ root → ¬ (tree.kind id).isDocument) := by
  have linked := reachable.linked
  exact ⟨linked.mem_children_iff, linked.nodup_children, linked.parent_root,
    linked.wellFounded_rightAbove, linked.turns_walk, fun _ => linked.mem_walk_iff,
    linked.nodup_walk, linked.validate_eq_ok_iff_documents⟩

/-- An element in a document, with another document in it. -/
def nestedDocument : MarkupTree :=
  ((MarkupTree.ofDocumentKind componentDocumentKind).appendNew root
    { kind := .markupElement "div" }).appendNew 1 { kind := .document legacyDocumentKind }

theorem reachable_nestedDocument : Reachable nestedDocument :=
  ((Reachable.fresh _).appendNew (by decide) _).appendNew (by decide) _

/-- The inner document is attached, and for that reason alone the tree is refused. -/
theorem forest_walk_validate_nestedDocument :
    2 ∈ nestedDocument.walk ∧ nestedDocument.validate ≠ .ok () := by
  obtain ⟨-, -, -, -, -, walked, -, validated⟩ :=
    Reachable.forest_walk_validate reachable_nestedDocument
  have listed : 2 ∈ nestedDocument.walk := by decide
  refine ⟨listed, fun accepted => ?_⟩
  exact (validated.mp accepted).2 2 listed (by decide) rfl

end ComponentMarkup
