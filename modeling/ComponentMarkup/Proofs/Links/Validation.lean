/-
  ComponentMarkup.Proofs.Links.Validation
  ────────────────────────────────
  **What validation decides, for trees of any making.**

  Edits keep the links of a tree in step, but validation does not rely on it: parents may be
  recorded in any way, and a node may be listed twice or by several nodes.  The walk then meets
  such a node more than once, and with it all that is below.  It is enough that no way down from
  the root goes round in a circle, since otherwise there is no walk.

  Main statement: `Acyclic.validate_decides`, by which such a tree is accepted exactly if it is
  `WellFormed`.
-/
import ComponentMarkup.Proofs.Links.Walk

namespace ComponentMarkup

open MarkupTree Relation

namespace MarkupTree

variable {tree : MarkupTree}

/-! ## §1. Well-formed trees. -/

/-- The node stands at a place, given by a node and an index among its children, that is met on
the way down from the root. -/
def ListedAt (tree : MarkupTree) (child : NodeId) (place : NodeId × Nat) : Prop :=
  tree.Reaches root place.1 ∧ (tree.children place.1)[place.2]? = some child

/-- The root is a document without a parent; and what is listed below it is listed at one place
only, by the node that it names as its parent, and is neither the root nor a document. -/
structure WellFormed (tree : MarkupTree) : Prop where
  root_document : (tree.kind root).isDocument
  root_top : tree.parent root = none
  listed_once : ∀ {id child}, tree.Reaches root id → tree.Lists id child →
    ∃! place, tree.ListedAt child place
  not_root : ∀ {id child}, tree.Reaches root id → tree.Lists id child → child ≠ root
  lister_recorded : ∀ {id child}, tree.Reaches root id → tree.Lists id child →
    tree.parent child = some id
  no_document : ∀ {id child}, tree.Reaches root id → tree.Lists id child →
    ¬ (tree.kind child).isDocument

/-- The listing of a node that is met on the way down. -/
theorem exists_listedAt {id child : NodeId} (reached : tree.Reaches root id)
    (listed : tree.Lists id child) : ∃ index, tree.ListedAt child (id, index) := by
  obtain ⟨index, inside, here⟩ := List.getElem_of_mem listed
  exact ⟨index, reached, List.getElem?_eq_some_iff.mpr ⟨inside, here⟩⟩

theorem WellFormed.listedOnce (wellFormed : tree.WellFormed) : tree.ListedOnce root where
  nodup := by
    intro id reached
    rw [List.nodup_iff_getElem?_ne_getElem?]
    intro first second earlier inside same
    -- One node at two places of the list would be listed at two places.
    have here : (tree.children id)[second]? = some (tree.children id)[second] :=
      List.getElem?_eq_getElem inside
    obtain ⟨place, -, only⟩ := wellFormed.listed_once reached (List.getElem_mem inside)
    have first_place := only (id, first) ⟨reached, same.trans here⟩
    have second_place := only (id, second) ⟨reached, here⟩
    have index_eq : first = second := congrArg Prod.snd (first_place.trans second_place.symm)
    omega
  lister_unique := by
    intro first second child first_met second_met listed listed'
    have recorded := wellFormed.lister_recorded first_met listed
    rw [wellFormed.lister_recorded second_met listed'] at recorded
    exact (Option.some.inj recorded).symm

/-! ## §2. What validation finds. -/

namespace Acyclic

theorem mem_listings_iff_reaches (acyclic : tree.Acyclic root) {id child : NodeId} :
    (id, child) ∈ tree.listings ↔ tree.Reaches root id ∧ tree.Lists id child := by
  rw [mem_listings_iff, acyclic.mem_walk_iff]
  rfl

theorem wellFormed_of_validate (acyclic : tree.Acyclic root) (accepted : tree.validate = .ok ()) :
    tree.WellFormed := by
  rw [validate_eq_ok_iff] at accepted
  unfold fault? at accepted
  split at accepted
  · cases accepted
  next document =>
  split at accepted
  · cases accepted
  next top =>
  obtain ⟨nodup, fresh, good⟩ := listingFault?_eq_none_iff.mp accepted
  have met : ∀ {id child}, tree.Reaches root id → tree.Lists id child →
      (id, child) ∈ tree.listings := fun reached listed =>
    acyclic.mem_listings_iff_reaches.mpr ⟨reached, listed⟩
  refine ⟨by simpa using document, by simpa using top, ?_, ?_, ?_, ?_⟩
  · intro id child reached listed
    obtain ⟨index, stands⟩ := exists_listedAt reached listed
    refine ⟨(id, index), stands, ?_⟩
    rintro ⟨other, place⟩ ⟨other_reached, there⟩
    -- The recorded parent is the only lister, and its list has no repetition.
    have recorded := (good _ (met other_reached (List.mem_of_getElem? there))).1
    rw [(good _ (met reached listed)).1] at recorded
    have same : id = other := Option.some.inj recorded
    subst same
    rw [map_snd_listings, List.nodup_flatMap] at nodup
    have once := nodup.1 id (acyclic.mem_walk_iff.mpr reached)
    obtain ⟨inside, -⟩ := List.getElem?_eq_some_iff.mp there
    have index_eq : place = index :=
      (List.getElem?_inj inside once).mp (there.trans stands.2.symm)
    rw [index_eq]
  · intro id child reached listed same
    exact fresh _ (met reached listed) (List.mem_singleton.mpr same)
  · intro id child reached listed
    exact (good _ (met reached listed)).1
  · intro id child reached listed
    exact (good _ (met reached listed)).2

theorem validate_of_wellFormed (acyclic : tree.Acyclic root) (wellFormed : tree.WellFormed) :
    tree.validate = .ok () := by
  rw [validate_eq_ok_iff]
  unfold fault?
  rw [wellFormed.root_document, wellFormed.root_top]
  refine listingFault?_eq_none_iff.mpr ⟨acyclic.nodup_listings wellFormed.listedOnce, ?_, ?_⟩
  · rintro ⟨id, child⟩ listing again
    obtain ⟨reached, listed⟩ := acyclic.mem_listings_iff_reaches.mp listing
    exact wellFormed.not_root reached listed (List.mem_singleton.mp again)
  · rintro ⟨id, child⟩ listing
    obtain ⟨reached, listed⟩ := acyclic.mem_listings_iff_reaches.mp listing
    exact ⟨wellFormed.lister_recorded reached listed, wellFormed.no_document reached listed⟩

/-- **Validation decides whether a tree is well-formed**, whatever the parents say and however
often a node is listed: if no way down from the root goes round in a circle, the walk that looks
for faults comes to an end, and none is found exactly if the tree is well-formed. -/
theorem validate_decides (acyclic : tree.Acyclic root) :
    (∃ turns, tree.turn^[turns] ([], [root]) = (tree.walk, []))
      ∧ (tree.validate = .ok () ↔ tree.WellFormed) :=
  ⟨acyclic.turns_walk, acyclic.wellFormed_of_validate, acyclic.validate_of_wellFormed⟩

end Acyclic

end MarkupTree

/-- An element in a document, and two detached expressions that list each other; one of them lists
the element as well. -/
def strayLinks : MarkupTree :=
  ⟨[{ content := { kind := .document componentDocumentKind }, children := [1] },
    { content := { kind := .markupElement "div" }, parent := some root },
    { content := { kind := .embeddedExpression }, parent := some 3, children := [3] },
    { content := { kind := .embeddedExpression }, parent := some 2, children := [2, 1] }]⟩

theorem acyclic_strayLinks : strayLinks.Acyclic root := by
  -- There is one step on the way down, from the root to the element.
  have step : ∀ {upper lower}, strayLinks.Reaches root upper → strayLinks.Lists upper lower →
      upper = root ∧ lower = 1 := by
    intro upper lower way
    induction way generalizing lower with
    | refl => exact fun listed => ⟨rfl, List.mem_singleton.mp listed⟩
    | tail _ last ih =>
      intro listed
      rw [(ih last).2] at listed
      exact absurd listed List.not_mem_nil
  refine ⟨fun way listed => ?_, fun way circle => ?_⟩
  · rw [(step way listed).2]
    decide
  · obtain ⟨upper, back, last⟩ := TransGen.tail'_iff.mp circle
    rw [(step (way.trans back) last).2] at circle
    obtain ⟨child, listed, -⟩ := TransGen.head'_iff.mp circle
    exact absurd listed List.not_mem_nil

/-- The detached nodes do not matter: the tree is well-formed although its links do not fit
together. -/
theorem validate_decides_strayLinks : strayLinks.WellFormed ∧ ¬ strayLinks.Linked := by
  refine ⟨(Acyclic.validate_decides acyclic_strayLinks).2.mp (by rfl), fun linked => ?_⟩
  have recorded := (linked.mem_children_iff 3 1).mp (by decide)
  exact absurd recorded (by decide)

end ComponentMarkup
