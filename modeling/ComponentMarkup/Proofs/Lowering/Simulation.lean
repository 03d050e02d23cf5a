/-
  ComponentMarkup.Proofs.Lowering.Simulation
  ────────────────────────────────
  **Lowering is the rewrite of contents.**

  The references are collected once, before anything is lowered.  By the time that a reference has
  its turn, its usage may have moved with what an earlier usage captured; the reference is then
  skipped, and the usage stays as it is.  What the rewrite says of every place in a tree is proved
  for the run of the references from there, by induction on what is held there.

  Main statements: `Obeys.of_branches`, the step of that induction, and
  `Reachable.lowerAllSplats_contentTree`.
-/
import ComponentMarkup.Pipeline.Standard
import ComponentMarkup.Proofs.Lowering.Settling

namespace ComponentMarkup

open MarkupTree

namespace RoseTree

@[simp] theorem label_contents (t : LocatedTree) : t.contents.label = t.label.content :=
  label_map Spot.content t

/-- The tops of the expressions among some values. -/
def expressionTops (values : List LocatedTree) : List NodeId :=
  (values.filter fun value => decide (value.kind = .embeddedExpression)).map top

theorem mem_expressionTops {values : List LocatedTree} {id : NodeId} :
    id ∈ expressionTops values ↔
      ∃ value ∈ values, value.kind = .embeddedExpression ∧ value.top = id := by
  unfold expressionTops
  rw [List.mem_map]
  constructor
  · rintro ⟨value, kept, same⟩
    obtain ⟨listed, expression⟩ := List.mem_filter.mp kept
    exact ⟨value, listed, of_decide_eq_true expression, same⟩
  · rintro ⟨value, listed, expression, same⟩
    exact ⟨value, List.mem_filter.mpr ⟨listed, decide_eq_true expression⟩, same⟩

end RoseTree

open RoseTree

/-- The references to the usages that capture attributes. -/
abbrev splatReferences (t : LocatedTree) : List Reference :=
  t.referencesIn NodeKind.isSplatUsage

/-! ## §1. What is proved of every place. -/

/-- The references below a node do what the rewrite says: where the node stays, where its children
have moved away from it as they are, and where they have moved away as captured values. -/
structure Obeys (t : LocatedTree) : Prop where
  stays : Settles [] (splatReferences t) [t] [t.contents.kept]
  moves : Settles [t.top] (splatReferences t) t.branches
    (t.branches.map fun branch => branch.contents.kept)
  wraps : ∀ wraps, List.Forall₂ Wraps t.branches wraps →
    Settles (t.top :: expressionTops t.branches) (splatReferences t) wraps
      (t.branches.map fun branch => branch.contents.wrapped)

/-- One captured value in its new shape. -/
theorem Obeys.wrapped {value wrap : LocatedTree} (obeys : Obeys value) (shape : Wraps value wrap)
    {idle : List NodeId}
    (emptied : value.kind = .embeddedExpression → value.top ∈ idle) :
    Settles idle (splatReferences value) [wrap] [value.contents.wrapped] := by
  cases shape with
  -- The token keeps its children, so that the references below it are live.
  | token id token =>
    rw [wrapped_of_token (by rw [label_contents]; exact token)]
    exact (obeys.stays.mono (List.forall_mem_nil _)).node
  -- The children of the expression are under the new value, and references to them are not live.
  | @expression spot branches id expression =>
    rw [contents_node, wrapped_of_expression expression, List.map_map]
    refine (obeys.moves.mono fun other listed => ?_).node
    exact List.mem_singleton.mp listed ▸ emptied expression
  | other not_token not_expression =>
    rw [wrapped_of_other]
    · exact obeys.stays.mono (List.forall_mem_nil _)
    · rw [label_contents]
      exact not_token
    · rw [label_contents]
      exact not_expression

section Branches

variable {spot : Spot} {branches : List LocatedTree}

/-- The children have moved as they are. -/
theorem moves_of_branches (obey : ∀ branch ∈ branches, Obeys branch) :
    Settles [spot.id] (splatReferences (.node spot branches)) branches
      (branches.map fun branch => branch.contents.kept) := by
  refine Settles.among List.mem_cons_self ?_ 0
  rw [List.forall₂_same]
  intro branch listed
  exact (obey branch listed).stays.mono (List.forall_mem_nil _)

/-- The children have moved as captured values. -/
theorem wraps_of_branches (obey : ∀ branch ∈ branches, Obeys branch) {wraps : List LocatedTree}
    (shapes : List.Forall₂ Wraps branches wraps) :
    Settles (spot.id :: expressionTops branches) (splatReferences (.node spot branches)) wraps
      (branches.map fun branch => branch.contents.wrapped) := by
  refine Settles.among List.mem_cons_self ?_ 0
  -- Every captured value brings its own part of the induction hypothesis.
  have listed_shapes : List.Forall₂ (fun value wrap => value ∈ branches ∧ Wraps value wrap)
      branches wraps := (List.forall₂_and_left ..).mpr ⟨fun _ listed => listed, shapes⟩
  refine listed_shapes.imp ?_
  rintro value wrap ⟨listed, shape⟩
  refine (obey value listed).wrapped shape fun expression => List.mem_cons_of_mem _ ?_
  exact mem_expressionTops.mpr ⟨value, listed, expression, rfl⟩

end Branches

/-- What took the place of a usage, once it is there. -/
theorem Obeys.rebuilt {usage replacement : LocatedTree} (obeys : Obeys usage)
    (captures : usage.kind.isSplatUsage = true) {underComponent : Bool}
    (shape : Rebuilt underComponent usage replacement) :
    Settles (usage.top :: if underComponent then [] else expressionTops usage.branches)
      (splatReferences usage) [replacement] [usage.contents.lowered underComponent] := by
  cases shape with
  | component id =>
    rw [kind_node] at captures
    rw [contents_node, lowered_under_component captures, List.map_map]
    exact obeys.moves.node
  | elsewhere id shapes =>
    rw [kind_node] at captures
    rw [contents_node, lowered_elsewhere captures, List.map_map]
    exact (obeys.wraps _ shapes).node

/-! ## §2. One child after the other. -/

section Siblings

variable {tree left : MarkupTree} {spot : Spot} {before after : List LocatedTree}
  {first result : LocatedTree}

/-- The names of a child are not those of its siblings. -/
theorem MarkupTree.Holds.apart_of_sibling
    (held : tree.Holds (.node spot (before ++ first :: after))) (linked : tree.Linked)
    {sibling : LocatedTree} (listed : sibling ∈ before ++ after) {id : NodeId}
    (inside : id ∈ sibling.ids) : id ∉ spot.id :: first.ids := by
  have nodup := held.nodup_ids linked
  rw [ids_node] at nodup
  obtain ⟨top_outside, below_nodup⟩ := List.nodup_cons.mp nodup
  rw [(List.perm_middle.flatMap_right RoseTree.ids).nodup_iff, List.flatMap_cons] at below_nodup
  obtain ⟨-, -, disjoint⟩ := List.nodup_append.mp below_nodup
  have here := List.mem_flatMap.mpr ⟨sibling, listed, inside⟩
  intro again
  rcases List.mem_cons.mp again with same | early
  · refine top_outside (same ▸ List.mem_flatMap.mpr ⟨sibling, ?_, inside⟩)
    exact ((List.sublist_cons_self first after).append_left before).subset listed
  · exact disjoint id early id here rfl

/-- How a tree looks after one child had its turn. -/
structure Exchanged (tree left : MarkupTree) (spot : Spot) (before : List LocatedTree)
    (first result : LocatedTree) (after : List LocatedTree) : Prop where
  linked : left.Linked
  held : left.Holds (.node spot (before ++ result :: after))
  contents_eq : result.contents = first.contents.lowered spot.content.kind.isComponent
  spares : tree.Spares left (spot.id :: first.ids)
  names : ∀ id ∈ result.ids, id ∈ first.ids ∨ tree.size ≤ id

/-- The parent holds the result among the other children. -/
theorem MarkupTree.Holds.exchange (held : tree.Holds (.node spot (before ++ first :: after)))
    (linked : tree.Linked) (spares : tree.Spares left (spot.id :: first.ids))
    (result_held : left.Holds result)
    (content_eq : left.content spot.id = tree.content spot.id)
    (children_eq : left.children spot.id = before.map top ++ result.top :: after.map top) :
    left.Holds (.node spot (before ++ result :: after)) := by
  refine .node (Nat.lt_of_lt_of_le held.known spares.size_le) ?_ ?_ fun branch listed => ?_
  · rw [content_eq, held.content_eq]
  · rw [children_eq, List.map_append, List.map_cons]
  · have others : ∀ sibling ∈ before ++ after, left.Holds sibling := by
      intro sibling there
      have still : sibling ∈ before ++ first :: after :=
        ((List.sublist_cons_self first after).append_left before).subset there
      exact (held.branch still).of_spares spares fun id inside =>
        held.apart_of_sibling linked there inside
    rcases List.mem_append.mp listed with early | late
    · exact others branch (List.mem_append_left _ early)
    · rcases List.mem_cons.mp late with same | late
      · exact same ▸ result_held
      · exact others branch (List.mem_append_right _ late)

/-- A child that is no usage stays, and what is below it is lowered. -/
theorem Obeys.exchange_other (obeys : Obeys first) (other : first.kind.isSplatUsage = false)
    (linked : tree.Linked) (held : tree.Holds (.node spot (before ++ first :: after))) :
    ∃ left result, Lowers (splatReferences first) tree left
      ∧ Exchanged tree left spot before first result after := by
  have listed : first ∈ before ++ first :: after := List.mem_append_right _ List.mem_cons_self
  have first_held := held.branch listed
  obtain ⟨left, result, lowers, left_linked, result_held, top_eq, contents_eq, spares, names⟩ :=
    obeys.stays.run_one linked first_held (List.forall_mem_nil _)
  have parent_outside : spot.id ∉ first.ids := fun inside =>
    held.top_not_mem_below linked (List.mem_flatMap.mpr ⟨first, listed, inside⟩)
  have all : tree.Spares left (spot.id :: first.ids) :=
    spares.mono fun id inside _ => List.mem_cons_of_mem _ inside
  refine ⟨left, result, lowers, left_linked,
    held.exchange linked all result_held ?_ ?_, ?_, all, names⟩
  · exact spares.content_eq held.known parent_outside
  · rw [spares.children_eq held.known parent_outside, held.children_eq, top_eq, List.map_append,
      List.map_cons]
  · rw [contents_eq, lowered_of_not_usage]
    rw [label_contents]
    exact other

/-- A usage is replaced, and then what is below what took its place is lowered. -/
theorem Obeys.exchange_usage (obeys : Obeys first) (captures : first.kind.isSplatUsage = true)
    (linked : tree.Linked) (held : tree.Holds (.node spot (before ++ first :: after)))
    (index : Nat) :
    ∃ left result, Lowers (⟨spot.id, first.top, index⟩ :: splatReferences first) tree left
      ∧ Exchanged tree left spot before first result after := by
  have listed : first ∈ before ++ first :: after := List.mem_append_right _ List.mem_cons_self
  have first_held := held.branch listed
  have children_eq := held.children_eq
  rw [List.map_append, List.map_cons] at children_eq
  have stands : first.top ∈ tree.children spot.id := by
    rw [children_eq]
    exact List.mem_append_right _ List.mem_cons_self
  have parent_kind : tree.kind spot.id = spot.content.kind := held.kind_top
  obtain ⟨between, replacement, ran, replaced⟩ : ∃ between replacement,
      TreeEdit.lowerSplat ⟨spot.id, first.top, index⟩ tree = .ok true between
        ∧ tree.Replaced between spot.id first replacement :=
    first_held.lowerSplat linked rfl stands
  -- The references below the usage come next, and they know what has been emptied.
  have retired : ∀ id ∈ first.top ::
      (if (tree.kind spot.id).isComponent then [] else expressionTops first.branches),
      between.Retired [replacement] id := by
    intro id inside
    rcases List.mem_cons.mp inside with same | emptied
    · exact same ▸ replaced.retired
    · split at emptied
      · exact absurd emptied List.not_mem_nil
      · next elsewhere =>
        obtain ⟨value, there, expression, same⟩ := mem_expressionTops.mp emptied
        rw [Bool.not_eq_true] at elsewhere
        exact same ▸ replaced.expressions_retired elsewhere value there expression
  obtain ⟨left, result, lowers, left_linked, result_held, top_eq, contents_eq, spares, names⟩ :=
    (obeys.rebuilt captures replaced.shape).run_one replaced.linked replaced.held retired
  have parent_known : spot.id < between.size :=
    Nat.lt_of_lt_of_le held.known replaced.spares.size_le
  have parent_outside : spot.id ∉ replacement.ids := by
    intro inside
    rcases replaced.names _ inside with old | new
    · exact held.top_not_mem_below linked (List.mem_flatMap.mpr ⟨first, listed, old⟩)
    · exact absurd held.known (Nat.not_lt_of_le new)
  have all : tree.Spares left (spot.id :: first.ids) := by
    refine replaced.spares.trans spares (fun id inside _ => inside) fun id inside known => ?_
    rcases replaced.names id inside with old | new
    · exact List.mem_cons_of_mem _ old
    · exact absurd known (Nat.not_lt_of_le new)
  refine ⟨left, result, .cons ran lowers, left_linked,
    held.exchange linked all result_held ?_ ?_, ?_, all, ?_⟩
  · rw [spares.content_eq parent_known parent_outside, replaced.content_eq]
  · rw [spares.children_eq parent_known parent_outside, replaced.siblings _ _ children_eq, top_eq]
  · rw [contents_eq, parent_kind]
  · intro id inside
    rcases names id inside with old | new
    · exact replaced.names id old
    · exact Or.inr (Nat.le_trans replaced.spares.size_le new)

/-- **One child has its turn.** -/
theorem Obeys.exchange (obeys : Obeys first) (linked : tree.Linked)
    (held : tree.Holds (.node spot (before ++ first :: after))) (index : Nat) :
    ∃ left result, Lowers ((if first.kind.isSplatUsage then [⟨spot.id, first.top, index⟩] else [])
        ++ splatReferences first) tree left
      ∧ Exchanged tree left spot before first result after := by
  cases captures : first.kind.isSplatUsage with
  | true => exact obeys.exchange_usage captures linked held index
  | false => exact obeys.exchange_other captures linked held

/-- **All children have their turn**, the earlier ones first. -/
theorem exists_lowers_siblings (obey : ∀ sibling ∈ after, Obeys sibling) (linked : tree.Linked)
    (held : tree.Holds (.node spot (before ++ after))) (index : Nat) :
    ∃ left results, Lowers (referencesAmong NodeKind.isSplatUsage spot.id index after) tree left
      ∧ left.Linked ∧ left.Holds (.node spot (before ++ results))
      ∧ results.map contents =
        after.map (fun sibling => sibling.contents.lowered spot.content.kind.isComponent)
      ∧ tree.Spares left (spot.id :: after.flatMap RoseTree.ids)
      ∧ ∀ id ∈ results.flatMap RoseTree.ids,
        id ∈ after.flatMap RoseTree.ids ∨ tree.size ≤ id := by
  induction after generalizing tree before index with
  | nil =>
    refine ⟨tree, [], .nil tree, linked, held, rfl, .refl tree _, ?_⟩
    exact List.forall_mem_nil _
  | cons first rest ih =>
    obtain ⟨first_obeys, rest_obey⟩ := List.forall_mem_cons.mp obey
    obtain ⟨between, result, lowers, exchanged⟩ := first_obeys.exchange linked held index
    -- What the first child became is now among the siblings before.
    have held' : between.Holds (.node spot ((before ++ [result]) ++ rest)) := by
      rw [List.append_assoc]
      exact exchanged.held
    obtain ⟨left, results, lowers', left_linked, left_held, contents_eq, spares, names⟩ :=
      ih rest_obey exchanged.linked held' (index + 1)
    rw [List.append_assoc] at left_held
    refine ⟨left, result :: results, ?_, left_linked, left_held, ?_, ?_, ?_⟩
    · rw [referencesAmong_cons]
      exact lowers.append lowers'
    · rw [List.map_cons, List.map_cons, exchanged.contents_eq, contents_eq]
    · rw [List.flatMap_cons]
      refine exchanged.spares.trans spares (fun id inside _ => ?_) (fun id inside _ => ?_)
      · exact List.cons_subset_cons _ (List.subset_append_left ..) inside
      · exact List.cons_subset_cons _ (List.subset_append_right ..) inside
    · intro id inside
      rw [List.flatMap_cons] at inside ⊢
      rcases List.mem_append.mp inside with early | late
      · exact (exchanged.names id early).imp_left (List.mem_append_left _)
      · rcases names id late with old | new
        · exact Or.inl (List.mem_append_right _ old)
        · exact Or.inr (Nat.le_trans exchanged.spares.size_le new)

end Siblings

/-! ## §3. Every place. -/

/-- A node that stays where it is. -/
theorem stays_of_branches {spot : Spot} {branches : List LocatedTree}
    (obey : ∀ branch ∈ branches, Obeys branch) :
    Settles [] (splatReferences (.node spot branches)) [.node spot branches]
      [(RoseTree.node spot branches).contents.kept] := by
  intro tree linked held _ _
  -- No child had its turn yet.
  have top_held : tree.Holds (.node spot ([] ++ branches)) := held _ List.mem_cons_self
  obtain ⟨left, results, lowers, left_linked, left_held, contents_eq, spares, names⟩ :=
    exists_lowers_siblings obey linked top_held 0
  rw [List.nil_append] at left_held
  refine ⟨left, [.node spot results], lowers, left_linked, ?_, rfl, ?_, ?_, ?_⟩
  · exact fun t only => List.mem_singleton.mp only ▸ left_held
  · rw [List.map_singleton, contents_node, contents_node, kept_node, contents_eq,
      List.map_map]
    rfl
  · rw [List.flatMap_singleton, ids_node]
    exact spares
  · intro id inside
    rw [List.flatMap_singleton, ids_node] at inside ⊢
    rcases List.mem_cons.mp inside with same | below
    · exact Or.inl (same ▸ List.mem_cons_self)
    · exact (names id below).imp_left (List.mem_cons_of_mem _)

/-- **The step of the induction**, from the children to their parent. -/
theorem Obeys.of_branches {spot : Spot} {branches : List LocatedTree}
    (obey : ∀ branch ∈ branches, Obeys branch) : Obeys (.node spot branches) where
  stays := stays_of_branches obey
  moves := moves_of_branches obey
  wraps _ shapes := wraps_of_branches obey shapes

/-- **Every place obeys the rewrite.** -/
theorem obeys (t : LocatedTree) : Obeys t := by
  induction t using RoseTree.induction with
  | node spot branches ih => exact .of_branches ih

/-! ## §4. Whole trees and documents. -/

/-- Lowering a linked tree is never refused and rewrites what the tree says. -/
theorem MarkupTree.Linked.lowerAllSplats {tree : MarkupTree} (linked : tree.Linked) :
    ∃ count left, TreeEdit.lowerAllSplats tree = .ok count left ∧ left.Linked
      ∧ left.contentTree = tree.contentTree.kept := by
  obtain ⟨t, top_eq, held⟩ := linked.exists_holds linked.root_lt_size
  obtain ⟨left, result, ⟨count, ran⟩, left_linked, result_held, same_top, contents_eq, -, -⟩ :=
    (obeys t).stays.run_one linked held (List.forall_mem_nil _)
  have result_top : result.top = root := same_top.trans top_eq
  refine ⟨count, left, ?_, left_linked, ?_⟩
  · unfold TreeEdit.lowerAllSplats
    rw [TreeEdit.bind_get]
    unfold splatUsages references
    rw [← top_eq, held.referencesBelow_eq linked]
    exact ran
  · unfold contentTree
    rw [← result_top, result_held.contentTreeAt_eq left_linked, contents_eq,
      ← held.contentTreeAt_eq linked, top_eq, result_top]

/-- The pass replaces the tree by the lowered one. -/
theorem Pass.splatLowering_run {document : Document} {count : Nat} {left : MarkupTree}
    (ran : TreeEdit.lowerAllSplats document.tree = .ok count left) :
    Pass.splatLowering.run document = { document := { document with tree := left } } := by
  unfold splatLowering
  dsimp only
  rw [ran]

/-- **After every run of edits**, lowering is never refused, and what the tree says afterwards is
the rewrite of what it said before. -/
theorem Reachable.lowerAllSplats_contentTree {tree : MarkupTree} (reachable : Reachable tree) :
    ∃ count left, TreeEdit.lowerAllSplats tree = .ok count left
      ∧ left.contentTree = tree.contentTree.kept := by
  obtain ⟨count, left, ran, -, rewritten⟩ := reachable.linked.lowerAllSplats
  exact ⟨count, left, ran, rewritten⟩

/-- A tag helper whose usages capture attributes. -/
def splatHelper : TagHelper where
  kind := ModelFeature.splat.text
  name := "Attributes"
  assemblyName := "Microsoft.AspNetCore.Components"
  displayName := "Attributes"
  documentation := none
  tagOutputHint := none
  attributes := []
  rules := []
  metadata := .ofList [(Metadata.featureKey, ModelFeature.splat.text)]
  diagnostics := []

/-- A usage of it. -/
def splatUsage : NodeContent where
  kind := .directiveAttribute "@attributes" splatHelper "@attributes"

/-- A usage of it that is a property, written as a directive. -/
def splatProperty : NodeContent where
  kind := .helperProperty "@attributes" splatHelper "@attributes" true

/-- A token of code. -/
def codeToken (text : String) : NodeContent where
  kind := .token .code text

/-- A component that takes any attributes. -/
def cardHelper : TagHelper where
  kind := TagHelper.componentKind
  name := "Card"
  assemblyName := "Shop"
  displayName := "Card"
  documentation := none
  tagOutputHint := none
  attributes := []
  rules := []
  metadata := .empty
  diagnostics := []

/-- An element with a usage that has captured a token, an expression and another usage, and a
component with a usage that has captured a token and an expression. -/
def capturedValues : MarkupTree :=
  (((((((((((MarkupTree.ofDocumentKind componentDocumentKind).appendNew root
    { kind := .markupElement "div" }).appendNew 1 splatUsage).appendNew 2
    (codeToken "first")).appendNew 2 { kind := .embeddedExpression }).appendNew 4
    (codeToken "second")).appendNew 2 splatUsage).appendNew root
    { kind := .component "Card" cardHelper }).appendNew 7 splatProperty).appendNew 8
    (codeToken "third")).appendNew 8 { kind := .embeddedExpression }).appendNew 10
    (codeToken "fourth")

theorem reachable_capturedValues : Reachable capturedValues :=
  (((((((((((Reachable.fresh _).appendNew (by decide) _).appendNew (by decide) _).appendNew
    (by decide) _).appendNew (by decide) _).appendNew (by decide) _).appendNew
    (by decide) _).appendNew (by decide) _).appendNew (by decide) _).appendNew
    (by decide) _).appendNew (by decide) _).appendNew (by decide) _

/-- Under the element both values are wrapped and the inner usage stays; under the component the
values move as they are. -/
theorem lowerAllSplats_capturedValues :
    ∃ count left, TreeEdit.lowerAllSplats capturedValues = .ok count left
      ∧ left.contentTree = .node { kind := .document componentDocumentKind }
        [.node { kind := .markupElement "div" }
          [.node { kind := .htmlAttribute none true }
            [.node { kind := .expressionValue } [.node (codeToken "first") []],
             .node { kind := .expressionValue } [.node (codeToken "second") []],
             .node splatUsage []]],
         .node { kind := .component "Card" cardHelper }
          [.node
            { kind := .componentAttribute none
                (some ("global::System.Collections.Generic.IEnumerable"
                  ++ "<global::System.Collections.Generic.KeyValuePair<string, object>>")) true }
            [.node (codeToken "third") [],
             .node { kind := .embeddedExpression } [.node (codeToken "fourth") []]]]] := by
  obtain ⟨count, left, ran, rewritten⟩ :=
    Reachable.lowerAllSplats_contentTree reachable_capturedValues
  exact ⟨count, left, ran, rewritten.trans rfl⟩

end ComponentMarkup
