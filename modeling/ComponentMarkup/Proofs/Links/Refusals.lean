/-
  ComponentMarkup.Proofs.Links.Refusals
  ────────────────────────────────
  **When edits are refused, and what is left then.**

  Whether a node can be put somewhere is a matter of the links before the edit.  For an adoption
  of several nodes the checks are made one after the other, in a tree that the earlier ones have
  changed; but what they change is only the parents of the nodes that they attach, and none of
  these stands above the adopting node.  So every check finds what it would have found in the tree
  before, with one exception: a node that was attached a moment ago has a parent now.

  Main statements: `Linked.append_exact`, `Linked.replace_exact`, `Linked.adopt_of_attachable` and
  `Linked.adopt_of_firstRefused`, and all of them together for every run of edits in
  `Reachable.edits_refused_exactly`.
-/
import ComponentMarkup.Proofs.Links.Resolution
import Mathlib.Data.List.Induction
import Mathlib.Data.Nat.Find
import Mathlib.Logic.Function.Iterate

namespace ComponentMarkup

open MarkupTree Relation

/-! ## §1. Exact conditions. -/

/-- The edit is accepted exactly under the condition, and a refusal leaves the tree as it was. -/
structure TreeEdit.Exact {α : Type} (edit : TreeEdit α) (tree : MarkupTree) (condition : Prop) :
    Prop where
  accepted_iff : (∃ value left, edit tree = .ok value left) ↔ condition
  refused : ∀ {fault left}, edit tree = .error fault left → left = tree

namespace TreeEdit.Exact

variable {α : Type} {edit : TreeEdit α} {tree left : MarkupTree} {condition : Prop}

theorem of_ok {value : α} (ran : edit tree = .ok value left) (holds : condition) :
    edit.Exact tree condition where
  accepted_iff := ⟨fun _ => holds, fun _ => ⟨value, left, ran⟩⟩
  refused := by
    intro fault other refused
    rw [ran] at refused
    cases refused

theorem of_error {fault : TreeFault} (ran : edit tree = .error fault tree)
    (fails : ¬ condition) : edit.Exact tree condition where
  accepted_iff := by
    refine ⟨?_, fun holds => absurd holds fails⟩
    rintro ⟨value, other, accepted⟩
    rw [ran] at accepted
    cases accepted
  refused := by
    intro fault other refused
    rw [ran] at refused
    cases refused
    rfl

end TreeEdit.Exact

namespace MarkupTree

variable {tree left : MarkupTree}

/-! ## §2. The loop on the way up. -/

/-- One turn of the loop that looks for a node above another one: on to the parent, if there is
one. -/
def climb (tree : MarkupTree) (current : Option NodeId) : Option NodeId :=
  current.bind tree.parent

/-- The loop comes to an end. -/
theorem Linked.exists_climb_eq_none (linked : tree.Linked) (id : NodeId) :
    ∃ turns, tree.climb^[turns] (some id) = none := by
  induction id using linked.wellFounded_rightAbove.induction with
  | h id ih =>
    cases recorded : tree.parent id with
    | none => exact ⟨1, recorded⟩
    | some upper =>
      obtain ⟨turns, ended⟩ := ih upper recorded
      refine ⟨turns + 1, ?_⟩
      rw [Function.iterate_succ_apply]
      show tree.climb^[turns] (tree.parent id) = none
      rw [recorded, ended]

/-- **The loop decides** whether a node stands above another one: it meets exactly those that
do. -/
theorem above_iff_climb {upper lower : NodeId} :
    tree.Above upper lower ↔ ∃ turns, tree.climb^[turns] (some lower) = some upper := by
  -- The loop starts below, and its first turn is the last step of the way down.
  constructor
  · intro above
    induction above with
    | refl => exact ⟨0, rfl⟩
    | @tail between lower _ last ih =>
      obtain ⟨turns, met⟩ := ih
      refine ⟨turns + 1, ?_⟩
      rw [Function.iterate_succ_apply]
      show tree.climb^[turns] (tree.parent lower) = _
      rw [last, met]
  · rintro ⟨turns, met⟩
    induction turns generalizing lower with
    | zero => exact Option.some.inj met ▸ .refl
    | succ turns ih =>
      rw [Function.iterate_succ_apply] at met
      change tree.climb^[turns] (tree.parent lower) = _ at met
      cases recorded : tree.parent lower with
      | none =>
        rw [recorded, Function.iterate_fixed rfl] at met
        cases met
      | some between =>
        rw [recorded] at met
        exact (ih met).tail recorded

/-- The nodes above a node are those whose way down does not use a changed parent. -/
theorem above_congr {lower : NodeId}
    (same : ∀ id, tree.Above id lower → left.parent id = tree.parent id) {upper : NodeId} :
    left.Above upper lower ↔ tree.Above upper lower := by
  -- By induction on the nodes from below, each of which is known to stand above in both trees.
  constructor
  · intro above
    induction above using ReflTransGen.head_induction_on with
    | refl => exact .refl
    | head first _ ih =>
      unfold RightAbove at first
      rw [same _ ih] at first
      exact ih.head first
  · intro above
    induction above using ReflTransGen.head_induction_on with
    | refl => exact .refl
    | head first rest ih => exact ih.head ((same _ rest).trans first)

/-! ## §3. Single edits. -/

variable {reference : Reference}

theorem Linked.append_exact (linked : tree.Linked) {parent child : NodeId}
    (parent_known : parent < tree.size) (child_known : child < tree.size) :
    (TreeEdit.append parent child).Exact tree (tree.Attachable parent child) := by
  have checks := linked.attachFault?_eq_none_iff parent_known child_known
  rcases TreeEdit.append_cases tree parent child with ⟨checked, ran⟩ | ⟨fault, checked, ran⟩
  · exact .of_ok ran (checks.mp checked)
  · refine .of_error ran fun attachable => ?_
    rw [checks.mpr attachable] at checked
    cases checked

theorem Linked.replace_exact (linked : tree.Linked) {replacement : NodeId}
    (parent_known : reference.parent < tree.size) (known : replacement < tree.size) :
    (reference.replace replacement).Exact tree
      (reference.isLive tree ∧ tree.Attachable reference.parent replacement) := by
  have checks := linked.attachFault?_eq_none_iff parent_known known
  rcases reference.replace_cases tree replacement with
    ⟨index, present, checked, ran⟩ | ⟨fault, missing | checked, ran⟩
  · exact .of_ok ran ⟨Reference.isLive_of_present present, checks.mp checked⟩
  · exact .of_error ran fun both => Reference.not_isLive_of_missing missing both.1
  · refine .of_error ran fun both => ?_
    rw [checks.mpr both.2] at checked
    cases checked

theorem replaceWithNew_exact (tree : MarkupTree) (reference : Reference) (content : NodeContent) :
    (reference.replaceWithNew content).Exact tree (reference.isLive tree) := by
  rcases reference.replaceWithNew_cases tree content with ⟨index, present, ran⟩ | ⟨missing, ran⟩
  · exact .of_ok ran (Reference.isLive_of_present present)
  · exact .of_error ran (Reference.not_isLive_of_missing missing)

theorem remove_exact (tree : MarkupTree) (reference : Reference) :
    reference.remove.Exact tree (reference.isLive tree) := by
  rcases reference.remove_cases tree with ⟨index, present, ran⟩ | ⟨missing, ran⟩
  · exact .of_ok ran (Reference.isLive_of_present present)
  · exact .of_error ran (Reference.not_isLive_of_missing missing)

/-! ## §4. Adoption. -/

/-- The second tree is the first one with detached nodes put at the end of a node's children. -/
structure Adopted (tree left : MarkupTree) (upper : NodeId) (ids : List NodeId) : Prop where
  linked : left.Linked
  size_eq : left.size = tree.size
  content_eq : ∀ id, left.content id = tree.content id
  children_eq : ∀ id,
    left.children id = if upper = id then tree.children upper ++ ids else tree.children id
  parent_eq : ∀ id, left.parent id = if id ∈ ids then some upper else tree.parent id

section Adoption

variable {upper : NodeId} {ids : List NodeId}

theorem Linked.adopted_nil (linked : tree.Linked) (upper : NodeId) :
    tree.Adopted tree upper [] := by
  refine ⟨linked, rfl, fun _ => rfl, fun id => ?_, fun id => ?_⟩
  · split
    · next here => rw [← here, List.append_nil]
    · rfl
  · rw [if_neg List.not_mem_nil]

theorem Linked.adopted_attach (linked : tree.Linked) {id : NodeId}
    (attachable : tree.Attachable upper id) : tree.Adopted (tree.attach upper id) upper [id] := by
  refine ⟨linked.attach attachable none, size_attach .., fun _ => content_attach ..,
    fun other => ?_, fun other => ?_⟩
  · rw [children_attach]
    by_cases here : upper = other
    · rw [if_pos ⟨here, here ▸ attachable.parent_lt_size⟩, if_pos here]
      rfl
    · rw [if_neg fun both => here both.1, if_neg here]
  · rw [parent_attach]
    by_cases it : id = other
    · rw [if_pos ⟨it, it ▸ attachable.child_lt_size⟩, if_pos (List.mem_singleton.mpr it.symm)]
    · rw [if_neg fun both => it both.1, if_neg fun listed => it (List.mem_singleton.mp listed).symm]

/-- One adoption after the other. -/
theorem Adopted.trans {between : MarkupTree} {more : List NodeId}
    (first : tree.Adopted between upper ids) (second : between.Adopted left upper more) :
    tree.Adopted left upper (ids ++ more) := by
  refine ⟨second.linked, second.size_eq.trans first.size_eq, fun id => ?_, fun id => ?_,
    fun id => ?_⟩
  · rw [second.content_eq, first.content_eq]
  · rw [second.children_eq, first.children_eq, first.children_eq, if_pos rfl, List.append_assoc]
    by_cases here : upper = id
    · rw [if_pos here, if_pos here]
    · rw [if_neg here, if_neg here, if_neg here]
  · rw [second.parent_eq, first.parent_eq]
    by_cases late : id ∈ more
    · rw [if_pos late, if_pos (List.mem_append_right _ late)]
    · by_cases early : id ∈ ids
      · rw [if_neg late, if_pos early, if_pos (List.mem_append_left _ early)]
      · have neither : id ∉ ids ++ more := fun either =>
          (List.mem_append.mp either).elim early late
        rw [if_neg late, if_neg early, if_neg neither]

/-- **An adoption does not change what else can be attached**, but for the nodes that it attaches:
none of them stands above the adopting node, so that the way up from there is the same. -/
theorem Adopted.attachable_iff (adopted : tree.Adopted left upper ids)
    (each : ∀ id ∈ ids, tree.Attachable upper id) {id : NodeId} :
    left.Attachable upper id ↔ id ∉ ids ∧ tree.Attachable upper id := by
  have above_iff : left.Above id upper ↔ tree.Above id upper := by
    refine above_congr fun other above => ?_
    rw [adopted.parent_eq, if_neg fun listed => (each other listed).not_above above]
  have size_eq := adopted.size_eq
  have parent_eq := adopted.parent_eq id
  constructor
  · rintro ⟨upper_known, known, not_root, detached, not_above⟩
    by_cases listed : id ∈ ids
    · rw [parent_eq, if_pos listed] at detached
      cases detached
    · rw [parent_eq, if_neg listed] at detached
      exact ⟨listed, size_eq ▸ upper_known, size_eq ▸ known, not_root, detached,
        fun above => not_above (above_iff.mpr above)⟩
  · rintro ⟨fresh, upper_known, known, not_root, detached, not_above⟩
    rw [if_neg fresh] at parent_eq
    exact ⟨size_eq ▸ upper_known, size_eq ▸ known, not_root, parent_eq.trans detached,
      fun above => not_above (above_iff.mp above)⟩

theorem adopt_append_of_ok {more : List NodeId} {between : MarkupTree}
    (ran : TreeEdit.adopt upper ids tree = .ok () between) :
    TreeEdit.adopt upper (ids ++ more) tree = TreeEdit.adopt upper more between := by
  induction ids generalizing tree with
  | nil =>
    cases ran
    rfl
  | cons id rest ih =>
    unfold TreeEdit.adopt at ran
    show (TreeEdit.append upper id >>= fun _ => TreeEdit.adopt upper (rest ++ more)) tree = _
    rcases TreeEdit.append_cases tree upper id with ⟨-, appended⟩ | ⟨fault, -, appended⟩
    · rw [TreeEdit.bind_of_ok appended] at ran ⊢
      exact ih ran
    · rw [TreeEdit.bind_of_error appended] at ran
      cases ran

theorem adopt_singleton (upper id : NodeId) (tree : MarkupTree) :
    TreeEdit.adopt upper [id] tree = TreeEdit.append upper id tree := by
  unfold TreeEdit.adopt
  cases ran : TreeEdit.append upper id tree with
  | ok value left =>
    rw [TreeEdit.bind_of_ok ran]
    rfl
  | error fault left => rw [TreeEdit.bind_of_error ran]

/-- **Different nodes that can be attached are adopted**, in their order. -/
theorem Linked.adopt_of_attachable (linked : tree.Linked) (nodup : ids.Nodup)
    (each : ∀ id ∈ ids, tree.Attachable upper id) :
    ∃ left, TreeEdit.adopt upper ids tree = .ok () left ∧ tree.Adopted left upper ids := by
  -- The last node is checked in the tree that all earlier ones have left.
  induction ids using List.reverseRecOn with
  | nil => exact ⟨tree, rfl, linked.adopted_nil upper⟩
  | append_singleton earlier id ih =>
    obtain ⟨earlier_nodup, -, apart⟩ := List.nodup_append.mp nodup
    have earlier_each := fun other listed => each other (List.mem_append_left _ listed)
    obtain ⟨between, ran, adopted⟩ := ih earlier_nodup earlier_each
    have fresh : id ∉ earlier := fun again => apart id again id (List.mem_singleton.mpr rfl) rfl
    have attachable := (adopted.attachable_iff earlier_each).mpr
      ⟨fresh, each id (List.mem_append_right _ (List.mem_singleton.mpr rfl))⟩
    refine ⟨between.attach upper id, ?_, adopted.trans (adopted.linked.adopted_attach attachable)⟩
    rw [adopt_append_of_ok ran, adopt_singleton, adopted.linked.append_of_attachable attachable]

/-! ## §5. The first refusal. -/

/-- The node at the position stands at an earlier one as well, or cannot be attached. -/
def Refused (tree : MarkupTree) (upper : NodeId) (ids : List NodeId) (index : Nat) : Prop :=
  ∃ id, ids[index]? = some id ∧ (id ∈ ids.take index ∨ ¬ tree.Attachable upper id)

/-- The first position whose node is refused. -/
def FirstRefused (tree : MarkupTree) (upper : NodeId) (ids : List NodeId) (index : Nat) : Prop :=
  tree.Refused upper ids index ∧ ∀ earlier < index, ¬ tree.Refused upper ids earlier

/-- If no position before a given one is refused, the nodes there can be adopted. -/
theorem acceptable_of_not_refused (index : Nat)
    (accepted : ∀ earlier < index, ¬ tree.Refused upper ids earlier) :
    (ids.take index).Nodup ∧ ∀ id ∈ ids.take index, tree.Attachable upper id := by
  constructor
  · rw [List.nodup_iff_getElem?_ne_getElem?]
    intro first second before inside same
    -- The second one of two equal nodes would be refused.
    rw [List.length_take] at inside
    have second_known : second < ids.length := by omega
    have stands : ids[second]? = some ids[second] := List.getElem?_eq_getElem second_known
    refine accepted second (by omega) ⟨_, stands, Or.inl ?_⟩
    rw [List.getElem?_take_of_lt (by omega), List.getElem?_take_of_lt (by omega), stands] at same
    refine List.mem_of_getElem? (i := first) ?_
    rw [List.getElem?_take_of_lt before, same]
  · intro id listed
    obtain ⟨place, inside, here⟩ := List.getElem_of_mem listed
    rw [List.length_take] at inside
    by_contra unfit
    refine accepted place (by omega) ⟨id, ?_, Or.inr unfit⟩
    rw [List.getElem_take] at here
    exact List.getElem?_eq_some_iff.mpr ⟨by omega, here⟩

/-- If the nodes cannot all be adopted, one of them is the first that is refused. -/
theorem exists_firstRefused
    (unfit : ¬ (ids.Nodup ∧ ∀ id ∈ ids, tree.Attachable upper id)) :
    ∃ index, tree.FirstRefused upper ids index := by
  have refused : ∃ index, tree.Refused upper ids index := by
    by_contra none_refused
    have all := acceptable_of_not_refused ids.length
      fun earlier _ refused => none_refused ⟨earlier, refused⟩
    rw [List.take_length] at all
    exact unfit all
  classical
  exact ⟨Nat.find refused, Nat.find_spec refused, fun _ => Nat.find_min refused⟩

/-- **An adoption stops at the first node that is refused**, and the nodes before it stay
adopted. -/
theorem Linked.adopt_of_firstRefused (linked : tree.Linked) (upper_known : upper < tree.size)
    (known : ∀ id ∈ ids, id < tree.size) {index : Nat}
    (first : tree.FirstRefused upper ids index) :
    ∃ fault left, TreeEdit.adopt upper ids tree = .error fault left
      ∧ TreeEdit.adopt upper (ids.take index) tree = .ok () left
      ∧ tree.Adopted left upper (ids.take index) := by
  obtain ⟨⟨id, stands, refused⟩, accepted⟩ := first
  obtain ⟨nodup, each⟩ := acceptable_of_not_refused index accepted
  obtain ⟨left, ran, adopted⟩ := linked.adopt_of_attachable nodup each
  -- In the tree that the nodes before it have left, the node cannot be attached.
  have unfit : ¬ left.Attachable upper id := by
    rw [adopted.attachable_iff each]
    rintro ⟨fresh, attachable⟩
    exact refused.elim fresh fun unfit => unfit attachable
  have size_eq := adopted.size_eq
  have exact_here := adopted.linked.append_exact (size_eq ▸ upper_known)
    (size_eq ▸ known id (List.mem_of_getElem? stands))
  obtain ⟨inside, here⟩ := List.getElem?_eq_some_iff.mp stands
  have around : ids = ids.take index ++ id :: ids.drop (index + 1) := by
    rw [← here, ← List.drop_eq_getElem_cons inside, List.take_append_drop]
  rcases TreeEdit.append_cases left upper id with ⟨-, appended⟩ | ⟨fault, -, appended⟩
  · exact absurd (exact_here.accepted_iff.mp ⟨_, _, appended⟩) unfit
  · refine ⟨fault, left, ?_, ran, adopted⟩
    rw [around, adopt_append_of_ok ran]
    show (TreeEdit.append upper id >>= fun _ => TreeEdit.adopt upper _) left = _
    rw [TreeEdit.bind_of_error appended]

/-- What an adoption does: either all nodes are adopted, or those before the first one that is
refused. -/
structure AdoptsExactly (tree : MarkupTree) (upper : NodeId) (ids : List NodeId) : Prop where
  accepted : (ids.Nodup ∧ ∀ id ∈ ids, tree.Attachable upper id) →
    ∃ left, TreeEdit.adopt upper ids tree = .ok () left ∧ tree.Adopted left upper ids
  refused : ¬ (ids.Nodup ∧ ∀ id ∈ ids, tree.Attachable upper id) →
    ∃ index fault left, tree.FirstRefused upper ids index
      ∧ TreeEdit.adopt upper ids tree = .error fault left
      ∧ TreeEdit.adopt upper (ids.take index) tree = .ok () left
      ∧ tree.Adopted left upper (ids.take index)

theorem Linked.adoptsExactly (linked : tree.Linked) (upper_known : upper < tree.size)
    (known : ∀ id ∈ ids, id < tree.size) : tree.AdoptsExactly upper ids where
  accepted := fun ⟨nodup, each⟩ => linked.adopt_of_attachable nodup each
  refused := by
    intro unfit
    obtain ⟨index, first⟩ := exists_firstRefused unfit
    obtain ⟨fault, left, ran, before, adopted⟩ :=
      linked.adopt_of_firstRefused upper_known known first
    exact ⟨index, fault, left, first, ran, before, adopted⟩

end Adoption

end MarkupTree

/-! ## §6. Every run of edits. -/

/-- **After every run of edits** the next one is refused exactly if its condition does not hold.  A
refused edit leaves the tree as it was, but for an adoption, which has adopted the nodes before the
first one that is refused.  The loop on the way up from a node comes to an end, and meets the nodes
that stand above it. -/
theorem Reachable.edits_refused_exactly {tree : MarkupTree} (reachable : Reachable tree) :
    (∀ parent child, parent < tree.size → child < tree.size →
        (TreeEdit.append parent child).Exact tree (tree.Attachable parent child))
      ∧ (∀ (reference : Reference) replacement, reference.parent < tree.size →
        replacement < tree.size → (reference.replace replacement).Exact tree
          (reference.isLive tree ∧ tree.Attachable reference.parent replacement))
      ∧ (∀ (reference : Reference) content,
        (reference.replaceWithNew content).Exact tree (reference.isLive tree))
      ∧ (∀ reference : Reference, reference.remove.Exact tree (reference.isLive tree))
      ∧ (∀ upper ids, upper < tree.size → (∀ id ∈ ids, id < tree.size) →
        tree.AdoptsExactly upper ids)
      ∧ (∀ id, ∃ turns, tree.climb^[turns] (some id) = none)
      ∧ ∀ upper id, upper ∈ tree.upwards id ↔
        ∃ turns, tree.climb^[turns] (some id) = some upper := by
  have linked := reachable.linked
  exact ⟨fun _ _ => linked.append_exact, fun _ _ => linked.replace_exact,
    replaceWithNew_exact tree, remove_exact tree, fun _ _ => linked.adoptsExactly,
    linked.exists_climb_eq_none, fun _ _ => linked.mem_upwards_iff.trans above_iff_climb⟩

/-- An element in a document, and two detached expressions. -/
def spareExpressions : MarkupTree :=
  (((MarkupTree.ofDocumentKind componentDocumentKind).appendNew root
    { kind := .markupElement "div" }).push { kind := .embeddedExpression }).push
      { kind := .embeddedExpression }

theorem reachable_spareExpressions : Reachable spareExpressions :=
  (((Reachable.fresh _).appendNew (by decide) _).step (.create _)
    (List.forall_mem_nil _)).step (.create _) (List.forall_mem_nil _)

/-- Both expressions can be put into the element, and neither of them twice. -/
theorem edits_refused_exactly_spareExpressions :
    (∃ left, TreeEdit.adopt 1 [2, 3] spareExpressions = .ok () left ∧ left.children 1 = [2, 3])
      ∧ ∃ fault left, TreeEdit.adopt 1 [2, 3, 2] spareExpressions = .error fault left := by
  obtain ⟨appends, -, -, -, adopts, -, -⟩ :=
    Reachable.edits_refused_exactly reachable_spareExpressions
  have attachable : ∀ id ∈ [2, 3], spareExpressions.Attachable 1 id := by
    have first := (appends 1 2 (by decide) (by decide)).accepted_iff
    have second := (appends 1 3 (by decide) (by decide)).accepted_iff
    exact List.forall_mem_cons.mpr ⟨first.mp ⟨(), _, rfl⟩,
      List.forall_mem_singleton.mpr (second.mp ⟨(), _, rfl⟩)⟩
  constructor
  · obtain ⟨left, ran, adopted⟩ :=
      (adopts 1 [2, 3] (by decide) (by decide)).accepted ⟨by decide, attachable⟩
    refine ⟨left, ran, ?_⟩
    rw [adopted.children_eq, if_pos rfl]
    rfl
  · obtain ⟨-, fault, left, -, ran, -⟩ :=
      (adopts 1 [2, 3, 2] (by decide) (by decide)).refused
        fun both => absurd both.1 (by decide)
    exact ⟨fault, left, ran⟩

end ComponentMarkup
