/-
  ComponentMarkup.Proofs.Links.Edits
  ────────────────────────────────
  **Every run of edits leaves a linked tree.**

  `TreeOperation` lists the calls that a caller can make on a tree, with whatever names of nodes
  that exist, and `perform` says what the tree is after such a call, refused or not.  A tree is
  `Reachable` if some sequence of calls makes it from a tree with nothing but a root.

  Main statements: `Linked.perform`, the invariant after one call, and `Reachable.linked`, the
  invariant after every run of calls.
-/
import ComponentMarkup.Proofs.Links.Chains

namespace ComponentMarkup

open MarkupTree

/-! ## §1. Calls and runs. -/

namespace TreeEdit

variable {α β : Type}

/-- The tree as an edit leaves it, refused or not. -/
def after (edit : TreeEdit α) (tree : MarkupTree) : MarkupTree :=
  match edit tree with
  | .ok _ left => left
  | .error _ left => left

theorem after_of_ok {edit : TreeEdit α} {tree left : MarkupTree} {value : α}
    (ran : edit tree = .ok value left) : edit.after tree = left := by
  unfold after
  rw [ran]

theorem after_of_error {edit : TreeEdit α} {tree left : MarkupTree} {fault : TreeFault}
    (refused : edit tree = .error fault left) : edit.after tree = left := by
  unfold after
  rw [refused]

theorem bind_of_ok {edit : TreeEdit α} {tree left : MarkupTree} {value : α}
    (ran : edit tree = .ok value left) (next : α → TreeEdit β) :
    (edit >>= next) tree = next value left := by
  show EStateM.bind edit next tree = _
  unfold EStateM.bind
  rw [ran]

/-- An edit that first looks at the tree. -/
theorem bind_get (tree : MarkupTree) (next : MarkupTree → TreeEdit β) :
    ((get : TreeEdit MarkupTree) >>= next) tree = next tree tree := rfl

theorem bind_of_error {edit : TreeEdit α} {tree left : MarkupTree} {fault : TreeFault}
    (refused : edit tree = .error fault left) (next : α → TreeEdit β) :
    (edit >>= next) tree = .error fault left := by
  show EStateM.bind edit next tree = _
  unfold EStateM.bind
  rw [refused]

end TreeEdit

/-- A call that changes a tree. -/
inductive TreeOperation where
  | create (content : NodeContent)
  | appendNew (parent : NodeId) (content : NodeContent)
  | insertNew (parent : NodeId) (index : Nat) (content : NodeContent)
  | append (parent child : NodeId)
  | adopt (parent : NodeId) (children : List NodeId)
  | releaseChildren (id : NodeId)
  | replace (reference : Reference) (replacement : NodeId)
  | replaceWithNew (reference : Reference) (content : NodeContent)
  | remove (reference : Reference)
  /-- Any change of a node's kind, its place in the source or its reports. -/
  | setContent (id : NodeId) (content : NodeContent)

namespace TreeOperation

/-- The nodes that a call names. -/
def names : TreeOperation → List NodeId
  | .create _ => []
  | .appendNew parent _ | .insertNew parent _ _ => [parent]
  | .append parent child => [parent, child]
  | .adopt parent children => parent :: children
  | .releaseChildren id | .setContent id _ => [id]
  | .replace reference replacement => [reference.parent, reference.node, replacement]
  | .replaceWithNew reference _ | .remove reference => [reference.parent, reference.node]

/-- The tree after a call, refused or not. -/
def perform : TreeOperation → MarkupTree → MarkupTree
  | .create content => (TreeEdit.create content).after
  | .appendNew parent content => (·.appendNew parent content)
  | .insertNew parent index content => (·.insertNew parent index content)
  | .append parent child => (TreeEdit.append parent child).after
  | .adopt parent children => (TreeEdit.adopt parent children).after
  | .releaseChildren id => (TreeEdit.releaseChildren id).after
  | .replace reference replacement => (reference.replace replacement).after
  | .replaceWithNew reference content => (reference.replaceWithNew content).after
  | .remove reference => reference.remove.after
  | .setContent id content => (·.modifyContent id fun _ => content)

end TreeOperation

/-- The trees that calls on existing nodes make, whether they are refused or not. -/
inductive Reachable : MarkupTree → Prop where
  | fresh (documentKind : String) : Reachable (.ofDocumentKind documentKind)
  | step {tree : MarkupTree} (operation : TreeOperation) (before : Reachable tree)
      (known : ∀ id ∈ operation.names, id < tree.size) : Reachable (operation.perform tree)

/-! ## §2. What an edit can end with. -/

section Outcomes

variable (tree : MarkupTree) (reference : Reference)

/-- **What an append can end with.** -/
theorem TreeEdit.append_cases (parent child : NodeId) :
    (tree.attachFault? parent child = none
        ∧ TreeEdit.append parent child tree = .ok () (tree.attach parent child))
      ∨ ∃ fault, tree.attachFault? parent child = some fault
        ∧ TreeEdit.append parent child tree = .error fault tree := by
  unfold TreeEdit.append
  cases tree.attachFault? parent child with
  | none => exact Or.inl ⟨rfl, rfl⟩
  | some fault => exact Or.inr ⟨fault, rfl, rfl⟩

/-- **What a replacement can end with.** -/
theorem Reference.replace_cases (replacement : NodeId) :
    (∃ index, reference.presentIndex? tree = some index
        ∧ tree.attachFault? reference.parent replacement = none
        ∧ reference.replace replacement tree = .ok ⟨reference.parent, replacement, index⟩
          (tree.replaceAt reference.parent index replacement))
      ∨ ∃ fault, (reference.presentIndex? tree = none
          ∨ tree.attachFault? reference.parent replacement = some fault)
        ∧ reference.replace replacement tree = .error fault tree := by
  unfold Reference.replace
  cases reference.presentIndex? tree with
  | none => exact Or.inr ⟨reference.staleFault, Or.inl rfl, rfl⟩
  | some index =>
    cases tree.attachFault? reference.parent replacement with
    | none => exact Or.inl ⟨index, rfl, rfl, rfl⟩
    | some fault => exact Or.inr ⟨fault, Or.inr rfl, rfl⟩

/-- **What a replacement by a new node can end with.** -/
theorem Reference.replaceWithNew_cases (content : NodeContent) :
    (∃ index, reference.presentIndex? tree = some index
        ∧ reference.replaceWithNew content tree = .ok ⟨reference.parent, tree.size, index⟩
          ((tree.push content).replaceAt reference.parent index tree.size))
      ∨ (reference.presentIndex? tree = none
        ∧ reference.replaceWithNew content tree = .error reference.staleFault tree) := by
  unfold Reference.replaceWithNew
  cases reference.presentIndex? tree with
  | none => exact Or.inr ⟨rfl, rfl⟩
  | some index => exact Or.inl ⟨index, rfl, rfl⟩

/-- **What a removal can end with.** -/
theorem Reference.remove_cases :
    (∃ index, reference.presentIndex? tree = some index
        ∧ reference.remove tree = .ok () (tree.removeAt reference.parent index))
      ∨ (reference.presentIndex? tree = none
        ∧ reference.remove tree = .error reference.staleFault tree) := by
  unfold Reference.remove
  cases reference.presentIndex? tree with
  | none => exact Or.inr ⟨rfl, rfl⟩
  | some index => exact Or.inl ⟨index, rfl, rfl⟩

end Outcomes

namespace MarkupTree

variable {tree : MarkupTree}

/-! ## §3. What the checks of the edits mean. -/

theorem detachedFault?_eq_none_iff {id : NodeId} :
    tree.detachedFault? id = none ↔ id ≠ root ∧ tree.parent id = none := by
  unfold detachedFault?
  split
  · next same =>
    refine ⟨fun refused => ?_, fun both => absurd same both.1⟩
    cases refused
  · next other => rw [Option.map_eq_none_iff, and_iff_right other]

/-- **A node is refused exactly if it cannot be attached.** -/
theorem Linked.attachFault?_eq_none_iff (linked : tree.Linked) {parent child : NodeId}
    (parent_known : parent < tree.size) (child_known : child < tree.size) :
    tree.attachFault? parent child = none ↔ tree.Attachable parent child := by
  unfold attachFault?
  constructor
  · intro accepted
    split at accepted
    · cases accepted
    · next free =>
      obtain ⟨not_root, detached⟩ := detachedFault?_eq_none_iff.mp free
      split at accepted
      · cases accepted
      · next apart =>
        exact ⟨parent_known, child_known, not_root, detached,
          fun above => apart (linked.mem_upwards_iff.mpr above)⟩
  · intro attachable
    rw [detachedFault?_eq_none_iff.mpr ⟨attachable.not_root, attachable.detached⟩]
    exact if_neg fun met => attachable.not_above (linked.mem_upwards_iff.mp met)

theorem Linked.append_of_attachable (linked : tree.Linked) {parent child : NodeId}
    (attachable : tree.Attachable parent child) :
    TreeEdit.append parent child tree = .ok () (tree.attach parent child) := by
  have accepted := (linked.attachFault?_eq_none_iff attachable.parent_lt_size
    attachable.child_lt_size).mpr attachable
  unfold TreeEdit.append
  rw [accepted]

/-- A new node can be attached under any other one. -/
theorem Linked.attachable_push (linked : tree.Linked) {parent : NodeId}
    (known : parent < tree.size) (content : NodeContent) :
    (tree.push content).Attachable parent tree.size := by
  refine ⟨?_, ?_, Nat.ne_of_gt linked.root_lt_size, ?_, ?_⟩
  · rw [size_push]
    exact Nat.lt_succ_of_lt known
  · rw [size_push]
    exact Nat.lt_succ_self _
  · rw [parent_push, MarkupTree.parent, node_of_size_le (Nat.le_refl _)]
    rfl
  · intro above
    -- The new node would have been above the parent before it was there.
    have old : tree.Above tree.size parent := by
      refine above.lift id fun upper lower edge => ?_
      unfold RightAbove at edge
      rw [parent_push] at edge
      exact edge
    exact Nat.lt_irrefl _ (linked.lt_size_of_above old known)

/-- The present place of a reference's node is one where the node stands. -/
theorem getElem?_of_presentIndex? {reference : Reference} {index : Nat}
    (present : reference.presentIndex? tree = some index) :
    (tree.children reference.parent)[index]? = some reference.node := by
  unfold Reference.presentIndex? at present
  split at present
  · next remembered => exact Option.some.inj present ▸ remembered
  · unfold indexOf? at present
    obtain ⟨inside, found, -⟩ := List.findIdx?_eq_some_iff_getElem.mp present
    rw [List.getElem?_eq_getElem inside, eq_of_beq found]

/-! ## §4. One call. -/

theorem Linked.after_append (linked : tree.Linked) {parent child : NodeId}
    (parent_known : parent < tree.size) (child_known : child < tree.size) :
    ((TreeEdit.append parent child).after tree).Linked := by
  rcases TreeEdit.append_cases tree parent child with ⟨checked, ran⟩ | ⟨fault, -, refused⟩
  · rw [TreeEdit.after_of_ok ran]
    exact linked.attach ((linked.attachFault?_eq_none_iff parent_known child_known).mp checked) none
  · rw [TreeEdit.after_of_error refused]
    exact linked

/-- An append leaves all names as they are. -/
theorem size_after_append (tree : MarkupTree) (parent child : NodeId) :
    ((TreeEdit.append parent child).after tree).size = tree.size := by
  rcases TreeEdit.append_cases tree parent child with ⟨-, ran⟩ | ⟨fault, -, refused⟩
  · rw [TreeEdit.after_of_ok ran, size_attach]
  · rw [TreeEdit.after_of_error refused]

/-- An adoption that is refused halfway keeps what was attached before. -/
theorem Linked.after_adopt (linked : tree.Linked) {parent : NodeId} {children : List NodeId}
    (parent_known : parent < tree.size) (known : ∀ child ∈ children, child < tree.size) :
    ((TreeEdit.adopt parent children).after tree).Linked := by
  induction children generalizing tree with
  | nil => exact linked
  | cons child rest ih =>
    have first := linked.after_append parent_known (known child List.mem_cons_self)
    have size_eq := size_after_append tree parent child
    unfold TreeEdit.adopt
    -- A refusal stops the adoption here, with the children before this one attached.
    cases appended : TreeEdit.append parent child tree with
    | error fault left =>
      rw [TreeEdit.after_of_error appended] at first
      rw [TreeEdit.after_of_error (TreeEdit.bind_of_error appended _)]
      exact first
    | ok _ left =>
      rw [TreeEdit.after_of_ok appended] at first size_eq
      have later := ih first (size_eq ▸ parent_known) fun other listed =>
        size_eq ▸ known other (List.mem_cons_of_mem _ listed)
      unfold TreeEdit.after at later ⊢
      rw [TreeEdit.bind_of_ok appended]
      exact later

theorem Linked.after_replace (linked : tree.Linked) {reference : Reference} {replacement : NodeId}
    (parent_known : reference.parent < tree.size) (known : replacement < tree.size) :
    ((reference.replace replacement).after tree).Linked := by
  rcases reference.replace_cases tree replacement with
    ⟨index, present, checked, ran⟩ | ⟨fault, -, refused⟩
  · rw [TreeEdit.after_of_ok ran]
    exact linked.replaceAt (getElem?_of_presentIndex? present)
      ((linked.attachFault?_eq_none_iff parent_known known).mp checked)
  · rw [TreeEdit.after_of_error refused]
    exact linked

theorem Linked.after_replaceWithNew (linked : tree.Linked) {reference : Reference}
    (parent_known : reference.parent < tree.size) (content : NodeContent) :
    ((reference.replaceWithNew content).after tree).Linked := by
  rcases reference.replaceWithNew_cases tree content with ⟨index, present, ran⟩ | ⟨-, refused⟩
  · rw [TreeEdit.after_of_ok ran]
    have listed : ((tree.push content).children reference.parent)[index]? =
        some reference.node := by
      rw [children_push]
      exact getElem?_of_presentIndex? present
    exact (linked.push content).replaceAt listed (linked.attachable_push parent_known content)
  · rw [TreeEdit.after_of_error refused]
    exact linked

theorem Linked.after_remove (linked : tree.Linked) (reference : Reference) :
    (reference.remove.after tree).Linked := by
  rcases reference.remove_cases tree with ⟨index, present, ran⟩ | ⟨-, refused⟩
  · rw [TreeEdit.after_of_ok ran]
    exact linked.removeAt (getElem?_of_presentIndex? present)
  · rw [TreeEdit.after_of_error refused]
    exact linked

/-- **What one call preserves**: the links fit together after it, refused or not. -/
theorem Linked.perform (linked : tree.Linked) {operation : TreeOperation}
    (known : ∀ id ∈ operation.names, id < tree.size) : (operation.perform tree).Linked := by
  cases operation with
  | create content => exact linked.push content
  | appendNew parent content =>
    have parent_known := known parent List.mem_cons_self
    exact (linked.push content).attach (linked.attachable_push parent_known content) none
  | insertNew parent index content =>
    have parent_known := known parent List.mem_cons_self
    exact (linked.push content).attach (linked.attachable_push parent_known content) (some index)
  | append parent child =>
    exact linked.after_append (known parent List.mem_cons_self)
      (known child (List.mem_cons_of_mem _ List.mem_cons_self))
  | adopt parent children =>
    exact linked.after_adopt (known parent List.mem_cons_self)
      fun child listed => known child (List.mem_cons_of_mem _ listed)
  | releaseChildren id => exact linked.detachChildren id
  | replace reference replacement =>
    refine linked.after_replace (known _ List.mem_cons_self) (known replacement ?_)
    exact List.mem_cons_of_mem _ (List.mem_cons_of_mem _ List.mem_cons_self)
  | replaceWithNew reference content =>
    exact linked.after_replaceWithNew (known _ List.mem_cons_self) content
  | remove reference => exact linked.after_remove reference
  | setContent id content => exact linked.modifyContent id fun _ => content

end MarkupTree

/-! ## §5. Runs. -/

/-- **What every run preserves**: the links of a reachable tree fit together. -/
theorem Reachable.linked {tree : MarkupTree} (reachable : Reachable tree) : tree.Linked := by
  induction reachable with
  | fresh documentKind => exact linked_ofDocumentKind documentKind
  | step operation _ known ih => exact ih.perform known

/-- A new node at the end of another one's children. -/
theorem Reachable.appendNew {tree : MarkupTree} (reachable : Reachable tree) {parent : NodeId}
    (known : parent < tree.size) (content : NodeContent) :
    Reachable (tree.appendNew parent content) :=
  reachable.step (.appendNew parent content) fun _ named => List.mem_singleton.mp named ▸ known

end ComponentMarkup
