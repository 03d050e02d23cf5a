/-
  ComponentMarkup.Proofs.Lowering.Preservation
  ────────────────────────────────
  **Lowering through any references loses nothing.**

  The references may be stale, repeated, wrong about the place, or about nodes that are not
  attached: each is followed only if its node stands under its parent when its turn comes, and
  then one attribute takes the place of one node.  What a walk shows of the tree, node by node,
  can only change where that node was, so it is enough to compare the node with the attribute.

  Lists are compared in three ways: by equality, for the reports and the tokens; as a part of one
  another, for the documents; and by what is missing, for the nodes that stay attached.
  `Concatenative` is what the argument needs to know of such a comparison.

  Main statements: `Replaced.shown_related` for one usage, `Linked.lowerSplat_preserves` for one
  reference, and `Reachable.lowerSplats_lossless` for any list of references.
-/
import ComponentMarkup.Proofs.Lowering.Settling

namespace ComponentMarkup

open MarkupTree Relation

/-! ## §1. What a walk shows. -/

/-- A comparison of lists that can be made part by part. -/
structure Concatenative {β : Type} (r : List β → List β → Prop) : Prop where
  refl : ∀ list, r list list
  append : ∀ {first first' later later'}, r first first' → r later later' →
    r (first ++ later) (first' ++ later')

namespace Concatenative

variable {β : Type} {r : List β → List β → Prop}

theorem of_eq : Concatenative (Eq : List β → List β → Prop) where
  refl _ := rfl
  append same same' := by rw [same, same']

theorem of_sublist : Concatenative (fun first later : List β => later.Sublist first) where
  refl _ := List.Sublist.refl _
  append within within' := within.append within'

/-- Nothing is missing later, but for what is given up. -/
theorem of_mem_or (lost : β → Prop) :
    Concatenative (fun first later : List β => ∀ x ∈ first, x ∈ later ∨ lost x) where
  refl _ _ listed := Or.inl listed
  append found found' := by
    intro x listed
    rcases List.mem_append.mp listed with early | late
    · exact (found x early).imp_left (List.mem_append_left _)
    · exact (found' x late).imp_left (List.mem_append_right _)

theorem flatMap (concatenative : Concatenative r) {α : Type} {list : List α} {f g : α → List β}
    (each : ∀ x ∈ list, r (f x) (g x)) : r (list.flatMap f) (list.flatMap g) := by
  induction list with
  | nil => exact concatenative.refl []
  | cons x rest ih =>
    obtain ⟨here, later⟩ := List.forall_mem_cons.mp each
    rw [List.flatMap_cons, List.flatMap_cons]
    exact concatenative.append here (ih later)

end Concatenative

namespace MarkupTree

variable {tree left between : MarkupTree} {β : Type} {f : Spot → List β}
  {r : List β → List β → Prop}

/-- What a walk from a node downwards shows, if every node met shows something of its own. -/
def shown (tree : MarkupTree) (f : Spot → List β) (id : NodeId) : List β :=
  (id :: tree.descendants id).flatMap fun id => f ⟨id, tree.content id⟩

/-- A node shows what it has of its own, and then what its children show. -/
theorem Linked.shown_eq (linked : tree.Linked) (f : Spot → List β) (id : NodeId) :
    tree.shown f id =
      f ⟨id, tree.content id⟩ ++ (tree.children id).flatMap (tree.shown f) := by
  unfold shown
  rw [List.flatMap_cons, linked.descendants_eq, List.flatMap_assoc]

/-- What is held shows what its labels say. -/
theorem Holds.shown_eq {t : LocatedTree} (held : tree.Holds t) (linked : tree.Linked)
    (f : Spot → List β) : tree.shown f t.top = t.labels.flatMap f := by
  induction held with
  | @node spot branches known content children held ih =>
    rw [linked.shown_eq, RoseTree.top_node, content, children, RoseTree.labels_node,
      List.flatMap_cons, List.flatMap_map, List.flatMap_assoc]
    congr 1
    rw [List.flatMap_def, List.flatMap_def]
    exact congrArg List.flatten (List.map_congr_left ih)

/-! ## §2. One attribute for one usage. -/

section Replacement

variable {parent : NodeId} {usage replacement : LocatedTree}

/-- A node away from the usage has no other children in it. -/
theorem Holds.not_mem_ids_of_parent (held : tree.Holds usage) (linked : tree.Linked)
    {id child : NodeId} (outside : id ∉ usage.ids) (listed : child ∈ tree.children id)
    (other : child ≠ usage.top) : child ∉ usage.ids := by
  intro inside
  rcases ((held.mem_ids_iff linked).mp inside).cases_tail with same | ⟨upper, above, last⟩
  · exact other same
  · unfold RightAbove at last
    have upper_eq : upper = id :=
      Option.some.inj (last.symm.trans (linked.rightAbove_of_mem listed))
    exact outside ((held.mem_ids_iff linked).mpr (upper_eq ▸ above))

/-- **What a walk shows** changes only where the usage was. -/
theorem Replaced.shown_related (replaced : tree.Replaced left parent usage replacement)
    (linked : tree.Linked) (held : tree.Holds usage) (listed : usage.top ∈ tree.children parent)
    (concatenative : Concatenative r)
    (here : r (usage.labels.flatMap f) (replacement.labels.flatMap f)) {id : NodeId}
    (known : id < tree.size) (outside : id ∉ usage.ids) :
    r (tree.shown f id) (left.shown f id) := by
  induction id using linked.induction_from_children with
  | node id ih =>
    have child_related : ∀ child ∈ tree.children id, child ≠ usage.top →
        r (tree.shown f child) (left.shown f child) := fun child listed other =>
      ih child listed (linked.lt_size_of_mem listed)
        (held.not_mem_ids_of_parent linked outside listed other)
    rw [linked.shown_eq, replaced.linked.shown_eq]
    by_cases at_parent : id = parent
    · -- The attribute stands where the usage stood, between the same siblings.
      subst at_parent
      obtain ⟨before, after, around⟩ := List.append_of_mem listed
      have nodup := linked.nodup_children id
      rw [around, List.nodup_middle, List.nodup_cons, List.mem_append, not_or] at nodup
      rw [around] at child_related
      rw [replaced.content_eq, replaced.siblings before after around, around]
      rw [List.flatMap_append, List.flatMap_append, List.flatMap_cons, List.flatMap_cons,
        held.shown_eq linked, replaced.held.shown_eq replaced.linked]
      refine concatenative.append (concatenative.refl _) (concatenative.append ?_
        (concatenative.append here ?_))
      · refine concatenative.flatMap fun child early => child_related child ?_ fun same => ?_
        · exact List.mem_append_left _ early
        · exact nodup.1.1 (same ▸ early)
      · refine concatenative.flatMap fun child late => child_related child ?_ fun same => ?_
        · exact List.mem_append_right _ (List.mem_cons_of_mem _ late)
        · exact nodup.1.2 (same ▸ late)
    · have apart : id ∉ parent :: usage.ids := by
        rw [List.mem_cons, not_or]
        exact ⟨at_parent, outside⟩
      rw [replaced.spares.content_eq known apart, replaced.spares.children_eq known apart]
      refine concatenative.append (concatenative.refl _) (concatenative.flatMap ?_)
      intro child child_listed
      refine child_related child child_listed fun same => at_parent ?_
      subst same
      exact Option.some.inj ((linked.rightAbove_of_mem child_listed).symm.trans
        (linked.rightAbove_of_mem listed))

/-- The walk of the whole tree meets the usage below the root, if at all. -/
theorem Replaced.shown_root_related (replaced : tree.Replaced left parent usage replacement)
    (linked : tree.Linked) (held : tree.Holds usage) (listed : usage.top ∈ tree.children parent)
    (concatenative : Concatenative r)
    (here : r (usage.labels.flatMap f) (replacement.labels.flatMap f)) :
    r (tree.shown f root) (left.shown f root) := by
  refine replaced.shown_related linked held listed concatenative here linked.root_lt_size ?_
  intro inside
  have same := Linked.eq_of_above_of_parent_eq_none ((held.mem_ids_iff linked).mp inside)
    linked.parent_root
  exact linked.root_not_mem parent (same ▸ listed)

end Replacement

/-! ## §3. The attribute and the usage. -/

/-- A captured value and what becomes of it: a token gets a value over it, and an expression makes
way for one. -/
theorem Wraps.labels_related {value wrap : LocatedTree} (wraps : Wraps value wrap)
    (concatenative : Concatenative r) (fresh : ∀ id, r [] (f ⟨id, { kind := .expressionValue }⟩))
    (expression : value.kind = .embeddedExpression → ∀ id,
      r (f value.label) (f ⟨id, { value.label.content with kind := .expressionValue }⟩)) :
    r (value.labels.flatMap f) (wrap.labels.flatMap f) := by
  cases wraps with
  | token id token =>
    rw [RoseTree.labels_node, List.flatMap_cons, List.flatMap_singleton]
    exact concatenative.append (fresh id) (concatenative.refl _)
  | expression id is_expression =>
    rw [RoseTree.labels_node, RoseTree.labels_node, List.flatMap_cons, List.flatMap_cons]
    exact concatenative.append (expression is_expression id) (concatenative.refl _)
  | other => exact concatenative.refl _

/-- A usage and the attribute that takes its place. -/
theorem Rebuilt.labels_related {underComponent : Bool} {usage replacement : LocatedTree}
    (rebuilt : Rebuilt underComponent usage replacement) (concatenative : Concatenative r)
    (splat : ∀ id kind, kind = .componentSplat ∨ kind = .htmlSplat →
      r (f usage.label) (f ⟨id, { usage.label.content with kind := kind }⟩))
    (fresh : ∀ id, r [] (f ⟨id, { kind := .expressionValue }⟩))
    (expression : underComponent = false → ∀ value ∈ usage.branches,
      value.kind = .embeddedExpression → ∀ id,
        r (f value.label) (f ⟨id, { value.label.content with kind := .expressionValue }⟩)) :
    r (usage.labels.flatMap f) (replacement.labels.flatMap f) := by
  cases rebuilt with
  | component id =>
    rw [RoseTree.labels_node, RoseTree.labels_node, List.flatMap_cons, List.flatMap_cons]
    exact concatenative.append (splat id _ (Or.inl rfl)) (concatenative.refl _)
  | @elsewhere spot branches wraps id shapes =>
    rw [RoseTree.labels_node, RoseTree.labels_node, List.flatMap_cons, List.flatMap_cons]
    refine concatenative.append (splat id _ (Or.inr rfl)) ?_
    have unwrapped := expression rfl
    rw [RoseTree.branches_node] at unwrapped
    clear splat expression
    induction shapes with
    | nil => exact concatenative.refl _
    | cons wrap _ ih =>
      obtain ⟨here, later⟩ := List.forall_mem_cons.mp unwrapped
      rw [List.flatMap_cons, List.flatMap_cons, List.flatMap_append, List.flatMap_append]
      exact concatenative.append (wrap.labels_related concatenative fresh here) (ih later)

end MarkupTree

/-! ## §4. Kinds. -/

namespace TreeEdit

variable {α β : Type}

/-- An edit that is not refused loses no node and leaves the kind of every old one as it is. -/
def KeepsKinds (edit : TreeEdit α) : Prop :=
  ∀ {tree value left}, edit tree = .ok value left →
    tree.size ≤ left.size ∧ ∀ id < tree.size, left.kind id = tree.kind id

namespace KeepsKinds

theorem of_same_kinds {edit : TreeEdit α} (change : MarkupTree → MarkupTree)
    (changes : ∀ {tree value left}, edit tree = .ok value left → left = change tree)
    (size_eq : ∀ tree, (change tree).size = tree.size)
    (kind_eq : ∀ tree id, (change tree).kind id = tree.kind id) : KeepsKinds edit := by
  intro tree value left ran
  rw [changes ran, size_eq]
  exact ⟨Nat.le_refl _, fun id _ => kind_eq tree id⟩

theorem pure (value : α) : KeepsKinds (Pure.pure value : TreeEdit α) :=
  of_same_kinds id (fun ran => by cases ran; rfl) (fun _ => rfl) fun _ _ => rfl

theorem get : KeepsKinds (MonadState.get : TreeEdit MarkupTree) :=
  of_same_kinds id (fun ran => by cases ran; rfl) (fun _ => rfl) fun _ _ => rfl

theorem bind {edit : TreeEdit α} {next : α → TreeEdit β} (keeps : KeepsKinds edit)
    (keeps_next : ∀ value, KeepsKinds (next value)) : KeepsKinds (edit >>= next) := by
  intro tree value left ran
  cases first : edit tree with
  | error fault stopped =>
    rw [bind_of_error first] at ran
    cases ran
  | ok middle between =>
    rw [bind_of_ok first] at ran
    obtain ⟨size_le, kind_eq⟩ := keeps first
    obtain ⟨size_le', kind_eq'⟩ := keeps_next middle ran
    refine ⟨Nat.le_trans size_le size_le', fun id known => ?_⟩
    rw [kind_eq' id (Nat.lt_of_lt_of_le known size_le), kind_eq id known]

theorem discard {edit : TreeEdit α} (keeps : KeepsKinds edit) :
    KeepsKinds (Functor.discard edit : TreeEdit Unit) := by
  intro tree value left ran
  cases first : edit tree with
  | error fault stopped =>
    have refused : (Functor.discard edit : TreeEdit Unit) tree = .error fault stopped := by
      show EStateM.map (Function.const α ()) edit tree = _
      unfold EStateM.map
      rw [first]
    rw [refused] at ran
    cases ran
  | ok middle between =>
    rw [discard_of_ok first] at ran
    cases ran
    exact keeps first

theorem create (content : NodeContent) : KeepsKinds (create content) := by
  intro tree value left ran
  cases ran
  rw [size_push]
  refine ⟨Nat.le_succ _, fun id known => ?_⟩
  unfold kind
  rw [content_push, if_neg (Nat.ne_of_lt known)]

theorem releaseChildren (id : NodeId) : KeepsKinds (releaseChildren id) :=
  of_same_kinds (·.detachChildren id) (fun ran => by cases ran; rfl)
    (fun _ => size_detachChildren ..) fun tree other => kind_detachChildren tree id other

theorem append (parent child : NodeId) : KeepsKinds (append parent child) := by
  refine of_same_kinds (·.attach parent child) (fun {tree value left} ran => ?_)
    (fun _ => size_attach ..) fun tree id => congrArg NodeContent.kind (content_attach ..)
  rcases append_cases tree parent child with ⟨-, accepted⟩ | ⟨fault, -, refused⟩
  · exact (EStateM.Result.ok.inj (ran.symm.trans accepted)).2
  · rw [refused] at ran
    cases ran

theorem adopt (parent : NodeId) (children : List NodeId) : KeepsKinds (adopt parent children) := by
  induction children with
  | nil => exact pure ()
  | cons child rest ih => exact bind (append parent child) fun _ => ih

/-- The rest of an expression keeps its kind. -/
theorem emptyContent (id : NodeId) :
    KeepsKinds (modify (·.modifyContent id fun content => { kind := content.kind })) := by
  refine of_same_kinds (·.modifyContent id fun content => { kind := content.kind })
    (fun ran => by cases ran; rfl) (fun _ => size_modifyContent ..) fun tree other => ?_
  unfold kind
  rw [content_modifyContent]
  split <;> rfl

theorem wrapValue (attributeId child : NodeId) : KeepsKinds (wrapValue attributeId child) := by
  unfold TreeEdit.wrapValue
  refine bind get fun tree => ?_
  dsimp only
  split
  · exact bind (create _) fun value => bind (append value child) fun _ => append attributeId value
  · exact bind (emptyContent child) fun _ => bind (releaseChildren child) fun inner =>
      bind (create _) fun value => bind (adopt value inner) fun _ => append attributeId value
  · exact append attributeId child

theorem wrapValues (attributeId : NodeId) (children : List NodeId) :
    KeepsKinds (wrapValues attributeId children) := by
  induction children with
  | nil => exact pure ()
  | cons child rest ih => exact bind (wrapValue attributeId child) fun _ => ih

theorem lowerUsage (parent usage : NodeId) : KeepsKinds (lowerUsage parent usage) := by
  unfold TreeEdit.lowerUsage
  refine bind get fun _ => bind (releaseChildren usage) fun children => bind get fun _ => ?_
  split
  · exact bind (create _) fun splat => bind (adopt splat children) fun _ => pure splat
  · exact bind (create _) fun splat => bind (wrapValues splat children) fun _ => pure splat

theorem replace (reference : Reference) (replacement : NodeId) :
    KeepsKinds (reference.replace replacement) := by
  intro tree value left ran
  rcases reference.replace_cases tree replacement with
    ⟨index, -, -, accepted⟩ | ⟨fault, -, refused⟩
  · rw [accepted] at ran
    cases ran
    rw [size_replaceAt]
    exact ⟨Nat.le_refl _, fun id _ => congrArg NodeContent.kind (content_replaceAt ..)⟩
  · rw [refused] at ran
    cases ran

/-- **Lowering a usage changes no kind**: it makes new nodes. -/
theorem lowerSplat (reference : Reference) : KeepsKinds (lowerSplat reference) := by
  unfold TreeEdit.lowerSplat
  refine bind get fun _ => ?_
  split
  · exact bind (lowerUsage _ _) fun replacement =>
      bind (discard (replace reference replacement)) fun _ => pure true
  · exact pure false

end KeepsKinds

end TreeEdit

/-! ## §5. What is preserved. -/

namespace MarkupTree

variable {tree between left : MarkupTree}

/-- The attached tokens in the order of a walk, each with its name and its content. -/
def tokens (tree : MarkupTree) : List Spot :=
  tree.walk.flatMap fun id => if (tree.kind id).isToken then [⟨id, tree.content id⟩] else []

/-- The attached documents in the order of a walk. -/
def documentNodes (tree : MarkupTree) : List NodeId :=
  tree.walk.flatMap fun id => if (tree.kind id).isDocument then [id] else []

theorem mem_documentNodes_iff {id : NodeId} :
    id ∈ tree.documentNodes ↔ id ∈ tree.walk ∧ (tree.kind id).isDocument = true := by
  unfold documentNodes
  rw [List.mem_flatMap]
  constructor
  · rintro ⟨other, met, listed⟩
    split at listed
    · next document => exact List.mem_singleton.mp listed ▸ ⟨met, document⟩
    · exact absurd listed List.not_mem_nil
  · rintro ⟨met, document⟩
    exact ⟨id, met, by rw [if_pos document]; exact List.mem_singleton.mpr rfl⟩

/-- The second tree is the first one after some lowering: the links fit together, no old node has
another kind, the same is reported, and no document has come in.  The tokens are the same under the
condition, and only the nodes with the property are no longer attached. -/
structure Preserves (tokensStay : Prop) (lost : NodeId → Prop) (tree left : MarkupTree) :
    Prop where
  linked : left.Linked
  size_le : tree.size ≤ left.size
  kind_eq : ∀ id < tree.size, left.kind id = tree.kind id
  diagnostics_eq : left.diagnostics = tree.diagnostics
  documents : left.documentNodes.Sublist tree.documentNodes
  tokens_eq : tokensStay → left.tokens = tree.tokens
  attached : ∀ id ∈ tree.walk, id ∈ left.walk ∨ lost id

namespace Preserves

theorem refl (linked : tree.Linked) (tokensStay : Prop) (lost : NodeId → Prop) :
    Preserves tokensStay lost tree tree where
  linked := linked
  size_le := Nat.le_refl _
  kind_eq _ _ := rfl
  diagnostics_eq := rfl
  documents := List.Sublist.refl _
  tokens_eq _ := rfl
  attached _ met := Or.inl met

/-- One after the other. -/
theorem trans {tokensStay tokensStay' both : Prop} {lost lost' either : NodeId → Prop}
    (first : Preserves tokensStay lost tree between)
    (second : Preserves tokensStay' lost' between left)
    (tokens_first : both → tokensStay) (tokens_second : both → tokensStay')
    (lost_first : ∀ id, lost id → either id) (lost_second : ∀ id, lost' id → either id) :
    Preserves both either tree left where
  linked := second.linked
  size_le := Nat.le_trans first.size_le second.size_le
  kind_eq id known := by
    rw [second.kind_eq id (Nat.lt_of_lt_of_le known first.size_le), first.kind_eq id known]
  diagnostics_eq := second.diagnostics_eq.trans first.diagnostics_eq
  documents := second.documents.trans first.documents
  tokens_eq stay := by
    rw [second.tokens_eq (tokens_second stay), first.tokens_eq (tokens_first stay)]
  attached id met := by
    rcases first.attached id met with still | gone
    · exact (second.attached id still).imp_right (lost_second id)
    · exact Or.inr (lost_first id gone)

/-- A tree that validation accepts is still accepted: its documents are its root. -/
theorem validate_ok {tokensStay : Prop} {lost : NodeId → Prop}
    (preserves : Preserves tokensStay lost tree left) (linked : tree.Linked)
    (accepted : tree.validate = .ok ()) : left.validate = .ok () := by
  obtain ⟨document, no_other⟩ := linked.validate_eq_ok_iff_documents.mp accepted
  refine preserves.linked.validate_eq_ok_iff_documents.mpr ⟨?_, fun id met below other => ?_⟩
  · rw [preserves.kind_eq root linked.root_lt_size]
    exact document
  · have listed := preserves.documents.subset (mem_documentNodes_iff.mpr ⟨met, other⟩)
    obtain ⟨met, other⟩ := mem_documentNodes_iff.mp listed
    exact no_other id met below other

end Preserves

/-! ## §6. One reference. -/

/-- **What a reference gives up**: it is live, and the node is the one that it refers to, or else an
expression right below that, when the parent is no component. -/
def GivesUp (tree : MarkupTree) (reference : Reference) (id : NodeId) : Prop :=
  reference.isLive tree = true
    ∧ (id = reference.node
      ∨ (tree.kind reference.parent).isComponent = false
        ∧ id ∈ tree.children reference.node ∧ tree.kind id = .embeddedExpression)

section Replacement

variable {usage replacement : LocatedTree} {reference : Reference}

/-- The attribute carries the reports of the usage, and a value those of its expression. -/
theorem Replaced.diagnostics_eq (replaced : tree.Replaced left reference.parent usage replacement)
    (linked : tree.Linked) (held : tree.Holds usage)
    (stands : usage.top ∈ tree.children reference.parent) :
    left.diagnostics = tree.diagnostics := by
  have related := replaced.shown_root_related (f := fun spot => spot.content.diagnostics)
    linked held stands .of_eq
    (replaced.shape.labels_related .of_eq (fun _ _ _ => rfl) (fun _ => rfl) fun _ _ _ _ _ => rfl)
  exact related.symm

/-- Neither the attribute nor a value is a document. -/
theorem Replaced.documentNodes_sublist
    (replaced : tree.Replaced left reference.parent usage replacement) (linked : tree.Linked)
    (held : tree.Holds usage) (stands : usage.top ∈ tree.children reference.parent) :
    left.documentNodes.Sublist tree.documentNodes := by
  refine replaced.shown_root_related
    (f := fun spot => if spot.content.kind.isDocument then [spot.id] else [])
    linked held stands .of_sublist (replaced.shape.labels_related .of_sublist ?_ ?_ ?_)
  · rintro id kind (rfl | rfl)
    · exact List.nil_sublist _
    · exact List.nil_sublist _
  · exact fun id => List.nil_sublist _
  · exact fun _ _ _ _ id => List.nil_sublist _

/-- Neither the attribute nor a value is a token, and what makes way for a value is none. -/
theorem Replaced.tokens_eq (replaced : tree.Replaced left reference.parent usage replacement)
    (linked : tree.Linked) (held : tree.Holds usage)
    (stands : usage.top ∈ tree.children reference.parent)
    (not_token : (tree.kind usage.top).isToken = false) : left.tokens = tree.tokens := by
  have usage_kind : ¬ usage.label.content.kind.isToken = true := by
    rw [held.kind_top] at not_token
    exact Bool.not_eq_true _ ▸ not_token
  refine (replaced.shown_root_related
    (f := fun spot => if spot.content.kind.isToken then [spot] else [])
    linked held stands .of_eq (replaced.shape.labels_related .of_eq ?_ ?_ ?_)).symm
  · rintro id kind (rfl | rfl)
    · exact if_neg usage_kind
    · exact if_neg usage_kind
  · exact fun id => rfl
  · intro _ value _ expression id
    have value_kind : value.label.content.kind = .embeddedExpression := expression
    simp [value_kind, NodeKind.isToken]

/-- Only the usage and the expressions whose values were unwrapped are no longer attached. -/
theorem Replaced.mem_walk_or_givesUp
    (replaced : tree.Replaced left reference.parent usage replacement) (linked : tree.Linked)
    (held : tree.Holds usage) (node_eq : usage.top = reference.node)
    (listed : reference.node ∈ tree.children reference.parent) {id : NodeId}
    (met : id ∈ tree.walk) : id ∈ left.walk ∨ tree.GivesUp reference id := by
  have live : reference.isLive tree = true := Reference.isLive_iff.mpr listed
  have related := replaced.shown_root_related (f := fun spot => [spot.id]) linked held
    (node_eq ▸ listed) (.of_mem_or (tree.GivesUp reference))
    (replaced.shape.labels_related (.of_mem_or _) ?_ ?_ ?_)
  · simp only [shown, List.flatMap_singleton'] at related
    exact related id met
  · intro id kind _ x there
    exact Or.inr ⟨live, Or.inl ((List.mem_singleton.mp there).trans node_eq)⟩
  · exact fun id x there => absurd there List.not_mem_nil
  · intro elsewhere value inside expression id x there
    cases usage with
    | node spot branches =>
      refine Or.inr ⟨live, Or.inr ⟨elsewhere, ?_, ?_⟩⟩
      · rw [← node_eq, RoseTree.top_node, held.children_eq, List.mem_singleton.mp there]
        exact List.mem_map_of_mem inside
      · rw [List.mem_singleton.mp there, ← expression]
        exact (held.branch inside).kind_top

end Replacement

/-- **What one reference preserves**, whatever it refers to. -/
theorem Linked.lowerSplat_preserves (linked : tree.Linked) (reference : Reference) :
    ∃ lowered left, TreeEdit.lowerSplat reference tree = .ok lowered left
      ∧ Preserves ((tree.kind reference.node).isToken = false) (tree.GivesUp reference)
        tree left := by
  by_cases listed : reference.node ∈ tree.children reference.parent
  · obtain ⟨usage, node_eq, held⟩ := linked.exists_holds (linked.lt_size_of_mem listed)
    obtain ⟨left, replacement, ran, replaced⟩ :=
      held.lowerSplat linked node_eq.symm (node_eq.symm ▸ listed)
    have stands : usage.top ∈ tree.children reference.parent := node_eq ▸ listed
    obtain ⟨size_le, kind_eq⟩ := TreeEdit.KeepsKinds.lowerSplat reference ran
    exact ⟨true, left, ran, {
      linked := replaced.linked
      size_le := size_le
      kind_eq := kind_eq
      diagnostics_eq := replaced.diagnostics_eq linked held stands
      documents := replaced.documentNodes_sublist linked held stands
      tokens_eq := fun not_token => replaced.tokens_eq linked held stands (node_eq ▸ not_token)
      attached := fun _ met => replaced.mem_walk_or_givesUp linked held node_eq listed met }⟩
  · exact ⟨false, tree, TreeEdit.lowerSplat_of_stale listed, .refl linked _ _⟩

/-! ## §7. Any list of references. -/

/-- **What a run through some references gives up**: what one of them gives up of the tree as the
references before it have left it. -/
def LosesThrough (tree : MarkupTree) (references : List Reference) (id : NodeId) : Prop :=
  ∃ before reference after between, references = before ++ reference :: after
    ∧ Lowers before tree between ∧ between.GivesUp reference id

/-- **What a run preserves**: every reference meets the tree that the ones before it have left, and
nothing is asked of that tree but that its links fit together. -/
theorem Linked.lowerSplats_preserves (linked : tree.Linked) {references : List Reference}
    (known : ∀ reference ∈ references, reference.node < tree.size) :
    ∃ count left, TreeEdit.lowerSplats references tree = .ok count left
      ∧ Preserves (∀ reference ∈ references, (tree.kind reference.node).isToken = false)
        (tree.LosesThrough references) tree left := by
  induction references generalizing tree with
  | nil => exact ⟨0, tree, rfl, .refl linked _ _⟩
  | cons reference rest ih =>
    obtain ⟨lowered, next, first, preserves⟩ := linked.lowerSplat_preserves reference
    obtain ⟨here, later⟩ := List.forall_mem_cons.mp known
    obtain ⟨count, left, others, preserves'⟩ := ih preserves.linked fun other listed =>
      Nat.lt_of_lt_of_le (later other listed) preserves.size_le
    refine ⟨if lowered then count + 1 else count, left, ?_, preserves.trans preserves' ?_ ?_ ?_ ?_⟩
    · unfold TreeEdit.lowerSplats
      rw [TreeEdit.bind_of_ok first, TreeEdit.bind_of_ok others]
      rfl
    · exact fun none_token => none_token reference List.mem_cons_self
    · intro none_token other listed
      rw [preserves.kind_eq _ (later other listed)]
      exact none_token other (List.mem_cons_of_mem _ listed)
    · exact fun id gone => ⟨[], reference, rest, tree, rfl, .nil tree, gone⟩
    · rintro id ⟨before, other, after, between, rfl, lowers, gone⟩
      exact ⟨reference :: before, other, after, between, rfl, .cons first lowers, gone⟩

end MarkupTree

/-! ## §8. Reachable trees. -/

/-- **Lowering through any references loses nothing.**  Whatever existing nodes the references name,
and however the tree came about, the run is not refused; the links fit together after it, and
validation accepts what it accepted before; the same is reported about the attached nodes, in the
same order; and the attached tokens are the same ones in the same order, if no reference is to a
token.  A node that is not attached any more is the node of a reference that was live in its turn,
or an expression that stood right below one whose parent is no component. -/
theorem Reachable.lowerSplats_lossless {tree : MarkupTree} (reachable : Reachable tree)
    {references : List Reference}
    (known : ∀ reference ∈ references,
      reference.parent < tree.size ∧ reference.node < tree.size) :
    ∃ count left, TreeEdit.lowerSplats references tree = .ok count left
      ∧ left.Linked
      ∧ (tree.validate = .ok () → left.validate = .ok ())
      ∧ left.diagnostics = tree.diagnostics
      ∧ ((∀ reference ∈ references, (tree.kind reference.node).isToken = false) →
        left.tokens = tree.tokens)
      ∧ ∀ id ∈ tree.walk, id ∉ left.walk → tree.LosesThrough references id := by
  obtain ⟨count, left, ran, preserves⟩ :=
    reachable.linked.lowerSplats_preserves fun reference listed => (known reference listed).2
  refine ⟨count, left, ran, preserves.linked, preserves.validate_ok reachable.linked,
    preserves.diagnostics_eq, preserves.tokens_eq, fun id met gone => ?_⟩
  exact (preserves.attached id met).resolve_left gone

/-- An element in an element, with a token and with an expression around another one. -/
def wrappedTokens : MarkupTree :=
  (((((MarkupTree.ofFileKind .component).appendNew root
    { kind := .markupElement "div" }).appendNew 1
    { kind := .markupElement "span" }).appendNew 2
    { kind := .token .code "first" }).appendNew 2
    { kind := .embeddedExpression }).appendNew 4
    { kind := .token .code "second" }

theorem reachable_wrappedTokens : Reachable wrappedTokens :=
  (((((Reachable.fresh _).appendNew (by decide) _).appendNew (by decide) _).appendNew
    (by decide) _).appendNew (by decide) _).appendNew (by decide) _

/-- References with a wrong place, to the same node again, and to a child that is going to move. -/
def carelessReferences : List Reference := [⟨1, 2, 9⟩, ⟨1, 2, 0⟩, ⟨2, 4, 1⟩]

/-- The tokens are still there, in the same order, and the tree is still in good shape. -/
theorem lowerSplats_lossless_wrappedTokens :
    ∃ count left, TreeEdit.lowerSplats carelessReferences wrappedTokens = .ok count left
      ∧ left.validate = .ok ()
      ∧ left.tokens.map Spot.id = [3, 5] := by
  have known : ∀ reference ∈ carelessReferences,
      reference.parent < wrappedTokens.size ∧ reference.node < wrappedTokens.size := by decide
  obtain ⟨count, left, ran, -, accepted, -, tokens_eq, -⟩ :=
    Reachable.lowerSplats_lossless reachable_wrappedTokens known
  refine ⟨count, left, ran, accepted rfl, ?_⟩
  rw [tokens_eq (by decide)]
  rfl

end ComponentMarkup
