/-
  ComponentMarkup.Proofs.Lowering.Rewrite
  ────────────────────────────────
  **Lowering as a rewrite of contents.**

  What lowering makes of a tree, without edits, references and names of nodes, and in terms of the
  kinds of nodes alone.  What stands directly under a lowered usage has moved when its own turn
  comes: a usage there stays as it is, and so does one under an expression whose value was
  unwrapped.  What stands further below is lowered all the same.

  Main statements: `kept`, the rewrite, and `flatMap_labels_kept`, by which it drops, adds and
  reorders nothing that a function of contents shows, as long as the function does not see the
  changes that lowering makes.
-/
import ComponentMarkup.Proofs.Contents.Located
import ComponentMarkup.Tree.SplatLowering

namespace ComponentMarkup

namespace RoseTree

/-! ## §1. The rewrite. -/

/-- **A usage that captures attributes**: a directive attribute, or a property that is written as a
directive, of a tag helper that does. -/
def capturesAttributes : NodeKind → Bool
  | .directiveAttribute _ helper _ => helper.isSplat
  | .helperProperty _ helper _ isDirective => isDirective && helper.isSplat
  | _ => false

mutual

/-- A node that stays as it is, with everything below it lowered. -/
def kept : ContentTree → ContentTree
  | .node content branches =>
    .node content (loweredEach (content.kind matches .component ..) branches)

/-- A node that stands where it stood before lowering: a usage becomes an attribute without a name,
and any other node stays as it is. -/
def lowered (underComponent : Bool) : ContentTree → ContentTree
  | .node content branches =>
    if capturesAttributes content.kind then
      -- What a usage captured has a new parent, so that the references to it are not live.
      if underComponent then
        .node { content with kind := .componentAttribute none (some splatTypeName) true }
          (keptEach branches)
      else .node { content with kind := .htmlAttribute none true } (wrappedEach branches)
    else .node content (loweredEach (content.kind matches .component ..) branches)

/-- A captured value under the attribute that a usage becomes outside a component: a token is held
by a value of its own, an expression becomes the value, and any other node moves as it is. -/
def wrapped : ContentTree → ContentTree
  | .node content branches =>
    match content.kind with
    -- The token keeps its children, and with them the references to these.
    | .token .. =>
      .node { kind := .expressionValue }
        [.node content (loweredEach (content.kind matches .component ..) branches)]
    | .embeddedExpression => .node { content with kind := .expressionValue } (keptEach branches)
    | _ => .node content (loweredEach (content.kind matches .component ..) branches)

/-- Nodes that stay as they are. -/
def keptEach : List ContentTree → List ContentTree
  | [] => []
  | first :: rest => first.kept :: keptEach rest

/-- Nodes that stand where they stood. -/
def loweredEach (underComponent : Bool) : List ContentTree → List ContentTree
  | [] => []
  | first :: rest => first.lowered underComponent :: loweredEach underComponent rest

/-- Captured values. -/
def wrappedEach : List ContentTree → List ContentTree
  | [] => []
  | first :: rest => first.wrapped :: wrappedEach rest

end

/-! ## §2. Its equations. -/

theorem capturesAttributes_eq (kind : NodeKind) :
    capturesAttributes kind = kind.isSplatUsage := by
  cases kind <;> rfl

theorem matches_component_eq (kind : NodeKind) :
    (kind matches .component ..) = kind.isComponent := by
  cases kind <;> rfl

theorem keptEach_eq_map (trees : List ContentTree) : keptEach trees = trees.map kept := by
  induction trees with
  | nil => rfl
  | cons first rest ih =>
    show first.kept :: keptEach rest = _
    rw [ih, List.map_cons]

theorem loweredEach_eq_map (underComponent : Bool) (trees : List ContentTree) :
    loweredEach underComponent trees = trees.map (lowered underComponent) := by
  induction trees with
  | nil => rfl
  | cons first rest ih =>
    show first.lowered underComponent :: loweredEach underComponent rest = _
    rw [ih, List.map_cons]

theorem wrappedEach_eq_map (trees : List ContentTree) :
    wrappedEach trees = trees.map wrapped := by
  induction trees with
  | nil => rfl
  | cons first rest ih =>
    show first.wrapped :: wrappedEach rest = _
    rw [ih, List.map_cons]

variable {content : NodeContent} {branches : List ContentTree}

theorem kept_node (content : NodeContent) (branches : List ContentTree) :
    kept (node content branches) =
      node content (branches.map (lowered content.kind.isComponent)) := by
  show node content (loweredEach (content.kind matches .component ..) branches) = _
  rw [loweredEach_eq_map, matches_component_eq]

@[simp] theorem label_kept (t : ContentTree) : t.kept.label = t.label := by
  cases t with
  | node content branches => rfl

theorem lowered_of_not_usage {t : ContentTree} {underComponent : Bool}
    (other : t.label.kind.isSplatUsage = false) : t.lowered underComponent = t.kept := by
  cases t with
  | node content branches =>
    rw [label_node] at other
    show (if capturesAttributes content.kind then _ else _) = _
    rw [capturesAttributes_eq, other]
    rfl

theorem lowered_under_component (usage : content.kind.isSplatUsage = true) :
    lowered true (node content branches) =
      node { content with kind := .componentSplat } (branches.map kept) := by
  show (if capturesAttributes content.kind then _ else _) = _
  rw [capturesAttributes_eq, usage, ← keptEach_eq_map]
  rfl

theorem lowered_elsewhere (usage : content.kind.isSplatUsage = true) :
    lowered false (node content branches) =
      node { content with kind := .htmlSplat } (branches.map wrapped) := by
  show (if capturesAttributes content.kind then _ else _) = _
  rw [capturesAttributes_eq, usage, ← wrappedEach_eq_map]
  rfl

theorem wrapped_of_token {t : ContentTree} {kind : TokenKind} {text : String}
    (token : t.label.kind = .token kind text) :
    t.wrapped = node { kind := .expressionValue } [t.kept] := by
  cases t with
  | node content branches =>
    obtain ⟨_, source, diagnostics⟩ := content
    rw [label_node] at token
    dsimp only at token
    rw [token]
    rfl

theorem wrapped_of_expression (expression : content.kind = .embeddedExpression) :
    wrapped (node content branches) =
      node { content with kind := .expressionValue } (branches.map kept) := by
  obtain ⟨_, source, diagnostics⟩ := content
  dsimp only at expression
  rw [expression, ← keptEach_eq_map]
  rfl

theorem wrapped_of_other {t : ContentTree}
    (not_token : ∀ kind text, t.label.kind ≠ .token kind text)
    (not_expression : t.label.kind ≠ .embeddedExpression) : t.wrapped = t.kept := by
  cases t with
  | node content branches =>
    obtain ⟨kind, source, diagnostics⟩ := content
    rw [label_node] at not_token not_expression
    cases kind with
    | token kind text => exact absurd rfl (not_token kind text)
    | embeddedExpression => exact absurd rfl not_expression
    | _ => rfl

/-- The three ways in which a captured value is treated. -/
theorem value_cases (kind : NodeKind) :
    (∃ tokenKind text, kind = .token tokenKind text) ∨ kind = .embeddedExpression
      ∨ ((∀ tokenKind text, kind ≠ .token tokenKind text) ∧ kind ≠ .embeddedExpression) := by
  by_cases expression : kind = .embeddedExpression
  · exact Or.inr (Or.inl expression)
  · by_cases token : ∃ tokenKind text, kind = .token tokenKind text
    · exact Or.inl token
    · refine Or.inr (Or.inr ⟨fun tokenKind text same => token ⟨tokenKind, text, same⟩, expression⟩)

/-! ## §3. What lowering does not change. -/

/-- The function of contents does not see what lowering changes. -/
structure BlindToLowering {β : Type} (f : NodeContent → List β) : Prop where
  componentSplat : ∀ content : NodeContent, content.kind.isSplatUsage = true →
    f { content with kind := .componentSplat } = f content
  htmlSplat : ∀ content : NodeContent, content.kind.isSplatUsage = true →
    f { content with kind := .htmlSplat } = f content
  expressionValue : ∀ content : NodeContent, content.kind = .embeddedExpression →
    f { content with kind := .expressionValue } = f content
  newValue : f { kind := .expressionValue } = []

/-- Branches that show the same after a rewrite show the same together. -/
theorem flatMap_labels_map {β : Type} {f : NodeContent → List β}
    {rewrite : ContentTree → ContentTree} {branches : List ContentTree}
    (each : ∀ branch ∈ branches, (rewrite branch).labels.flatMap f = branch.labels.flatMap f) :
    ((branches.map rewrite).flatMap labels).flatMap f = (branches.flatMap labels).flatMap f := by
  rw [List.flatMap_assoc, List.flatMap_assoc, List.flatMap_map, List.flatMap_def,
    List.flatMap_def]
  exact congrArg List.flatten (List.map_congr_left each)

/-- **In every place that a tree can have**, lowering leaves what such a function shows. -/
theorem flatMap_labels_rewritten {β : Type} {f : NodeContent → List β} (blind : BlindToLowering f)
    (t : ContentTree) :
    t.kept.labels.flatMap f = t.labels.flatMap f
      ∧ (∀ underComponent, (t.lowered underComponent).labels.flatMap f = t.labels.flatMap f)
      ∧ t.wrapped.labels.flatMap f = t.labels.flatMap f := by
  induction t using RoseTree.induction with
  | node content branches ih =>
    have keeps : (kept (node content branches)).labels.flatMap f =
        (node content branches).labels.flatMap f := by
      rw [kept_node, labels_node, labels_node, List.flatMap_cons, List.flatMap_cons,
        flatMap_labels_map fun branch listed => (ih branch listed).2.1 _]
    -- The three places are proved together, since each of them asks for another one below.
    refine ⟨keeps, fun underComponent => ?_, ?_⟩
    · cases usage : content.kind.isSplatUsage with
      | false => rw [lowered_of_not_usage (t := node content branches) usage, keeps]
      | true =>
        cases underComponent with
        | true =>
          rw [lowered_under_component usage, labels_node, labels_node, List.flatMap_cons,
            List.flatMap_cons, blind.componentSplat content usage,
            flatMap_labels_map fun branch listed => (ih branch listed).1]
        | false =>
          rw [lowered_elsewhere usage, labels_node, labels_node, List.flatMap_cons,
            List.flatMap_cons, blind.htmlSplat content usage,
            flatMap_labels_map fun branch listed => (ih branch listed).2.2]
    · rcases value_cases content.kind with ⟨kind, text, token⟩ | expression | ⟨not_token, not_expr⟩
      · rw [wrapped_of_token (t := node content branches) token, labels_node, List.flatMap_cons,
          blind.newValue, List.nil_append, List.flatMap_cons, List.flatMap_nil, List.append_nil,
          keeps]
      · rw [wrapped_of_expression expression, labels_node, labels_node, List.flatMap_cons,
          List.flatMap_cons, blind.expressionValue content expression,
          flatMap_labels_map fun branch listed => (ih branch listed).1]
      · rw [wrapped_of_other (t := node content branches) not_token not_expr, keeps]

/-- **The rewrite leaves what such a function shows.** -/
theorem flatMap_labels_kept {β : Type} {f : NodeContent → List β} (blind : BlindToLowering f)
    (t : ContentTree) : t.kept.labels.flatMap f = t.labels.flatMap f :=
  (flatMap_labels_rewritten blind t).1

/-- What is reported is not seen by lowering. -/
theorem blind_diagnostics : BlindToLowering NodeContent.diagnostics :=
  ⟨fun _ _ => rfl, fun _ _ => rfl, fun _ _ => rfl, rfl⟩

/-- No usage and no expression is a document, and neither is what it becomes. -/
theorem blind_isDocument :
    BlindToLowering fun content => if content.kind.isDocument then [content.kind] else [] := by
  have no_document : ∀ kind : NodeKind, kind.isSplatUsage = true → kind.isDocument = false := by
    intro kind usage
    cases kind with
    | document documentKind => cases usage
    | _ => rfl
  refine ⟨fun content usage => ?_, fun content usage => ?_, fun content expression => ?_, rfl⟩
  · rw [no_document content.kind usage]
    rfl
  · rw [no_document content.kind usage]
    rfl
  · rw [expression]
    rfl

end RoseTree

end ComponentMarkup
