/-
  ComponentMarkup.Proofs.Contents.Traversals
  ────────────────────────────────
  **The walk, the references and the outline go the same way.**

  The walk keeps a stack, the references are collected on a way down that carries the places of the
  children, and the outline on one that carries the depth.  All three meet the same nodes in the
  same order: the references are what is left of the walk when only wanted kinds are kept, and the
  outline has one line for each node of the walk, indented by the length of the node's way up.  A
  name with a line feed would break a line; the text of a token cannot, since it stands in quotes.

  Main statements: `Linked.map_node_references`, `Linked.outline_eq`, `count_newline_outline`, and
  all of them together for every run of edits in `Reachable.traversals_agree`.
-/
import ComponentMarkup.Proofs.Contents.Located
import ComponentMarkup.Proofs.Links.Refusals
import ComponentMarkup.Tree.Outline

namespace ComponentMarkup

open MarkupTree Relation

namespace MarkupTree

variable {tree : MarkupTree}

/-! ## §1. References. -/

/-- **The references below a node** are to the nodes that the walk meets there, as far as they are
wanted. -/
theorem Linked.map_node_referencesBelow (linked : tree.Linked) (wanted : NodeKind → Bool)
    {id : NodeId} (known : id < tree.size) :
    (tree.referencesBelow wanted tree.size id).map Reference.node =
      (tree.descendants id).filter fun other => wanted (tree.kind other) := by
  induction id using linked.induction_from_children with
  | node id ih =>
    rw [linked.referencesBelow_eq wanted known, linked.descendants_eq, List.map_flatMap,
      List.filter_flatMap]
    -- The places of the children do not matter for the nodes.
    have without_places := List.zipIdx_map_fst 0 (tree.children id)
    conv => rhs; rw [← without_places]
    rw [List.flatMap_map, List.flatMap_def, List.flatMap_def]
    refine congrArg List.flatten (List.map_congr_left ?_)
    rintro ⟨child, index⟩ listed
    have there : child ∈ tree.children id := List.fst_mem_of_mem_zipIdx listed
    dsimp only
    rw [List.filter_cons, ← ih child there (linked.lt_size_of_mem there)]
    split
    · rfl
    · rfl

/-- A reference that is found names the parent of its node and the place where the node stands. -/
theorem Linked.reference_exact (linked : tree.Linked) {wanted : NodeKind → Bool} {id : NodeId}
    (known : id < tree.size) {reference : Reference}
    (found : reference ∈ tree.referencesBelow wanted tree.size id) :
    tree.parent reference.node = some reference.parent
      ∧ tree.indexOf? reference.parent reference.node = some reference.index := by
  induction id using linked.induction_from_children with
  | node id ih =>
    rw [linked.referencesBelow_eq wanted known] at found
    obtain ⟨⟨child, index⟩, listed, found⟩ := List.mem_flatMap.mp found
    have stands : (tree.children id)[index]? = some child :=
      List.mem_zipIdx_iff_getElem?.mp listed
    have there : child ∈ tree.children id := List.mem_of_getElem? stands
    have below := ih child there (linked.lt_size_of_mem there)
    dsimp only at found
    split at found
    · rcases List.mem_cons.mp found with same | later
      · subst same
        exact ⟨linked.rightAbove_of_mem there, linked.indexOf?_eq_some_iff.mpr stands⟩
      · exact below later
    · exact below found

/-- **The references of a tree** are to the wanted nodes of the walk behind the root, in their
order. -/
theorem Linked.map_node_references (linked : tree.Linked) (wanted : NodeKind → Bool) :
    (tree.references wanted).map Reference.node =
      tree.walk.tail.filter fun id => wanted (tree.kind id) :=
  linked.map_node_referencesBelow wanted linked.root_lt_size

/-! ## §2. Lines. -/

/-- The line of a node in the outline of the whole tree. -/
def lineAt (tree : MarkupTree) (id : NodeId) : String :=
  (tree.content id).line (tree.depth id - 1)

/-- The recursion of the lines, without a bound. -/
theorem Linked.linesBelow_eq (linked : tree.Linked) {id : NodeId} (known : id < tree.size)
    (depth : Nat) :
    tree.linesBelow tree.size depth id =
      (tree.content id).line depth
        :: (tree.children id).flatMap fun child =>
          tree.linesBelow tree.size (depth + 1) child := by
  -- The depth goes up on the way down, so that the result for a node is a function of it.
  have unbounded := linked.levels_suffice
    (fun levels id depth => tree.linesBelow levels depth id)
    (fun id result depth => (tree.content id).line depth
      :: (tree.children id).flatMap fun child => result child (depth + 1))
    (fun _ _ => rfl) ?_ known
  · exact congrFun unbounded depth
  · intro id f g same
    funext depth
    rw [List.flatMap_def, List.flatMap_def]
    refine congrArg (fun lists => _ :: List.flatten lists) (List.map_congr_left ?_)
    intro child listed
    rw [same child listed]

/-- **The lines below a node** are those of the nodes that the walk meets there. -/
theorem Linked.linesBelow_eq_map (linked : tree.Linked) {id : NodeId} (known : id < tree.size) :
    tree.linesBelow tree.size (tree.depth id - 1) id =
      (id :: tree.descendants id).map tree.lineAt := by
  induction id using linked.induction_from_children with
  | node id ih =>
    rw [linked.linesBelow_eq known, List.map_cons, linked.descendants_eq, List.map_flatMap,
      List.flatMap_def, List.flatMap_def]
    refine congrArg (fun lists => tree.lineAt id :: List.flatten lists) (List.map_congr_left ?_)
    intro child listed
    -- A child is one step deeper than its parent.
    have deeper : tree.depth id - 1 + 1 = tree.depth child - 1 := by
      have positive := linked.depth_pos id
      have step := linked.depth_of_rightAbove (linked.rightAbove_of_mem listed)
      omega
    rw [deeper]
    exact ih child listed (linked.lt_size_of_mem listed)

theorem Linked.depth_root (linked : tree.Linked) : tree.depth root = 1 := by
  unfold depth
  rw [linked.upwards_eq, linked.parent_root]
  rfl

/-- **The outline** is the lines of the walk, one after the other. -/
theorem Linked.outline_eq (linked : tree.Linked) :
    tree.outline = String.join (tree.walk.map tree.lineAt) := by
  have from_root := linked.linesBelow_eq_map linked.root_lt_size
  rw [linked.depth_root] at from_root
  exact congrArg String.join from_root

/-- The depth counts the steps of the way up to the root. -/
theorem Linked.climb_depth (linked : tree.Linked) {id : NodeId} (attached : tree.Above root id) :
    tree.climb^[tree.depth id - 1] (some id) = some root := by
  induction attached with
  | refl =>
    rw [linked.depth_root]
    rfl
  | @tail upper lower _ last ih =>
    have positive := linked.depth_pos upper
    have step := linked.depth_of_rightAbove last
    have one_more : tree.depth lower - 1 = tree.depth upper - 1 + 1 := by omega
    rw [one_more, Function.iterate_succ_apply]
    show tree.climb^[tree.depth upper - 1] (tree.parent lower) = _
    rw [last, ih]

end MarkupTree

/-! ## §3. Texts on one line. -/

namespace Text

/-- There is no line feed in the text. -/
def OneLine (text : String) : Prop := '\n' ∉ text.toList

instance (text : String) : Decidable (OneLine text) :=
  inferInstanceAs (Decidable ('\n' ∉ text.toList))

theorem oneLine_append {first second : String} :
    OneLine (first ++ second) ↔ OneLine first ∧ OneLine second := by
  unfold OneLine
  rw [String.toList_append, List.mem_append, not_or]

theorem OneLine.append {first second : String} (here : OneLine first) (there : OneLine second) :
    OneLine (first ++ second) :=
  oneLine_append.mpr ⟨here, there⟩

theorem OneLine.intercalate {separator : String} {pieces : List String}
    (separator_one : OneLine separator) (each : ∀ piece ∈ pieces, OneLine piece) :
    OneLine (separator.intercalate pieces) := by
  induction pieces with
  | nil => exact List.not_mem_nil
  | cons first rest ih =>
    obtain ⟨first_one, rest_one⟩ := List.forall_mem_cons.mp each
    cases rest with
    | nil =>
      rw [String.intercalate_singleton]
      exact first_one
    | cons second rest =>
      rw [String.intercalate_cons_cons]
      exact (first_one.append separator_one).append (ih rest_one)

theorem OneLine.trimmedStart {text : String} (whole : OneLine text) :
    OneLine (trimmedStart text) := by
  unfold OneLine ComponentMarkup.trimmedStart
  rw [String.toList_ofList]
  exact fun inside => whole ((List.dropWhile_sublist _).subset inside)

/-- Every digit is the sign for some number. -/
theorem exists_digitChar_of_mem_toDigits {base n : Nat} (base_lt : 1 < base) {c : Char}
    (inside : c ∈ Nat.toDigits base n) : ∃ digit, c = Nat.digitChar digit := by
  induction n using Nat.strongRecOn with
  | ind n ih =>
    rw [Nat.toDigits_eq_if base_lt] at inside
    split at inside
    · exact ⟨n, List.mem_singleton.mp inside⟩
    · next large =>
      rcases List.mem_append.mp inside with earlier | last
      · exact ih (n / base) (Nat.div_lt_self (by omega) base_lt) earlier
      · exact ⟨n % base, List.mem_singleton.mp last⟩

theorem newline_not_mem_toDigits {base n : Nat} (base_lt : 1 < base) :
    '\n' ∉ Nat.toDigits base n := by
  intro inside
  obtain ⟨digit, same⟩ := exists_digitChar_of_mem_toDigits base_lt inside
  have different : Nat.digitChar digit ≠ '\n' := by simp
  exact different same.symm

theorem newline_not_mem_quoteChar (c : Char) : '\n' ∉ quoteChar c := by
  unfold quoteChar
  split
  -- The characters with an escape of their own come first.
  iterate 6 decide
  · next not_newline _ _ _ =>
    split
    · exact fun same => not_newline (List.mem_singleton.mp same).symm
    · unfold codePointEscape
      rw [List.mem_append, List.mem_append, not_or, not_or]
      exact ⟨⟨by decide, newline_not_mem_toDigits (by decide)⟩, by decide⟩

/-- **Quoted text stays on one line.** -/
theorem oneLine_quote (text : String) : OneLine (quote text) := by
  unfold OneLine quote
  rw [String.toList_ofList, List.cons_append, List.mem_cons, List.mem_append, List.mem_flatMap]
  rintro (opening | ⟨c, -, inside⟩ | closing)
  · exact absurd opening (by decide)
  · exact newline_not_mem_quoteChar c inside
  · exact absurd closing (by decide)

end Text

open Text

/-- The names that the line of a node shows as they are. -/
def NodeKind.shownNames : NodeKind → List String
  | .document documentKind => [documentKind]
  | .component tagName helper => [tagName, helper.name]
  | .markupElement tagName => [tagName]
  | .directiveAttribute name helper _ => [name, helper.name]
  | .helperProperty name _ _ _ => [name]
  | .componentAttribute name typeName _ => name.toList ++ typeName.toList
  | .htmlAttribute name _ => name.toList
  | .embeddedExpression | .expressionValue | .token .. => []

namespace NodeKind

theorem oneLine_label (kind : NodeKind) : OneLine kind.label := by
  unfold label
  split <;> decide

theorem oneLine_getD {name : Option String} (each : ∀ text ∈ name.toList, OneLine text) :
    OneLine (name.getD "") := by
  cases name with
  | none => decide
  | some name => exact each name (List.mem_singleton.mpr rfl)

theorem oneLine_splatMark (isSplat : Bool) : OneLine (if isSplat then " splat" else "") := by
  cases isSplat <;> decide

theorem oneLine_with_helper {name helper : String} (name_one : OneLine name)
    (helper_one : OneLine helper) : OneLine (name ++ " (" ++ helper ++ ")") := by
  have between : OneLine " (" := by decide
  have behind : OneLine ")" := by decide
  exact ((name_one.append between).append helper_one).append behind

/-- **What a node is, is said on one line** if its names are on one. -/
theorem oneLine_summary {kind : NodeKind} (each : ∀ name ∈ kind.shownNames, OneLine name) :
    OneLine kind.summary := by
  cases kind with
  | document documentKind => exact each documentKind (List.mem_singleton.mpr rfl)
  | component tagName helper =>
    obtain ⟨tag_one, helper_one⟩ := List.forall_mem_cons.mp each
    exact oneLine_with_helper tag_one (helper_one _ (List.mem_singleton.mpr rfl))
  | markupElement tagName => exact each tagName (List.mem_singleton.mpr rfl)
  | directiveAttribute name helper boundName =>
    obtain ⟨name_one, helper_one⟩ := List.forall_mem_cons.mp each
    exact oneLine_with_helper name_one (helper_one _ (List.mem_singleton.mpr rfl))
  | helperProperty name helper boundName isDirective =>
    have name_one := each name (List.mem_singleton.mpr rfl)
    cases isDirective with
    | true => exact name_one.append (by decide)
    | false => exact name_one
  | componentAttribute name typeName isSplat =>
    obtain ⟨name_one, type_one⟩ := List.forall_mem_append.mp each
    refine (((oneLine_getD name_one).append ?_).append (oneLine_splatMark isSplat)).trimmedStart
    cases typeName with
    | none => decide
    | some typeName =>
      have before : OneLine " : " := by decide
      exact before.append (type_one typeName (List.mem_singleton.mpr rfl))
  | htmlAttribute name isSplat =>
    exact ((oneLine_getD each).append (oneLine_splatMark isSplat)).trimmedStart
  | embeddedExpression => exact List.not_mem_nil
  | expressionValue => exact List.not_mem_nil
  | token kind text =>
    have label_one : OneLine kind.label := by cases kind <;> decide
    have between : OneLine " " := by decide
    exact (label_one.append between).append (oneLine_quote text)

end NodeKind

theorem Diagnostic.oneLine_id (diagnostic : Diagnostic) : OneLine diagnostic.id := by
  have letters : OneLine "RZ" := by decide
  refine letters.append ?_
  unfold OneLine
  rw [Nat.toList_repr]
  exact newline_not_mem_toDigits (by decide)

namespace NodeContent

variable {content : NodeContent}

theorem oneLine_summaryLine (each : ∀ name ∈ content.kind.shownNames, OneLine name) :
    OneLine content.summaryLine := by
  have summary_one := NodeKind.oneLine_summary each
  unfold summaryLine
  refine ((NodeKind.oneLine_label _).append ?_).append ?_
  · split
    · decide
    · have before : OneLine " " := by decide
      exact before.append summary_one
  · split
    · decide
    · have before : OneLine " [" := by decide
      have between : OneLine ", " := by decide
      have behind : OneLine "]" := by decide
      refine (before.append (between.intercalate fun id listed => ?_)).append behind
      obtain ⟨diagnostic, -, same⟩ := List.mem_map.mp listed
      exact same ▸ diagnostic.oneLine_id

/-- A line ends with its only line feed. -/
theorem count_newline_line (each : ∀ name ∈ content.kind.shownNames, OneLine name) (depth : Nat) :
    (content.line depth).toList.count '\n' = 1 := by
  have no_other : content.summaryLine.toList.count '\n' = 0 :=
    List.count_eq_zero.mpr (oneLine_summaryLine each)
  have indentation : (List.replicate (2 * depth) ' ').count '\n' = 0 :=
    List.count_eq_zero.mpr fun inside => absurd (List.eq_of_mem_replicate inside) (by decide)
  unfold line
  rw [String.toList_append, String.toList_append, String.toList_ofList, List.count_append,
    List.count_append, indentation, no_other]
  rfl

end NodeContent

/-- As many line feeds as lines. -/
theorem count_newline_join {lines : List String}
    (each : ∀ line ∈ lines, line.toList.count '\n' = 1) :
    (String.join lines).toList.count '\n' = lines.length := by
  induction lines with
  | nil => rfl
  | cons first rest ih =>
    obtain ⟨here, later⟩ := List.forall_mem_cons.mp each
    rw [String.join_cons, String.toList_append, List.count_append, here, ih later,
      List.length_cons, Nat.add_comm]

/-- **The outline has as many lines as the walk has nodes** if no name breaks a line. -/
theorem MarkupTree.Linked.count_newline_outline {tree : MarkupTree} (linked : tree.Linked)
    (each : ∀ id ∈ tree.walk, ∀ name ∈ (tree.kind id).shownNames, OneLine name) :
    tree.outline.toList.count '\n' = tree.walk.length := by
  rw [linked.outline_eq, count_newline_join, List.length_map]
  intro line listed
  obtain ⟨id, met, same⟩ := List.mem_map.mp listed
  exact same ▸ NodeContent.count_newline_line (each id met) _

/-! ## §4. Every run of edits. -/

/-- **After every run of edits the traversals agree**: the loop with a stack ends with the walk; the
references are to the wanted nodes of the walk behind the root, in its order, and name their
parents and places; the outline is the lines of the walk, each indented by two blanks for every step
up to the root and ended by a line feed, and has as many lines as the walk has nodes if no name
breaks a line. -/
theorem Reachable.traversals_agree {tree : MarkupTree} (reachable : Reachable tree) :
    (∃ turns, tree.turn^[turns] ([], [root]) = (tree.walk, []))
      ∧ (∀ wanted, (tree.references wanted).map Reference.node =
        tree.walk.tail.filter fun id => wanted (tree.kind id))
      ∧ (∀ wanted, ∀ reference ∈ tree.references wanted,
        tree.parent reference.node = some reference.parent
          ∧ tree.indexOf? reference.parent reference.node = some reference.index)
      ∧ tree.outline = String.join (tree.walk.map fun id =>
        String.ofList (List.replicate (2 * (tree.depth id - 1)) ' ')
          ++ (tree.content id).summaryLine ++ "\n")
      ∧ (∀ id ∈ tree.walk, tree.climb^[tree.depth id - 1] (some id) = some root)
      ∧ ((∀ id ∈ tree.walk, ∀ name ∈ (tree.kind id).shownNames, OneLine name) →
        tree.outline.toList.count '\n' = tree.walk.length) := by
  have linked := reachable.linked
  exact ⟨linked.turns_walk, linked.map_node_references,
    fun wanted _ found => linked.reference_exact linked.root_lt_size found, linked.outline_eq,
    fun _ met => linked.climb_depth (linked.mem_walk_iff.mp met), linked.count_newline_outline⟩

/-- An element in a document, with a token that holds a line feed. -/
def brokenToken : MarkupTree :=
  ((MarkupTree.ofDocumentKind componentDocumentKind).appendNew root
    { kind := .markupElement "div" }).appendNew 1 { kind := .token .markup "first\nsecond" }

theorem reachable_brokenToken : Reachable brokenToken :=
  ((Reachable.fresh _).appendNew (by decide) _).appendNew (by decide) _

/-- The token is found where it stands, and has one line of the outline. -/
theorem traversals_agree_brokenToken :
    (brokenToken.references NodeKind.isToken).map Reference.node = [2]
      ∧ brokenToken.outline.toList.count '\n' = 3 := by
  obtain ⟨-, nodes, -, -, -, lines⟩ := Reachable.traversals_agree reachable_brokenToken
  refine ⟨(nodes NodeKind.isToken).trans (by decide), (lines ?_).trans (by decide)⟩
  decide

end ComponentMarkup
