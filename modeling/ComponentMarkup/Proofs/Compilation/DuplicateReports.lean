/-
  ComponentMarkup.Proofs.Compilation.DuplicateReports
  ────────────────────────────────
  **Which attributes are reported as given twice.**

  `Repeats` says of two nodes that the later one is to be reported because of the first, in terms
  of the kinds of the two and of the node that both stand under, and of its children.  The scan of
  these children goes through them once and remembers the first node with each name, so it meets
  the same pairs; and a node that follows any namesake repeats the earliest one.

  No node is reported about twice, because no node stands in two places; so the reports can be
  added one after the other, each to a list that the others leave alone.  A second run finds the
  same reports, since nothing that it looks at has changed, and finds all of them there.

  Main statements: `mem_duplicatesAmong_iff` for the scan, `Linked.mem_duplicates_iff` for the
  whole tree, `content_addReports_of_mem` and `Linked.length_diagnostics_addReports` for what is
  added, and `Reachable.reportDuplicates_exact`.
-/
import ComponentMarkup.Proofs.Compilation.Annotation
import ComponentMarkup.Proofs.Descriptors.Validity

namespace ComponentMarkup

open MarkupTree

/-! ## §1. What the kinds of nodes say. -/

namespace NodeKind

/-- **Attributes are given to** components and to elements. -/
inductive Hosts : NodeKind → AttributeHost → Prop where
  | component (tagName : String) (helper : TagHelper) : Hosts (.component tagName helper) .component
  | element (tagName : String) : Hosts (.markupElement tagName) .element

theorem hosts_iff {kind : NodeKind} {host : AttributeHost} :
    kind.Hosts host ↔ kind.host? = some host := by
  constructor
  · intro hosts
    cases hosts with
    | component tagName helper => rfl
    | element tagName => rfl
  · intro is_host
    cases kind with
    | component tagName helper =>
      obtain rfl := Option.some.inj is_host
      exact .component tagName helper
    | markupElement tagName =>
      obtain rfl := Option.some.inj is_host
      exact .element tagName
    | document | directiveAttribute | helperProperty | componentAttribute | htmlAttribute
    | embeddedExpression | expressionValue | token => cases is_host

/-- **The node is an attribute that was written under a name.** -/
inductive WrittenAs : NodeKind → String → Prop where
  | directiveAttribute (name : String) (helper : TagHelper) (boundName : String) :
    WrittenAs (.directiveAttribute name helper boundName) name
  | helperProperty (name : String) (helper : TagHelper) (boundName : String) (isDirective : Bool) :
    WrittenAs (.helperProperty name helper boundName isDirective) name
  | componentAttribute (name : String) (typeName : Option String) (isSplat : Bool) :
    WrittenAs (.componentAttribute (some name) typeName isSplat) name
  | htmlAttribute (name : String) (isSplat : Bool) :
    WrittenAs (.htmlAttribute (some name) isSplat) name

theorem writtenAs_iff {kind : NodeKind} {name : String} :
    kind.WrittenAs name ↔ kind.attributeName? = some name := by
  constructor
  · intro written
    cases written <;> rfl
  · intro named
    cases kind with
    | directiveAttribute written helper boundName =>
      obtain rfl := Option.some.inj named
      exact .directiveAttribute written helper boundName
    | helperProperty written helper boundName isDirective =>
      obtain rfl := Option.some.inj named
      exact .helperProperty written helper boundName isDirective
    | componentAttribute written? typeName isSplat =>
      obtain rfl : written? = some name := named
      exact .componentAttribute name typeName isSplat
    | htmlAttribute written? isSplat =>
      obtain rfl : written? = some name := named
      exact .htmlAttribute name isSplat
    | document | component | markupElement | embeddedExpression | expressionValue | token =>
      cases named

/-- **The node is an attribute that was written as a directive.** -/
inductive IsDirective : NodeKind → Prop where
  | directiveAttribute (name : String) (helper : TagHelper) (boundName : String) :
    IsDirective (.directiveAttribute name helper boundName)
  | helperProperty (name : String) (helper : TagHelper) (boundName : String) :
    IsDirective (.helperProperty name helper boundName true)

theorem isDirective_iff {kind : NodeKind} : kind.IsDirective ↔ kind.isDirectiveUsage = true := by
  constructor
  · intro directive
    cases directive with
    | directiveAttribute name helper boundName => rfl
    | helperProperty name helper boundName => rfl
  · intro directive
    cases kind with
    | directiveAttribute name helper boundName => exact .directiveAttribute name helper boundName
    | helperProperty name helper boundName isDirective =>
      obtain rfl : isDirective = true := directive
      exact .helperProperty name helper boundName
    | document | component | markupElement | componentAttribute | htmlAttribute
    | embeddedExpression | expressionValue | token => cases directive

instance (kind : NodeKind) : Decidable kind.IsDirective :=
  decidable_of_iff _ isDirective_iff.symm

/-- A directive has a name. -/
theorem IsDirective.exists_name {kind : NodeKind} (directive : kind.IsDirective) :
    ∃ name, kind.attributeName? = some name := by
  cases directive with
  | directiveAttribute name helper boundName => exact ⟨name, rfl⟩
  | helperProperty name helper boundName => exact ⟨name, rfl⟩

end NodeKind

/-! ## §2. Names that collide. -/

/-- **Two names collide** under a host: but for one leading marker they are the same, and under an
element it is enough if they are so in lower case. -/
def AttributeHost.Collide : AttributeHost → String → String → Prop
  | .component, x, y => AttributeName.unmarked x.toList = AttributeName.unmarked y.toList
  | .element, x, y =>
    Text.lowerText (AttributeName.unmarked x.toList) =
      Text.lowerText (AttributeName.unmarked y.toList)

instance (host : AttributeHost) (x y : String) : Decidable (host.Collide x y) :=
  match host with
  | .component => inferInstanceAs (Decidable (_ = _))
  | .element => inferInstanceAs (Decidable (_ = _))

theorem AttributeHost.nameKey_eq_iff (host : AttributeHost) (x y : String) :
    host.nameKey x = host.nameKey y ↔ host.Collide x y := by
  unfold nameKey Collide
  cases host <;> simp only [AttributeName.toList_bare]

namespace MarkupTree

variable {tree : MarkupTree} {host : AttributeHost}

/-- Both nodes are attributes, and their names collide. -/
def Namesakes (tree : MarkupTree) (host : AttributeHost) (first later : NodeId) : Prop :=
  ∃ x y, (tree.kind first).WrittenAs x ∧ (tree.kind later).WrittenAs y ∧ host.Collide x y

/-- Both nodes stand under the same attached component or element, the first one after the given
siblings and before the later one, and their names collide. -/
def NamesakesAfter (tree : MarkupTree) (host : AttributeHost) (before : List NodeId)
    (first later : NodeId) : Prop :=
  ∃ parent ∈ tree.walk, (tree.kind parent).Hosts host
    ∧ (∃ between after, tree.children parent = before ++ first :: between ++ later :: after)
    ∧ tree.Namesakes host first later

/-- **The later node follows a namesake**: one of its earlier siblings has its name. -/
def FollowsNamesake (tree : MarkupTree) (host : AttributeHost) (later : NodeId) : Prop :=
  ∃ before first, tree.NamesakesAfter host before first later

/-- **The later node repeats the first one**, which is the earliest of its siblings that has its
name. -/
def Repeats (tree : MarkupTree) (host : AttributeHost) (first later : NodeId) : Prop :=
  ∃ before, tree.NamesakesAfter host before first later
    ∧ ∀ other ∈ before, ¬ tree.Namesakes host other later

/-! ## §3. The scan of some siblings. -/

/-- What of an attribute's name counts, if the node is an attribute. -/
def nameKey? (tree : MarkupTree) (host : AttributeHost) (id : NodeId) : Option (List Char) :=
  (tree.kind id).attributeName?.map host.nameKey

theorem namesakes_iff {first later : NodeId} :
    tree.Namesakes host first later ↔
      ∃ key, tree.nameKey? host first = some key ∧ tree.nameKey? host later = some key := by
  unfold Namesakes nameKey?
  simp only [NodeKind.writtenAs_iff, Option.map_eq_some_iff, ← AttributeHost.nameKey_eq_iff]
  constructor
  · rintro ⟨x, y, named, named', same⟩
    exact ⟨host.nameKey y, ⟨x, named, same⟩, y, named', rfl⟩
  · rintro ⟨key, ⟨x, named, key_eq⟩, y, named', key_eq'⟩
    exact ⟨x, y, named, named', key_eq.trans key_eq'.symm⟩

/-- The first of some nodes that has a key. -/
def firstWith? (tree : MarkupTree) (host : AttributeHost) (ids : List NodeId) (key : List Char) :
    Option NodeId :=
  ids.find? fun id => tree.nameKey? host id == some key

theorem firstWith?_concat (ids : List NodeId) (id : NodeId) (key : List Char) :
    tree.firstWith? host (ids ++ [id]) key =
      (tree.firstWith? host ids key).or
        (if tree.nameKey? host id = some key then some id else none) := by
  unfold firstWith?
  simp only [List.find?_append, List.find?_singleton, beq_iff_eq]

/-- The node is to be reported after those before it, and this is the report. -/
def ReportedAfter (tree : MarkupTree) (host : AttributeHost) (before : List NodeId)
    (id : NodeId) (entry : NodeId × Diagnostic) : Prop :=
  ∃ key first, tree.nameKey? host id = some key ∧ tree.firstWith? host before key = some first
    ∧ entry = (id, tree.duplicateReport host first id)

/-- A place in a list is the first one, or one in the rest. -/
theorem exists_place_cons_iff {child : NodeId} {rest : List NodeId}
    {p : List NodeId → NodeId → Prop} :
    (∃ between id after, child :: rest = between ++ id :: after ∧ p between id) ↔
      p [] child ∨ ∃ between id after, rest = between ++ id :: after ∧ p (child :: between) id := by
  constructor
  · rintro ⟨between, id, after, place, holds⟩
    rcases List.cons_eq_append_iff.mp place with ⟨rfl, here⟩ | ⟨later, rfl, place⟩
    · obtain ⟨rfl, rfl⟩ := List.cons.inj here
      exact Or.inl holds
    · exact Or.inr ⟨later, id, after, List.tail_eq_of_cons_eq place, holds⟩
  · rintro (holds | ⟨between, id, after, rfl, holds⟩)
    · exact ⟨[], child, rest, rfl, holds⟩
    · exact ⟨child :: between, id, after, rfl, holds⟩

/-- **The scan** that remembers the first of the nodes before it for every key reports each node
that has a key of one of those before it. -/
theorem mem_duplicatesAmong_iff {met : List (List Char × NodeId)} {before rest : List NodeId}
    (remembers : ∀ key, met.lookup key = tree.firstWith? host before key)
    {entry : NodeId × Diagnostic} :
    entry ∈ tree.duplicatesAmong host met rest ↔
      ∃ between id after, rest = between ++ id :: after
        ∧ tree.ReportedAfter host (before ++ between) id entry := by
  induction rest generalizing met before with
  | nil => simp [duplicatesAmong]
  | cons child rest ih =>
    -- For what comes after the child, the child is the last of the nodes before it.
    have after_child : ∀ {met : List (List Char × NodeId)},
        (∀ key, met.lookup key = tree.firstWith? host (before ++ [child]) key) →
        (entry ∈ tree.duplicatesAmong host met rest ↔
          ∃ between id after, rest = between ++ id :: after
            ∧ tree.ReportedAfter host (before ++ child :: between) id entry) :=
      fun remembers => by simpa using ih remembers
    rw [exists_place_cons_iff, List.append_nil]
    unfold duplicatesAmong
    cases named : (tree.kind child).attributeName? with
    | none =>
      have no_key : tree.nameKey? host child = none := by simp [nameKey?, named]
      have unreported : ¬ tree.ReportedAfter host before child entry := by
        simp [ReportedAfter, no_key]
      simp only [unreported, false_or]
      refine after_child fun key => ?_
      simp [firstWith?_concat, no_key, remembers]
    | some name =>
      have key_eq : tree.nameKey? host child = some (host.nameKey name) := by
        simp [nameKey?, named]
      dsimp only
      cases found : met.lookup (host.nameKey name) with
      | some first =>
        rw [List.mem_cons]
        refine or_congr ?_ (after_child fun key => ?_)
        · simp [ReportedAfter, key_eq, ← remembers, found]
        · -- The child is not the first with its key, and no node with another one.
          rw [firstWith?_concat, key_eq, ← remembers]
          by_cases same : host.nameKey name = key
          · simp [← same, found]
          · simp [same]
      | none =>
        have unreported : ¬ tree.ReportedAfter host before child entry := by
          simp [ReportedAfter, key_eq, ← remembers, found]
        simp only [unreported, false_or]
        refine after_child fun key => ?_
        -- The child is the first with its key.
        rw [firstWith?_concat, key_eq, ← remembers, List.lookup_cons]
        by_cases same : host.nameKey name = key
        · simp [← same, found]
        · have unequal : (key == host.nameKey name) = false :=
            beq_eq_false_iff_ne.mpr (Ne.symm same)
          simp [unequal, same]

/-- The scan reports about the nodes that it meets, in order. -/
theorem sublist_duplicatesAmong (tree : MarkupTree) (host : AttributeHost)
    (met : List (List Char × NodeId)) (rest : List NodeId) :
    ((tree.duplicatesAmong host met rest).map Prod.fst).Sublist rest := by
  induction rest generalizing met with
  | nil => exact List.Sublist.slnil
  | cons child rest ih =>
    unfold duplicatesAmong
    split
    · exact (ih met).cons child
    · dsimp only
      split
      · rw [List.map_cons]
        exact (ih met).cons_cons child
      · exact (ih _).cons child

/-! ## §4. The reports about a tree. -/

theorem reportedAfter_iff {before : List NodeId} {id : NodeId} {entry : NodeId × Diagnostic} :
    tree.ReportedAfter host before id entry ↔
      ∃ front first back, before = front ++ first :: back
        ∧ tree.Namesakes host first id
        ∧ (∀ other ∈ front, ¬ tree.Namesakes host other id)
        ∧ entry = (id, tree.duplicateReport host first id) := by
  unfold ReportedAfter firstWith?
  simp only [List.find?_eq_some_iff_append, namesakes_iff]
  constructor
  · rintro ⟨key, first, key_eq, ⟨found, front, back, before_eq, none_before⟩, entry_eq⟩
    refine ⟨front, first, back, before_eq, ⟨key, beq_iff_eq.mp found, key_eq⟩, ?_, entry_eq⟩
    rintro other listed ⟨key', other_eq, key_eq'⟩
    have same : key = key' := Option.some.inj (key_eq.symm.trans key_eq')
    have missed := none_before other listed
    simp [other_eq, same] at missed
  · rintro ⟨front, first, back, before_eq, ⟨key, first_eq, key_eq⟩, none_before, entry_eq⟩
    refine ⟨key, first, key_eq, ⟨beq_iff_eq.mpr first_eq, front, back, before_eq, ?_⟩, entry_eq⟩
    intro other listed
    rw [Bool.not_eq_true', beq_eq_false_iff_ne]
    exact fun other_eq => none_before other listed ⟨key, other_eq, key_eq⟩

/-- **What is reported about a tree.** -/
theorem mem_duplicates_iff {id : NodeId} {report : Diagnostic} :
    (id, report) ∈ tree.duplicates ↔
      ∃ host first, tree.Repeats host first id ∧ report = tree.duplicateReport host first id := by
  have under : ∀ parent, (id, report) ∈ tree.duplicatesUnder parent ↔
      ∃ host, (tree.kind parent).host? = some host
        ∧ ∃ between later after, tree.children parent = between ++ later :: after
          ∧ tree.ReportedAfter host between later (id, report) := by
    intro parent
    unfold duplicatesUnder
    cases (tree.kind parent).host? with
    | none => simp
    | some host =>
      have scanned : (id, report) ∈ tree.duplicatesAmong host [] (tree.children parent) ↔
          ∃ between later after, tree.children parent = between ++ later :: after
            ∧ tree.ReportedAfter host ([] ++ between) later (id, report) :=
        mem_duplicatesAmong_iff fun _ => rfl
      simpa using scanned
  unfold duplicates Repeats NamesakesAfter
  simp only [List.mem_flatMap, under, reportedAfter_iff, Prod.mk.injEq, NodeKind.hosts_iff]
  constructor
  · rintro ⟨parent, attached, host, is_host, between, later, after, place, front, first, back,
      rfl, namesakes, none_before, rfl, rfl⟩
    exact ⟨host, first, ⟨front, ⟨parent, attached, is_host, ⟨back, after, place⟩, namesakes⟩,
      none_before⟩, rfl⟩
  · rintro ⟨host, first, ⟨front, ⟨parent, attached, is_host, ⟨back, after, place⟩, namesakes⟩,
      none_before⟩, rfl⟩
    exact ⟨parent, attached, host, is_host, _, id, after, place, front, first, back, rfl,
      namesakes, none_before, rfl, rfl⟩

/-- Of the namesakes before a node one is the earliest. -/
theorem FollowsNamesake.exists_repeats {later : NodeId}
    (follows : tree.FollowsNamesake host later) : ∃ first, tree.Repeats host first later := by
  obtain ⟨before, first, parent, attached, is_host, ⟨between, after, place⟩, namesakes⟩ := follows
  obtain ⟨key, first_eq, key_eq⟩ := namesakes_iff.mp namesakes
  cases found : tree.firstWith? host (before ++ first :: between) key with
  | none =>
    have missed := List.find?_eq_none.mp found first (by simp)
    simp [first_eq] at missed
  | some earliest =>
    obtain ⟨front, earliest, back, split, namesakes', none_before, -⟩ :=
      reportedAfter_iff.mp ⟨key, earliest, key_eq, found, rfl⟩
    refine ⟨earliest, front, ⟨parent, attached, is_host, ⟨back, after, ?_⟩, namesakes'⟩,
      none_before⟩
    rw [place, split]

/-- No node is reported about twice, since no node is the child of two others. -/
theorem Linked.nodup_duplicates (linked : tree.Linked) :
    (tree.duplicates.map Prod.fst).Nodup := by
  have listed : (tree.duplicates.map Prod.fst).Sublist (tree.walk.flatMap tree.children) := by
    unfold duplicates
    induction tree.walk with
    | nil => exact List.Sublist.slnil
    | cons parent rest ih =>
      rw [List.flatMap_cons, List.flatMap_cons, List.map_append]
      refine List.Sublist.append ?_ ih
      unfold duplicatesUnder
      split
      · exact sublist_duplicatesAmong ..
      · exact List.nil_sublist _
  refine listed.nodup (List.nodup_flatMap.mpr ⟨fun id _ => linked.nodup_children id, ?_⟩)
  refine linked.nodup_walk.imp fun different child first second => different ?_
  exact Option.some.inj
    ((linked.rightAbove_of_mem first).symm.trans (linked.rightAbove_of_mem second))

/-- What repeats another node is attached. -/
theorem Linked.mem_walk_of_repeats (linked : tree.Linked) {first later : NodeId}
    (repeats : tree.Repeats host first later) : later ∈ tree.walk := by
  obtain ⟨before, ⟨parent, attached, -, ⟨between, after, place⟩, -⟩, -⟩ := repeats
  have listed : later ∈ tree.children parent := by simp [place]
  rw [linked.mem_walk_iff] at attached ⊢
  exact attached.tail (linked.rightAbove_of_mem listed)

/-! ## §5. Adding reports. -/

theorem content_addReport (id other : NodeId) (report : Diagnostic) :
    (tree.addReport id report).content other =
      if id = other ∧ other < tree.size then (tree.content other).addReport report
      else tree.content other :=
  content_modifyContent ..

/-- A report that is added is there. -/
theorem mem_diagnostics_addReport (content : NodeContent) (report : Diagnostic) :
    report ∈ (content.addReport report).diagnostics := by
  unfold NodeContent.addReport
  split
  · next there => exact there
  · exact List.mem_append_right _ (List.mem_singleton.mpr rfl)

theorem size_addReport (id : NodeId) (report : Diagnostic) :
    (tree.addReport id report).size = tree.size :=
  size_modifyContent ..

/-- Reports about other nodes leave the content of a node alone. -/
theorem content_addReports_of_not_mem {reports : List (NodeId × Diagnostic)} {id : NodeId}
    (unlisted : id ∉ reports.map Prod.fst) :
    (tree.addReports reports).2.content id = tree.content id := by
  induction reports generalizing tree with
  | nil => rfl
  | cons entry rest ih =>
    rw [List.map_cons, List.mem_cons, not_or] at unlisted
    show ((tree.addReport entry.1 entry.2).addReports rest).2.content id = _
    rw [ih unlisted.2, content_addReport, if_neg fun both => unlisted.1 both.1.symm]

/-- A report goes into the list of its node, if no other one is about the same node. -/
theorem content_addReports_of_mem {reports : List (NodeId × Diagnostic)} {id : NodeId}
    {report : Diagnostic} (nodup : (reports.map Prod.fst).Nodup) (listed : (id, report) ∈ reports)
    (known : id < tree.size) :
    (tree.addReports reports).2.content id = (tree.content id).addReport report := by
  induction reports generalizing tree with
  | nil => exact absurd listed List.not_mem_nil
  | cons entry rest ih =>
    rw [List.map_cons, List.nodup_cons] at nodup
    show ((tree.addReport entry.1 entry.2).addReports rest).2.content id = _
    rcases List.mem_cons.mp listed with here | later
    · subst here
      rw [content_addReports_of_not_mem nodup.1, content_addReport, if_pos ⟨rfl, known⟩]
    · have other : entry.1 ≠ id := fun same =>
        nodup.1 (same ▸ List.mem_map.mpr ⟨(id, report), later, rfl⟩)
      rw [ih nodup.2 later (by rwa [size_addReport]), content_addReport,
        if_neg fun both => other both.1]

/-- Where one of the lists put together is longer, and no other one is different, the whole is
longer by as much. -/
theorem length_flatMap_of_one {β : Type} {ids : List NodeId} {old new : NodeId → List β}
    {id : NodeId} {more : Nat} (nodup : ids.Nodup) (listed : id ∈ ids)
    (longer : (new id).length = (old id).length + more)
    (others : ∀ other ≠ id, new other = old other) :
    (ids.flatMap new).length = (ids.flatMap old).length + more := by
  induction ids with
  | nil => exact absurd listed List.not_mem_nil
  | cons head rest ih =>
    obtain ⟨unlisted, nodup_rest⟩ := List.nodup_cons.mp nodup
    rw [List.flatMap_cons, List.flatMap_cons, List.length_append, List.length_append]
    by_cases same : head = id
    · subst same
      have rest_eq : rest.flatMap new = rest.flatMap old := by
        rw [List.flatMap_def, List.flatMap_def]
        refine congrArg List.flatten (List.map_congr_left fun other listed => others other ?_)
        exact fun same => unlisted (same ▸ listed)
      rw [rest_eq, longer]
      omega
    · have later : id ∈ rest := (List.mem_cons.mp listed).resolve_left (Ne.symm same)
      rw [ih nodup_rest later, others head same]
      omega

theorem Linked.lt_size_of_mem_walk (linked : tree.Linked) {id : NodeId}
    (attached : id ∈ tree.walk) : id < tree.size := by
  rcases (linked.mem_walk_iff.mp attached).cases_tail with top | ⟨parent, -, last⟩
  · exact top ▸ linked.root_lt_size
  · exact linked.lt_size_of_mem (linked.mem_of_rightAbove last)

theorem walk_addReport (tree : MarkupTree) (id : NodeId) (report : Diagnostic) :
    (tree.addReport id report).walk = tree.walk := by
  have annotates : Annotates (fun _ => True) tree (tree.addReport id report) :=
    .addReport tree id trivial
  exact annotates.walk_eq

theorem Linked.addReport (linked : tree.Linked) (id : NodeId) (report : Diagnostic) :
    (tree.addReport id report).Linked :=
  linked.modifyContent id (·.addReport report)

/-- **One report** about an attached node makes the list of the whole tree longer by one, unless the
node has it. -/
theorem Linked.length_diagnostics_addReport (linked : tree.Linked) {id : NodeId}
    (attached : id ∈ tree.walk) (report : Diagnostic) :
    (tree.addReport id report).diagnostics.length =
      tree.diagnostics.length + if tree.hasReport id report then 0 else 1 := by
  unfold diagnostics
  rw [walk_addReport]
  refine length_flatMap_of_one linked.nodup_walk attached ?_ fun other different => ?_
  · rw [content_addReport, if_pos ⟨rfl, linked.lt_size_of_mem_walk attached⟩]
    unfold NodeContent.addReport hasReport
    by_cases has : report ∈ (tree.content id).diagnostics
    · simp [has]
    · simp [has]
  · rw [content_addReport, if_neg fun both => different both.1.symm]

/-- The first of some reports counts if its node does not have it. -/
theorem added_cons (entry : NodeId × Diagnostic) (rest : List (NodeId × Diagnostic)) :
    (tree.addReports (entry :: rest)).1 =
      ((tree.addReport entry.1 entry.2).addReports rest).1
        + if tree.hasReport entry.1 entry.2 then 0 else 1 := by
  rw [addReports]
  dsimp only
  split <;> rfl

/-- **The number of new reports** is how much longer the list of the whole tree becomes. -/
theorem Linked.length_diagnostics_addReports (linked : tree.Linked)
    {reports : List (NodeId × Diagnostic)} (attached : ∀ entry ∈ reports, entry.1 ∈ tree.walk) :
    (tree.addReports reports).2.diagnostics.length =
      tree.diagnostics.length + (tree.addReports reports).1 := by
  induction reports generalizing tree with
  | nil => rfl
  | cons entry rest ih =>
    obtain ⟨here, later⟩ := List.forall_mem_cons.mp attached
    have rest_eq := ih (linked.addReport entry.1 entry.2)
      fun other listed => walk_addReport tree entry.1 entry.2 ▸ later other listed
    rw [linked.length_diagnostics_addReport here] at rest_eq
    show ((tree.addReport entry.1 entry.2).addReports rest).2.diagnostics.length = _
    rw [rest_eq, added_cons]
    omega

/-! ## §6. Reporting again. -/

/-- Trees with the same nodes are the same. -/
theorem eq_of_nodes {left : MarkupTree} (size_eq : left.size = tree.size)
    (node_eq : ∀ id, left.node id = tree.node id) : left = tree := by
  have nodes_eq : left.nodes = tree.nodes := by
    refine List.ext_getElem size_eq fun id inside inside' => ?_
    have same := node_eq id
    unfold node at same
    simpa [List.getD_eq_getElem?_getD, inside, inside'] using same
  cases left
  cases tree
  exact congrArg MarkupTree.mk nodes_eq

/-- A report that a node has is not added again. -/
theorem addReport_of_hasReport {id : NodeId} {report : Diagnostic}
    (has : tree.hasReport id report = true) : tree.addReport id report = tree := by
  refine eq_of_nodes (size_addReport id report) fun other => ?_
  unfold MarkupTree.addReport modifyContent
  rw [node_modify]
  split
  · next here =>
    have listed : report ∈ (tree.node other).content.diagnostics :=
      here.1 ▸ of_decide_eq_true has
    show { tree.node other with content := (tree.node other).content.addReport report } = _
    unfold NodeContent.addReport
    rw [if_pos listed]
  · rfl

theorem addReports_of_hasReport {reports : List (NodeId × Diagnostic)}
    (has : ∀ entry ∈ reports, tree.hasReport entry.1 entry.2 = true) :
    tree.addReports reports = (0, tree) := by
  induction reports with
  | nil => rfl
  | cons entry rest ih =>
    obtain ⟨here, later⟩ := List.forall_mem_cons.mp has
    unfold addReports
    rw [addReport_of_hasReport here, ih later]
    simp [here]

/-- What is to be reported does not depend on what is reported. -/
theorem Annotates.duplicates_eq {p : Diagnostic → Prop} {left : MarkupTree}
    (annotates : Annotates p tree left) : left.duplicates = tree.duplicates := by
  have report_eq : ∀ host first later,
      left.duplicateReport host first later = tree.duplicateReport host first later := by
    intro host first later
    unfold duplicateReport duplicateProblem
    rw [annotates.kind_eq, annotates.kind_eq, annotates.source_eq]
  have among_eq : ∀ host met ids,
      left.duplicatesAmong host met ids = tree.duplicatesAmong host met ids := by
    intro host met ids
    induction ids generalizing met with
    | nil => rfl
    | cons child rest ih =>
      unfold duplicatesAmong
      simp only [annotates.kind_eq, report_eq, ih]
  unfold duplicates
  rw [annotates.walk_eq]
  refine congrArg (List.flatMap · tree.walk) (funext fun id => ?_)
  unfold duplicatesUnder
  simp only [annotates.kind_eq, annotates.children_eq, among_eq]

/-! ## §7. What a report says. -/

/-- A report is about the place of the later usage. -/
theorem span_duplicateReport (first later : NodeId) :
    (tree.duplicateReport host first later).span = (tree.content later).source := rfl

/-- A directive among the two decides the code, and the host otherwise. -/
theorem number_duplicateReport (first later : NodeId) :
    (tree.duplicateReport host first later).code.number =
      if (tree.kind first).IsDirective ∨ (tree.kind later).IsDirective then 10008
      else match host with
        | .component => 9985
        | .element => 10007 := by
  show (tree.duplicateProblem host first later).code.number = _
  unfold duplicateProblem
  simp only [NodeKind.isDirective_iff]
  by_cases later_directive : (tree.kind later).isDirectiveUsage = true
  · simp [later_directive, Problem.code, DiagnosticCode.number]
  · by_cases first_directive : (tree.kind first).isDirectiveUsage = true
    · obtain ⟨name, named⟩ := (NodeKind.isDirective_iff.mpr first_directive).exists_name
      simp [later_directive, first_directive, named, Problem.code, DiagnosticCode.number]
    · cases host <;>
        simp [later_directive, first_directive, Problem.code, DiagnosticCode.number]

end MarkupTree

/-! ## §8. The whole tree. -/

/-- **A node that repeats another one** has the report about that added to its content. -/
theorem MarkupTree.Linked.content_reportDuplicates {tree : MarkupTree} (linked : tree.Linked)
    {host : AttributeHost} {first later : NodeId} (repeats : tree.Repeats host first later) :
    tree.reportDuplicates.2.content later =
      (tree.content later).addReport (tree.duplicateReport host first later) := by
  have listed : (later, tree.duplicateReport host first later) ∈ tree.duplicates :=
    mem_duplicates_iff.mpr ⟨host, first, repeats, rfl⟩
  have known := linked.lt_size_of_mem_walk (linked.mem_walk_of_repeats repeats)
  exact content_addReports_of_mem linked.nodup_duplicates listed known

/-- **Reporting is exact, framed and idempotent.**  Nothing but lists of reports changes.  A node
that follows a namesake repeats the earliest one, and gets the report against that at the end of
its list, unless it has it; no other list changes.  The report is about the place of that
node, and its code depends on whether one of the two is a directive, and else on the host.  The
number is that of the new reports, and a second run finds nothing to add. -/
theorem Reachable.reportDuplicates_exact {tree : MarkupTree} (reachable : Reachable tree) :
    ∃ added left, tree.reportDuplicates = (added, left)
      ∧ (left.size = tree.size ∧ ∀ id,
        left.parent id = tree.parent id ∧ left.children id = tree.children id
          ∧ left.kind id = tree.kind id ∧ (left.content id).source = (tree.content id).source)
      ∧ (∀ host id, tree.FollowsNamesake host id → ∃ first, tree.Repeats host first id)
      ∧ (∀ host first id, tree.Repeats host first id →
        (left.content id).diagnostics =
          if tree.duplicateReport host first id ∈ (tree.content id).diagnostics then
            (tree.content id).diagnostics
          else (tree.content id).diagnostics ++ [tree.duplicateReport host first id])
      ∧ (∀ id, (∀ host, ¬ tree.FollowsNamesake host id) →
        (left.content id).diagnostics = (tree.content id).diagnostics)
      ∧ (∀ host first id,
        (tree.duplicateReport host first id).span = (tree.content id).source
          ∧ (tree.duplicateReport host first id).code.number =
            if (tree.kind first).IsDirective ∨ (tree.kind id).IsDirective then 10008
            else match host with
              | .component => 9985
              | .element => 10007)
      ∧ left.diagnostics.length = tree.diagnostics.length + added
      ∧ left.reportDuplicates = (0, left) := by
  have linked := reachable.linked
  have annotates := annotates_reportDuplicates tree
  refine ⟨tree.reportDuplicates.1, tree.reportDuplicates.2, rfl, ⟨annotates.size_eq, fun id =>
    ⟨annotates.parent_eq id, annotates.children_eq id, annotates.kind_eq id,
      annotates.source_eq id⟩⟩, fun _ _ => FollowsNamesake.exists_repeats, ?reported, ?others,
    fun host first id => ⟨span_duplicateReport first id, number_duplicateReport first id⟩, ?count,
    ?again⟩
  case reported =>
    intro host first id repeats
    rw [linked.content_reportDuplicates repeats]
    unfold NodeContent.addReport
    split <;> rfl
  case others =>
    intro id no_namesake
    refine congrArg NodeContent.diagnostics (content_addReports_of_not_mem fun listed => ?_)
    obtain ⟨entry, found, rfl⟩ := List.mem_map.mp listed
    obtain ⟨host, first, ⟨before, namesakes, -⟩, -⟩ := mem_duplicates_iff.mp found
    exact no_namesake host ⟨before, first, namesakes⟩
  case count =>
    refine linked.length_diagnostics_addReports fun entry listed => ?_
    obtain ⟨host, first, repeats, -⟩ := mem_duplicates_iff.mp listed
    exact linked.mem_walk_of_repeats repeats
  case again =>
    -- The second run finds the reports of the first, and each of them stands where it belongs.
    show tree.reportDuplicates.2.addReports tree.reportDuplicates.2.duplicates = _
    rw [annotates.duplicates_eq]
    refine addReports_of_hasReport fun entry listed => ?_
    obtain ⟨host, first, repeats, report_eq⟩ := mem_duplicates_iff.mp listed
    unfold hasReport
    rw [report_eq, linked.content_reportDuplicates repeats, decide_eq_true_iff]
    exact mem_diagnostics_addReport _ _

/-- An element with a plain attribute, a directive attribute that produces the same one, and the
plain one again in capitals; and a component with a parameter, the same one again, and one that
differs in letter case. -/
def repeatedNames : MarkupTree :=
  ((((((((MarkupTree.ofFileKind .component).appendNew root
    { kind := .markupElement "input" }).appendNew 1
    { kind := .htmlAttribute (some "value") false }).appendNew 1
    { kind := .directiveAttribute "@Value" default "Value" }).appendNew 1
    { kind := .htmlAttribute (some "VALUE") false }).appendNew root
    { kind := .component "Card" default }).appendNew 5
    { kind := .componentAttribute (some "Title") none false }).appendNew 5
    { kind := .helperProperty "Title" default "Title" false }).appendNew 5
    { kind := .componentAttribute (some "title") none false }

theorem reachable_repeatedNames : Reachable repeatedNames :=
  ((((((((Reachable.fresh _).appendNew (by decide) _).appendNew (by decide) _).appendNew
    (by decide) _).appendNew (by decide) _).appendNew (by decide) _).appendNew
    (by decide) _).appendNew (by decide) _).appendNew (by decide) _

/-- Each name that is repeated is reported: under the element the directive and the capitals, under
the component the same name and not the one that differs in letter case. -/
theorem reportDuplicates_repeatedNames :
    ∃ added left, repeatedNames.reportDuplicates = (added, left)
      ∧ (left.content 3).diagnostics.map (·.code.number) = [10008]
      ∧ (left.content 4).diagnostics.map (·.code.number) = [10007]
      ∧ (left.content 7).diagnostics.map (·.code.number) = [9985]
      ∧ (left.content 8).diagnostics = []
      ∧ left.diagnostics.length = 3 := by
  obtain ⟨added, left, ran, -, -, reported, others, codes, count, -⟩ :=
    Reachable.reportDuplicates_exact reachable_repeatedNames
  have one_report : ∀ host first id, repeatedNames.Repeats host first id →
      (repeatedNames.content id).diagnostics = [] →
      (left.content id).diagnostics.map (·.code.number) =
        [(repeatedNames.duplicateReport host first id).code.number] := by
    intro host first id repeats unreported
    rw [reported host first id repeats, unreported, if_neg List.not_mem_nil]
    rfl
  have directive : repeatedNames.Repeats .element 2 3 :=
    ⟨[], ⟨1, by decide, .element "input", ⟨[], [4], rfl⟩, "value", "@Value",
      .htmlAttribute .., .directiveAttribute .., by decide⟩, List.forall_mem_nil _⟩
  have capitals : repeatedNames.Repeats .element 2 4 :=
    ⟨[], ⟨1, by decide, .element "input", ⟨[3], [], rfl⟩, "value", "VALUE",
      .htmlAttribute .., .htmlAttribute .., by decide⟩, List.forall_mem_nil _⟩
  have same_name : repeatedNames.Repeats .component 6 7 :=
    ⟨[], ⟨5, by decide, .component "Card" default, ⟨[], [8], rfl⟩, "Title", "Title",
      .componentAttribute .., .helperProperty .., by decide⟩, List.forall_mem_nil _⟩
  have other_name : ∀ host, ¬ repeatedNames.FollowsNamesake host 8 := by
    intro host follows
    obtain ⟨first, repeats⟩ := follows.exists_repeats
    have listed := List.mem_map_of_mem (f := Prod.fst)
      (mem_duplicates_iff.mpr ⟨host, first, repeats, rfl⟩)
    have unlisted : 8 ∉ repeatedNames.duplicates.map Prod.fst := by decide
    exact unlisted listed
  have three : 3 = added := congrArg Prod.fst ran
  refine ⟨added, left, ran, ?_, ?_, ?_, others 8 other_name, count.trans (three ▸ rfl)⟩
  · rw [one_report _ _ _ directive rfl, (codes .element 2 3).2]
    decide
  · rw [one_report _ _ _ capitals rfl, (codes .element 2 4).2]
    decide
  · rw [one_report _ _ _ same_name rfl, (codes .component 6 7).2]
    decide

end ComponentMarkup
