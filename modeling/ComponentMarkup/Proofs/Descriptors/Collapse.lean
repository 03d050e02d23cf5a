/-
  ComponentMarkup.Proofs.Descriptors.Collapse
  ────────────────────────────────
  **What stays when repetitions collapse.**

  Of the parameters, the bound attributes and the rules that are the same, the first one stays, in
  its place.  Because sameness is equality of identities, the first descriptor that is the same as
  a given one is the same descriptor before and after the collapse: that is what every statement
  about built lists comes down to.

  Main statements: `find?_eraseDupsBy`, `mem_eraseDupsBy_iff`, `exists_mem_eraseDupsBy`,
  `exists_mem_eraseDupsBy_iff` and `forall₂_eraseDupsBy`.
-/
import ComponentMarkup.Declaration.Build
import ComponentMarkup.Proofs.Descriptors.Equality
import Mathlib.Data.List.Forall2

namespace ComponentMarkup

section FirstOccurrences

variable {α β : Type} {same : α → α → Bool} {identity : α → β}

/-- Induction along the collapse of a list: the repetitions of the head go first. -/
theorem eraseDupsBy_induction (same : α → α → Bool) {motive : List α → Prop} (nil : motive [])
    (cons : ∀ head rest, motive (rest.filter fun other => same other head = false) →
      motive (head :: rest))
    (list : List α) : motive list :=
  match list with
  | [] => nil
  | head :: rest => cons head rest (eraseDupsBy_induction same nil cons _)
termination_by list.length
decreasing_by exact Nat.lt_succ_of_le (List.length_filter_le _ _)

/-- Dropping the repetitions of one element leaves all that is the same as another one. -/
theorem find?_filter_same (same_iff : ∀ x y, same x y = true ↔ identity x = identity y)
    {x head : α} (different : same x head = false) (list : List α) :
    (list.filter fun other => same other head = false).find? (same x) = list.find? (same x) := by
  rw [List.find?_filter]
  congr 1
  funext other
  cases like_x : same x other with
  | false => simp
  | true =>
    have like_head : same other head = false := by
      rw [Bool.eq_false_iff, ne_eq, same_iff, ← (same_iff x other).mp like_x, ← same_iff]
      simp [different]
    simp [like_head]

/-- **The first that is the same as a given one** is not lost, and still the first. -/
theorem find?_eraseDupsBy (same_iff : ∀ x y, same x y = true ↔ identity x = identity y) (x : α)
    (list : List α) : (list.eraseDupsBy same).find? (same x) = list.find? (same x) := by
  induction list using eraseDupsBy_induction same with
  | nil => rfl
  | cons head rest ih =>
    rw [List.eraseDupsBy_cons, List.find?_cons, List.find?_cons]
    cases like_head : same x head with
    | true => rfl
    | false => exact ih.trans (find?_filter_same same_iff like_head rest)

theorem mem_of_mem_eraseDupsBy {list : List α} {x : α} (kept : x ∈ list.eraseDupsBy same) :
    x ∈ list := by
  induction list using eraseDupsBy_induction same with
  | nil => exact kept
  | cons head rest ih =>
    rw [List.eraseDupsBy_cons, List.mem_cons] at kept
    rcases kept with rfl | later
    · exact List.mem_cons_self
    · exact List.mem_cons_of_mem _ (List.mem_of_mem_filter (ih later))

/-- **What stays** are the elements that are the first of their kind. -/
theorem mem_eraseDupsBy_iff (same_iff : ∀ x y, same x y = true ↔ identity x = identity y) {x : α}
    {list : List α} : x ∈ list.eraseDupsBy same ↔ list.find? (same x) = some x := by
  constructor
  · intro kept
    induction list using eraseDupsBy_induction same with
    | nil => exact absurd kept (by simp)
    | cons head rest ih =>
      rw [List.eraseDupsBy_cons, List.mem_cons] at kept
      rw [List.find?_cons]
      rcases kept with rfl | later
      · rw [(same_iff x x).mpr rfl]
      · have different : same x head = false := by
          simpa using (List.mem_filter.mp (mem_of_mem_eraseDupsBy later)).2
        rw [different, ← find?_filter_same same_iff different rest]
        exact ih later
  · intro first
    rw [← find?_eraseDupsBy same_iff] at first
    exact List.mem_of_find?_eq_some first

/-- Every element is the same as one that stays. -/
theorem exists_mem_eraseDupsBy (same_iff : ∀ x y, same x y = true ↔ identity x = identity y)
    {x : α} {list : List α} (mem : x ∈ list) :
    ∃ first ∈ list.eraseDupsBy same, list.find? (same x) = some first ∧ same x first = true := by
  have found : (list.find? (same x)).isSome = true :=
    List.find?_isSome.mpr ⟨x, mem, (same_iff x x).mpr rfl⟩
  obtain ⟨first, eq⟩ := Option.isSome_iff_exists.mp found
  refine ⟨first, ?_, eq, List.find?_some eq⟩
  rw [← find?_eraseDupsBy same_iff] at eq
  exact List.mem_of_find?_eq_some eq

/-- What elements that are the same have in common occurs after the collapse if it did before. -/
theorem exists_mem_eraseDupsBy_iff
    (same_iff : ∀ x y, same x y = true ↔ identity x = identity y) {list : List α} {p : α → Prop}
    (common : ∀ x ∈ list, ∀ y ∈ list, same x y = true → p x → p y) :
    (∃ x ∈ list.eraseDupsBy same, p x) ↔ ∃ x ∈ list, p x := by
  constructor
  · intro ⟨x, kept, holds⟩
    exact ⟨x, mem_of_mem_eraseDupsBy kept, holds⟩
  · intro ⟨x, mem, holds⟩
    obtain ⟨first, kept, -, alike⟩ := exists_mem_eraseDupsBy same_iff mem
    exact ⟨first, kept, common x mem first (mem_of_mem_eraseDupsBy kept) alike holds⟩

/-- The collapse of images is the image of the collapse, if elements have images that are the same
exactly if they are the same themselves. -/
theorem eraseDupsBy_map {γ : Type} {same_source : γ → γ → Bool} {f : γ → α}
    (same_map : ∀ x y, same (f x) (f y) = same_source x y) (list : List γ) :
    (list.map f).eraseDupsBy same = (list.eraseDupsBy same_source).map f := by
  induction list using eraseDupsBy_induction same_source with
  | nil => rfl
  | cons head rest ih =>
    rw [List.map_cons, List.eraseDupsBy_cons, List.eraseDupsBy_cons, List.map_cons, ← ih,
      List.filter_map]
    congr 4
    funext other
    rw [Function.comp_apply, same_map]

/-- **Changes that keep what counts** of the elements keep the places of those that stay. -/
theorem forall₂_eraseDupsBy (same_iff : ∀ x y, same x y = true ↔ identity x = identity y)
    {change : α → α → Prop} (keeps : ∀ x y, change x y → identity x = identity y)
    {before after : List α} (changed : List.Forall₂ change before after) :
    List.Forall₂ change (before.eraseDupsBy same) (after.eraseDupsBy same) := by
  induction before using eraseDupsBy_induction same generalizing after with
  | nil =>
    cases changed
    exact .nil
  | cons head rest ih =>
    cases changed with
    | @cons _ head' _ rest' head_changed rest_changed =>
      have like_head : ∀ ⦃x y⦄, change x y → (decide (same x head = false) ↔
          decide (same y head' = false)) := by
        intro x y x_changed
        have same_eq : same x head = same y head' := by
          rw [Bool.eq_iff_iff, same_iff, same_iff, keeps x y x_changed,
            keeps head head' head_changed]
        rw [same_eq]
      rw [List.eraseDupsBy_cons, List.eraseDupsBy_cons]
      exact .cons head_changed (ih (List.rel_filter like_head rest_changed))

/-- A test that does not tell apart what is the same comes to the same before and after the
collapse. -/
theorem filter_eraseDupsBy {p : α → Bool} (congr : ∀ x y, same x y = true → p x = p y)
    (list : List α) : (list.eraseDupsBy same).filter p = (list.filter p).eraseDupsBy same := by
  induction list using eraseDupsBy_induction same with
  | nil => rfl
  | cons head rest ih =>
    rw [List.eraseDupsBy_cons, List.filter_cons, List.filter_cons, ih, List.filter_comm]
    split
    · rw [List.eraseDupsBy_cons]
    · next fails =>
      -- What is the same as the head fails the test with it.
      congr 1
      apply List.filter_eq_self.mpr
      intro other passing
      rw [decide_eq_true_eq, Bool.eq_false_iff]
      intro like_head
      rw [← congr other head like_head] at fails
      exact fails (List.mem_filter.mp passing).2

end FirstOccurrences

end ComponentMarkup
