/-
  ComponentMarkup.Proofs.Pipeline.Registration
  ────────────────────────────────
  **Passes stand in a stable order.**

  However passes are registered, they stand in ascending order, and passes of one order stand as
  they were registered.  There is only one such list, so that a pipeline that sorts its passes at
  every registration holds what one stable sort of all registrations would give.  A pass that comes
  late goes after every pass of its order and before every pass of a higher one.

  Main statements: `eq_of_ascending_of_ties`, `StablySorted.register` and
  `Pipeline.registerAll_stable`.
-/
import ComponentMarkup.Pipeline.Standard
import Mathlib.Data.List.TakeWhile

namespace ComponentMarkup

/-! ## §1. Lists in a stable order. -/

/-- Passes in ascending order. -/
def Ascending (passes : List Pass) : Prop :=
  passes.Pairwise fun first second => first.order ≤ second.order

/-- The passes of one order, as they stand in a list. -/
def withOrder (order : Int) (passes : List Pass) : List Pass :=
  passes.filter fun pass => decide (pass.order = order)

/-- **A stable order of what was registered**: the same passes in ascending order, and those of one
order as they were registered. -/
structure StablySorted (registered sorted : List Pass) : Prop where
  perm : sorted.Perm registered
  ascending : Ascending sorted
  ties : ∀ order, withOrder order sorted = withOrder order registered

theorem withOrder_append (order : Int) (first second : List Pass) :
    withOrder order (first ++ second) = withOrder order first ++ withOrder order second := by
  unfold withOrder
  rw [List.filter_append]

theorem withOrder_cons_self (pass : Pass) (rest : List Pass) :
    withOrder pass.order (pass :: rest) = pass :: withOrder pass.order rest := by
  simp [withOrder]

theorem withOrder_cons_of_ne {order : Int} {pass : Pass} (other : pass.order ≠ order)
    (rest : List Pass) : withOrder order (pass :: rest) = withOrder order rest := by
  simp [withOrder, other]

theorem withOrder_eq_nil {order : Int} {passes : List Pass}
    (others : ∀ pass ∈ passes, pass.order ≠ order) : withOrder order passes = [] := by
  unfold withOrder
  rw [List.filter_eq_nil_iff]
  intro pass mem
  simpa using others pass mem

theorem mem_of_withOrder_eq_cons {order : Int} {passes rest : List Pass} {pass : Pass}
    (starts : withOrder order passes = pass :: rest) : pass ∈ passes := by
  have mem : pass ∈ withOrder order passes := by simp [starts]
  exact (List.mem_filter.mp mem).1

/-- The first pass of an ascending list has the lowest order. -/
theorem Ascending.head_le {first pass : Pass} {rest : List Pass}
    (ascending : Ascending (first :: rest)) (mem : pass ∈ first :: rest) :
    first.order ≤ pass.order := by
  rcases List.mem_cons.mp mem with same | later
  · subst same
    omega
  · exact List.rel_of_pairwise_cons ascending later

/-- **There is one ascending list** with given passes of every order. -/
theorem eq_of_ascending_of_ties {one other : List Pass} (of_one : Ascending one)
    (of_other : Ascending other) (ties : ∀ order, withOrder order one = withOrder order other) :
    one = other := by
  induction one generalizing other with
  | nil =>
    cases other with
    | nil => rfl
    | cons pass rest =>
      have absent := ties pass.order
      rw [withOrder_cons_self] at absent
      simp [withOrder] at absent
  | cons first rest ih =>
    cases other with
    | nil =>
      have absent := ties first.order
      rw [withOrder_cons_self] at absent
      simp [withOrder] at absent
    | cons second others =>
      -- Each first pass is in the other list, so that neither has a lower order.
      have at_first := ties first.order
      have at_second := ties second.order
      rw [withOrder_cons_self] at at_first at_second
      have first_mem := mem_of_withOrder_eq_cons at_first.symm
      have second_mem := mem_of_withOrder_eq_cons at_second
      have below := of_one.head_le second_mem
      have above := of_other.head_le first_mem
      have level : first.order = second.order := by omega
      have heads := ties first.order
      rw [withOrder_cons_self, level, withOrder_cons_self] at heads
      obtain ⟨same, -⟩ := List.cons.inj heads
      subst same
      congr 1
      apply ih (List.Pairwise.of_cons of_one) (List.Pairwise.of_cons of_other)
      intro order
      have here := ties order
      by_cases now : first.order = order
      · subst now
        rw [withOrder_cons_self, withOrder_cons_self] at here
        exact List.tail_eq_of_cons_eq here
      · rw [withOrder_cons_of_ne now, withOrder_cons_of_ne now] at here
        exact here

/-- Stable orders of the same registrations are the same list. -/
theorem StablySorted.unique {registered one other : List Pass}
    (of_one : StablySorted registered one) (of_other : StablySorted registered other) : one = other := by
  apply eq_of_ascending_of_ties of_one.ascending of_other.ascending
  intro order
  rw [of_one.ties, of_other.ties]

/-! ## §2. One stable sort. -/

/-- Whether a pass may stand before another one. -/
def Pass.mayPrecede (first second : Pass) : Bool := decide (first.order ≤ second.order)

theorem Pass.mayPrecede_trans (a b c : Pass) (ab : a.mayPrecede b = true)
    (bc : b.mayPrecede c = true) : a.mayPrecede c = true := by
  simp only [mayPrecede, decide_eq_true_eq] at ab bc ⊢
  omega

theorem Pass.mayPrecede_total (a b : Pass) : (a.mayPrecede b || b.mayPrecede a) = true := by
  simp only [mayPrecede, Bool.or_eq_true, decide_eq_true_eq]
  omega

/-- Passes of one order keep their places among each other in a sort. -/
theorem withOrder_mergeSort (order : Int) (passes : List Pass) :
    withOrder order (passes.mergeSort Pass.mayPrecede) = withOrder order passes := by
  have level : (withOrder order passes).Pairwise fun a b => a.mayPrecede b = true := by
    apply List.pairwise_of_forall_mem_list
    intro a a_mem b b_mem
    simp only [withOrder, List.mem_filter, decide_eq_true_eq] at a_mem b_mem
    simp only [Pass.mayPrecede, decide_eq_true_eq]
    omega
  have sublist : (withOrder order passes).Sublist (passes.mergeSort Pass.mayPrecede) :=
    List.sublist_mergeSort Pass.mayPrecede_trans Pass.mayPrecede_total level List.filter_sublist
  have filtered := sublist.filter fun pass => decide (pass.order = order)
  -- Both sides have the same length, so that the one inside the other is all of it.
  have lengths : (withOrder order (passes.mergeSort Pass.mayPrecede)).length
      = (withOrder order passes).length :=
    ((List.mergeSort_perm passes Pass.mayPrecede).filter _).length_eq
  unfold withOrder at filtered lengths ⊢
  rw [List.filter_filter] at filtered
  simp only [Bool.and_self] at filtered
  exact (filtered.eq_of_length lengths.symm).symm

/-- **A stable sort** puts passes into a stable order. -/
theorem stablySorted_mergeSort (passes : List Pass) :
    StablySorted passes (passes.mergeSort Pass.mayPrecede) where
  perm := List.mergeSort_perm passes Pass.mayPrecede
  ascending := by
    have sorted := List.pairwise_mergeSort Pass.mayPrecede_trans Pass.mayPrecede_total passes
    exact sorted.imp fun may => by simpa [Pass.mayPrecede] using may
  ties := fun order => withOrder_mergeSort order passes

/-! ## §3. Registration. -/

theorem Pipeline.passes_register (pipeline : Pipeline) (pass : Pass) :
    (pipeline.register pass).passes = (pipeline.passes ++ [pass]).mergeSort Pass.mayPrecede := rfl

/-- **One registration** keeps a stable order. -/
theorem StablySorted.register {registered : List Pass} {pipeline : Pipeline}
    (sorted : StablySorted registered pipeline.passes) (pass : Pass) :
    StablySorted (registered ++ [pass]) (pipeline.register pass).passes := by
  rw [Pipeline.passes_register]
  have again := stablySorted_mergeSort (pipeline.passes ++ [pass])
  constructor
  · exact again.perm.trans (sorted.perm.append_right [pass])
  · exact again.ascending
  · intro order
    rw [again.ties, withOrder_append, withOrder_append, sorted.ties]

/-- **Registrations one after the other** keep a stable order. -/
theorem StablySorted.registerAll {registered : List Pass} {pipeline : Pipeline}
    (sorted : StablySorted registered pipeline.passes) (passes : List Pass) :
    StablySorted (registered ++ passes) (pipeline.registerAll passes).passes := by
  induction passes generalizing registered pipeline with
  | nil =>
    rw [List.append_nil]
    exact sorted
  | cons pass rest ih =>
    have once := ih (sorted.register pass)
    rw [List.append_assoc, List.singleton_append] at once
    exact once

/-- The passes that a late one goes after. -/
def Pass.upTo (pass : Pass) (passes : List Pass) : List Pass :=
  passes.takeWhile fun other => other.mayPrecede pass

/-- The passes that a late one goes before. -/
def Pass.beyond (pass : Pass) (passes : List Pass) : List Pass :=
  passes.dropWhile fun other => other.mayPrecede pass

theorem Pass.order_le_of_mem_upTo {pass other : Pass} {passes : List Pass}
    (mem : other ∈ pass.upTo passes) : other.order ≤ pass.order := by
  have may := List.mem_takeWhile_imp mem
  simpa [mayPrecede] using may

/-- What stands behind a pass of a higher order has a higher order, too. -/
theorem Ascending.lt_order_of_mem_beyond {pass other : Pass} {passes : List Pass}
    (ascending : Ascending passes) (mem : other ∈ pass.beyond passes) :
    pass.order < other.order := by
  induction passes with
  | nil => simp [Pass.beyond] at mem
  | cons first rest ih =>
    unfold Pass.beyond at mem
    rw [List.dropWhile_cons] at mem
    by_cases may : first.mayPrecede pass = true
    · rw [if_pos may] at mem
      exact ih (List.Pairwise.of_cons ascending) mem
    · rw [if_neg may] at mem
      have higher : pass.order < first.order := by simpa [Pass.mayPrecede] using may
      have first_le := ascending.head_le mem
      omega

/-- **A late pass** goes after every pass of its order and before every pass of a higher one. -/
theorem Pipeline.passes_register_late {pipeline : Pipeline} (ascending : Ascending pipeline.passes)
    (pass : Pass) : (pipeline.register pass).passes
      = pass.upTo pipeline.passes ++ pass :: pass.beyond pipeline.passes := by
  have parts : pass.upTo pipeline.passes ++ pass.beyond pipeline.passes = pipeline.passes :=
    List.takeWhile_append_dropWhile
  have split : Ascending (pass.upTo pipeline.passes ++ pass.beyond pipeline.passes) :=
    parts.symm ▸ ascending
  obtain ⟨before, after, -⟩ := List.pairwise_append.mp split
  have sorted := stablySorted_mergeSort (pipeline.passes ++ [pass])
  rw [passes_register]
  apply sorted.unique
  constructor
  case perm =>
    have front : (pass.upTo pipeline.passes ++ pass :: pass.beyond pipeline.passes).Perm
        (pass :: (pass.upTo pipeline.passes ++ pass.beyond pipeline.passes)) := List.perm_middle
    rw [parts] at front
    exact front.trans (List.perm_append_singleton pass pipeline.passes).symm
  case ascending =>
    apply List.pairwise_append.mpr
    have first : ∀ other ∈ pass.beyond pipeline.passes, pass.order ≤ other.order := by
      intro other mem
      have higher := ascending.lt_order_of_mem_beyond mem
      omega
    have across : ∀ other ∈ pass.upTo pipeline.passes,
        ∀ later ∈ pass :: pass.beyond pipeline.passes, other.order ≤ later.order := by
      intro other mem later later_mem
      have lower := Pass.order_le_of_mem_upTo mem
      rcases List.mem_cons.mp later_mem with same | behind
      · rw [same]
        exact lower
      · have higher := first later behind
        omega
    exact ⟨before, List.pairwise_cons.mpr ⟨first, after⟩, across⟩
  case ties =>
    intro order
    have whole : withOrder order pipeline.passes
        = withOrder order (pass.upTo pipeline.passes)
          ++ withOrder order (pass.beyond pipeline.passes) := by
      rw [← withOrder_append, parts]
    rw [withOrder_append, withOrder_append, whole, List.append_assoc]
    congr 1
    by_cases here : pass.order = order
    · -- Nothing behind the pass has its order.
      have none_behind : withOrder order (pass.beyond pipeline.passes) = [] := by
        apply withOrder_eq_nil
        intro other mem
        have higher := ascending.lt_order_of_mem_beyond mem
        omega
      subst here
      rw [withOrder_cons_self, withOrder_cons_self, none_behind]
      rfl
    · rw [withOrder_cons_of_ne here, withOrder_cons_of_ne here]
      simp [withOrder]

/-! ## §4. Pipelines. -/

/-- **What a pipeline holds after some registrations**: a stable order of them, which no other list
is, and the one that a single sort gives.  The next pass is put in its place. -/
structure Pipeline.HoldsStably (pipeline : Pipeline) (registered : List Pass) : Prop where
  sorted : StablySorted registered pipeline.passes
  only : ∀ other, StablySorted registered other → other = pipeline.passes
  sorted_once : pipeline.passes = registered.mergeSort Pass.mayPrecede
  next : ∀ pass, (pipeline.register pass).passes
    = pass.upTo pipeline.passes ++ pass :: pass.beyond pipeline.passes

theorem StablySorted.holdsStably {registered : List Pass} {pipeline : Pipeline}
    (sorted : StablySorted registered pipeline.passes) : pipeline.HoldsStably registered where
  sorted := sorted
  only := fun _ other => other.unique sorted
  sorted_once := sorted.unique (stablySorted_mergeSort registered)
  next := Pipeline.passes_register_late sorted.ascending

theorem stablySorted_empty : StablySorted [] Pipeline.empty.passes where
  perm := List.Perm.refl []
  ascending := List.Pairwise.nil
  ties := fun _ => rfl

/-- **Registration gives a stable order**, from the empty pipeline and from the standard one, whose
own passes count as registered first. -/
theorem Pipeline.registerAll_stable (passes : List Pass) :
    (empty.registerAll passes).HoldsStably passes
      ∧ (standard.registerAll passes).HoldsStably
        ([.splatLowering, .duplicateReporting] ++ passes) := by
  constructor
  · have sorted := stablySorted_empty.registerAll passes
    exact sorted.holdsStably
  · have own := stablySorted_empty.registerAll [.splatLowering, .duplicateReporting]
    exact (own.registerAll passes).holdsStably

end ComponentMarkup
