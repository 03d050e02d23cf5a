/-
  ComponentMarkup.Proofs.Pipeline.Boundaries
  ────────────────────────────────
  **Where a run of passes can stop.**

  A run stops between two passes, if the token is set when it is looked at there, or with a pass
  that applies and fails.  Who sets the token makes no difference: the caller, at any time before
  a check, or a pass that had its turn.  Whether a pass applies is asked of the document as the
  passes before it have left it.

  `TokenSetAfter`, `Unstopped` and `StopsAt` say when a run is to stop in terms of the passes that
  had their turns; what comes after them plays no part.

  Main statements: `Unstopped.exists_token`, by which passes that do not stop a run can be
  skipped, `unstopped_or_exists_stop`, and `Pipeline.runUnder_stops_at_boundaries`.
-/
import ComponentMarkup.Proofs.Compilation.Standard
import Mathlib.Data.List.Induction

namespace ComponentMarkup

/-! ## §1. When a run is to stop. -/

section Stops

variable (requests : Nat → Bool) (token : Cancellation) (document : Document)

/-- **The token is set** when it is looked at after some passes had their turns: it was so at the
start, the caller set it before one of the checks up to this one, or one of the passes applied and
asked for it. -/
def TokenSetAfter (before : List Pass) : Prop :=
  token.requested = true
    ∨ (∃ check ≤ before.length, requests check = true)
    ∨ ∃ earlier pass later, before = earlier ++ pass :: later
      ∧ pass.applies (Pass.applyAll earlier document) = true
      ∧ (pass.run (Pass.applyAll earlier document)).asksToCancel = true

/-- **Nothing stops a run** while some passes have their turns: before none of them the token is
set, and each of them that applies succeeds. -/
def Unstopped (before : List Pass) : Prop :=
  ∀ earlier pass later, before = earlier ++ pass :: later →
    ¬ TokenSetAfter requests token document earlier
      ∧ (pass.applies (Pass.applyAll earlier document) = true →
        (pass.run (Pass.applyAll earlier document)).failure = none)

/-- **A run stops at a pass**: the token is set before it, or it applies and fails. -/
def StopsAt (before : List Pass) (pass : Pass) : Prop :=
  TokenSetAfter requests token document before
    ∨ (pass.applies (Pass.applyAll before document) = true
      ∧ ∃ error, (pass.run (Pass.applyAll before document)).failure = some error)

end Stops

/-! ## §2. One pass. -/

/-- The token after the turn of a pass that may not apply. -/
def Pass.tokenAfter (pass : Pass) (document : Document) (token : Cancellation) : Cancellation :=
  if pass.applies document then token.heed (pass.run document).asksToCancel else token

theorem Pass.requested_tokenAfter (pass : Pass) (document : Document) (token : Cancellation) :
    (pass.tokenAfter document token).requested = true ↔
      token.requested = true
        ∨ (pass.applies document = true ∧ (pass.run document).asksToCancel = true) := by
  unfold Pass.tokenAfter
  split
  · next applies => simp [Cancellation.heed, applies]
  · next skipped => simp [skipped]

section Steps

variable {requests : Nat → Bool} {check : Nat} {held : Cancellation} {document : Document}
  {pass : Pass} (later : List Pass)

/-- A set token stops the run, whether or not the pass would apply. -/
theorem Pipeline.runPasses_of_set (set : (held.heed (requests check)).requested = true) :
    runPasses requests check (some held) document (pass :: later) =
      ⟨document, some (held.heed (requests check)), some (.cancelled pass.name)⟩ := by
  rw [runPasses]
  simp [set]

/-- A pass that fails is the last one. -/
theorem Pipeline.runPasses_of_failure (unset : (held.heed (requests check)).requested = false)
    (applies : pass.applies document = true) {error : CompileError}
    (fails : (pass.run document).failure = some error) :
    runPasses requests check (some held) document (pass :: later) =
      ⟨(pass.run document).document,
        some ((held.heed (requests check)).heed (pass.run document).asksToCancel), some error⟩ := by
  rw [runPasses]
  simp [unset, applies, fails]

/-- A pass that succeeds or does not apply lets the run go on. -/
theorem Pipeline.runPasses_of_success (unset : (held.heed (requests check)).requested = false)
    (succeeds : pass.applies document = true → (pass.run document).failure = none) :
    runPasses requests check (some held) document (pass :: later) =
      runPasses requests (check + 1) (some (pass.tokenAfter document (held.heed (requests check))))
        (pass.applyTo document) later := by
  rw [runPasses]
  unfold Pass.tokenAfter Pass.applyTo
  by_cases applies : pass.applies document = true
  · simp [unset, applies, succeeds applies]
  · simp [unset, applies]

end Steps

/-! ## §3. The passes before a stop. -/

section Runs

variable {requests : Nat → Bool} {token : Cancellation} {document : Document}
  {before later : List Pass} {pass : Pass}

/-- A place in a list with one more pass is in the list, or at the end. -/
theorem concat_eq_append_cons_iff {earlier : List Pass} {first : Pass} :
    before ++ [pass] = earlier ++ first :: later ↔
      (before = earlier ∧ pass = first ∧ later = [])
        ∨ ∃ between, before = earlier ++ first :: between ∧ later = between ++ [pass] := by
  constructor
  · intro same
    rcases List.eq_nil_or_concat later with none_later | ⟨between, last, later_eq⟩
    · subst none_later
      obtain ⟨front, back⟩ := List.append_inj' same rfl
      exact Or.inl ⟨front, List.head_eq_of_cons_eq back, rfl⟩
    · rw [List.concat_eq_append] at later_eq
      subst later_eq
      have regrouped : before ++ [pass] = (earlier ++ first :: between) ++ [last] := by
        simpa using same
      obtain ⟨front, back⟩ := List.append_inj' regrouped rfl
      exact Or.inr ⟨between, front, by rw [back]⟩
  · rintro (⟨rfl, rfl, rfl⟩ | ⟨between, rfl, rfl⟩)
    · rfl
    · simp

theorem Pass.applyAll_concat (before : List Pass) (pass : Pass) (document : Document) :
    Pass.applyAll (before ++ [pass]) document = pass.applyTo (Pass.applyAll before document) := by
  unfold Pass.applyAll
  rw [List.foldl_append]
  rfl

/-- **One more pass** brings one more check, and what the pass asks for. -/
theorem tokenSetAfter_concat_iff :
    TokenSetAfter requests token document (before ++ [pass]) ↔
      TokenSetAfter requests token document before
        ∨ (pass.applies (Pass.applyAll before document) = true
          ∧ (pass.run (Pass.applyAll before document)).asksToCancel = true)
        ∨ requests (before.length + 1) = true := by
  have checks : (∃ check ≤ (before ++ [pass]).length, requests check = true) ↔
      (∃ check ≤ before.length, requests check = true) ∨ requests (before.length + 1) = true := by
    rw [List.length_append, List.length_singleton]
    constructor
    · rintro ⟨check, le, request⟩
      rcases Nat.le_succ_iff.mp le with earlier | same
      · exact Or.inl ⟨check, earlier, request⟩
      · rw [same] at request
        exact Or.inr request
    · rintro (⟨check, le, request⟩ | request)
      · exact ⟨check, Nat.le_succ_of_le le, request⟩
      · exact ⟨before.length + 1, Nat.le_refl _, request⟩
  unfold TokenSetAfter
  rw [checks]
  constructor
  · rintro (start | (caller | now) | ⟨earlier, first, later, place, asks⟩)
    · exact Or.inl (Or.inl start)
    · exact Or.inl (Or.inr (Or.inl caller))
    · exact Or.inr (Or.inr now)
    · rcases concat_eq_append_cons_iff.mp place with ⟨rfl, rfl, -⟩ | ⟨between, inside, -⟩
      · exact Or.inr (Or.inl asks)
      · exact Or.inl (Or.inr (Or.inr ⟨earlier, first, between, inside, asks⟩))
  · rintro ((start | caller | ⟨earlier, first, later, place, asks⟩) | asks | now)
    · exact Or.inl start
    · exact Or.inr (Or.inl (Or.inl caller))
    · refine Or.inr (Or.inr ⟨earlier, first, later ++ [pass], ?_, asks⟩)
      exact concat_eq_append_cons_iff.mpr (Or.inr ⟨later, place, rfl⟩)
    · exact Or.inr (Or.inr ⟨before, pass, [], rfl, asks⟩)
    · exact Or.inr (Or.inl (Or.inr now))

theorem tokenSetAfter_nil_iff :
    TokenSetAfter requests token document [] ↔ token.requested = true ∨ requests 0 = true := by
  simp [TokenSetAfter]

/-- **One more pass** does not stop the run if the token is not set before it and it succeeds. -/
theorem unstopped_concat_iff :
    Unstopped requests token document (before ++ [pass]) ↔
      Unstopped requests token document before
        ∧ ¬ TokenSetAfter requests token document before
        ∧ (pass.applies (Pass.applyAll before document) = true →
          (pass.run (Pass.applyAll before document)).failure = none) := by
  constructor
  · intro unstopped
    refine ⟨fun earlier first later place => ?_, unstopped before pass [] rfl⟩
    exact unstopped earlier first (later ++ [pass])
      (concat_eq_append_cons_iff.mpr (Or.inr ⟨later, place, rfl⟩))
  · rintro ⟨unstopped, here⟩ earlier first later place
    rcases concat_eq_append_cons_iff.mp place with ⟨rfl, rfl, -⟩ | ⟨between, inside, -⟩
    · exact here
    · exact unstopped earlier first between inside

theorem unstopped_nil : Unstopped requests token document [] := by
  intro earlier pass later place
  simp at place

/-- **A run is unstopped or there is a first pass that it stops at.** -/
theorem unstopped_or_exists_stop (requests : Nat → Bool) (token : Cancellation)
    (document : Document) (passes : List Pass) :
    Unstopped requests token document passes
      ∨ ∃ before pass later, passes = before ++ pass :: later
        ∧ Unstopped requests token document before
        ∧ StopsAt requests token document before pass := by
  induction passes using List.reverseRecOn with
  | nil => exact Or.inl unstopped_nil
  | append_singleton before pass ih =>
    rcases ih with unstopped | ⟨earlier, first, between, place, unstopped, stops⟩
    · by_cases stops : StopsAt requests token document before pass
      · exact Or.inr ⟨before, pass, [], rfl, unstopped, stops⟩
      · unfold StopsAt at stops
        rw [not_or, not_and, not_exists] at stops
        refine Or.inl (unstopped_concat_iff.mpr ⟨unstopped, stops.1, fun applies => ?_⟩)
        exact Option.eq_none_iff_forall_ne_some.mpr (stops.2 applies)
    · refine Or.inr ⟨earlier, first, between ++ [pass], ?_, unstopped, stops⟩
      exact concat_eq_append_cons_iff.mpr (Or.inr ⟨between, place, rfl⟩)

/-- **Passes that do not stop a run can be skipped**: it goes on with the document that they leave
and with a token that tells what was asked for so far. -/
theorem Unstopped.exists_token (unstopped : Unstopped requests token document before) :
    ∃ held : Cancellation,
      ((held.heed (requests before.length)).requested = true ↔
        TokenSetAfter requests token document before)
      ∧ ∀ later, Pipeline.runPasses requests 0 (some token) document (before ++ later) =
        Pipeline.runPasses requests before.length (some held) (Pass.applyAll before document)
          later := by
  -- The last of the passes is taken off, so that the run starts in the same way.
  induction before using List.reverseRecOn with
  | nil =>
    refine ⟨token, ?_, fun later => rfl⟩
    rw [tokenSetAfter_nil_iff]
    exact Bool.or_eq_true_iff
  | append_singleton before pass ih =>
    obtain ⟨earlier, unset, succeeds⟩ := unstopped_concat_iff.mp unstopped
    obtain ⟨held, held_iff, run_eq⟩ := ih earlier
    have held_unset : (held.heed (requests before.length)).requested = false := by
      rw [← Bool.not_eq_true, held_iff]
      exact unset
    refine ⟨pass.tokenAfter (Pass.applyAll before document) (held.heed (requests before.length)),
      ?_, fun later => ?_⟩
    · rw [tokenSetAfter_concat_iff, ← held_iff, List.length_append, List.length_singleton]
      show (_ || _) = true ↔ _
      rw [Bool.or_eq_true, Pass.requested_tokenAfter, or_assoc]
    · rw [List.append_assoc, List.singleton_append, run_eq,
        Pipeline.runPasses_of_success later held_unset succeeds, Pass.applyAll_concat,
        List.length_append, List.length_singleton]

end Runs

/-! ## §4. Whole runs. -/

/-- **A run stops at the first boundary where the token is set**, or with the first pass that
applies and fails, whichever comes first.  At a boundary the document is what the passes before it
made, one after the other, of those that applied; the error names the pass that would have been
next, whether or not it applies.  After a failure no later pass has any say.  If neither happens,
every pass that applies has had its turn.  One of the three is always the case. -/
theorem Pipeline.runUnder_stops_at_boundaries (pipeline : Pipeline) (token : Cancellation)
    (document : Document) (requests : Nat → Bool) :
    (∀ before pass later, pipeline.passes = before ++ pass :: later →
      Unstopped requests token document before →
      TokenSetAfter requests token document before →
        (pipeline.runUnder token document requests).failure = some (.cancelled pass.name)
          ∧ (pipeline.runUnder token document requests).document = Pass.applyAll before document)
      ∧ (∀ before pass later error, pipeline.passes = before ++ pass :: later →
        Unstopped requests token document before →
        ¬ TokenSetAfter requests token document before →
        pass.applies (Pass.applyAll before document) = true →
        (pass.run (Pass.applyAll before document)).failure = some error →
          (pipeline.runUnder token document requests).failure = some error
            ∧ (pipeline.runUnder token document requests).document =
              (pass.run (Pass.applyAll before document)).document
            ∧ ∀ others, pipeline.runUnder token document requests =
              runUnder ⟨before ++ pass :: others⟩ token document requests)
      ∧ (Unstopped requests token document pipeline.passes →
        (pipeline.runUnder token document requests).failure = none
          ∧ (pipeline.runUnder token document requests).document =
            Pass.applyAll pipeline.passes document)
      ∧ (Unstopped requests token document pipeline.passes
        ∨ ∃ before pass later, pipeline.passes = before ++ pass :: later
          ∧ Unstopped requests token document before
          ∧ StopsAt requests token document before pass) := by
  unfold runUnder
  refine ⟨?_, ?_, ?_, unstopped_or_exists_stop requests token document pipeline.passes⟩
  · intro before pass later place unstopped set
    obtain ⟨held, held_iff, run_eq⟩ := unstopped.exists_token
    rw [place, run_eq, runPasses_of_set later (held_iff.mpr set)]
    exact ⟨rfl, rfl⟩
  · intro before pass later error place unstopped unset applies fails
    obtain ⟨held, held_iff, run_eq⟩ := unstopped.exists_token
    have held_unset : (held.heed (requests before.length)).requested = false := by
      rw [← Bool.not_eq_true, held_iff]
      exact unset
    rw [place, run_eq, runPasses_of_failure later held_unset applies fails]
    refine ⟨rfl, rfl, fun others => ?_⟩
    rw [run_eq, runPasses_of_failure others held_unset applies fails]
  · intro unstopped
    obtain ⟨held, -, run_eq⟩ := unstopped.exists_token
    have all := run_eq []
    rw [List.append_nil] at all
    rw [all, runPasses]
    exact ⟨rfl, rfl⟩

/-- Adds an element and asks for the run to be cancelled. -/
def Pass.impatient : Pass where
  name := "impatient"
  order := 0
  applies := Pass.always
  run document :=
    let tree := document.tree.appendNew MarkupTree.root { kind := .markupElement "p" }
    { document := { document with tree := tree }, asksToCancel := true }

/-- Fails. -/
def Pass.failing : Pass where
  name := "failing"
  order := 0
  applies := Pass.always
  run document := { document := document, failure := some (.malformedTree .rootNotDocument) }

/-- A request comes too late for the pass that makes it, and in time for the next one, which is
kept from failing; a pass that fails first leaves it no time to ask; and after the last pass nobody
looks. -/
theorem runUnder_stops_impatient_failing :
    let document := Document.ofTree (.ofFileKind .component) .component .latest .empty
    (Pipeline.runUnder ⟨[.impatient, .failing]⟩ {} document).failure = some (.cancelled "failing")
      ∧ (Pipeline.runUnder ⟨[.failing, .impatient]⟩ {} document).document = document
      ∧ (Pipeline.runUnder ⟨[.impatient]⟩ {} document).failure = none := by
  intro document
  have unset : ¬ TokenSetAfter (fun _ => false) {} document [] := by
    simp [tokenSetAfter_nil_iff]
  have unstopped : Unstopped (fun _ => false) {} document ([] ++ [.impatient]) :=
    unstopped_concat_iff.mpr ⟨unstopped_nil, unset, fun _ => rfl⟩
  have set : TokenSetAfter (fun _ => false) {} document ([] ++ [.impatient]) :=
    tokenSetAfter_concat_iff.mpr (Or.inr (Or.inl ⟨rfl, rfl⟩))
  obtain ⟨cancelled, -, -⟩ :=
    Pipeline.runUnder_stops_at_boundaries ⟨[.impatient, .failing]⟩ {} document fun _ => false
  obtain ⟨-, failed, -, -⟩ :=
    Pipeline.runUnder_stops_at_boundaries ⟨[.failing, .impatient]⟩ {} document fun _ => false
  obtain ⟨-, -, completed, -⟩ :=
    Pipeline.runUnder_stops_at_boundaries ⟨[.impatient]⟩ {} document fun _ => false
  refine ⟨(cancelled _ _ [] rfl unstopped set).1, ?_, (completed unstopped).1⟩
  exact (failed [] _ [.impatient] _ rfl unstopped_nil unset rfl rfl).2.1

end ComponentMarkup
