/-
  ComponentMarkup.Proofs.Descriptors.Binding
  ────────────────────────────────
  **Which names an attribute binds.**

  A bound attribute binds its own name and every name that properly extends its indexer prefix,
  both up to the case of ASCII letters.  The names that start with `data-` belong to client script
  and nothing should bind them.  Validation makes sure that no name and no prefix starts with
  `data-`; but a shorter prefix need not start with it to have such names among its extensions.

  Main statements: `BoundAttribute.matchesName_iff`,
  `AttributeDeclaration.matchesName_reserved_iff` and `byteTests_read_characters`.
-/
import ComponentMarkup.Proofs.Descriptors.Validity

namespace ComponentMarkup

/-! ## §1. Matching as a test on characters. -/

namespace BoundAttribute

/-- An attribute binds its own name, up to the case of ASCII letters. -/
theorem matchesOwnName_iff (bound : BoundAttribute) (written : String) :
    bound.matchesOwnName written = true
      ↔ ∃ name, bound.name = some name
        ∧ name.toList.map Char.toLower = written.toList.map Char.toLower := by
  simp only [matchesOwnName, Option.any_eq_true, Text.sameIgnoringCase_utf8_iff]

/-- The test on the indexer has a value for every name: an indexer binds the names that its prefix
starts, but not the prefix itself. -/
theorem exists_matchesIndexer?_eq (bound : BoundAttribute) (written : String) :
    ∃ binds, bound.matchesIndexer? written = some binds
      ∧ (binds = true ↔ ∃ start, bound.indexerNamePrefix = some start
        ∧ start.toList.map Char.toLower <+: written.toList.map Char.toLower
        ∧ start.toList.map Char.toLower ≠ written.toList.map Char.toLower) := by
  unfold matchesIndexer?
  cases bound.indexerNamePrefix with
  | none => exact ⟨false, rfl, by simp⟩
  | some start =>
    simp only [Option.some.injEq, exists_eq_left']
    split
    · next shorter =>
      rw [Text.startsIgnoringCase?_eq]
      refine ⟨_, rfl, ?_⟩
      rw [decide_eq_true_iff]
      exact ⟨fun starts => ⟨starts, (Text.length_utf8_lt_iff_of_starts starts).mp shorter⟩,
        And.left⟩
    · next not_shorter =>
      refine ⟨false, rfl, fun never => absurd never Bool.false_ne_true, ?_⟩
      intro ⟨starts, different⟩
      exact absurd ((Text.length_utf8_lt_iff_of_starts starts).mpr different) not_shorter

/-- **The test has a value for every name.** -/
theorem matchesName?_eq (bound : BoundAttribute) (written : String) :
    bound.matchesName? written = some (bound.matchesName written) := by
  obtain ⟨binds, tested, -⟩ := bound.exists_matchesIndexer?_eq written
  unfold matchesName matchesName?
  rw [tested]
  cases bound.matchesOwnName written with
  | true => rfl
  | false => rfl

/-- **What an attribute binds**: its own name and the names that its indexer's prefix starts. -/
theorem matchesName_iff (bound : BoundAttribute) (written : String) :
    bound.matchesName written = true
      ↔ (∃ name, bound.name = some name
          ∧ name.toList.map Char.toLower = written.toList.map Char.toLower)
        ∨ ∃ start, bound.indexerNamePrefix = some start
          ∧ start.toList.map Char.toLower <+: written.toList.map Char.toLower
          ∧ start.toList.map Char.toLower ≠ written.toList.map Char.toLower := by
  obtain ⟨binds, tested, binds_iff⟩ := bound.exists_matchesIndexer?_eq written
  rw [← matchesOwnName_iff, ← binds_iff]
  unfold matchesName matchesName?
  rw [tested]
  cases bound.matchesOwnName written with
  | true => simp
  | false => simp

end BoundAttribute

/-! ## §2. Reserved names. -/

namespace AttributeName

theorem isReserved_congr {x y : String}
    (alike : x.toList.map Char.toLower = y.toList.map Char.toLower) :
    isReserved x = isReserved y := by
  rw [Bool.eq_iff_iff, isReserved_iff, isReserved_iff, alike]

/-- A reserved name is not blank. -/
theorem not_blank_of_isReserved {name : String} (reserved : isReserved name = true) :
    name.toList.all Text.isBlank = false := by
  have starts := (isReserved_iff name).mp reserved
  have mem : 'd' ∈ name.toList.map Char.toLower := starts.subset (by decide)
  obtain ⟨c, among, small⟩ := List.mem_map.mp mem
  have ascii : c.toNat < 0x80 := by
    by_contra other
    rw [Text.toLower_of_not_ascii (Nat.le_of_not_lt other)] at small
    rw [small] at other
    exact other (by decide)
  have shown : Text.isBlank c = false :=
    Text.forall_ascii (p := fun c => c.toLower = 'd' → Text.isBlank c = false) (by decide +kernel)
      ascii small
  exact List.all_eq_false.mpr ⟨c, among, by simp [shown]⟩

/-- Of the prefixes that are not reserved, those that properly start a reserved name are the ones
that end before the dash. -/
theorem starts_reserved_iff {start written : String} (unreserved : isReserved start = false)
    (reserved : isReserved written = true) :
    (start.toList.map Char.toLower <+: written.toList.map Char.toLower
        ∧ start.toList.map Char.toLower ≠ written.toList.map Char.toLower)
      ↔ start.toList.map Char.toLower <+: "data".toList := by
  have dash : dataDash.toList = "data".toList ++ ['-'] := by decide
  have whole := (isReserved_iff written).mp reserved
  have not_whole : ¬ dataDash.toList <+: start.toList.map Char.toLower := by
    rw [← isReserved_iff, unreserved]
    decide
  constructor
  · intro ⟨starts, _⟩
    -- Both start the same name, so one of them starts the other.
    rcases List.prefix_or_prefix_of_prefix starts whole with short | long
    · rw [dash, List.prefix_concat_iff, ← dash] at short
      rcases short with same | short
      · exact absurd (same ▸ List.prefix_refl _) not_whole
      · exact short
    · exact absurd long not_whole
  · intro short
    have below : start.toList.map Char.toLower <+: dataDash.toList :=
      short.trans (dash ▸ List.prefix_append _ _)
    refine ⟨below.trans whole, ?_⟩
    intro same
    exact not_whole (same ▸ whole)

end AttributeName

/-- **An accepted attribute binds a reserved name exactly if its indexer's prefix ends before the
dash**, that is, if the prefix is empty, `d`, `da`, `dat` or `data` up to the case of letters.  Its
own name is never one, and the prefix of a directive attribute starts with the marker. -/
theorem AttributeDeclaration.matchesName_reserved_iff (declared : AttributeDeclaration)
    (owner : Owner) (written : String) (accepted : (declared.build owner).diagnostics = [])
    (reserved : AttributeName.isReserved written = true) :
    (declared.build owner).matchesName written = true
      ↔ ∃ start, (declared.build owner).indexerNamePrefix = some start
        ∧ start.toList.map Char.toLower <+: "data".toList := by
  have well_named := ((declared.build_diagnostics_eq_nil_iff owner).mp accepted).1
  rw [BoundAttribute.matchesName_iff]
  constructor
  · intro binds
    rcases binds with ⟨name, named, alike⟩ | ⟨start, indexed, starts⟩
    · -- A name like a reserved one is reserved itself, and would not have been accepted.
      have name_reserved : AttributeName.isReserved name = true :=
        (AttributeName.isReserved_congr alike).trans reserved
      have present : Text.nonBlank? (declared.build owner).name = some name :=
        Text.nonBlank?_eq_some_iff.mpr ⟨named, AttributeName.not_blank_of_isReserved name_reserved⟩
      have unreserved := (well_named.name name present).unreserved
      exact absurd name_reserved (by simp [unreserved])
    · have unreserved := (well_named.indexer start indexed).unreserved
      exact ⟨start, indexed, (AttributeName.starts_reserved_iff unreserved reserved).mp starts⟩
  · intro ⟨start, indexed, short⟩
    have unreserved := (well_named.indexer start indexed).unreserved
    exact .inr ⟨start, indexed, (AttributeName.starts_reserved_iff unreserved reserved).mpr short⟩

/-- An attribute whose indexer has the given prefix. -/
def AttributeDeclaration.dictionary (namePrefix : String) : AttributeDeclaration where
  kind := "Components.Component"
  name := some "Values"
  indexer := some ⟨namePrefix, "System.String"⟩

/-- The prefix `date-` does not end before the dash, and so it binds no reserved name. -/
theorem matchesName_reserved_dateDash :
    ((AttributeDeclaration.dictionary "date-").build {}).matchesName "data-id" = false := by
  have accepted : ((AttributeDeclaration.dictionary "date-").build {}).diagnostics = [] := by decide
  have reserved : AttributeName.isReserved "data-id" = true := by decide
  rw [Bool.eq_false_iff]
  intro binds
  obtain ⟨start, indexed, short⟩ :=
    (AttributeDeclaration.matchesName_reserved_iff _ _ _ accepted reserved).mp binds
  obtain rfl := Option.some.inj indexed
  exact absurd short (by decide)

/-- **The prefix `data` is accepted, and with it the name `data-id` is bound.** -/
theorem matchesName_reserved_data :
    ((AttributeDeclaration.dictionary "data").build {}).diagnostics = []
      ∧ AttributeName.isReserved "data-id" = true
      ∧ ((AttributeDeclaration.dictionary "data").build {}).matchesName "data-id" = true := by
  refine ⟨by decide, by decide, by decide⟩

/-! ## §3. What the tests read of a name. -/

/-- **The tests on bytes are tests on characters.**  An attribute binds its own name and the names
that its indexer's prefix properly starts, and a name is reserved if its first five characters are
`data-`, all up to the case of ASCII letters.  Neither test cuts a name inside a character: a cut
has a value exactly if it ends where a character does, and both tests have a value for every
name. -/
theorem byteTests_read_characters :
    (∀ (bound : BoundAttribute) (written : String),
        bound.matchesName? written = some (bound.matchesName written)
          ∧ (bound.matchesName written = true
            ↔ (∃ name, bound.name = some name
                ∧ name.toList.map Char.toLower = written.toList.map Char.toLower)
              ∨ ∃ start, bound.indexerNamePrefix = some start
                ∧ start.toList.map Char.toLower <+: written.toList.map Char.toLower
                ∧ start.toList.map Char.toLower ≠ written.toList.map Char.toLower))
      ∧ (∀ name : String,
        AttributeName.isReserved? name = some (AttributeName.isReserved name)
          ∧ (AttributeName.isReserved name = true
            ↔ (name.toList.map Char.toLower).take 5 = "data-".toList))
      ∧ ∀ (text front : List Char) (length : Nat),
        Text.cut? text length = some front
          ↔ ∃ back, text = front ++ back ∧ (Text.utf8 front).length = length := by
  refine ⟨fun bound written => ⟨bound.matchesName?_eq written, bound.matchesName_iff written⟩,
    ?reserved, fun _ _ _ => Text.cut?_eq_some_iff⟩
  case reserved =>
    intro name
    refine ⟨?_, ?_⟩
    · rw [AttributeName.isReserved, AttributeName.isReserved?_eq, Option.getD_some]
    · rw [AttributeName.isReserved_iff, List.prefix_iff_eq_take, eq_comm]
      rfl

/-- The fifth byte ends inside the accented letter: there is no cut, and the test does without. -/
example : Text.cut? "data\u00e9".toList 5 = none
    ∧ AttributeName.isReserved? "data\u00e9" = some false := by decide

end ComponentMarkup
