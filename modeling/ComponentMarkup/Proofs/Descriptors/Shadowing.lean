/-
  ComponentMarkup.Proofs.Descriptors.Shadowing
  ────────────────────────────────
  **Names that are bound no more once repetitions have collapsed.**

  Whether two bound attributes are the same is a question of full lower case, whereas the names
  written at a usage are compared up to the case of ASCII letters only, which is less.  So an
  attribute can be dropped for one that is the same and yet does not bind the name that the
  dropped one was declared for.  This happens to a name exactly if it has a second spelling that
  full lower case does not tell from it and the case of ASCII letters does.  No spelling in plain
  characters has one.

  Main statements: `TagHelperDeclaration.keepsBinding_iff_not_shadows`, `hasOneSpelling_of_plain`
  and `keepsBinding_iff`.
-/
import ComponentMarkup.Proofs.Descriptors.Binding
import ComponentMarkup.Proofs.Descriptors.Collapse
import ComponentMarkup.Proofs.Text.LowerCase

namespace ComponentMarkup

/-! ## §1. Attributes that are dropped for others. -/

namespace TagHelperDeclaration

/-- Whether a name is bound after the collapse exactly if it was bound before. -/
def KeepsBinding (declared : TagHelperDeclaration) (written : String) : Prop :=
  (declared.build.findAttribute? written).isSome = true
    ↔ ∃ bound ∈ declared.builtAttributes, bound.matchesName written = true

/-- Whether some attribute binds the name, and each that does is dropped for an attribute that is
the same and does not. -/
def Shadows (declared : TagHelperDeclaration) (written : String) : Prop :=
  (∃ bound ∈ declared.builtAttributes, bound.matchesName written = true)
    ∧ ∀ bound ∈ declared.builtAttributes, bound.matchesName written = true →
      ∃ first, declared.builtAttributes.find? (bound.same .ignoringCase) = some first
        ∧ first.matchesName written = false

theorem isSome_findAttribute?_iff (declared : TagHelperDeclaration) (written : String) :
    (declared.build.findAttribute? written).isSome = true
      ↔ ∃ bound ∈ declared.builtAttributes.eraseDupsBy (BoundAttribute.same .ignoringCase),
        bound.matchesName written = true :=
  List.find?_isSome

/-- **A name is lost exactly if it is shadowed.** -/
theorem keepsBinding_iff_not_shadows (declared : TagHelperDeclaration) (written : String) :
    declared.KeepsBinding written ↔ ¬ declared.Shadows written := by
  have same_iff := BoundAttribute.same_iff .ignoringCase
  unfold KeepsBinding
  rw [isSome_findAttribute?_iff]
  constructor
  · -- What is left is the first of its kind, so it is not dropped for another one.
    intro keeps ⟨some_binds, dropped⟩
    obtain ⟨bound, kept, binds⟩ := keeps.mpr some_binds
    obtain ⟨first, found, misses⟩ := dropped bound (mem_of_mem_eraseDupsBy kept) binds
    rw [(mem_eraseDupsBy_iff same_iff).mp kept] at found
    obtain rfl := Option.some.inj found
    rw [binds] at misses
    exact absurd misses (by simp)
  · intro unshadowed
    constructor
    · intro ⟨bound, kept, binds⟩
      exact ⟨bound, mem_of_mem_eraseDupsBy kept, binds⟩
    · intro some_binds
      by_contra none_kept
      apply unshadowed
      refine ⟨some_binds, ?_⟩
      intro bound mem binds
      obtain ⟨first, kept, found, -⟩ := exists_mem_eraseDupsBy same_iff mem
      refine ⟨first, found, ?_⟩
      rw [Bool.eq_false_iff]
      intro first_binds
      exact none_kept ⟨first, kept, first_binds⟩

end TagHelperDeclaration

/-! ## §2. Names with a second spelling. -/

/-- Whether every spelling that full lower case does not tell from the name is the same up to the
case of ASCII letters. -/
def HasOneSpelling (written : String) : Prop :=
  ∀ other : String, Text.lowerEach other.toList = Text.lowerEach written.toList →
    other.toList.map Char.toLower = written.toList.map Char.toLower

/-- Names in plain characters have one spelling. -/
theorem hasOneSpelling_of_plain {written : String}
    (plain : ∀ c ∈ written.toList, Text.IsPlain c.toLower) : HasOneSpelling written := by
  intro other alike
  have small : ∀ d ∈ written.toList.map Char.toLower, Text.IsPlain d := by
    intro d mem
    obtain ⟨c, among, rfl⟩ := List.mem_map.mp mem
    exact plain c among
  have ascii : ∀ c ∈ written.toList, c.toNat < 0x80 := fun c mem =>
    Text.ascii_of_toLower (plain c mem).1
  rw [Text.lowerEach_of_ascii ascii] at alike
  obtain ⟨front, back, split, lowered, nothing⟩ :=
    Text.exists_of_lowerEach_eq_append small (alike.trans (List.append_nil _).symm)
  rw [split, Text.lowerEach_eq_nil_iff.mp nothing, List.append_nil]
  exact lowered

/-- Two prefixes that full lower case does not tell apart start the same names with one spelling:
the rest of such a name can follow either of them. -/
theorem HasOneSpelling.starts {written : String} (one : HasOneSpelling written) {x y : String}
    (alike : Text.lowerEach x.toList = Text.lowerEach y.toList)
    (starts : x.toList.map Char.toLower <+: written.toList.map Char.toLower)
    (different : x.toList.map Char.toLower ≠ written.toList.map Char.toLower) :
    y.toList.map Char.toLower <+: written.toList.map Char.toLower
      ∧ y.toList.map Char.toLower ≠ written.toList.map Char.toLower := by
  obtain ⟨rest, eq⟩ := starts
  obtain ⟨front, back, split, same_front, rfl⟩ := List.map_eq_append_iff.mp eq.symm
  have front_alike : Text.lowerEach front = Text.lowerEach y.toList := by
    rw [← Text.lowerEach_map_toLower, same_front, Text.lowerEach_map_toLower, alike]
  -- The rest of the name behind the other prefix is a second spelling of the name.
  have respelled := one (String.ofList (y.toList ++ back)) (by
    rw [String.toList_ofList, Text.lowerEach_append, ← front_alike, ← Text.lowerEach_append,
      ← split])
  rw [String.toList_ofList, List.map_append] at respelled
  refine ⟨⟨back.map Char.toLower, respelled⟩, ?_⟩
  intro same
  rw [same, List.append_right_eq_self] at respelled
  rw [respelled, List.append_nil] at eq
  exact different eq

/-- Attributes that are the same bind the same names with one spelling. -/
theorem HasOneSpelling.matchesName {written : String} (one : HasOneSpelling written)
    {x y : BoundAttribute} (same : x.same .ignoringCase y = true)
    (binds : x.matchesName written = true) : y.matchesName written = true := by
  have identical := (BoundAttribute.same_iff .ignoringCase x y).mp same
  have names : x.name.map NameCasing.ignoringCase.fold = y.name.map NameCasing.ignoringCase.fold :=
    congrArg BoundAttributeIdentity.name identical
  have starts : x.indexerNamePrefix.map NameCasing.ignoringCase.fold
      = y.indexerNamePrefix.map NameCasing.ignoringCase.fold :=
    congrArg BoundAttributeIdentity.indexerNamePrefix identical
  rw [BoundAttribute.matchesName_iff] at binds ⊢
  rcases binds with ⟨name, named, alike⟩ | ⟨start, indexed, longer, different⟩
  · left
    rw [named, Option.map_some, eq_comm, Option.map_eq_some_iff] at names
    obtain ⟨other, other_named, folded⟩ := names
    refine ⟨other, other_named, one other ?_⟩
    have spelled : Text.lowerEach name.toList = Text.lowerEach written.toList := by
      rw [← Text.lowerEach_map_toLower, alike, Text.lowerEach_map_toLower]
    exact folded.trans spelled
  · right
    rw [indexed, Option.map_some, eq_comm, Option.map_eq_some_iff] at starts
    obtain ⟨other, other_indexed, folded⟩ := starts
    exact ⟨other, other_indexed, one.starts folded.symm longer different⟩

/-! ## §3. Shadowed names. -/

/-- Whether the declaration is one that clauses lead to. -/
def TagHelperDeclaration.IsAuthored (declared : TagHelperDeclaration) : Prop :=
  ∃ kind name assemblyName fresh clauses,
    TagHelperDeclaration.create kind name assemblyName = .ok fresh
      ∧ fresh.withClauses clauses = declared

/-- An attribute with the given name that is shown as `p`. -/
def shownAsP (name : String) : AttributeDeclaration :=
  ({ kind := "K" } : AttributeDeclaration).withClauses [.name name, .displayName "p"]

/-- A tag helper with two attributes that differ in nothing but the name. -/
def twoSpellings (first second : String) : TagHelperDeclaration :=
  ({ kind := "K", name := "N", assemblyName := "A" } : TagHelperDeclaration).withClauses
    [.boundAttribute [.name first, .displayName "p"],
      .boundAttribute [.name second, .displayName "p"]]

theorem isAuthored_twoSpellings (first second : String) : (twoSpellings first second).IsAuthored :=
  ⟨"K", "N", "A", _, _, rfl, rfl⟩

theorem builtAttributes_twoSpellings (first second : String) :
    (twoSpellings first second).builtAttributes =
      [(shownAsP first).build ⟨"N", none⟩, (shownAsP second).build ⟨"N", none⟩] :=
  rfl

theorem matchesName_shownAsP (name written : String) (owner : Owner) :
    ((shownAsP name).build owner).matchesName written = true
      ↔ name.toList.map Char.toLower = written.toList.map Char.toLower := by
  have named : ((shownAsP name).build owner).name = some name := rfl
  have no_indexer : ((shownAsP name).build owner).indexerNamePrefix = none := rfl
  rw [BoundAttribute.matchesName_iff, named, no_indexer]
  simp

theorem same_shownAsP {first second : String}
    (alike : Text.lowerEach first.toList = Text.lowerEach second.toList) (owner : Owner) :
    ((shownAsP first).build owner).same .ignoringCase ((shownAsP second).build owner) = true := by
  rw [BoundAttribute.same_iff]
  have identity_eq (name : String) :
      ((shownAsP name).build owner).identity .ignoringCase =
        { kind := "K", isEnum := false, name := some (Text.lowerEach name.toList),
          indexerNamePrefix := none, indexerValueTypeName := none, typeName := none,
          documentation := none, displayName := some "p", facts := Metadata.empty.facts,
          parameters := [] } := rfl
  rw [identity_eq, identity_eq, alike]

/-- A second spelling that is declared first shadows a name. -/
theorem shadows_twoSpellings {other written : String}
    (alike : Text.lowerEach other.toList = Text.lowerEach written.toList)
    (different : other.toList.map Char.toLower ≠ written.toList.map Char.toLower) :
    (twoSpellings other written).Shadows written := by
  have other_misses : ((shownAsP other).build ⟨"N", none⟩).matchesName written = false := by
    rw [Bool.eq_false_iff, ne_eq, matchesName_shownAsP]
    exact different
  have written_binds : ((shownAsP written).build ⟨"N", none⟩).matchesName written = true :=
    (matchesName_shownAsP written written _).mpr rfl
  unfold TagHelperDeclaration.Shadows
  rw [builtAttributes_twoSpellings]
  refine ⟨⟨_, List.mem_cons_of_mem _ List.mem_cons_self, written_binds⟩, ?_⟩
  intro bound mem binds
  rcases List.mem_cons.mp mem with rfl | later
  · exact absurd (other_misses.symm.trans binds) (by simp)
  · obtain rfl := List.mem_singleton.mp later
    refine ⟨_, ?_, other_misses⟩
    rw [List.find?_cons, same_shownAsP alike.symm]

/-- **Which names collapsing keeps bound.**  In one declaration these are the names that are not
shadowed; in every declaration that can be written they are those with one spelling. -/
theorem keepsBinding_iff (written : String) :
    (∀ declared : TagHelperDeclaration,
        declared.KeepsBinding written ↔ ¬ declared.Shadows written)
      ∧ ((∀ declared : TagHelperDeclaration, declared.IsAuthored → declared.KeepsBinding written)
        ↔ HasOneSpelling written) := by
  constructor
  · intro declared
    exact declared.keepsBinding_iff_not_shadows written
  · constructor
    · intro keeps other alike
      by_contra different
      have kept := keeps _ (isAuthored_twoSpellings other written)
      rw [TagHelperDeclaration.keepsBinding_iff_not_shadows] at kept
      exact kept (shadows_twoSpellings alike different)
    · intro one declared _
      unfold TagHelperDeclaration.KeepsBinding
      rw [TagHelperDeclaration.isSome_findAttribute?_iff]
      apply exists_mem_eraseDupsBy_iff (BoundAttribute.same_iff .ignoringCase)
      intro x _ y _ same binds
      exact one.matchesName same binds

/-- **An accented capital is enough**: of the attributes `CAFÉ` and `café` the first one
stays, and nothing binds `café`. -/
theorem twoSpellings_loses_accented :
    (twoSpellings "CAF\u00c9" "caf\u00e9").IsAuthored
      ∧ (∃ bound ∈ (twoSpellings "CAF\u00c9" "caf\u00e9").builtAttributes,
        bound.matchesName "caf\u00e9" = true)
      ∧ (twoSpellings "CAF\u00c9" "caf\u00e9").build.findAttribute? "caf\u00e9" = none := by
  refine ⟨isAuthored_twoSpellings _ _, by decide, by decide⟩

end ComponentMarkup
