/-
  ComponentMarkup.Proofs.Descriptors.PrefixRules
  ────────────────────────────────
  **Indexer prefixes and names under the same rules.**

  Three rules hold for the names and for the indexer prefixes of bound attributes: they are not
  reserved, those of directive attributes are marked, and they have no illegal characters.  Each
  rule has one code for names and one for prefixes.  A name is tested against all three, and so is
  a prefix that is not reserved; of a reserved prefix nothing else is reported.  Therefore the
  reports on a prefix are those on the same name under the other codes, except for the reserved
  texts that break one of the other two rules besides.

  Main statements: `NamingRules.eraseDups_reportAll_breaches`, `NamingRules.mirrors_reports` and
  `prefixes_mirror_names_iff`.
-/
import ComponentMarkup.Proofs.Descriptors.IllegalCharacters
import Mathlib.Data.List.Forall2

namespace ComponentMarkup

open AttributeName

/-! ## §1. Reports that correspond. -/

/-- The code for prefixes of the rule that has the given code for names. -/
def DiagnosticCode.forPrefix? : DiagnosticCode → Option DiagnosticCode
  | .reservedBoundAttribute => some .reservedIndexerPrefix
  | .unmarkedDirectiveName => some .unmarkedDirectivePrefix
  | .illegalBoundAttribute => some .illegalIndexerPrefix
  | _ => none

/-- Whether a report on a prefix is for the same breach as one on a name: of the same rule and,
where that is about illegal characters, by the same character. -/
structure Diagnostic.Mirrors (onName onPrefix : Diagnostic) : Prop where
  code : onName.code.forPrefix? = some onPrefix.code
  cited : onName.code.isIllegalCharacter = true → ∃ c, onName.Cites c ∧ onPrefix.Cites c

theorem Problem.mirrors_report {onName onPrefix : Problem}
    (code : onName.code.forPrefix? = some onPrefix.code)
    (character : onName.illegalCharacter? = onPrefix.illegalCharacter?) :
    onName.report.Mirrors onPrefix.report where
  code := code
  cited := by
    intro illegal
    rw [report_code, isIllegalCharacter_code] at illegal
    obtain ⟨c, about⟩ := Option.isSome_iff_exists.mp illegal
    exact ⟨c, cites_report about, cites_report (character ▸ about)⟩

/-! ## §2. Lists of reports. -/

theorem reportAll_append (first second : List Problem) :
    reportAll (first ++ second) = reportAll first ++ reportAll second :=
  List.map_append

/-- Lists of reports with no code in common are freed of repetitions one by one. -/
theorem eraseDups_append_of_codes {first second : List Diagnostic}
    (apart : ∀ x ∈ first, ∀ y ∈ second, x.code ≠ y.code) :
    (first ++ second).eraseDups = first.eraseDups ++ second.eraseDups := by
  have nothing_removed : second.removeAll first = second := by
    apply List.filter_eq_self.mpr
    intro report mem
    have new : report ∉ first := fun among => apart report among report mem rfl
    simpa using new
  rw [List.eraseDups_append, nothing_removed]

/-- A rule that is broken by the text as a whole is reported once. -/
theorem eraseDups_reportAll_ite (broken : Bool) (problem : Problem) :
    (reportAll (if broken then [problem] else [])).eraseDups
      = reportAll (if broken then [problem] else []) := by
  cases broken <;> rfl

theorem code_of_mem_reportAll_ite {broken : Bool} {problem : Problem} {report : Diagnostic}
    (mem : report ∈ reportAll (if broken then [problem] else [])) : report.code = problem.code := by
  cases broken with
  | false => exact absurd mem List.not_mem_nil
  | true => exact congrArg Diagnostic.code (List.mem_singleton.mp mem)

theorem mirrors_reportAll_ite (broken : Bool) {onName onPrefix : Problem}
    (mirror : onName.report.Mirrors onPrefix.report) :
    List.Forall₂ Diagnostic.Mirrors (reportAll (if broken then [onName] else []))
      (reportAll (if broken then [onPrefix] else [])) := by
  cases broken with
  | false => exact .nil
  | true => exact .cons mirror .nil

/-- What mirrors the first report alone mirrors all of them only if there are no others. -/
theorem mirrors_cons_iff {first : Diagnostic} {others onPrefix : List Diagnostic}
    (mirrors_first : List.Forall₂ Diagnostic.Mirrors [first] onPrefix) :
    List.Forall₂ Diagnostic.Mirrors (first :: others) onPrefix ↔ others = [] := by
  constructor
  · intro mirrors
    have lengths := mirrors.length_eq.trans mirrors_first.length_eq.symm
    simpa using lengths
  · rintro rfl
    exact mirrors_first

/-! ## §3. The three rules. -/

/-- A reserved text has no marker. -/
theorem AttributeName.stripMarker?_of_isReserved {text : String} (reserved : isReserved text = true) :
    stripMarker? text = none := by
  cases marked : stripMarker? text with
  | none => rfl
  | some rest =>
    have starts := (isReserved_iff text).mp reserved
    rw [stripMarker?_eq_some_iff.mp marked] at starts
    have same : 'd' = '@' := (List.cons_prefix_cons.mp starts).1
    exact absurd same (by decide)

/-- How a breach of each of the three rules is reported.  The codes keep the rules apart. -/
structure NamingRules where
  reserved : Problem
  unmarked : Problem
  illegal : Char → Problem
  illegalCode : DiagnosticCode
  reported : Problem.ReportedUnder illegalCode illegal
  apart : [reserved.code, unmarked.code, illegalCode].Nodup

namespace NamingRules

/-- The rules for the name of a bound attribute. -/
def forName (ownerName shownName : String) (isDirective : Bool) (text : String) : NamingRules where
  reserved := .reservedBoundAttribute ownerName shownName text
  unmarked := .unmarkedDirectiveName ownerName shownName text
  illegal := .illegalBoundAttribute ownerName shownName (checkedPart isDirective text)
  illegalCode := .illegalBoundAttribute
  reported := ⟨fun _ => rfl, fun _ => rfl⟩
  apart := by simp [Problem.code]

/-- The rules for an indexer prefix. -/
def forPrefix (ownerName shownName : String) (isDirective : Bool) (text : String) :
    NamingRules where
  reserved := .reservedIndexerPrefix ownerName shownName text
  unmarked := .unmarkedDirectivePrefix ownerName shownName text
  illegal := .illegalIndexerPrefix ownerName shownName (checkedPart isDirective text)
  illegalCode := .illegalIndexerPrefix
  reported := ⟨fun _ => rfl, fun _ => rfl⟩
  apart := by simp [Problem.code]

/-- The breaches of the rules by a text with the given illegal characters. -/
def breaches (rules : NamingRules) (isDirective : Bool) (text : String)
    (characters : List Char) : List Problem :=
  (if isReserved text then [rules.reserved] else [])
    ++ (if lacksMarker isDirective text then [rules.unmarked] else [])
    ++ characters.map rules.illegal

/-- The reports on a text that is tested against all three rules. -/
def reports (rules : NamingRules) (isDirective : Bool) (text : String) : List Diagnostic :=
  reportAll (rules.breaches isDirective text
    (illegalCharacters (checkedPart isDirective text)).eraseDups)

theorem code_of_mem_reportAll_illegal (rules : NamingRules) {characters : List Char}
    {report : Diagnostic} (mem : report ∈ reportAll (characters.map rules.illegal)) :
    report.code = rules.illegalCode := by
  obtain ⟨problem, among, rfl⟩ := List.mem_map.mp mem
  obtain ⟨c, -, rfl⟩ := List.mem_map.mp among
  exact rules.reported.coded c

/-- An illegal character is reported once. -/
theorem eraseDups_reportAll_illegal (rules : NamingRules) (characters : List Char) :
    (reportAll (characters.map rules.illegal)).eraseDups
      = reportAll (characters.eraseDups.map rules.illegal) := by
  unfold reportAll
  rw [List.map_map, List.map_map]
  exact rules.reported.eraseDups_map_report characters

/-- **Of the reports on a text, only those on illegal characters repeat.** -/
theorem eraseDups_reportAll_breaches (rules : NamingRules) (isDirective : Bool) (text : String)
    (characters : List Char) :
    (reportAll (rules.breaches isDirective text characters)).eraseDups
      = reportAll (rules.breaches isDirective text characters.eraseDups) := by
  have apart := rules.apart
  simp only [List.nodup_cons, List.mem_cons, List.not_mem_nil, or_false, not_or] at apart
  obtain ⟨⟨reserved_unmarked, reserved_illegal⟩, unmarked_illegal, -⟩ := apart
  unfold breaches
  simp only [reportAll_append]
  -- The codes keep the rules apart, so the reports for each of them collapse by themselves.
  rw [eraseDups_append_of_codes, eraseDups_append_of_codes, eraseDups_reportAll_ite,
    eraseDups_reportAll_ite, rules.eraseDups_reportAll_illegal]
  · intro x mem_x y mem_y
    rw [code_of_mem_reportAll_ite mem_x, code_of_mem_reportAll_ite mem_y]
    exact reserved_unmarked
  · intro x mem_x y mem_y
    rw [rules.code_of_mem_reportAll_illegal mem_y]
    rcases List.mem_append.mp mem_x with reserved | unmarked
    · rw [code_of_mem_reportAll_ite reserved]
      exact reserved_illegal
    · rw [code_of_mem_reportAll_ite unmarked]
      exact unmarked_illegal

/-- **The reports on a prefix that is tested against all rules mirror those on the same name**,
rule by rule and character by character, whatever attributes the two belong to. -/
theorem mirrors_reports (nameOwner nameShown prefixOwner prefixShown : String)
    (isDirective : Bool) (text : String) :
    List.Forall₂ Diagnostic.Mirrors
      ((forName nameOwner nameShown isDirective text).reports isDirective text)
      ((forPrefix prefixOwner prefixShown isDirective text).reports isDirective text) := by
  unfold reports breaches
  simp only [reportAll_append]
  refine List.rel_append (List.rel_append (mirrors_reportAll_ite _ ?reserved)
    (mirrors_reportAll_ite _ ?unmarked)) ?illegal
  case reserved => exact Problem.mirrors_report rfl rfl
  case unmarked => exact Problem.mirrors_report rfl rfl
  case illegal =>
    simp only [reportAll, List.map_map, List.forall₂_map_left_iff, List.forall₂_map_right_iff,
      List.forall₂_same]
    intro c _
    exact Problem.mirrors_report rfl rfl

variable {text : String}

/-- Of a reserved text, it is reported first that it is. -/
theorem reports_of_isReserved (rules : NamingRules) (isDirective : Bool)
    (reserved : isReserved text = true) :
    rules.reports isDirective text
      = rules.reserved.report :: reportAll ((if isDirective then [rules.unmarked] else [])
          ++ (illegalCharacters text).eraseDups.map rules.illegal) := by
  have unmarked := stripMarker?_of_isReserved reserved
  have whole : checkedPart isDirective text = text := by
    unfold checkedPart bare
    rw [unmarked, Option.getD_none, ite_self]
  have lacks : lacksMarker isDirective text = isDirective := by
    rw [lacksMarker, unmarked, Option.isNone_none, Bool.and_true]
  rw [reports, breaches, if_pos reserved, lacks, whole, List.append_assoc]
  rfl

/-- A reserved text breaks no other rule exactly if it need not be marked and has no illegal
characters. -/
theorem other_reports_eq_nil_iff (rules : NamingRules) (isDirective : Bool) (text : String) :
    reportAll ((if isDirective then [rules.unmarked] else [])
        ++ (illegalCharacters text).eraseDups.map rules.illegal) = []
      ↔ isDirective = false ∧ illegalCharacters text = [] := by
  have none_distinct : (illegalCharacters text).eraseDups = [] ↔ illegalCharacters text = [] := by
    simp only [List.eq_nil_iff_forall_not_mem, List.mem_eraseDups]
  rw [reportAll, List.map_eq_nil_iff, List.append_eq_nil_iff, List.map_eq_nil_iff, none_distinct]
  cases isDirective <;> simp

end NamingRules

/-! ## §4. Attributes. -/

namespace AttributeDeclaration

/-- Whether the attribute has the given name and no indexer. -/
structure OnlyNamed (declared : AttributeDeclaration) (text : String) : Prop where
  name : declared.name = some text
  indexer : declared.indexer = none
  silent : declared.diagnostics = []

/-- Whether the attribute has an indexer with the given prefix and no name. -/
structure OnlyIndexed (declared : AttributeDeclaration) (text : String) : Prop where
  name : Text.nonBlank? declared.name = none
  indexer : declared.indexer.map Indexer.namePrefix = some text
  silent : declared.diagnostics = []

variable {declared : AttributeDeclaration} {text : String}

/-- A name is tested against all three rules. -/
theorem OnlyNamed.problems (named : declared.OnlyNamed text)
    (shown : Text.isAbsentOrBlank (some text) = false) (ownerName shownName : String) :
    declared.problems ownerName shownName
      = (NamingRules.forName ownerName shownName declared.isDirective text).breaches
          declared.isDirective text (illegalCharacters (checkedPart declared.isDirective text)) := by
  have present : Text.nonBlank? declared.name = some text :=
    Text.nonBlank?_eq_some_iff.mpr ⟨named.name, shown⟩
  rw [AttributeDeclaration.problems, named.indexer, List.append_nil, nameProblems, present]
  rfl

theorem OnlyNamed.diagnostics (named : declared.OnlyNamed text)
    (shown : Text.isAbsentOrBlank (some text) = false) (owner : Owner) :
    (declared.build owner).diagnostics
      = (NamingRules.forName owner.displayName (declared.citedName owner)
          declared.isDirective text).reports declared.isDirective text := by
  rw [build_diagnostics_of_silent owner named.silent, named.problems shown,
    NamingRules.eraseDups_reportAll_breaches, NamingRules.reports]

/-- So is a prefix, unless it is reserved. -/
theorem indexerProblems_eq (ownerName shownName : String) (isDirective : Bool)
    (shown : Text.isAbsentOrBlank (some text) = false) :
    indexerProblems ownerName shownName isDirective text
      = if isReserved text then [.reservedIndexerPrefix ownerName shownName text]
        else (NamingRules.forPrefix ownerName shownName isDirective text).breaches isDirective text
          (illegalCharacters (checkedPart isDirective text)) := by
  unfold indexerProblems
  split
  · rfl
  · next unreserved =>
    rw [shown, Bool.and_false, if_neg Bool.false_ne_true, NamingRules.breaches, if_neg unreserved]
    rfl

theorem OnlyIndexed.problems (indexed : declared.OnlyIndexed text) (ownerName shownName : String) :
    declared.problems ownerName shownName
      = indexerProblems ownerName shownName declared.isDirective text := by
  obtain ⟨indexer, is_indexer, rfl⟩ := Option.map_eq_some_iff.mp indexed.indexer
  have none_of_name : declared.nameProblems ownerName shownName = [] := by
    rw [nameProblems, indexed.name, is_indexer]
    rfl
  rw [AttributeDeclaration.problems, none_of_name, is_indexer, List.nil_append]

/-- **Of a reserved prefix nothing else is reported.** -/
theorem OnlyIndexed.diagnostics (indexed : declared.OnlyIndexed text)
    (shown : Text.isAbsentOrBlank (some text) = false) (owner : Owner) :
    let reports := (NamingRules.forPrefix owner.displayName (declared.citedName owner)
      declared.isDirective text).reports declared.isDirective text
    (declared.build owner).diagnostics = if isReserved text then reports.take 1 else reports := by
  intro reports
  rw [build_diagnostics_of_silent owner indexed.silent, indexed.problems,
    indexerProblems_eq _ _ _ shown]
  split
  · next reserved =>
    have first_reserved := NamingRules.reports_of_isReserved (NamingRules.forPrefix
      owner.displayName (declared.citedName owner) declared.isDirective text)
      declared.isDirective reserved
    rw [show reports = _ from first_reserved]
    rfl
  · exact NamingRules.eraseDups_reportAll_breaches _ _ _ _

end AttributeDeclaration

open AttributeDeclaration

/-- **Prefixes obey the same rules as names, except that of a reserved prefix nothing else is
reported.**  So the reports on a text as a prefix mirror those on it as a name exactly if the text
is not reserved or breaks no other rule. -/
theorem prefixes_mirror_names_iff {text : String}
    (shown : Text.isAbsentOrBlank (some text) = false) {named indexed : AttributeDeclaration}
    (only_named : named.OnlyNamed text) (only_indexed : indexed.OnlyIndexed text)
    (alike : named.isDirective = indexed.isDirective) (nameOwner prefixOwner : Owner) :
    let onName := (named.build nameOwner).diagnostics
    let onPrefix := (indexed.build prefixOwner).diagnostics
    List.Forall₂ Diagnostic.Mirrors (if isReserved text then onName.take 1 else onName) onPrefix
      ∧ (List.Forall₂ Diagnostic.Mirrors onName onPrefix
        ↔ (isReserved text = true → named.isDirective = false ∧ illegalCharacters text = [])) := by
  intro onName onPrefix
  let nameRules := NamingRules.forName nameOwner.displayName (named.citedName nameOwner)
    named.isDirective text
  let prefixRules := NamingRules.forPrefix prefixOwner.displayName (indexed.citedName prefixOwner)
    named.isDirective text
  have name_reports : onName = nameRules.reports named.isDirective text :=
    only_named.diagnostics shown nameOwner
  have prefix_reports : onPrefix = if isReserved text
      then (prefixRules.reports named.isDirective text).take 1
      else prefixRules.reports named.isDirective text := by
    have reports := only_indexed.diagnostics shown prefixOwner
    rwa [← alike] at reports
  have mirrors : List.Forall₂ Diagnostic.Mirrors onName
      (prefixRules.reports named.isDirective text) :=
    name_reports ▸ NamingRules.mirrors_reports _ _ _ _ _ _
  cases reserved : isReserved text with
  | false =>
    rw [reserved, if_neg Bool.false_ne_true] at prefix_reports
    rw [← prefix_reports] at mirrors
    refine ⟨mirrors, fun _ unreserved => ?_, fun _ => mirrors⟩
    exact absurd unreserved Bool.false_ne_true
  | true =>
    rw [reserved, if_pos rfl] at prefix_reports
    have mirrors_first : List.Forall₂ Diagnostic.Mirrors (onName.take 1) onPrefix :=
      prefix_reports ▸ List.forall₂_take 1 mirrors
    refine ⟨mirrors_first, ?_⟩
    -- The prefix has this report only, so the name must have no others.
    rw [name_reports, nameRules.reports_of_isReserved _ reserved] at mirrors_first ⊢
    rw [mirrors_cons_iff mirrors_first, NamingRules.other_reports_eq_nil_iff]
    simp

/-- A directive attribute that is declared with the given clauses alone. -/
def AttributeDeclaration.directiveWith (clauses : List AttributeClause) : AttributeDeclaration :=
  ({ kind := "K" } : AttributeDeclaration).withClauses (.directive :: clauses)

/-- The text `date x` breaks two of the rules for directive attributes and is not reserved. -/
theorem prefixes_mirror_names_date :
    List.Forall₂ Diagnostic.Mirrors ((directiveWith [.name "date x"]).build {}).diagnostics
      ((directiveWith [.dictionary "date x" "T"]).build {}).diagnostics := by
  have only_named : (directiveWith [.name "date x"]).OnlyNamed "date x" := ⟨rfl, rfl, rfl⟩
  have only_indexed : (directiveWith [.dictionary "date x" "T"]).OnlyIndexed "date x" :=
    ⟨rfl, rfl, rfl⟩
  have unreserved : isReserved "date x" = false := by decide
  have mirrors := (prefixes_mirror_names_iff (by decide) only_named only_indexed rfl {} {}).2
  exact mirrors.mpr fun reserved => absurd reserved (by simp [unreserved])

/-- **Of the prefix `data-x y` it is reported that it is reserved, but not that it has a space**, as
it is of the same name. -/
theorem prefixes_mirror_names_fails_data :
    let named : AttributeDeclaration := { kind := "K", name := some "data-x y" }
    let indexed : AttributeDeclaration := { kind := "K", indexer := some ⟨"data-x y", "T"⟩ }
    Text.isAbsentOrBlank (some "data-x y") = false
      ∧ (named.build {}).diagnostics.map (·.code) = [.reservedBoundAttribute, .illegalBoundAttribute]
      ∧ (indexed.build {}).diagnostics.map (·.code) = [.reservedIndexerPrefix]
      ∧ ¬ List.Forall₂ Diagnostic.Mirrors (named.build {}).diagnostics
        (indexed.build {}).diagnostics := by
  intro named indexed
  have name_codes : (named.build {}).diagnostics.map (·.code)
      = [.reservedBoundAttribute, .illegalBoundAttribute] := by decide
  have prefix_codes : (indexed.build {}).diagnostics.map (·.code) = [.reservedIndexerPrefix] := by
    decide
  refine ⟨by decide, name_codes, prefix_codes, ?_⟩
  intro mirrors
  have two_on_name := congrArg List.length name_codes
  have one_on_prefix := congrArg List.length prefix_codes
  rw [List.length_map] at two_on_name one_on_prefix
  have two_is_one := two_on_name.symm.trans (mirrors.length_eq.trans one_on_prefix)
  exact absurd two_is_one (by decide)

end ComponentMarkup
