/-
  ComponentMarkup.Proofs.Descriptors.IllegalCharacters
  ────────────────────────────────
  **Which illegal characters are reported.**

  Parameters, bound attributes, rules and required attributes each have a code for illegal
  characters in their name, and all word the report in the same way: the message ends by citing the
  character, so that reports on the same name are equal only if they cite the same character.
  Therefore the sets of diagnostics of parameters and attributes have one report for each distinct
  character, and the plain lists of rules and required attributes one for each occurrence.  What is
  searched is the whole name, but for the marker of a directive attribute and the one marker that
  the name of a required attribute may have.

  Main statements: `AttributeName.isIllegal_iff`, `Diagnostic.Cites.unique`,
  `Problem.cites_report`, one `reportsIllegal` for each kind of declaration, and
  `illegalCharacters_reported`.
-/
import ComponentMarkup.Proofs.Descriptors.Collapse
import ComponentMarkup.Proofs.Descriptors.Validity
import Mathlib.Data.List.Infix

namespace ComponentMarkup

/-! ## §1. Characters and codes. -/

namespace AttributeName

/-- **A character offends in a name** if it is white space, or if it opens, closes or parts
something in markup. -/
def Offends (c : Char) : Prop :=
  Text.isBlank c = true ∨ c ∈ ['@', '!', '<', '/', '?', '[', '>', ']', '=', '"', '\'', '*']

instance (c : Char) : Decidable (Offends c) := inferInstanceAs (Decidable (_ ∨ _))

theorem isIllegal_iff (c : Char) : isIllegal c = true ↔ Offends c := by
  rw [isIllegal, Bool.or_eq_true, List.contains_iff_mem]
  rfl

/-- The characters of a name that offend, in order and with repetitions. -/
def offending (name : List Char) : List Char := name.filter fun c => Offends c

theorem illegalCharacters_eq (name : String) : illegalCharacters name = offending name.toList := by
  unfold illegalCharacters offending
  refine List.filter_congr fun c _ => ?_
  rw [Bool.eq_iff_iff, isIllegal_iff, decide_eq_true_iff]

end AttributeName

namespace DiagnosticCode

/-- Codes with the same number are the same. -/
theorem number_injective : Function.Injective number := by
  intro x y same
  unfold number at same
  grind

/-- Whether a report is about an illegal character. -/
def isIllegalCharacter : DiagnosticCode → Bool
  | .illegalTagName | .illegalRequiredAttribute | .illegalBoundAttribute
  | .illegalIndexerPrefix | .illegalParameter => true
  | _ => false

theorem isIllegalCharacter_iff (code : DiagnosticCode) :
    code.isIllegalCharacter = true ↔ code.number ∈ [3002, 3004, 3006, 3008, 3013] := by
  cases code <;> decide

end DiagnosticCode

/-! ## §2. Reports that cite a character. -/

/-- Whether the message of a report ends by citing a character. -/
def Diagnostic.Cites (report : Diagnostic) (c : Char) : Prop :=
  (" a '" ++ c.toString ++ "' character.").toList <:+ report.message.toList

/-- A report cites one character only. -/
theorem Diagnostic.Cites.unique {report : Diagnostic} {c d : Char} (cites_c : report.Cites c)
    (cites_d : report.Cites d) : c = d := by
  have same_length : (" a '" ++ c.toString ++ "' character.").toList.length
      = (" a '" ++ d.toString ++ "' character.").toList.length := by
    simp
  have ends := (List.suffix_of_suffix_length_le cites_c cites_d
    (Nat.le_of_eq same_length)).eq_of_length same_length
  simpa using ends

namespace Problem

/-- The illegal character that a problem is about. -/
def illegalCharacter? : Problem → Option Char
  | .illegalTagName _ c => some c
  | .illegalRequiredAttribute _ c => some c
  | .illegalBoundAttribute _ _ _ c => some c
  | .illegalIndexerPrefix _ _ _ c => some c
  | .illegalParameter _ _ c => some c
  | _ => none

theorem isIllegalCharacter_code (problem : Problem) :
    problem.code.isIllegalCharacter = problem.illegalCharacter?.isSome := by
  cases problem <;> rfl

/-- A wording that leads up to the character cites it. -/
theorem suffix_of_wording {opening wording : String} (c : Char)
    (leads : " a '".toList <:+ wording.toList) :
    (" a '" ++ c.toString ++ "' character.").toList
      <:+ (opening ++ wording ++ c.toString ++ "' character.").toList := by
  simp only [String.toList_append, List.append_assoc]
  rw [← List.append_assoc opening.toList, List.suffix_append_self_iff]
  exact leads.trans (List.suffix_append _ _)

/-- **Every problem with an illegal character cites it.** -/
theorem cites_report {problem : Problem} {c : Char} (about : problem.illegalCharacter? = some c) :
    problem.report.Cites c := by
  unfold Diagnostic.Cites
  cases problem <;> simp only [illegalCharacter?, Option.some.injEq, reduceCtorEq] at about
  all_goals
    subst about
    exact suffix_of_wording _ (by decide)

/-- Problems of one name that differ in the illegal character, all reported under one code. -/
structure ReportedUnder (code : DiagnosticCode) (makes : Char → Problem) : Prop where
  about : ∀ c, (makes c).illegalCharacter? = some c
  coded : ∀ c, (makes c).code = code

namespace ReportedUnder

variable {code : DiagnosticCode} {makes : Char → Problem}

theorem isIllegalCharacter (reported : ReportedUnder code makes) :
    code.isIllegalCharacter = true := by
  rw [← reported.coded 'a', isIllegalCharacter_code, reported.about]
  rfl

/-- Reports that differ in nothing but the illegal character are equal only if that is. -/
theorem report_injective (reported : ReportedUnder code makes) :
    Function.Injective fun c => (makes c).report := by
  intro c d same
  have reports_same : (makes c).report = (makes d).report := same
  have cites_c : (makes d).report.Cites c := reports_same ▸ cites_report (reported.about c)
  exact cites_c.unique (cites_report (reported.about d))

/-- **The reports collapse with the characters** that they cite. -/
theorem eraseDups_map_report (reported : ReportedUnder code makes) (characters : List Char) :
    (characters.map fun c => (makes c).report).eraseDups
      = characters.eraseDups.map fun c => (makes c).report := by
  apply eraseDupsBy_map
  intro c d
  rw [Bool.eq_iff_iff, beq_iff_eq, beq_iff_eq]
  exact reported.report_injective.eq_iff

theorem forall₂_cites (reported : ReportedUnder code makes) (characters : List Char) :
    List.Forall₂ (fun c report => report.Cites c) characters
      (characters.map fun c => (makes c).report) := by
  rw [List.forall₂_map_right_iff, List.forall₂_same]
  exact fun c _ => cites_report (reported.about c)

end ReportedUnder

end Problem

/-! ## §3. Lists of reports. -/

/-- Whether the reports with a code number cite the given characters, one report for each and in
order, and no other report is about an illegal character, but for those with a number in
`others`. -/
structure ReportsIllegal (number : Nat) (characters : List Char) (others : List Nat)
    (diagnostics : List Diagnostic) : Prop where
  cited : List.Forall₂ (fun c report => report.Cites c) characters
    (diagnostics.filter fun report => report.code.number = number)
  no_more : ∀ report ∈ diagnostics, report.code.number ∈ [3002, 3004, 3006, 3008, 3013] →
    report.code.number = number ∨ report.code.number ∈ others

/-- Problems among which those under a code are about the given characters of one name, one after
the other, and others about illegal characters are under one of the codes in `others`. -/
structure NamesIllegal (code : DiagnosticCode) (makes : Char → Problem) (characters : List Char)
    (others : List DiagnosticCode) (problems : List Problem) : Prop where
  reported : Problem.ReportedUnder code makes
  under_code : problems.filter (fun problem => problem.code = code) = characters.map makes
  no_more : ∀ problem ∈ problems, problem.code.isIllegalCharacter = true →
    problem.code = code ∨ problem.code ∈ others

namespace NamesIllegal

variable {code : DiagnosticCode} {makes : Char → Problem} {characters : List Char}
  {others : List DiagnosticCode} {problems : List Problem}

/-- The problems of one name come alone. -/
theorem of_map (reported : Problem.ReportedUnder code makes) (characters : List Char) :
    NamesIllegal code makes characters [] (characters.map makes) where
  reported := reported
  under_code := by
    apply List.filter_eq_self.mpr
    intro problem mem
    obtain ⟨c, -, rfl⟩ := List.mem_map.mp mem
    exact decide_eq_true (reported.coded c)
  no_more := by
    intro problem mem _
    obtain ⟨c, -, rfl⟩ := List.mem_map.mp mem
    exact .inl (reported.coded c)

/-- Problems that are not about illegal characters may stand before. -/
theorem append_left (names : NamesIllegal code makes characters others problems)
    {before : List Problem}
    (unrelated : ∀ problem ∈ before, problem.code.isIllegalCharacter = false) :
    NamesIllegal code makes characters others (before ++ problems) where
  reported := names.reported
  under_code := by
    have none_before : before.filter (fun problem => problem.code = code) = [] := by
      rw [List.filter_eq_nil_iff]
      intro problem mem coded
      have other := unrelated problem mem
      rw [of_decide_eq_true coded, names.reported.isIllegalCharacter] at other
      exact absurd other (by simp)
    rw [List.filter_append, none_before, List.nil_append, names.under_code]
  no_more := by
    intro problem mem illegal
    rcases List.mem_append.mp mem with first | later
    · rw [unrelated problem first] at illegal
      exact absurd illegal (by simp)
    · exact names.no_more problem later illegal

/-- Problems that are under other codes if they are about illegal characters may follow. -/
theorem append_right (names : NamesIllegal code makes characters [] problems)
    {after : List Problem} (apart : code ∉ others)
    (elsewhere : ∀ problem ∈ after, problem.code.isIllegalCharacter = true →
      problem.code ∈ others) :
    NamesIllegal code makes characters others (problems ++ after) where
  reported := names.reported
  under_code := by
    have none_after : after.filter (fun problem => problem.code = code) = [] := by
      rw [List.filter_eq_nil_iff]
      intro problem mem coded
      have same := of_decide_eq_true coded
      have other := elsewhere problem mem (same ▸ names.reported.isIllegalCharacter)
      exact apart (same ▸ other)
    rw [List.filter_append, none_after, List.append_nil, names.under_code]
  no_more := by
    intro problem mem illegal
    rcases List.mem_append.mp mem with first | later
    · exact .inl ((names.no_more problem first illegal).resolve_right (by simp))
    · exact .inr (elsewhere problem later illegal)

/-- The reports under the code. -/
theorem filter_reportAll (names : NamesIllegal code makes characters others problems) :
    (reportAll problems).filter (fun report => report.code.number = code.number)
      = characters.map fun c => (makes c).report := by
  unfold reportAll
  simp only [DiagnosticCode.number_injective.eq_iff]
  rw [List.filter_map]
  show (problems.filter fun problem => problem.code = code).map _ = _
  rw [names.under_code, List.map_map]
  rfl

theorem no_more_reports (names : NamesIllegal code makes characters others problems)
    {report : Diagnostic} (mem : report ∈ reportAll problems)
    (illegal : report.code.number ∈ [3002, 3004, 3006, 3008, 3013]) :
    report.code.number = code.number ∨ report.code.number ∈ others.map DiagnosticCode.number := by
  obtain ⟨problem, among, rfl⟩ := List.mem_map.mp mem
  rw [← DiagnosticCode.isIllegalCharacter_iff] at illegal
  rcases names.no_more problem among illegal with same | other
  · exact .inl (congrArg DiagnosticCode.number same)
  · exact .inr (List.mem_map_of_mem other)

/-- A plain list has a report for every occurrence. -/
theorem reportsIllegal (names : NamesIllegal code makes characters others problems) :
    ReportsIllegal code.number characters (others.map DiagnosticCode.number)
      (reportAll problems) where
  cited := by
    rw [names.filter_reportAll]
    exact names.reported.forall₂_cites characters
  no_more := fun _ => names.no_more_reports

/-- **A set has a report for each distinct character.** -/
theorem reportsIllegal_eraseDups (names : NamesIllegal code makes characters others problems) :
    ReportsIllegal code.number characters.eraseDups (others.map DiagnosticCode.number)
      (reportAll problems).eraseDups where
  cited := by
    have filtered :
        (reportAll problems).eraseDups.filter (fun report => report.code.number = code.number)
          = ((reportAll problems).filter
              fun report => report.code.number = code.number).eraseDups :=
      filter_eraseDupsBy (fun x y same => by rw [eq_of_beq same]) _
    rw [filtered, names.filter_reportAll, names.reported.eraseDups_map_report]
    exact names.reported.forall₂_cites characters.eraseDups
  no_more := fun _ mem => names.no_more_reports (List.mem_eraseDups.mp mem)

end NamesIllegal

/-! ## §4. Declarations. -/

open AttributeName

section Declarations

variable {text : String}

theorem ParameterDeclaration.reportsIllegal {declared : ParameterDeclaration} (owner : Owner)
    (attributeName : String) (named : Text.nonBlank? declared.name = some text)
    (silent : declared.diagnostics = []) :
    ReportsIllegal 3013 (illegalCharacters text).eraseDups []
      (declared.build owner attributeName).diagnostics := by
  have problems : declared.problems attributeName
      = (illegalCharacters text).map (.illegalParameter attributeName text) := by
    rw [ParameterDeclaration.problems, named]
  have reported : Problem.ReportedUnder .illegalParameter (.illegalParameter attributeName text) :=
    ⟨fun _ => rfl, fun _ => rfl⟩
  show ReportsIllegal _ _ _ (reportAll _ ++ declared.diagnostics).eraseDups
  rw [silent, List.append_nil, problems]
  exact (NamesIllegal.of_map reported _).reportsIllegal_eraseDups

/-- Without diagnostics of its author's, an attribute has the reports on its problems. -/
theorem AttributeDeclaration.build_diagnostics_of_silent {declared : AttributeDeclaration}
    (owner : Owner) (silent : declared.diagnostics = []) :
    (declared.build owner).diagnostics
      = (reportAll (declared.problems owner.displayName (declared.citedName owner))).eraseDups := by
  show (reportAll _ ++ declared.diagnostics).eraseDups = _
  rw [silent, List.append_nil]

/-- No problem of an indexer prefix is about an illegal character anywhere else. -/
theorem AttributeDeclaration.code_of_mem_indexerProblems {ownerName shownName namePrefix : String}
    {isDirective : Bool} {problem : Problem}
    (mem : problem ∈ indexerProblems ownerName shownName isDirective namePrefix)
    (illegal : problem.code.isIllegalCharacter = true) : problem.code = .illegalIndexerPrefix := by
  unfold indexerProblems at mem
  split at mem
  · obtain rfl := List.mem_singleton.mp mem
    exact absurd illegal Bool.false_ne_true
  · split at mem
    · obtain rfl := List.mem_singleton.mp mem
      exact absurd illegal Bool.false_ne_true
    · simp only [List.mem_append, List.mem_ite_nil_right, List.mem_singleton, List.mem_map] at mem
      rcases mem with ⟨-, rfl⟩ | ⟨c, -, rfl⟩
      · exact absurd illegal Bool.false_ne_true
      · rfl

/-- An indexer brings reports of its own about illegal characters, in its prefix. -/
theorem AttributeDeclaration.reportsIllegal {declared : AttributeDeclaration} (owner : Owner)
    (named : Text.nonBlank? declared.name = some text) (silent : declared.diagnostics = []) :
    ReportsIllegal 3006 (illegalCharacters (checkedPart declared.isDirective text)).eraseDups
      (declared.indexer.toList.map fun _ => 3008) (declared.build owner).diagnostics := by
  let ownerName := owner.displayName
  let shownName := declared.citedName owner
  let checked := checkedPart declared.isDirective text
  have reported : Problem.ReportedUnder .illegalBoundAttribute
      (.illegalBoundAttribute ownerName shownName checked) := ⟨fun _ => rfl, fun _ => rfl⟩
  have of_name : NamesIllegal .illegalBoundAttribute
      (.illegalBoundAttribute ownerName shownName checked) (illegalCharacters checked) []
      (declared.nameProblems ownerName shownName) := by
    rw [nameProblems, named]
    apply (NamesIllegal.of_map reported _).append_left
    intro problem mem
    simp only [List.mem_append, List.mem_ite_nil_right, List.mem_singleton] at mem
    rcases mem with ⟨-, rfl⟩ | ⟨-, rfl⟩
    · rfl
    · rfl
  -- The problems of an indexer come behind those of the name, under a code of their own.
  have of_both : NamesIllegal .illegalBoundAttribute
      (.illegalBoundAttribute ownerName shownName checked) (illegalCharacters checked)
      (declared.indexer.toList.map fun _ => .illegalIndexerPrefix)
      (declared.problems ownerName shownName) := by
    apply of_name.append_right
    · simp
    intro problem mem illegal
    cases is_indexer : declared.indexer with
    | none =>
      rw [is_indexer] at mem
      exact absurd mem (by simp)
    | some indexer =>
      rw [is_indexer] at mem
      simpa using code_of_mem_indexerProblems mem illegal
  have numbered := of_both.reportsIllegal_eraseDups
  rw [List.map_map] at numbered
  rw [build_diagnostics_of_silent owner silent]
  exact numbered

theorem RequirementDeclaration.reportsIllegal {declared : RequirementDeclaration}
    (named : Text.nonBlank? declared.name = some text) :
    ReportsIllegal 3004 (illegalCharacters (bare text)) [] declared.build.diagnostics := by
  have problems : declared.problems
      = (illegalCharacters (bare text)).map (.illegalRequiredAttribute text) := by
    rw [RequirementDeclaration.problems, named]
  have reported : Problem.ReportedUnder .illegalRequiredAttribute
      (.illegalRequiredAttribute text) := ⟨fun _ => rfl, fun _ => rfl⟩
  show ReportsIllegal _ _ _ (reportAll _)
  rw [problems]
  exact (NamesIllegal.of_map reported _).reportsIllegal

theorem RuleDeclaration.reportsIllegal {declared : RuleDeclaration}
    (named : Text.nonBlank? declared.tagName = some text) (one_tag : text ≠ ElementRule.catchAll) :
    ReportsIllegal 3002 (illegalCharacters text) [] declared.build.diagnostics := by
  have problems : declared.problems = (illegalCharacters text).map (.illegalTagName text) := by
    rw [RuleDeclaration.problems, named]
    exact if_neg one_tag
  have reported : Problem.ReportedUnder .illegalTagName (.illegalTagName text) :=
    ⟨fun _ => rfl, fun _ => rfl⟩
  show ReportsIllegal _ _ _ (reportAll _)
  rw [problems]
  exact (NamesIllegal.of_map reported _).reportsIllegal

end Declarations

/-! ## §5. All validators. -/

theorem AttributeName.bare_marked (text : String) : bare ("@" ++ text) = text := by
  have marked : stripMarker? ("@" ++ text) = some text :=
    stripMarker?_eq_some_iff.mpr (String.toList_append ..)
  rw [bare, marked, Option.getD_some]

/-- **All validators report the same illegal characters** of a text that is not blank: a parameter
and a bound attribute once for each distinct character, in the order of first occurrence, where a
directive attribute has the text behind its marker; a rule and a required attribute once for each
occurrence, where a required attribute may have one marker.  Each report cites its character, and
there are no others about illegal characters, but for those of an indexer in its prefix. -/
theorem illegalCharacters_reported {text : String}
    (shown : Text.isAbsentOrBlank (some text) = false) :
    (∀ (declared : ParameterDeclaration) (owner : Owner) (attributeName : String),
      declared.name = some text → declared.diagnostics = [] →
        ReportsIllegal 3013 (offending text.toList).eraseDups []
          (declared.build owner attributeName).diagnostics)
      ∧ (∀ (declared : AttributeDeclaration) (owner : Owner), declared.isDirective = false →
        declared.name = some text → declared.diagnostics = [] →
          ReportsIllegal 3006 (offending text.toList).eraseDups
            (declared.indexer.toList.map fun _ => 3008) (declared.build owner).diagnostics)
      ∧ (∀ (declared : AttributeDeclaration) (owner : Owner), declared.isDirective = true →
        declared.name = some ("@" ++ text) → declared.diagnostics = [] →
          ReportsIllegal 3006 (offending text.toList).eraseDups
            (declared.indexer.toList.map fun _ => 3008) (declared.build owner).diagnostics)
      ∧ (∀ declared : RuleDeclaration, declared.tagName = some text → text ≠ "*" →
        ReportsIllegal 3002 (offending text.toList) [] declared.build.diagnostics)
      ∧ ∀ declared : RequirementDeclaration, declared.name = some text →
        ReportsIllegal 3004 (offending (unmarked text.toList)) [] declared.build.diagnostics := by
  have present : ∀ {value : Option String}, value = some text →
      Text.nonBlank? value = some text := by
    intro value named
    exact Text.nonBlank?_eq_some_iff.mpr ⟨named, shown⟩
  rw [← toList_bare, ← illegalCharacters_eq, ← illegalCharacters_eq]
  refine ⟨?parameter, ?plain, ?directive, ?rule, ?required⟩
  case parameter =>
    intro declared owner attributeName named silent
    exact ParameterDeclaration.reportsIllegal owner attributeName (present named) silent
  case plain =>
    intro declared owner plain named silent
    have reports := AttributeDeclaration.reportsIllegal owner (present named) silent
    rwa [plain] at reports
  case directive =>
    intro declared owner directive named silent
    have marked : Text.nonBlank? declared.name = some ("@" ++ text) := by
      refine Text.nonBlank?_eq_some_iff.mpr ⟨named, ?_⟩
      rw [String.toList_append, List.all_append, Bool.and_eq_false_iff]
      exact .inr shown
    have reports := AttributeDeclaration.reportsIllegal owner marked silent
    have checked : checkedPart declared.isDirective ("@" ++ text) = text := by
      rw [directive]
      exact bare_marked text
    rwa [checked] at reports
  case rule =>
    intro declared named one_tag
    exact RuleDeclaration.reportsIllegal (present named) one_tag
  case required =>
    intro declared named
    exact RequirementDeclaration.reportsIllegal (present named)

/-- A text with a marker and the same quotation mark twice, as the name of a parameter, of a plain
attribute, of a directive attribute with an indexer, of a rule and of a required attribute. -/
theorem illegalCharacters_reported_quoted :
    let parameter : ParameterDeclaration := { kind := "K", name := some "@a\"b\"" }
    let plain : AttributeDeclaration := { kind := "K", name := some "@a\"b\"" }
    let directive : AttributeDeclaration :=
      ({ kind := "K" } : AttributeDeclaration).withClauses
        [.name "@@a\"b\"", .directive, .dictionary "@x y" "T"]
    let rule : RuleDeclaration := { tagName := some "@a\"b\"" }
    let required : RequirementDeclaration := { name := some "@a\"b\"" }
    ReportsIllegal 3013 ['@', '"'] [] (parameter.build {} "bound").diagnostics
      ∧ ReportsIllegal 3006 ['@', '"'] [] (plain.build {}).diagnostics
      ∧ ReportsIllegal 3006 ['@', '"'] [3008] (directive.build {}).diagnostics
      ∧ ReportsIllegal 3002 ['@', '"', '"'] [] rule.build.diagnostics
      ∧ ReportsIllegal 3004 ['"', '"'] [] required.build.diagnostics := by
  intro parameter plain directive rule required
  have shown : Text.isAbsentOrBlank (some "@a\"b\"") = false := by decide
  have listed : offending "@a\"b\"".toList = ['@', '"', '"'] := by decide
  have distinct : (offending "@a\"b\"".toList).eraseDups = ['@', '"'] := by decide
  have behind_marker : offending (unmarked "@a\"b\"".toList) = ['"', '"'] := by decide
  obtain ⟨of_parameter, of_plain, of_directive, of_rule, of_required⟩ :=
    illegalCharacters_reported shown
  rw [listed] at of_rule
  rw [distinct] at of_parameter of_plain of_directive
  rw [behind_marker] at of_required
  exact ⟨of_parameter parameter {} "bound" rfl rfl, of_plain plain {} (by decide) rfl rfl,
    of_directive directive {} (by decide) (by decide) rfl, of_rule rule rfl (by decide),
    of_required required rfl⟩

end ComponentMarkup
