/-
  ComponentMarkup.Proofs.Versions.Spellings
  ────────────────────────────────
  **Which texts name a version.**

  A text names a version if what is left of it without the white space around it does: the words
  `latest` and `experimental`, in any ASCII case, or two numbers with the first point between them.
  A number is one or more ASCII digits after at most one plus sign.

  Every version is shown as a text that names it, but for the versions above the experimental one,
  which are all shown alike.  Nothing that is granted to a version depends on the difference.

  Main statements: `Text.trimmed_iff`, `LanguageVersion.ofTrimmed?_eq_some_iff`,
  `LanguageVersion.ofText_display` and `LanguageVersion.spellings_exact`.
-/
import ComponentMarkup.Capabilities
import ComponentMarkup.LanguageVersion
import ComponentMarkup.Proofs.Text.Utf8
import Mathlib.Data.List.Forall2
import Mathlib.Data.List.TakeWhile

namespace ComponentMarkup

/-! ## §1. White space around a text. -/

namespace Text

/-- **What is left of a text** without the white space around it: it neither starts nor ends with
white space, and nothing but white space is missing. -/
structure Trimmed (text core : List Char) : Prop where
  around : ∃ before after, text = before ++ core ++ after
    ∧ (∀ c ∈ before, isBlank c = true) ∧ ∀ c ∈ after, isBlank c = true
  first : ∀ c ∈ core.head?, isBlank c = false
  last : ∀ c ∈ core.getLast?, isBlank c = false

theorem isBlank_of_mem_head?_dropWhile (text : List Char) {c : Char}
    (first : c ∈ (text.dropWhile isBlank).head?) : isBlank c = false := by
  have stops := List.head?_dropWhile_not isBlank text
  rw [Option.mem_def.mp first] at stops
  simpa using stops

/-- Of a text that does not start with white space nothing is dropped. -/
theorem dropWhile_isBlank_eq_self {text : List Char}
    (first : ∀ c ∈ text.head?, isBlank c = false) : text.dropWhile isBlank = text := by
  cases text with
  | nil => rfl
  | cons c rest =>
    have kept : isBlank c = false := first c (by simp)
    simp [kept]

theorem trimEnd_append {core after : List Char} (last : ∀ c ∈ core.getLast?, isBlank c = false)
    (blank : ∀ c ∈ after, isBlank c = true) : trimEnd (core ++ after) = core := by
  have behind : ∀ c ∈ after.reverse, isBlank c = true := by
    intro c mem
    exact blank c (List.mem_reverse.mp mem)
  have ends : ∀ c ∈ core.reverse.head?, isBlank c = false := by
    intro c mem
    rw [List.head?_reverse] at mem
    exact last c mem
  unfold trimEnd
  rw [List.reverse_append, List.dropWhile_append_of_pos behind, dropWhile_isBlank_eq_self ends,
    List.reverse_reverse]

theorem trimEnd_append_dropped (text : List Char) :
    trimEnd text ++ (text.reverse.takeWhile isBlank).reverse = text := by
  unfold trimEnd
  rw [← List.reverse_append, List.takeWhile_append_dropWhile, List.reverse_reverse]

theorem Trimmed.eq_trim {text core : List Char} (trimmed : Trimmed text core) :
    core = trim text := by
  obtain ⟨before, after, parts, blank_before, blank_after⟩ := trimmed.around
  unfold trim trimStart
  rw [parts, List.append_assoc, List.dropWhile_append_of_pos blank_before]
  by_cases empty : core = []
  · -- Nothing is left, and the white space behind goes with the one before.
    subst empty
    have gone : after.dropWhile isBlank = [] := List.dropWhile_eq_nil_iff.mpr blank_after
    rw [List.nil_append, gone]
    rfl
  · have starts : ∀ c ∈ (core ++ after).head?, isBlank c = false := by
      intro c mem
      rw [List.head?_append_of_ne_nil _ empty] at mem
      exact trimmed.first c mem
    rw [dropWhile_isBlank_eq_self starts, trimEnd_append trimmed.last blank_after]

theorem trimmed_trim (text : List Char) : Trimmed text (trim text) := by
  have front := List.takeWhile_append_dropWhile (p := isBlank) (l := text)
  have back := trimEnd_append_dropped (trimStart text)
  constructor
  case around =>
    refine ⟨text.takeWhile isBlank, ((trimStart text).reverse.takeWhile isBlank).reverse,
      ?_, ?_, ?_⟩
    · show text = _ ++ trimEnd (trimStart text) ++ _
      rw [List.append_assoc, back]
      exact front.symm
    · intro c mem
      exact List.mem_takeWhile_imp mem
    · intro c mem
      exact List.mem_takeWhile_imp (List.mem_reverse.mp mem)
  case first =>
    intro c mem
    have left : trim text ≠ [] := by
      intro empty
      rw [empty] at mem
      simp at mem
    have starts : (trimStart text).head? = (trim text).head? := by
      rw [← back]
      exact List.head?_append_of_ne_nil _ left
    rw [← starts] at mem
    exact isBlank_of_mem_head?_dropWhile text mem
  case last =>
    intro c mem
    unfold trim trimEnd at mem
    rw [List.getLast?_reverse] at mem
    exact isBlank_of_mem_head?_dropWhile _ mem

/-- **Trimming** gives what is left of a text, and nothing else is left of it. -/
theorem trimmed_iff {text core : List Char} : Trimmed text core ↔ core = trim text := by
  constructor
  · exact Trimmed.eq_trim
  · intro same
    rw [same]
    exact trimmed_trim text

/-- A text without any white space is left as it is. -/
theorem trimmed_self {text : List Char} (no_blank : ∀ c ∈ text, isBlank c = false) :
    Trimmed text text where
  around := ⟨[], [], by simp⟩
  first := fun c mem => no_blank c (List.mem_of_mem_head? mem)
  last := fun c mem => no_blank c (List.mem_of_mem_getLast? mem)

theorem not_isBlank_of_isDigit {c : Char} (digit : c.isDigit = true) : isBlank c = false := by
  have ascii : c.toNat < 0x80 := by
    simp only [Char.isDigit, Bool.and_eq_true, decide_eq_true_eq] at digit
    have bound : c.toNat ≤ 57 := digit.2
    omega
  exact forall_ascii (p := fun c => c.isDigit = true → isBlank c = false) (by decide) ascii digit

end Text

/-! ## §2. Words. -/

/-- Whether a text is a word in some ASCII case: each of its characters is the letter that stands
there in the word, or its capital. -/
def InAnyCase (word : String) (text : List Char) : Prop :=
  List.Forall₂ (fun c letter => c = letter ∨ c = letter.toUpper) text word.toList

theorem toLower_eq_iff {c letter : Char} (small : letter.isLower = true) :
    c.toLower = letter ↔ c = letter ∨ c = letter.toUpper := by
  constructor
  · intro lowered
    subst lowered
    by_cases ascii : c.toNat < 0x80
    · exact Text.forall_ascii (p := fun c => c.toLower.isLower = true →
        c = c.toLower ∨ c = c.toLower.toUpper) (by decide +kernel) ascii small
    · exact Or.inl (Text.toLower_of_not_ascii (by omega)).symm
  · have ascii : letter.toNat < 0x80 := by
      have bound : letter.toNat ≤ 122 := of_decide_eq_true (Bool.and_eq_true_iff.mp small).2
      omega
    have back := Text.forall_ascii (p := fun letter => letter.isLower = true →
      letter.toLower = letter ∧ letter.toUpper.toLower = letter) (by decide +kernel) ascii small
    intro spelt
    rcases spelt with same | capital
    · rw [same, back.1]
    · rw [capital, back.2]

namespace LanguageVersion

theorem isWord_iff {word : String} (small : word.toList.all Char.isLower = true)
    {text : List Char} : isWord text word = true ↔ InAnyCase word text := by
  unfold isWord InAnyCase
  rw [beq_iff_eq]
  rw [List.all_eq_true] at small
  generalize word.toList = letters at small
  induction letters generalizing text with
  | nil => rw [List.map_eq_nil_iff, List.forall₂_nil_right_iff]
  | cons letter letters ih =>
    cases text with
    | nil => simp [List.forall₂_nil_left_iff]
    | cons c rest =>
      obtain ⟨small_here, small_later⟩ := List.forall_mem_cons.mp small
      rw [List.map_cons, List.cons.injEq, List.forall₂_cons, toLower_eq_iff small_here,
        ih small_later]

/-! ## §3. Numbers. -/

/-- **A numeral**: one or more ASCII digits, after at most one plus sign, and their value. -/
def Numeral (text : List Char) (n : Nat) : Prop :=
  ∃ digits, (text = digits ∨ text = '+' :: digits) ∧ digits ≠ []
    ∧ (∀ c ∈ digits, c.isDigit = true) ∧ Nat.ofDigitChars 10 digits 0 = n

theorem readDigits?_eq_some_iff {text : List Char} {n : Nat} :
    Text.readDigits? text = some n ↔
      text ≠ [] ∧ (∀ c ∈ text, c.isDigit = true) ∧ Nat.ofDigitChars 10 text 0 = n := by
  unfold Text.readDigits?
  split
  · next fits =>
    have digits := List.all_eq_true.mp fits.2
    simp only [Option.some.injEq, ne_eq, fits.1, not_false_eq_true, true_and]
    exact ⟨fun value => ⟨digits, value⟩, fun both => both.2⟩
  · next unfit =>
    constructor
    · intro read
      cases read
    · intro ⟨present, digits, _⟩
      exact absurd ⟨present, List.all_eq_true.mpr digits⟩ unfit

/-- The digits of a numeral, with or without its sign. -/
def unsigned : List Char → List Char
  | '+' :: rest => rest
  | text => text

/-- A sign is no digit, so that there is one way to tell the digits of a numeral. -/
theorem numeral_iff {text : List Char} {n : Nat} :
    Numeral text n ↔ Text.readDigits? (unsigned text) = some n := by
  rw [readDigits?_eq_some_iff]
  constructor
  · intro ⟨digits, spelt, present, all_digits, value⟩
    have same : unsigned text = digits := by
      rcases spelt with plain | signed
      · subst plain
        unfold unsigned
        split
        · have sign := all_digits '+' List.mem_cons_self
          exact absurd sign (by decide)
        · rfl
      · subst signed
        rfl
    rw [same]
    exact ⟨present, all_digits, value⟩
  · intro ⟨present, all_digits, value⟩
    refine ⟨unsigned text, ?_, present, all_digits, value⟩
    unfold unsigned
    split
    · exact Or.inr rfl
    · exact Or.inl rfl

/-- A number is read from its digits, as long as it fits. -/
theorem readNumber?_eq (text : List Char) :
    readNumber? text = (Text.readDigits? (unsigned text)).bind fun value =>
      if value < UInt32.size then some (UInt32.ofNat value) else none := by
  by_cases signed : ∃ rest, text = '+' :: rest
  · obtain ⟨rest, same⟩ := signed
    subst same
    simp only [readNumber?, unsigned]
    cases Text.readDigits? rest <;> rfl
  · have plain : ∀ rest, text = '+' :: rest → False := fun rest same => signed ⟨rest, same⟩
    simp only [readNumber?, unsigned]
    cases Text.readDigits? text <;> rfl

theorem readNumber?_eq_some_iff {text : List Char} {n : UInt32} :
    readNumber? text = some n ↔ Numeral text n.toNat := by
  rw [numeral_iff, readNumber?_eq, Option.bind_eq_some_iff]
  constructor
  · intro ⟨value, digits, fits⟩
    split at fits
    · next small =>
      rw [digits, ← Option.some.inj fits, UInt32.toNat_ofNat_of_lt' small]
    · cases fits
  · intro digits
    refine ⟨n.toNat, digits, ?_⟩
    rw [if_pos n.toNat_lt_size, UInt32.ofNat_toNat]

/-- **Two numbers** with the first point of the text between them. -/
def NamesByNumbers (text : List Char) (v : LanguageVersion) : Prop :=
  ∃ major minor, text = major ++ '.' :: minor ∧ '.' ∉ major
    ∧ Numeral major v.major.toNat ∧ Numeral minor v.minor.toNat

theorem scan_point {major : List Char} (first : '.' ∉ major) (minor : List Char) :
    (major ++ '.' :: minor).takeWhile (· ≠ '.') = major
      ∧ (major ++ '.' :: minor).dropWhile (· ≠ '.') = '.' :: minor := by
  have before : ∀ c ∈ major, decide (c ≠ '.') = true := by
    intro c mem
    have other : c ≠ '.' := fun same => first (same ▸ mem)
    simpa using other
  rw [List.takeWhile_append_of_pos before, List.dropWhile_append_of_pos before]
  simp

theorem readNumbers?_eq_some_iff {text : List Char} {v : LanguageVersion} :
    readNumbers? text = some v ↔ NamesByNumbers text v := by
  constructor
  · intro read
    have parts := List.takeWhile_append_dropWhile (p := (· ≠ '.')) (l := text)
    unfold readNumbers? at read
    split at read
    · cases read
    · next point minor rest =>
      -- The scan stopped here, so this is the point.
      have stops := List.head?_dropWhile_not (· ≠ '.') text
      rw [rest] at parts stops
      have same : point = '.' := by simpa using stops
      subst same
      split at read
      · next major_value minor_value reads_major reads_minor =>
        cases read
        refine ⟨text.takeWhile (· ≠ '.'), minor, ?_, ?_, readNumber?_eq_some_iff.mp reads_major,
          readNumber?_eq_some_iff.mp reads_minor⟩
        · exact parts.symm
        · intro mem
          have other := List.mem_takeWhile_imp mem
          simp at other
      · cases read
  · intro ⟨major, minor, parts, first, spells_major, spells_minor⟩
    obtain ⟨before, behind⟩ := scan_point first minor
    unfold readNumbers?
    rw [parts, before, behind]
    simp only [readNumber?_eq_some_iff.mpr spells_major, readNumber?_eq_some_iff.mpr spells_minor]

/-! ## §4. Texts without white space around them. -/

/-- **A text without white space around it names a version**: it is one of the two words, in any
ASCII case, or two numbers. -/
inductive Names : List Char → LanguageVersion → Prop where
  | latest {text : List Char} (word : InAnyCase "latest" text) : Names text .latest
  | experimental {text : List Char} (word : InAnyCase "experimental" text) :
    Names text .experimental
  | numbers {text : List Char} {v : LanguageVersion} (two : NamesByNumbers text v) : Names text v

theorem isWord_latest {text : List Char} : isWord text "latest" = true ↔ InAnyCase "latest" text :=
  isWord_iff (by decide)

theorem isWord_experimental {text : List Char} :
    isWord text "experimental" = true ↔ InAnyCase "experimental" text :=
  isWord_iff (by decide)

/-- A text with a point is not a word without one. -/
theorem not_isWord_of_numbers {word : String} (plain : '.' ∉ word.toList) {text : List Char}
    {v : LanguageVersion} (two : NamesByNumbers text v) : isWord text word = false := by
  obtain ⟨major, minor, parts, -⟩ := two
  have point : '.' ∈ text.map Char.toLower := by
    rw [parts]
    simp
  unfold isWord
  rw [beq_eq_false_iff_ne]
  intro same
  rw [same] at point
  exact plain point

/-- **What names a version** is read as that version, and as no other one. -/
theorem ofTrimmed?_eq_some_iff {text : List Char} {v : LanguageVersion} :
    ofTrimmed? text = some v ↔ Names text v := by
  constructor
  · intro read
    unfold ofTrimmed? at read
    split at read
    · next word =>
      cases read
      exact .latest (isWord_latest.mp word)
    · split at read
      · next word =>
        cases read
        exact .experimental (isWord_experimental.mp word)
      · exact .numbers (readNumbers?_eq_some_iff.mp read)
  · intro names
    unfold ofTrimmed?
    cases names with
    | latest word => rw [if_pos (isWord_latest.mpr word)]
    | experimental word =>
      have lowered := isWord_experimental.mpr word
      -- The text is one word in lower case, so it is not the other one.
      have other : isWord text "latest" = false := by
        unfold isWord at lowered ⊢
        rw [beq_iff_eq.mp lowered]
        decide
      rw [other, if_neg Bool.false_ne_true, if_pos lowered]
    | numbers two =>
      rw [not_isWord_of_numbers (by decide) two, not_isWord_of_numbers (by decide) two,
        if_neg Bool.false_ne_true, if_neg Bool.false_ne_true]
      exact readNumbers?_eq_some_iff.mpr two

/-- Whether a text names a version, white space around it aside. -/
def NamesAround (text : String) (v : LanguageVersion) : Prop :=
  ∃ core, Text.Trimmed text.toList core ∧ Names core v

theorem namesAround_iff {text : String} {v : LanguageVersion} :
    NamesAround text v ↔ ofTrimmed? (Text.trim text.toList) = some v := by
  unfold NamesAround
  simp only [Text.trimmed_iff, exists_eq_left, ofTrimmed?_eq_some_iff]

theorem ofText_eq_ok_iff {text : String} {v : LanguageVersion} :
    ofText text = .ok v ↔ NamesAround text v := by
  rw [namesAround_iff]
  unfold ofText
  cases ofTrimmed? (Text.trim text.toList) with
  | none => simp
  | some read => simp

theorem ofText_eq_error_iff {text : String} {error : CompileError} :
    ofText text = .error error ↔
      error = .invalidLanguageVersion text ∧ ¬ ∃ v, NamesAround text v := by
  simp only [namesAround_iff]
  unfold ofText
  cases ofTrimmed? (Text.trim text.toList) with
  | none => simp [eq_comm]
  | some read => simp

/-! ## §5. The order of versions. -/

theorem le_iff {v w : LanguageVersion} :
    v ≤ w ↔ v.major.toNat < w.major.toNat
      ∨ v.major.toNat = w.major.toNat ∧ v.minor.toNat ≤ w.minor.toNat := by
  rw [UInt32.toNat_inj]
  exact Iff.rfl

theorem le_total (v w : LanguageVersion) : v ≤ w ∨ w ≤ v := by
  rw [le_iff, le_iff]
  omega

theorem le_trans {u v w : LanguageVersion} (low : u ≤ v) (high : v ≤ w) : u ≤ w := by
  rw [le_iff] at low high ⊢
  omega

theorem le_antisymm {v w : LanguageVersion} (low : v ≤ w) (high : w ≤ v) : v = w := by
  rw [le_iff] at low high
  have major : v.major.toNat = w.major.toNat := by omega
  have minor : v.minor.toNat = w.minor.toNat := by omega
  cases v
  cases w
  rw [UInt32.toNat_inj] at major minor
  rw [mk.injEq]
  exact ⟨major, minor⟩

theorem min_of_le {v w : LanguageVersion} (low : v ≤ w) : min v w = v := if_pos low

theorem min_of_ge {v w : LanguageVersion} (high : w ≤ v) : min v w = w := by
  by_cases low : v ≤ w
  · rw [min_of_le low]
    exact le_antisymm low high
  · exact if_neg low

theorem le_min_iff {u v w : LanguageVersion} : u ≤ min v w ↔ u ≤ v ∧ u ≤ w := by
  rcases le_total v w with low | high
  · rw [min_of_le low]
    exact ⟨fun le => ⟨le, le_trans le low⟩, fun both => both.1⟩
  · rw [min_of_ge high]
    exact ⟨fun le => ⟨le_trans le high, le⟩, fun both => both.2⟩

/-! ## §6. Versions as they are shown. -/

theorem numeral_decimal (n : Nat) : Numeral (Text.decimal n) n := by
  have read := readDigits?_eq_some_iff.mp (Text.readDigits?_decimal n)
  exact ⟨Text.decimal n, Or.inl rfl, read⟩

/-- A version below the experimental one is shown by its numbers. -/
theorem namesAround_display {v : LanguageVersion} (released : v.isExperimental = false) :
    NamesAround v.display v := by
  have shown : v.display.toList
      = Text.decimal v.major.toNat ++ '.' :: Text.decimal v.minor.toNat := by
    unfold display
    rw [released, if_neg Bool.false_ne_true, String.toList_ofList]
  have no_blank : ∀ c ∈ v.display.toList, Text.isBlank c = false := by
    intro c mem
    rw [shown, List.mem_append, List.mem_cons] at mem
    rcases mem with digit | point | digit
    · exact Text.not_isBlank_of_isDigit (Text.isDigit_of_mem_decimal digit)
    · subst point
      decide
    · exact Text.not_isBlank_of_isDigit (Text.isDigit_of_mem_decimal digit)
  have no_point : '.' ∉ Text.decimal v.major.toNat := by
    intro mem
    have digit := Text.isDigit_of_mem_decimal mem
    exact absurd digit (by decide)
  refine ⟨v.display.toList, Text.trimmed_self no_blank, .numbers ?_⟩
  exact ⟨_, _, shown, no_point, numeral_decimal _, numeral_decimal _⟩

/-- **A version is read back from what is shown**, up to the experimental one. -/
theorem ofText_display (v : LanguageVersion) : ofText v.display = .ok (min v experimental) := by
  by_cases above : v.isExperimental = true
  · have high : experimental ≤ v := of_decide_eq_true above
    rw [min_of_ge high]
    unfold display
    rw [if_pos above]
    rfl
  · have released : v.isExperimental = false := by simpa using above
    have low : v ≤ experimental := by
      rcases le_total v experimental with low | high
      · exact low
      · exact absurd (decide_eq_true high) above
    rw [min_of_le low, ofText_eq_ok_iff]
    exact namesAround_display released

end LanguageVersion

/-! ## §7. What is granted to a version. -/

/-- No threshold is above the experimental version. -/
theorem Capabilities.threshold_le_experimental :
    ∀ tier ∈ thresholds, tier.1 ≤ LanguageVersion.experimental := by decide

/-- **All versions from the experimental one upwards** are granted the same. -/
theorem Capabilities.granted_min_experimental (v : LanguageVersion) (kind : FileKind) :
    granted (min v .experimental) kind = granted v kind := by
  have same : ofVersion (min v .experimental) = ofVersion v := by
    unfold ofVersion
    apply List.foldl_ext
    intro flags tier mem
    have below := threshold_le_experimental tier mem
    simp only [LanguageVersion.le_min_iff, below, and_true]
  unfold granted
  rw [same]

/-- **The spellings of a version**: which texts name one, and which one; that any other text is
refused as it stands; and that a version can be read back from what is shown, as far as it makes a
difference. -/
theorem LanguageVersion.spellings_exact :
    (∀ text v, ofText text = .ok v ↔ NamesAround text v)
      ∧ (∀ text error, ofText text = .error error ↔
        error = .invalidLanguageVersion text ∧ ¬ ∃ v, NamesAround text v)
      ∧ (∀ v : LanguageVersion, ofText v.display = .ok (min v experimental))
      ∧ ∀ (v : LanguageVersion) (kind : FileKind),
        Capabilities.granted (min v experimental) kind = Capabilities.granted v kind :=
  ⟨fun _ _ => ofText_eq_ok_iff, fun _ _ => ofText_eq_error_iff, ofText_display,
    Capabilities.granted_min_experimental⟩

end ComponentMarkup
