/-
  ComponentMarkup.Proofs.Text.LowerCase
  ────────────────────────────────
  **What lower case keeps of a text.**

  Lowering a text character by character is finer than lowering its ASCII letters alone: two texts
  that agree up to the case of ASCII letters agree in full lower case as well, and the converse
  fails.  Two characters outside of ASCII have an ASCII letter in their lower case, the Kelvin
  sign (`k`) and the capital I with a dot above (`i` and a combining dot); every other ASCII
  character comes from itself or from its capital.  So what is said in ASCII characters other than
  these two is still said, and in the same place, after lowering.

  What a table of characters contains is kept as well, if no character with a case and no lower
  case of one is in the table.

  Main statements: `lowerEach_map_toLower`, `CaseBlind.all_lowerEach`, `caseBlind_has` and
  `exists_of_lowerEach_eq_append`.
-/
import ComponentMarkup.Proofs.Text.Utf8
import ComponentMarkup.Text.CodeRanges
import ComponentMarkup.Text.LowerCase

namespace ComponentMarkup.Text

/-! ## §1. The lower case of one character. -/

/-- The images of every run are code points of characters. -/
theorem lowerCaseRuns_images : ∀ run ∈ lowerCaseRuns,
    run.image + (run.last - run.first) < 0xD800
      ∨ (0xDFFF < run.image ∧ run.image + (run.last - run.first) < 0x110000) := by
  decide +kernel

/-- Where a character of the lower case comes from. -/
theorem mem_lowerChar_cases {c d : Char} (mem : d ∈ lowerChar c) :
    (c = dottedCapitalI ∧ (d = 'i' ∨ d = '\u0307'))
      ∨ (∃ run ∈ lowerCaseRuns, (run.first ≤ c.toNat ∧ c.toNat ≤ run.last)
          ∧ d.toNat = run.image + (c.toNat - run.first))
      ∨ d = c := by
  unfold lowerChar at mem
  split at mem
  · next dotted =>
    left
    simpa [dotted] using mem
  · right
    split at mem
    · next run found =>
      left
      have listed := List.mem_of_find?_eq_some found
      have on_run := List.find?_some found
      simp only [CaseRun.has, Bool.and_eq_true, decide_eq_true_eq] at on_run
      obtain rfl := List.mem_singleton.mp mem
      have images := lowerCaseRuns_images run listed
      have valid : (run.image + (c.toNat - run.first)).isValidChar := by
        unfold Nat.isValidChar
        omega
      refine ⟨run, listed, on_run.1, ?_⟩
      rw [Char.ofNat, dif_pos valid]
      rfl
    · right
      exact List.mem_singleton.mp mem

theorem lowerChar_ne_nil (c : Char) : lowerChar c ≠ [] := by
  unfold lowerChar
  split
  · simp
  · split <;> simp

theorem lowerEach_append (x y : List Char) : lowerEach (x ++ y) = lowerEach x ++ lowerEach y :=
  List.flatMap_append

theorem lowerEach_eq_nil_iff {x : List Char} : lowerEach x = [] ↔ x = [] := by
  cases x with
  | nil => simp
  | cons c rest => simp [lowerChar_ne_nil]

/-! ## §2. ASCII characters. -/

/-- The run of the ASCII capitals. -/
def asciiRun : CaseRun := ⟨0x41, 0x5A, 1, 0x61⟩

/-- Only one run starts in ASCII. -/
theorem lowerCaseRuns_tail : ∀ run ∈ lowerCaseRuns.tail, 0x80 ≤ run.first := by
  decide +kernel

theorem find?_lowerCaseRuns_of_ascii {code : Nat} (ascii : code < 0x80) :
    lowerCaseRuns.find? (·.has code) = if asciiRun.has code then some asciiRun else none := by
  have none_later : lowerCaseRuns.tail.find? (·.has code) = none := by
    rw [List.find?_eq_none]
    intro run listed on_run
    have later := lowerCaseRuns_tail run listed
    simp only [CaseRun.has, Bool.and_eq_true, decide_eq_true_eq] at on_run
    omega
  have split_first : lowerCaseRuns = asciiRun :: lowerCaseRuns.tail := rfl
  rw [split_first, List.find?_cons, none_later]
  cases asciiRun.has code <;> rfl

/-- The lower case of an ASCII character is its small letter. -/
theorem lowerChar_of_ascii {c : Char} (ascii : c.toNat < 0x80) : lowerChar c = [c.toLower] := by
  have other : c ≠ dottedCapitalI := by
    rintro rfl
    exact absurd ascii (by decide)
  have small_of_run := forall_ascii (p := fun c => asciiRun.has c.toNat = true →
    Char.ofNat (asciiRun.image + (c.toNat - asciiRun.first)) = c.toLower) (by decide +kernel) ascii
  have small_otherwise := forall_ascii (p := fun c => asciiRun.has c.toNat = false → c = c.toLower)
    (by decide +kernel) ascii
  rw [lowerChar, if_neg other, find?_lowerCaseRuns_of_ascii ascii]
  cases on_run : asciiRun.has c.toNat with
  | true => exact congrArg (fun small => [small]) (small_of_run on_run)
  | false => exact congrArg (fun small => [small]) (small_otherwise on_run)

/-- The small letter of an ASCII character is one, too. -/
theorem toNat_toLower_lt {c : Char} (ascii : c.toNat < 0x80) : c.toLower.toNat < 0x80 :=
  forall_ascii (p := fun c => c.toLower.toNat < 0x80) (by decide +kernel) ascii

/-- Only ASCII characters have small letters in ASCII. -/
theorem ascii_of_toLower {c : Char} (ascii : c.toLower.toNat < 0x80) : c.toNat < 0x80 := by
  by_contra other
  rw [toLower_of_not_ascii (Nat.le_of_not_lt other)] at ascii
  exact other ascii

/-- Lowering the ASCII letters first makes no difference to the lower case. -/
theorem lowerChar_toLower (c : Char) : lowerChar c.toLower = lowerChar c := by
  by_cases ascii : c.toNat < 0x80
  · have again := forall_ascii (p := fun c => c.toLower.toLower = c.toLower) (by decide +kernel)
      ascii
    rw [lowerChar_of_ascii ascii, lowerChar_of_ascii (toNat_toLower_lt ascii), again]
  · rw [toLower_of_not_ascii (Nat.le_of_not_lt ascii)]

/-- **Full lower case is finer than the lower case of ASCII letters.** -/
theorem lowerEach_map_toLower (text : List Char) :
    lowerEach (text.map Char.toLower) = lowerEach text := by
  induction text with
  | nil => rfl
  | cons c rest ih => rw [List.map_cons, lowerEach_cons, lowerEach_cons, lowerChar_toLower, ih]

/-- The Kelvin sign, whose lower case is the small `k`. -/
def kelvinSign : Char := '\u212A'

/-- The runs with an ASCII character in them or in their images. -/
theorem lowerCaseRuns_ascii : ∀ run ∈ lowerCaseRuns,
    run.last < 0x80 ∨ 0x80 ≤ run.image
      ∨ (run.first = kelvinSign.toNat ∧ run.last = kelvinSign.toNat ∧ run.image = 'k'.toNat) := by
  decide +kernel

/-- **The ASCII characters in the lower case of others**: the `k` of the Kelvin sign and the `i`
of the capital I with a dot. -/
theorem ascii_of_mem_lowerChar {c d : Char} (mem : d ∈ lowerChar c) (ascii : d.toNat < 0x80) :
    c.toNat < 0x80 ∨ d = 'i' ∨ d = 'k' := by
  rcases mem_lowerChar_cases mem with ⟨-, rfl | rfl⟩ | ⟨run, listed, between, image⟩ | rfl
  · exact .inr (.inl rfl)
  · exact absurd ascii (by decide)
  · rcases lowerCaseRuns_ascii run listed with low | high | ⟨first, last, k⟩
    · exact .inl (by omega)
    · exact absurd ascii (by omega)
    · refine .inr (.inr (Char.toNat_inj.mp ?_))
      omega
  · exact .inl ascii

/-! ## §3. Tests that do not see letter case. -/

/-- A test on characters **does not see letter case** if the lower case of a character passes
exactly if the character does. -/
def CaseBlind (test : Char → Bool) : Prop := ∀ c, ∀ d ∈ lowerChar c, test d = test c

theorem CaseBlind.or {p q : Char → Bool} (p_blind : CaseBlind p) (q_blind : CaseBlind q) :
    CaseBlind fun c => p c || q c := by
  intro c d mem
  show (p d || q d) = (p c || q c)
  rw [p_blind c d mem, q_blind c d mem]

theorem CaseBlind.not {p : Char → Bool} (blind : CaseBlind p) : CaseBlind fun c => !p c := by
  intro c d mem
  show (!p d) = !p c
  rw [blind c d mem]

/-- All characters pass such a test exactly if all do in lower case. -/
theorem CaseBlind.all_lowerEach {test : Char → Bool} (blind : CaseBlind test) (text : List Char) :
    (lowerEach text).all test = text.all test := by
  induction text with
  | nil => rfl
  | cons c rest ih =>
    have here : (lowerChar c).all test = test c := by
      obtain ⟨d, mem⟩ := List.exists_mem_of_ne_nil _ (lowerChar_ne_nil c)
      cases passes : test c with
      | true => exact List.all_eq_true.mpr fun e among => (blind c e among).trans passes
      | false => exact List.all_eq_false.mpr ⟨d, mem, by simp [blind c d mem, passes]⟩
    rw [lowerEach_cons, List.all_append, List.all_cons, here, ih]

/-- No character of the run and none of its images is in the table. -/
def CaseRun.Avoids (run : CaseRun) (ranges : CodeRanges) : Prop :=
  ∀ range ∈ ranges, (run.last < range.1 ∨ range.2 < run.first)
    ∧ (run.image + (run.last - run.first) < range.1 ∨ range.2 < run.image)

instance (run : CaseRun) (ranges : CodeRanges) : Decidable (run.Avoids ranges) :=
  inferInstanceAs (Decidable (∀ range ∈ ranges, _))

/-- The table has no character with a case in it, and no lower case of one. -/
def CodeRanges.Caseless (ranges : CodeRanges) : Prop :=
  (∀ run ∈ lowerCaseRuns, run.Avoids ranges)
    ∧ ranges.has dottedCapitalI = false ∧ ranges.has 'i' = false ∧ ranges.has '\u0307' = false

instance (ranges : CodeRanges) : Decidable ranges.Caseless :=
  inferInstanceAs (Decidable (_ ∧ _))

theorem CodeRanges.has_eq_true_iff {ranges : CodeRanges} {c : Char} :
    ranges.has c = true ↔ ∃ range ∈ ranges, range.1 ≤ c.toNat ∧ c.toNat ≤ range.2 := by
  simp [CodeRanges.has]

/-- **A table without letters is not seen to change by lower case.** -/
theorem caseBlind_has {ranges : CodeRanges} (caseless : ranges.Caseless) :
    CaseBlind ranges.has := by
  obtain ⟨avoids, dotted, small, dot⟩ := caseless
  intro c d mem
  rcases mem_lowerChar_cases mem with ⟨rfl, rfl | rfl⟩ | ⟨run, listed, between, image⟩ | rfl
  · rw [dotted, small]
  · rw [dotted, dot]
  · have outside : ranges.has c = false := by
      rw [Bool.eq_false_iff]
      intro inside
      obtain ⟨range, among, low, high⟩ := CodeRanges.has_eq_true_iff.mp inside
      have apart := (avoids run listed range among).1
      omega
    have image_outside : ranges.has d = false := by
      rw [Bool.eq_false_iff]
      intro inside
      obtain ⟨range, among, low, high⟩ := CodeRanges.has_eq_true_iff.mp inside
      have apart := (avoids run listed range among).2
      omega
    rw [outside, image_outside]
  · rfl

/-- A list of characters without letters is such a table. -/
theorem caseBlind_contains {chars : List Char}
    (caseless : CodeRanges.Caseless (chars.map fun c => (c.toNat, c.toNat))) :
    CaseBlind chars.contains := by
  have as_ranges : CodeRanges.has (chars.map fun c => (c.toNat, c.toNat)) = chars.contains := by
    funext d
    rw [Bool.eq_iff_iff, CodeRanges.has_eq_true_iff, List.contains_iff_mem]
    constructor
    · intro ⟨range, listed, low, high⟩
      obtain ⟨c, among, rfl⟩ := List.mem_map.mp listed
      rwa [← Char.toNat_inj.mp (Nat.le_antisymm low high)]
    · intro among
      exact ⟨_, List.mem_map_of_mem among, Nat.le_refl _, Nat.le_refl _⟩
  exact as_ranges ▸ caseBlind_has caseless

/-! ## §4. Plain characters. -/

/-- An ASCII character that no character outside of ASCII has in its lower case. -/
def IsPlain (d : Char) : Prop := d.toNat < 0x80 ∧ d ≠ 'i' ∧ d ≠ 'k'

instance (d : Char) : Decidable (IsPlain d) := inferInstanceAs (Decidable (_ ∧ _))

/-- A plain character at the start of a lower case is all of it. -/
theorem lowerChar_eq_plain_cons {c d : Char} {rest : List Char} (plain : IsPlain d)
    (eq : lowerChar c = d :: rest) : c.toLower = d ∧ rest = [] := by
  have mem : d ∈ lowerChar c := eq ▸ List.mem_cons_self
  have ascii : c.toNat < 0x80 := by
    rcases ascii_of_mem_lowerChar mem plain.1 with ascii | rfl | rfl
    · exact ascii
    · exact absurd rfl plain.2.1
    · exact absurd rfl plain.2.2
  rw [lowerChar_of_ascii ascii, List.cons.injEq] at eq
  exact ⟨eq.1, eq.2.symm⟩

/-- **Plain characters at the start of a lower case** stood there before, as they are or as
capitals. -/
theorem exists_of_lowerEach_eq_append {start rest text : List Char}
    (plain : ∀ d ∈ start, IsPlain d) (eq : lowerEach text = start ++ rest) :
    ∃ front back, text = front ++ back ∧ front.map Char.toLower = start
      ∧ lowerEach back = rest := by
  -- Each plain character of the start is the whole lower case of one character of the text.
  induction start generalizing text with
  | nil => exact ⟨[], text, rfl, rfl, eq⟩
  | cons d start ih =>
    cases text with
    | nil => exact absurd eq (by simp)
    | cons c text =>
      obtain ⟨first, others, image⟩ := List.exists_cons_of_ne_nil (lowerChar_ne_nil c)
      rw [lowerEach_cons, image, List.cons_append, List.cons_append, List.cons.injEq] at eq
      obtain ⟨rfl, eq⟩ := eq
      obtain ⟨lowered, rfl⟩ := lowerChar_eq_plain_cons (plain first List.mem_cons_self) image
      obtain ⟨front, back, rfl, alike, below⟩ :=
        ih (fun e among => plain e (List.mem_cons_of_mem _ among)) eq
      exact ⟨c :: front, back, rfl, by rw [List.map_cons, lowered, alike], below⟩

/-- A character that is not a small letter is the small letter of itself alone. -/
theorem eq_of_toLower_eq {c d : Char} (sign : d.isLower = false) (lowered : c.toLower = d) :
    c = d := by
  rw [← lowered] at sign ⊢
  by_cases ascii : c.toNat < 0x80
  · exact forall_ascii (p := fun c => c.toLower.isLower = false → c = c.toLower)
      (by decide +kernel) ascii sign
  · exact (toLower_of_not_ascii (Nat.le_of_not_lt ascii)).symm

/-- A plain character at the start of a lower case that is not a letter stood there before. -/
theorem exists_of_lowerEach_eq_cons {d : Char} {rest text : List Char} (plain : IsPlain d)
    (sign : d.isLower = false) (eq : lowerEach text = d :: rest) :
    ∃ back, text = d :: back ∧ lowerEach back = rest := by
  have all_plain : ∀ e ∈ [d], IsPlain e := by simpa using plain
  obtain ⟨front, back, rfl, lowered, below⟩ := exists_of_lowerEach_eq_append all_plain eq
  obtain ⟨c, rfl, one⟩ := List.map_eq_singleton_iff.mp lowered
  exact ⟨back, by rw [eq_of_toLower_eq sign one, List.singleton_append], below⟩

/-- A text of ASCII characters is lowered letter by letter. -/
theorem lowerEach_of_ascii {text : List Char} (ascii : ∀ c ∈ text, c.toNat < 0x80) :
    lowerEach text = text.map Char.toLower := by
  induction text with
  | nil => rfl
  | cons c rest ih =>
    rw [lowerEach_cons, lowerChar_of_ascii (ascii c List.mem_cons_self),
      ih fun d among => ascii d (List.mem_cons_of_mem _ among)]
    rfl

/-- A start in plain characters is the same in full lower case and up to the case of ASCII
letters. -/
theorem plain_prefix_lowerEach_iff {start text : List Char} (plain : ∀ d ∈ start, IsPlain d) :
    start <+: lowerEach text ↔ start <+: text.map Char.toLower := by
  constructor
  · rintro ⟨rest, eq⟩
    obtain ⟨front, back, rfl, rfl, -⟩ := exists_of_lowerEach_eq_append plain eq.symm
    exact ⟨back.map Char.toLower, (List.map_append).symm⟩
  · rintro ⟨rest, eq⟩
    obtain ⟨front, back, rfl, rfl, -⟩ := List.map_eq_append_iff.mp eq.symm
    have ascii : ∀ c ∈ front, c.toNat < 0x80 := fun c among =>
      ascii_of_toLower (plain c.toLower (List.mem_map_of_mem among)).1
    exact ⟨lowerEach back, by rw [lowerEach_append, lowerEach_of_ascii ascii]⟩

end ComponentMarkup.Text
