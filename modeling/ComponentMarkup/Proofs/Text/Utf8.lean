/-
  ComponentMarkup.Proofs.Text.Utf8
  ────────────────────────────────
  **What the bytes of a text say about its characters.**

  UTF-8 is a prefix code: the bytes of one text start with those of another exactly if the
  characters do.  The bytes of the ASCII letters stand for these letters alone, so that turning
  them into small ones does the same to the characters.  The byte behind a cut tells whether the
  cut falls inside a character, so that a test that looks at it first always has a value.  All
  together make the byte tests on attribute names tests on characters.

  Main statements: `utf8_prefix_iff`, `isBoundary_utf8_iff`, `cut?_eq_some_iff`,
  `utf8_map_toLower`, `sameIgnoringCase_utf8_iff` and `startsIgnoringCase?_eq`.
-/
import ComponentMarkup.Text.Utf8
import Mathlib.Data.List.Basic

namespace ComponentMarkup.Text

/-! ## §1. A prefix code. -/

theorem utf8_append (x y : List Char) : utf8 (x ++ y) = utf8 x ++ utf8 y :=
  List.flatMap_append

/-- **The bytes of a text start with those of another exactly if its characters do.** -/
theorem utf8_prefix_iff {x y : List Char} : utf8 x <+: utf8 y ↔ x <+: y := by
  constructor
  · rintro ⟨rest, eq⟩
    apply List.isPrefix_of_utf8Encode_append_eq_utf8Encode rest.toByteArray
    show (utf8 x).toByteArray ++ rest.toByteArray = (utf8 y).toByteArray
    rw [← eq, List.toByteArray_append]
  · rintro ⟨rest, rfl⟩
    exact ⟨utf8 rest, (utf8_append x rest).symm⟩

/-- The bytes of a text determine it. -/
theorem utf8_injective {x y : List Char} (eq : utf8 x = utf8 y) : x = y := by
  have starts : x <+: y := utf8_prefix_iff.mp (eq ▸ List.prefix_refl _)
  have ends : y <+: x := utf8_prefix_iff.mp (eq ▸ List.prefix_refl _)
  exact starts.eq_of_length_le ends.length_le

theorem utf8_eq_nil_iff {x : List Char} : utf8 x = [] ↔ x = [] :=
  ⟨fun eq => utf8_injective (eq.trans utf8_nil.symm), fun eq => eq ▸ utf8_nil⟩

/-! ## §2. The bytes of one character. -/

/-- A byte of a character is the character itself, if that is an ASCII character, and lies between
`0x80` and `0xF7` otherwise. -/
theorem byte_of_char {c : Char} {byte : UInt8} (mem : byte ∈ String.utf8EncodeChar c) :
    (c.toNat < 0x80 ∧ byte = .ofNat c.toNat)
      ∨ (0x80 ≤ c.toNat ∧ 0x80 ≤ byte.toNat ∧ byte.toNat ≤ 0xF7) := by
  have code : c.val.toNat = c.toNat := rfl
  unfold String.utf8EncodeChar at mem
  simp only [code] at mem
  split at mem
  · left
    exact ⟨by omega, List.mem_singleton.mp mem⟩
  · right
    refine ⟨by omega, ?_⟩
    split at mem
    · simp only [List.mem_cons, List.not_mem_nil, or_false] at mem
      rcases mem with rfl | rfl <;> simp only [UInt8.toNat_ofNat'] <;> omega
    · split at mem
      · simp only [List.mem_cons, List.not_mem_nil, or_false] at mem
        rcases mem with rfl | rfl | rfl <;> simp only [UInt8.toNat_ofNat'] <;> omega
      · simp only [List.mem_cons, List.not_mem_nil, or_false] at mem
        rcases mem with rfl | rfl | rfl | rfl <;> simp only [UInt8.toNat_ofNat'] <;> omega

/-- The bytes of a character: one that begins it, and others that continue it. -/
theorem exists_bytes (c : Char) :
    ∃ first others, String.utf8EncodeChar c = first :: others
      ∧ (first.toNat < 0x80 ∨ 0xC0 ≤ first.toNat)
      ∧ ∀ byte ∈ others, 0x80 ≤ byte.toNat ∧ byte.toNat < 0xC0 := by
  unfold String.utf8EncodeChar
  simp only
  split
  · refine ⟨_, _, rfl, .inl ?_, by simp⟩
    rw [UInt8.toNat_ofNat']
    omega
  · split
    · refine ⟨_, _, rfl, .inr ?_, ?_⟩
      · rw [UInt8.toNat_ofNat']
        omega
      · simp only [List.mem_cons, List.not_mem_nil, or_false, forall_eq, UInt8.toNat_ofNat']
        omega
    · split <;>
      · refine ⟨_, _, rfl, .inr ?_, ?_⟩
        · rw [UInt8.toNat_ofNat']
          omega
        · simp only [List.mem_cons, List.not_mem_nil, or_false, forall_eq_or_imp, forall_eq,
            UInt8.toNat_ofNat']
          omega

/-- The byte `0xFF` occurs in no text. -/
theorem not_mem_utf8_of_all_ones (text : List Char) : (0xFF : UInt8) ∉ utf8 text := by
  intro mem
  obtain ⟨c, -, among⟩ := List.mem_flatMap.mp mem
  rcases byte_of_char among with ⟨ascii, eq⟩ | ⟨-, -, bound⟩
  · have value := congrArg UInt8.toNat eq
    rw [UInt8.toNat_ofNat'] at value
    have ones : (0xFF : UInt8).toNat = 255 := rfl
    omega
  · exact absurd bound (by decide)

/-! ## §3. Boundaries. -/

/-- The continuation bytes are those from `0x80` to `0xBF`. -/
theorem isContinuation_eq (byte : UInt8) :
    isContinuation byte = (decide (0x80 ≤ byte.toNat) && decide (byte.toNat < 0xC0)) := by
  have every : ∀ n < 256, isContinuation (.ofNat n) = (decide (0x80 ≤ n) && decide (n < 0xC0)) := by
    decide +kernel
  have here := every byte.toNat byte.toNat_lt_size
  rwa [UInt8.ofNat_toNat] at here

/-- Where the characters of a text may be parted, so may its bytes. -/
theorem isBoundary_utf8_append (x y : List Char) :
    isBoundary (utf8 (x ++ y)) (utf8 x).length = true := by
  rw [utf8_append, isBoundary]
  cases y with
  | nil => simp
  | cons c rest =>
    obtain ⟨first, others, eq, lead, -⟩ := exists_bytes c
    have next : (utf8 x ++ utf8 (c :: rest))[(utf8 x).length]? = some first := by
      simp [eq]
    have leads : isContinuation first = false := by
      rw [isContinuation_eq]
      rcases lead with low | high
      · simp [Nat.not_le.mpr low]
      · simp [Nat.not_lt.mpr high]
    rw [next]
    simp [leads]

/-- Behind its first byte a character cannot be parted. -/
theorem isBoundary_inside (c : Char) (rest : List UInt8) {position : Nat}
    (inside : position + 1 < (String.utf8EncodeChar c).length) :
    isBoundary (String.utf8EncodeChar c ++ rest) (position + 1) = false := by
  obtain ⟨first, others, eq, -, continued⟩ := exists_bytes c
  rw [eq, List.length_cons] at inside
  have short : position < others.length := by omega
  have byte : (first :: others ++ rest)[position + 1]? = some others[position] := by
    rw [List.cons_append, List.getElem?_cons_succ, List.getElem?_append_left short,
      List.getElem?_eq_getElem short]
  have continues : isContinuation others[position] = true := by
    rw [isContinuation_eq]
    simpa using continued _ (List.getElem_mem short)
  rw [eq, isBoundary, byte]
  simp [continues]

/-- Where bytes may be parted behind the first ones, the others may be parted on their own. -/
theorem isBoundary_of_append {x y : List UInt8} {position : Nat} (beyond : x.length ≤ position)
    (boundary : isBoundary (x ++ y) position = true) :
    isBoundary y (position - x.length) = true := by
  unfold isBoundary at boundary ⊢
  rw [List.getElem?_append_right beyond] at boundary
  cases next : y[position - x.length]? with
  | none =>
    rw [next] at boundary
    simp only [beq_iff_eq, List.length_append] at boundary ⊢
    omega
  | some byte =>
    rw [next] at boundary
    simp only [Bool.or_eq_true, beq_iff_eq] at boundary ⊢
    rcases boundary with start | begins
    · left
      omega
    · exact .inr begins

/-- **The bytes of a text may be parted exactly where its characters may.** -/
theorem isBoundary_utf8_iff {text : List Char} {position : Nat} :
    isBoundary (utf8 text) position = true
      ↔ ∃ front back, text = front ++ back ∧ (utf8 front).length = position := by
  constructor
  · intro boundary
    induction text generalizing position with
    | nil =>
      rw [utf8_nil, isBoundary, List.getElem?_nil] at boundary
      exact ⟨[], [], rfl, (eq_of_beq boundary).symm⟩
    | cons c rest ih =>
      rw [utf8_cons] at boundary
      rcases Nat.lt_or_ge position (String.utf8EncodeChar c).length with within | beyond
      · cases position with
        | zero => exact ⟨[], c :: rest, rfl, rfl⟩
        | succ position =>
          rw [isBoundary_inside c _ within] at boundary
          exact absurd boundary (by simp)
      · obtain ⟨front, back, split, length_eq⟩ := ih (isBoundary_of_append beyond boundary)
        refine ⟨c :: front, back, by rw [split, List.cons_append], ?_⟩
        rw [utf8_cons, List.length_append, length_eq]
        omega
  · rintro ⟨front, back, rfl, rfl⟩
    exact isBoundary_utf8_append front back

/-- Behind any of its characters a text can be cut. -/
theorem cut?_utf8_append (front back : List Char) :
    cut? (front ++ back) (utf8 front).length = some front := by
  induction front with
  | nil => cases back <;> rfl
  | cons c rest ih =>
    have some_bytes := c.utf8Size_pos
    rw [← String.length_utf8EncodeChar] at some_bytes
    rw [List.cons_append, cut?, utf8_cons, List.length_append, if_neg (by omega), if_pos (by omega),
      Nat.add_sub_cancel_left, ih, Option.map_some]

/-- **A cut of a text is whole characters of it**, and inside a character there is none. -/
theorem cut?_eq_some_iff {text front : List Char} {length : Nat} :
    cut? text length = some front
      ↔ ∃ back, text = front ++ back ∧ (utf8 front).length = length := by
  constructor
  · intro cut
    induction text generalizing front length with
    | nil =>
      rw [cut?] at cut
      split at cut
      · next empty =>
        obtain rfl := Option.some.inj cut
        exact ⟨[], rfl, empty.symm⟩
      · cases cut
    | cons c rest ih =>
      rw [cut?] at cut
      -- The cut ends before the character, behind it, or inside it.
      split at cut
      · next empty =>
        obtain rfl := Option.some.inj cut
        exact ⟨c :: rest, rfl, empty.symm⟩
      split at cut
      · next fits =>
        obtain ⟨others, cut_rest, rfl⟩ := Option.map_eq_some_iff.mp cut
        obtain ⟨back, rfl, length_eq⟩ := ih cut_rest
        refine ⟨back, rfl, ?_⟩
        rw [utf8_cons, List.length_append, length_eq]
        exact Nat.add_sub_cancel' fits
      · cases cut
  · rintro ⟨back, rfl, rfl⟩
    exact cut?_utf8_append front back

/-- **Where the bytes may be parted the cut has a value**, so that the test on the bytes is enough
to cut safely. -/
theorem exists_cut_of_isBoundary {text : List Char} {length : Nat}
    (boundary : isBoundary (utf8 text) length = true) : ∃ front, cut? text length = some front := by
  obtain ⟨front, back, rfl, rfl⟩ := isBoundary_utf8_iff.mp boundary
  exact ⟨front, cut?_utf8_append front back⟩

/-! ## §4. The case of ASCII letters. -/

/-- An ASCII character is one that `decide` can go through. -/
theorem forall_ascii {p : Char → Prop} (every : ∀ n < 0x80, p (.ofNat n)) {c : Char}
    (ascii : c.toNat < 0x80) : p c := by
  have here := every c.toNat ascii
  rwa [Char.ofNat_toNat] at here

/-- Other characters than those of ASCII are their own small letters. -/
theorem toLower_of_not_ascii {c : Char} (other : 0x80 ≤ c.toNat) : c.toLower = c := by
  unfold Char.toLower
  rw [dif_neg]
  rintro ⟨-, upper⟩
  have bound : c.toNat ≤ 90 := upper
  omega

theorem map_lowerByte_utf8EncodeChar (c : Char) :
    (String.utf8EncodeChar c).map lowerByte = String.utf8EncodeChar c.toLower := by
  by_cases ascii : c.toNat < 0x80
  · exact forall_ascii (p := fun c => (String.utf8EncodeChar c).map lowerByte
      = String.utf8EncodeChar c.toLower) (by decide) ascii
  · rw [toLower_of_not_ascii (Nat.le_of_not_lt ascii)]
    have kept : ∀ byte ∈ String.utf8EncodeChar c, lowerByte byte = byte := by
      intro byte mem
      rcases byte_of_char mem with ⟨lower, -⟩ | ⟨-, high, -⟩
      · exact absurd lower ascii
      · unfold lowerByte
        rw [if_neg]
        rintro ⟨-, capital⟩
        have bound : byte.toNat ≤ 0x5A := capital
        omega
    rw [List.map_congr_left kept, List.map_id']

/-- **Lowering the bytes of the ASCII letters lowers the ASCII letters.** -/
theorem utf8_map_toLower (text : List Char) :
    utf8 (text.map Char.toLower) = (utf8 text).map lowerByte := by
  induction text with
  | nil => rfl
  | cons c rest ih =>
    rw [List.map_cons, utf8_cons, utf8_cons, List.map_append, map_lowerByte_utf8EncodeChar, ih]

/-- Two texts have the same bytes up to the case of ASCII letters exactly if they have the same
characters up to it. -/
theorem sameIgnoringCase_utf8_iff {x y : List Char} :
    sameIgnoringCase (utf8 x) (utf8 y) = true
      ↔ x.map Char.toLower = y.map Char.toLower := by
  rw [sameIgnoringCase, beq_iff_eq, ← utf8_map_toLower, ← utf8_map_toLower]
  exact ⟨utf8_injective, fun eq => eq ▸ rfl⟩

/-- Texts that are the same up to the case of ASCII letters have equally many bytes. -/
theorem length_utf8_of_toLower_eq {x y : List Char}
    (alike : x.map Char.toLower = y.map Char.toLower) : (utf8 x).length = (utf8 y).length := by
  have bytes := congrArg List.length (congrArg utf8 alike)
  rwa [utf8_map_toLower, utf8_map_toLower, List.length_map, List.length_map] at bytes

/-- A text that starts with another up to the case of ASCII letters may be cut behind it. -/
theorem exists_cut_of_starts {text start : List Char}
    (starts : start.map Char.toLower <+: text.map Char.toLower) :
    ∃ front back, text = front ++ back ∧ (utf8 front).length = (utf8 start).length
      ∧ front.map Char.toLower = start.map Char.toLower := by
  obtain ⟨rest, eq⟩ := starts
  obtain ⟨front, back, split, alike, -⟩ := List.map_eq_append_iff.mp eq.symm
  exact ⟨front, back, split, length_utf8_of_toLower_eq alike, alike⟩

/-- A text has at least as many bytes as another one that it starts with. -/
theorem length_utf8_le_of_starts {text start : List Char}
    (starts : start.map Char.toLower <+: text.map Char.toLower) :
    (utf8 start).length ≤ (utf8 text).length := by
  have lowered := (utf8_prefix_iff.mpr starts).length_le
  rwa [utf8_map_toLower, utf8_map_toLower, List.length_map, List.length_map] at lowered

/-- A text that starts with another one has more bytes exactly if it goes on behind that. -/
theorem length_utf8_lt_iff_of_starts {text start : List Char}
    (starts : start.map Char.toLower <+: text.map Char.toLower) :
    (utf8 start).length < (utf8 text).length
      ↔ start.map Char.toLower ≠ text.map Char.toLower := by
  constructor
  · intro shorter alike
    exact absurd (length_utf8_of_toLower_eq alike) (Nat.ne_of_lt shorter)
  · intro different
    refine Nat.lt_of_le_of_ne (length_utf8_le_of_starts starts) fun length_eq => different ?_
    -- A start with as many bytes is the whole text.
    refine utf8_injective ((utf8_prefix_iff.mpr starts).eq_of_length ?_)
    rw [utf8_map_toLower, utf8_map_toLower, List.length_map, List.length_map, length_eq]

/-- **The test on bytes has a value for every text**, since it cuts no character, and tells whether
the characters of the one text start with those of the other. -/
theorem startsIgnoringCase?_eq (text start : List Char) :
    startsIgnoringCase? text start =
      some (decide (start.map Char.toLower <+: text.map Char.toLower)) := by
  unfold startsIgnoringCase?
  dsimp only
  cases boundary : isBoundary (utf8 text) (utf8 start).length with
  | true =>
    obtain ⟨front, cut⟩ := exists_cut_of_isBoundary boundary
    obtain ⟨back, split, -⟩ := cut?_eq_some_iff.mp cut
    rw [if_pos rfl, cut, Option.map_some, Option.some.injEq, Bool.eq_iff_iff,
      sameIgnoringCase_utf8_iff, decide_eq_true_iff]
    constructor
    · intro alike
      rw [split, List.map_append, alike]
      exact List.prefix_append _ _
    · intro starts
      -- There is only one cut of that length.
      obtain ⟨other, others, split', length_eq, alike⟩ := exists_cut_of_starts starts
      have cut' := cut?_eq_some_iff.mpr ⟨others, split', length_eq⟩
      rw [Option.some.inj (cut.symm.trans cut'), alike]
  | false =>
    rw [if_neg Bool.false_ne_true, Option.some.injEq, eq_comm, decide_eq_false_iff_not]
    intro starts
    obtain ⟨front, back, split, length_eq, -⟩ := exists_cut_of_starts starts
    rw [isBoundary_utf8_iff.mpr ⟨front, back, split, length_eq⟩] at boundary
    cases boundary

end ComponentMarkup.Text
