/-
  ComponentMarkup.Proofs.Json.RoundTrip
  ────────────────────────────────
  **Values are read back from the text that is written.**

  Every part of a value is read from what is written for it, whatever comes behind: a literal up
  to its closing quote, a list up to its bracket, a number up to the first character that cannot
  belong to it.  So the lemmas are about a written part followed by any rest, and only a number
  asks something of that rest.

  The one thing that a value must be is `WellSpelt`: its numbers, which are kept as they are spelt,
  must be numbers of JSON.

  Main statements: `readNumber?_append`, `readText?_renderText`, `readValue?_render` and
  `parse?_toText`.
-/
import ComponentMarkup.Json.Reader
import ComponentMarkup.Json.Value
import Mathlib.Data.List.TakeWhile

namespace ComponentMarkup.Json

/-! ## §1. Numbers. -/

/-- One or more digits. -/
def IsDigits (text : List Char) : Prop := text ≠ [] ∧ ∀ c ∈ text, c.isDigit = true

/-- The whole part of a number: a zero alone, or digits that start with none. -/
def IsWhole (text : List Char) : Prop :=
  text = ['0'] ∨ IsDigits text ∧ text.head? ≠ some '0'

/-- The fraction of a number, which may be missing. -/
def IsFraction (text : List Char) : Prop :=
  text = [] ∨ ∃ digits, IsDigits digits ∧ text = '.' :: digits

/-- The exponent of a number, which may be missing. -/
def IsExponent (text : List Char) : Prop :=
  text = [] ∨ ∃ mark sign digits, (mark = 'e' ∨ mark = 'E')
    ∧ (sign = [] ∨ sign = ['+'] ∨ sign = ['-'])
    ∧ IsDigits digits ∧ text = mark :: sign ++ digits

/-- **A number of JSON**, as it is spelt. -/
inductive IsNumber : List Char → Prop where
  | plain {whole fraction exponent : List Char} (is_whole : IsWhole whole)
    (is_fraction : IsFraction fraction) (is_exponent : IsExponent exponent) :
    IsNumber (whole ++ fraction ++ exponent)
  | negative {whole fraction exponent : List Char} (is_whole : IsWhole whole)
    (is_fraction : IsFraction fraction) (is_exponent : IsExponent exponent) :
    IsNumber ('-' :: (whole ++ fraction ++ exponent))

/-- A text that does not start with a digit. -/
def NoDigitFirst (rest : List Char) : Prop := ∀ c ∈ rest.head?, c.isDigit = false

/-- **A text in which no number goes on**: it starts neither with a digit nor with a point nor with
the mark of an exponent. -/
def EndsNumber (rest : List Char) : Prop :=
  ∀ c ∈ rest.head?, c.isDigit = false ∧ c ≠ '.' ∧ c ≠ 'e' ∧ c ≠ 'E'

theorem readDigits?_append {digits rest : List Char} (is_digits : IsDigits digits)
    (stops : NoDigitFirst rest) : readDigits? (digits ++ rest) = some (digits, rest) := by
  have taken : rest.takeWhile Char.isDigit = [] ∧ rest.dropWhile Char.isDigit = rest := by
    cases rest with
    | nil => simp
    | cons c rest =>
      have other : c.isDigit = false := stops c (by simp)
      simp [other]
  unfold readDigits?
  rw [List.takeWhile_append_of_pos is_digits.2, List.dropWhile_append_of_pos is_digits.2, taken.1,
    taken.2, List.append_nil]
  cases digits with
  | nil => exact absurd rfl is_digits.1
  | cons c digits => rfl

theorem IsDigits.exists_head {digits : List Char} (is_digits : IsDigits digits) :
    ∃ c rest, digits = c :: rest ∧ c.isDigit = true := by
  cases digits with
  | nil => exact absurd rfl is_digits.1
  | cons c rest => exact ⟨c, rest, rfl, is_digits.2 c List.mem_cons_self⟩

theorem readWhole?_append {whole rest : List Char} (is_whole : IsWhole whole)
    (stops : NoDigitFirst rest) : readWhole? (whole ++ rest) = some (whole, rest) := by
  rcases is_whole with zero | ⟨is_digits, no_zero⟩
  · subst zero
    rfl
  · obtain ⟨c, digits, parts, -⟩ := is_digits.exists_head
    have other : c ≠ '0' := by
      intro zero
      apply no_zero
      rw [parts, zero]
      rfl
    have skips : readWhole? (c :: (digits ++ rest)) = readDigits? (c :: (digits ++ rest)) := by
      simp [readWhole?, other]
    rw [parts, List.cons_append, skips, ← List.cons_append, ← parts,
      readDigits?_append is_digits stops]

theorem readExponentSign_append {sign digits : List Char}
    (is_sign : sign = [] ∨ sign = ['+'] ∨ sign = ['-']) (is_digits : IsDigits digits)
    (rest : List Char) : readExponentSign (sign ++ (digits ++ rest)) = (sign, digits ++ rest) := by
  rcases is_sign with none | plus | minus
  · subst none
    obtain ⟨c, others, parts, digit⟩ := is_digits.exists_head
    have not_plus : c ≠ '+' := fun same => absurd digit (by rw [same]; decide)
    have not_minus : c ≠ '-' := fun same => absurd digit (by rw [same]; decide)
    rw [parts]
    simp [readExponentSign, not_plus, not_minus]
  · subst plus
    rfl
  · subst minus
    rfl

theorem readExponent?_append {exponent rest : List Char} (is_exponent : IsExponent exponent)
    (ends : EndsNumber rest) : readExponent? (exponent ++ rest) = some (exponent, rest) := by
  rcases is_exponent with none | ⟨mark, sign, digits, is_mark, is_sign, is_digits, parts⟩
  · subst none
    cases rest with
    | nil => rfl
    | cons c rest =>
      obtain ⟨-, -, not_small, not_capital⟩ := ends c (by simp)
      simp [readExponent?, not_small, not_capital]
  · subst parts
    have stops : NoDigitFirst rest := fun c mem => (ends c mem).1
    have regrouped : mark :: sign ++ digits ++ rest = mark :: (sign ++ (digits ++ rest)) := by simp
    rw [regrouped]
    simp only [readExponent?, if_pos is_mark, readExponentSign_append is_sign is_digits,
      readDigits?_append is_digits stops, Option.map_some]

theorem readFraction?_append {fraction rest : List Char} (is_fraction : IsFraction fraction)
    (stops : ∀ c ∈ rest.head?, c.isDigit = false ∧ c ≠ '.') :
    readFraction? (fraction ++ rest) = some (fraction, rest) := by
  rcases is_fraction with none | ⟨digits, is_digits, parts⟩
  · subst none
    cases rest with
    | nil => rfl
    | cons c rest =>
      have no_point := (stops c (by simp)).2
      simp [readFraction?, no_point]
  · subst parts
    have read := readDigits?_append is_digits fun c mem => (stops c mem).1
    show (readDigits? (digits ++ rest)).map _ = _
    rw [read]
    rfl

/-- An exponent, or what comes behind a number, goes on with no fraction. -/
theorem IsExponent.stops_fraction {exponent rest : List Char} (is_exponent : IsExponent exponent)
    (ends : EndsNumber rest) : ∀ c ∈ (exponent ++ rest).head?, c.isDigit = false ∧ c ≠ '.' := by
  intro c mem
  rcases is_exponent with none | ⟨mark, sign, digits, is_mark, -, -, parts⟩
  · subst none
    exact ⟨(ends c mem).1, (ends c mem).2.1⟩
  · subst parts
    have same : mark = c := by simpa using mem
    subst same
    rcases is_mark with small | capital
    · subst small
      decide
    · subst capital
      decide

/-- A fraction, or what comes behind it, goes on with no digit of the whole part. -/
theorem IsFraction.stops_whole {fraction rest : List Char} (is_fraction : IsFraction fraction)
    (stops : NoDigitFirst rest) : NoDigitFirst (fraction ++ rest) := by
  intro c mem
  rcases is_fraction with none | ⟨digits, -, parts⟩
  · subst none
    exact stops c mem
  · subst parts
    have same : '.' = c := by simpa using mem
    subst same
    decide

theorem readMagnitude?_append {whole fraction exponent rest : List Char} (is_whole : IsWhole whole)
    (is_fraction : IsFraction fraction) (is_exponent : IsExponent exponent)
    (ends : EndsNumber rest) : readMagnitude? (whole ++ fraction ++ exponent ++ rest)
      = some (whole ++ fraction ++ exponent, rest) := by
  have behind := is_exponent.stops_fraction ends
  have after_whole : NoDigitFirst (fraction ++ (exponent ++ rest)) :=
    is_fraction.stops_whole fun c mem => (behind c mem).1
  have regrouped : whole ++ fraction ++ exponent ++ rest
      = whole ++ (fraction ++ (exponent ++ rest)) := by simp
  unfold readMagnitude?
  rw [regrouped, readWhole?_append is_whole after_whole]
  show (readFraction? (fraction ++ (exponent ++ rest)) >>= _) = _
  rw [readFraction?_append is_fraction behind]
  show (readExponent? (exponent ++ rest) >>= _) = _
  rw [readExponent?_append is_exponent ends]
  rfl

theorem IsWhole.exists_head {whole : List Char} (is_whole : IsWhole whole) :
    ∃ c rest, whole = c :: rest ∧ c.isDigit = true := by
  rcases is_whole with zero | ⟨is_digits, -⟩
  · exact ⟨'0', [], zero, by decide⟩
  · exact is_digits.exists_head

/-- **A number is read up to where it ends.** -/
theorem readNumber?_append {literal rest : List Char} (is_number : IsNumber literal)
    (ends : EndsNumber rest) : readNumber? (literal ++ rest) = some (literal, rest) := by
  cases is_number with
  | plain is_whole is_fraction is_exponent =>
    rw [← readMagnitude?_append is_whole is_fraction is_exponent ends]
    obtain ⟨c, others, parts, digit⟩ := is_whole.exists_head
    have unsigned : c ≠ '-' := fun same => absurd digit (by rw [same]; decide)
    rw [parts]
    simp [readNumber?, unsigned]
  | negative is_whole is_fraction is_exponent =>
    rw [List.cons_append]
    show (readMagnitude? _).map _ = _
    rw [readMagnitude?_append is_whole is_fraction is_exponent ends]
    rfl

/-! ## §2. String literals. -/

theorem hexValue?_digitChar : ∀ d < 16, hexValue? (Nat.digitChar d) = some d := by decide

/-- The four digits of an escape name the code unit that is written. -/
theorem hexUnit?_hexDigits4 {n : Nat} (small : n < 0x10000) :
    hexUnit? (Nat.digitChar (n / 4096 % 16)) (Nat.digitChar (n / 256 % 16))
      (Nat.digitChar (n / 16 % 16)) (Nat.digitChar (n % 16)) = some n := by
  unfold hexUnit?
  rw [hexValue?_digitChar _ (by omega), hexValue?_digitChar _ (by omega),
    hexValue?_digitChar _ (by omega), hexValue?_digitChar _ (by omega)]
  show some (((n / 4096 % 16 * 16 + n / 256 % 16) * 16 + n / 16 % 16) * 16 + n % 16) = some n
  congr 1
  omega

/-- A piece in front of others that were read. -/
def putPiece (piece : Piece) (read : List Piece × List Char) : List Piece × List Char :=
  (piece :: read.1, read.2)

/-- **A piece stands for a character**: it is what is read from the escape of the character, and it
spells the character in front of any other pieces. -/
structure StandsFor (piece : Piece) (c : Char) : Prop where
  read : ∀ rest, readPieces? (escapeChar c ++ rest) = (readPieces? rest).map (putPiece piece)
  spells : ∀ pieces, spell? (piece :: pieces) = (spell? pieces).map (c :: ·)

/-- A character that may stand in a literal as it is. -/
theorem standsFor_plain {c : Char} (as_is : escapeChar c = [c]) (no_quote : c ≠ '"')
    (no_escape : c ≠ '\\') (no_control : 0x20 ≤ c.toNat) : StandsFor (.character c) c where
  read := by
    intro rest
    have allowed : ¬ (c = '\\' ∨ c.toNat < 0x20) := by
      intro special
      rcases special with escape | control
      · exact no_escape escape
      · omega
    rw [as_is, List.singleton_append, readPieces?, if_neg allowed]
    · rfl
    all_goals simp [no_quote, no_escape]
  spells := fun _ => rfl

/-- A character with an escape of one letter. -/
theorem standsFor_short {c letter : Char} (escaped : escapeChar c = ['\\', letter])
    (short : shortEscape? letter = some c) : StandsFor (.character c) c where
  read := by
    intro rest
    have no_unit : letter ≠ 'u' := by
      intro same
      rw [same] at short
      simp [shortEscape?] at short
    rw [escaped]
    show readPieces? ('\\' :: letter :: rest) = _
    rw [readPieces?]
    · rw [short]
      cases readPieces? rest <;> rfl
    all_goals simp [no_unit]
  spells := fun _ => rfl

/-- A control character without an escape of its own is written as a code unit. -/
theorem standsFor_control {c : Char} (escaped : escapeChar c = '\\' :: 'u' :: hexDigits4 c.toNat)
    (control : c.toNat < 0x20) : StandsFor (.unit c.toNat) c where
  read := by
    intro rest
    rw [escaped]
    show readPieces? ('\\' :: 'u' :: _ :: _ :: _ :: _ :: rest) = _
    rw [readPieces?, hexUnit?_hexDigits4 (by omega)]
    cases readPieces? rest <;> rfl
  spells := by
    intro pieces
    -- The code unit of a control character is no half of a pair, so it stands for itself.
    have not_high : isHighSurrogate c.toNat = false := by
      unfold isHighSurrogate
      simp
      omega
    have not_low : isLowSurrogate c.toNat = false := by
      unfold isLowSurrogate
      simp
      omega
    cases pieces with
    | nil => simp [spell?, not_high, not_low]
    | cons next pieces =>
      cases next <;> simp [spell?, not_high, not_low]

/-- A character is escaped by one letter, by its code unit or not at all. -/
theorem escapeChar_cases (c : Char) :
    (∃ letter, escapeChar c = ['\\', letter] ∧ shortEscape? letter = some c)
      ∨ (escapeChar c = '\\' :: 'u' :: hexDigits4 c.toNat ∧ c.toNat < 0x20)
      ∨ (escapeChar c = [c] ∧ c ≠ '"' ∧ c ≠ '\\' ∧ 0x20 ≤ c.toNat) := by
  by_cases named : c ∈ ['"', '\\', '\x08', '\x0c', '\n', '\r', '\t']
  · left
    simp only [List.mem_cons, List.not_mem_nil, or_false] at named
    rcases named with same | same | same | same | same | same | same
    all_goals
      subst same
      exact ⟨_, rfl, rfl⟩
  · right
    simp only [List.mem_cons, List.not_mem_nil, or_false, not_or] at named
    obtain ⟨quote, escape, backspace, feed, line, carriage, tab⟩ := named
    have escaped : escapeChar c
        = if c.toNat < 0x20 then '\\' :: 'u' :: hexDigits4 c.toNat else [c] := by
      simp [escapeChar]
    rw [escaped]
    by_cases control : c.toNat < 0x20
    · exact Or.inl ⟨if_pos control, control⟩
    · exact Or.inr ⟨if_neg control, quote, escape, by omega⟩

/-- **Every character of a literal is read as a piece that stands for it.** -/
theorem exists_standsFor (c : Char) : ∃ piece, StandsFor piece c := by
  rcases escapeChar_cases c with ⟨letter, escaped, short⟩ | ⟨escaped, control⟩
    | ⟨as_is, no_quote, no_escape, no_control⟩
  · exact ⟨_, standsFor_short escaped short⟩
  · exact ⟨_, standsFor_control escaped control⟩
  · exact ⟨_, standsFor_plain as_is no_quote no_escape no_control⟩

/-- **What is written for a text is read as pieces that spell it.** -/
theorem readPieces?_escaped (content rest : List Char) :
    ∃ pieces, readPieces? (content.flatMap escapeChar ++ '"' :: rest) = some (pieces, rest)
      ∧ spell? pieces = some content := by
  induction content with
  | nil => exact ⟨[], by simp [readPieces?], rfl⟩
  | cons c content ih =>
    obtain ⟨pieces, read, spelt⟩ := ih
    obtain ⟨piece, stands⟩ := exists_standsFor c
    refine ⟨piece :: pieces, ?_, ?_⟩
    · rw [List.flatMap_cons, List.append_assoc, stands.read, read]
      rfl
    · rw [stands.spells, spelt]
      rfl

/-- What stands in a literal behind its opening quote, up to the closing one. -/
def literalBody : Option String → List Char
  | some content => content.toList.flatMap escapeChar ++ ['"']
  | none => ['\\', 'u', 'd', '8', '0', '0', '"']

theorem renderText_eq (content : Option String) :
    renderText content = '"' :: literalBody content := by
  cases content <;> rfl

/-- **A literal is read up to its closing quote**; one that stands for no text is read as such. -/
theorem readText?_literalBody (content : Option String) (rest : List Char) :
    readText? (literalBody content ++ rest) = some (content, rest) := by
  cases content with
  | none => rfl
  | some content =>
    obtain ⟨pieces, read, spelt⟩ := readPieces?_escaped content.toList rest
    have parts : literalBody (some content) ++ rest
        = content.toList.flatMap escapeChar ++ '"' :: rest := by
      simp [literalBody]
    unfold readText?
    rw [parts, read]
    simp [spelt]

/-! ## §3. Values. -/

/-- **A value that can be written as JSON**: its numbers are numbers of JSON. -/
inductive WellSpelt : Json → Prop where
  | null : WellSpelt .null
  | bool (value : Bool) : WellSpelt (.bool value)
  | number {literal : List Char} (is_number : IsNumber literal) : WellSpelt (.number literal)
  | string (content : Option String) : WellSpelt (.string content)
  | array {items : List Json} (each : ∀ item ∈ items, WellSpelt item) : WellSpelt (.array items)
  | object {members : List (Option String × Json)} (each : ∀ member ∈ members, WellSpelt member.2) :
    WellSpelt (.object members)

/-- A text that starts as a value does: with no white space, and not with a closing bracket. -/
def StartsValue (text : List Char) : Prop :=
  ∃ c rest, text = c :: rest ∧ isSpace c = false ∧ c ≠ ']'

theorem skipSpace_of_not_isSpace {c : Char} (visible : isSpace c = false) (rest : List Char) :
    skipSpace (c :: rest) = c :: rest := by
  unfold skipSpace
  rw [List.dropWhile_cons, visible, if_neg Bool.false_ne_true]

/-- A digit or a minus sign. -/
def StartsNumber (c : Char) : Prop := c.isDigit = true ∨ c = '-'

theorem StartsNumber.ne {c : Char} (starts : StartsNumber c) (other : Char)
    (no_start : other.isDigit = false ∧ other ≠ '-') : c ≠ other := by
  intro same
  subst same
  rcases starts with digit | sign
  · rw [digit] at no_start
    cases no_start.1
  · exact no_start.2 sign

theorem StartsNumber.not_isSpace {c : Char} (starts : StartsNumber c) : isSpace c = false := by
  simp [isSpace, starts.ne ' ' (by decide), starts.ne '\n' (by decide),
    starts.ne '\r' (by decide), starts.ne '\t' (by decide)]

theorem IsNumber.exists_head {literal : List Char} (is_number : IsNumber literal) :
    ∃ c rest, literal = c :: rest ∧ StartsNumber c := by
  cases is_number with
  | plain is_whole =>
    obtain ⟨c, others, parts, digit⟩ := is_whole.exists_head
    rw [parts]
    exact ⟨c, _, rfl, Or.inl digit⟩
  | negative => exact ⟨'-', _, rfl, Or.inr rfl⟩

/-- What starts neither a literal nor a nested value nor a word is read as a number. -/
theorem readValue?_of_number {c : Char} (starts : StartsNumber c) (fuel : Nat)
    (rest : List Char) : readValue? (fuel + 1) (c :: rest)
      = (readNumber? (c :: rest)).map fun (literal, rest) => (.number literal, rest) := by
  rw [readValue?, skipSpace_of_not_isSpace starts.not_isSpace]
  simp [starts.ne '"' (by decide), starts.ne '[' (by decide), starts.ne '\x7b' (by decide),
    starts.ne 't' (by decide), starts.ne 'f' (by decide), starts.ne 'n' (by decide)]

/-- A value starts with something to be seen that does not end a list. -/
theorem WellSpelt.startsValue {value : Json} (spelt : WellSpelt value) (rest : List Char) :
    StartsValue (render value ++ rest) := by
  cases spelt with
  | null => exact ⟨'n', _, by rw [render]; rfl, by decide, by decide⟩
  | bool value =>
    cases value
    · exact ⟨'f', _, by rw [render]; rfl, by decide, by decide⟩
    · exact ⟨'t', _, by rw [render]; rfl, by decide, by decide⟩
  | number is_number =>
    obtain ⟨c, others, parts, starts⟩ := is_number.exists_head
    rw [render, parts]
    exact ⟨c, _, rfl, starts.not_isSpace, starts.ne ']' (by decide)⟩
  | string content =>
    rw [render, renderText_eq]
    exact ⟨'"', _, rfl, by decide, by decide⟩
  | array => exact ⟨'[', _, by rw [render]; rfl, by decide, by decide⟩
  | object => exact ⟨'\x7b', _, by rw [render]; rfl, by decide, by decide⟩

/-- What is written for a value is not empty, so that there is fuel for it. -/
theorem WellSpelt.exists_fuel {value : Json} (spelt : WellSpelt value) {fuel : Nat}
    (enough : (render value).length ≤ fuel) : ∃ left, fuel = left + 1 := by
  obtain ⟨c, others, starts, -⟩ := spelt.startsValue []
  rw [List.append_nil] at starts
  rw [starts, List.length_cons] at enough
  exact Nat.exists_eq_add_one_of_ne_zero (by omega)

/-- **A value is read back**: from what is written for it, with fuel for every character, up to
where it ends. -/
def ReadsBack (value : Json) : Prop :=
  ∀ fuel rest, EndsNumber rest → (render value).length ≤ fuel →
    readValue? fuel (render value ++ rest) = some (value, rest)

theorem endsNumber_cons {c : Char} (no_digit : c.isDigit = false) (no_part : c ∉ ['.', 'e', 'E'])
    (rest : List Char) : EndsNumber (c :: rest) := by
  intro d mem
  have same : c = d := by simpa using mem
  subst same
  simpa [no_digit] using no_part

theorem renderItems_cons_cons (first second : Json) (items : List Json) :
    renderItems (first :: second :: items)
      = render first ++ ',' :: renderItems (second :: items) := by
  rw [renderItems]
  simp

theorem readItems?_renderItems {first : Json} {items : List Json}
    (each : ∀ item ∈ first :: items, ReadsBack item) (fuel : Nat) (rest : List Char)
    (enough : (renderItems (first :: items)).length < fuel) :
    readItems? fuel (renderItems (first :: items) ++ ']' :: rest)
      = some (first :: items, rest) := by
  induction items generalizing first fuel with
  | nil =>
    obtain ⟨left, rfl⟩ := Nat.exists_eq_add_one_of_ne_zero (show fuel ≠ 0 by omega)
    rw [renderItems] at enough ⊢
    -- An item is followed by a bracket or a comma, and a number goes on in neither.
    have ends : EndsNumber (']' :: rest) := endsNumber_cons (by decide) (by decide) rest
    have read := each first List.mem_cons_self left (']' :: rest) ends (by omega)
    rw [readItems?, read]
    rfl
  | cons second items ih =>
    obtain ⟨left, rfl⟩ := Nat.exists_eq_add_one_of_ne_zero (show fuel ≠ 0 by omega)
    obtain ⟨here, later⟩ := List.forall_mem_cons.mp each
    rw [renderItems_cons_cons] at enough ⊢
    simp only [List.length_append, List.length_cons] at enough
    have regrouped : render first ++ ',' :: renderItems (second :: items) ++ ']' :: rest
        = render first ++ ',' :: (renderItems (second :: items) ++ ']' :: rest) := by simp
    have read := here left (',' :: (renderItems (second :: items) ++ ']' :: rest))
      (endsNumber_cons (by decide) (by decide) _) (by omega)
    have read_later := ih later left (by omega)
    rw [regrouped, readItems?, read]
    show (readItems? left (renderItems (second :: items) ++ ']' :: rest)).map _ = _
    rw [read_later]
    rfl

theorem readKey?_renderText (key : Option String) (rest : List Char) :
    readKey? (renderText key ++ ':' :: rest) = some (key, rest) := by
  have visible : isSpace '"' = false := by decide
  unfold readKey?
  rw [renderText_eq, List.cons_append, skipSpace_of_not_isSpace visible]
  simp only [readText?_literalBody]
  rfl

theorem renderMembers_cons_cons (first second : Option String × Json)
    (members : List (Option String × Json)) :
    renderMembers (first :: second :: members)
      = renderText first.1 ++ ':' :: render first.2
        ++ ',' :: renderMembers (second :: members) := by
  rw [renderMembers]
  simp

theorem readMembers?_renderMembers {first : Option String × Json}
    {members : List (Option String × Json)}
    (each : ∀ member ∈ first :: members, ReadsBack member.2) (fuel : Nat) (rest : List Char)
    (enough : (renderMembers (first :: members)).length < fuel) :
    readMembers? fuel (renderMembers (first :: members) ++ '\x7d' :: rest)
      = some (first :: members, rest) := by
  induction members generalizing first fuel with
  | nil =>
    obtain ⟨left, rfl⟩ := Nat.exists_eq_add_one_of_ne_zero (show fuel ≠ 0 by omega)
    rw [renderMembers] at enough ⊢
    simp only [List.length_append, List.length_cons] at enough
    have ends : EndsNumber ('\x7d' :: rest) := endsNumber_cons (by decide) (by decide) rest
    have read := each first List.mem_cons_self left ('\x7d' :: rest) ends (by omega)
    rw [List.append_assoc, List.cons_append, readMembers?, readKey?_renderText]
    simp only [read]
    rfl
  | cons second members ih =>
    obtain ⟨left, rfl⟩ := Nat.exists_eq_add_one_of_ne_zero (show fuel ≠ 0 by omega)
    obtain ⟨here, later⟩ := List.forall_mem_cons.mp each
    rw [renderMembers_cons_cons] at enough ⊢
    simp only [List.length_append, List.length_cons] at enough
    have regrouped : renderText first.1 ++ ':' :: render first.2
          ++ ',' :: renderMembers (second :: members) ++ '\x7d' :: rest
        = renderText first.1 ++ ':' :: (render first.2
          ++ ',' :: (renderMembers (second :: members) ++ '\x7d' :: rest)) := by simp
    have read := here left (',' :: (renderMembers (second :: members) ++ '\x7d' :: rest))
      (endsNumber_cons (by decide) (by decide) _) (by omega)
    have read_later := ih later left (by omega)
    rw [regrouped, readMembers?, readKey?_renderText]
    simp only [read]
    show (readMembers? left (renderMembers (second :: members) ++ '\x7d' :: rest)).map _ = _
    rw [read_later]
    rfl

theorem readsBack_number {literal : List Char} (is_number : IsNumber literal) :
    ReadsBack (.number literal) := by
  intro fuel rest ends enough
  obtain ⟨left, rfl⟩ := (WellSpelt.number is_number).exists_fuel enough
  obtain ⟨c, others, parts, starts⟩ := is_number.exists_head
  have read := readNumber?_append is_number ends
  rw [render]
  rw [parts, List.cons_append] at read ⊢
  rw [readValue?_of_number starts, read]
  rfl

/-- What starts as a value behind an opening bracket is a first item. -/
theorem readValue?_of_items {text : List Char} (starts : StartsValue text) (fuel : Nat) :
    readValue? (fuel + 1) ('[' :: text)
      = (readItems? fuel text).map fun (items, rest) => (.array items, rest) := by
  obtain ⟨c, rest, parts, visible, no_end⟩ := starts
  have visible_open : isSpace '[' = false := by decide
  rw [readValue?, skipSpace_of_not_isSpace visible_open, parts]
  simp [skipSpace_of_not_isSpace visible, no_end]

theorem readsBack_array {items : List Json} (spelt : ∀ item ∈ items, WellSpelt item)
    (each : ∀ item ∈ items, ReadsBack item) : ReadsBack (.array items) := by
  intro fuel rest ends enough
  rw [render] at enough ⊢
  simp only [List.length_append, List.length_cons] at enough
  obtain ⟨left, rfl⟩ := Nat.exists_eq_add_one_of_ne_zero (show fuel ≠ 0 by omega)
  have regrouped : '[' :: renderItems items ++ [']'] ++ rest
      = '[' :: (renderItems items ++ ']' :: rest) := by simp
  rw [regrouped]
  cases items with
  | nil =>
    rw [renderItems, readValue?]
    rfl
  | cons first items =>
    have starts : StartsValue (renderItems (first :: items) ++ ']' :: rest) := by
      have first_spelt := spelt first List.mem_cons_self
      cases items with
      | nil =>
        rw [renderItems]
        exact first_spelt.startsValue _
      | cons second items =>
        rw [renderItems_cons_cons, List.append_assoc]
        exact first_spelt.startsValue _
    rw [readValue?_of_items starts, readItems?_renderItems each left rest (by omega)]
    rfl

/-- What starts with a quote behind an opening brace is a first member. -/
theorem readValue?_of_members (text : List Char) (fuel : Nat) :
    readValue? (fuel + 1) ('\x7b' :: '"' :: text)
      = (readMembers? fuel ('"' :: text)).map fun (members, rest) => (.object members, rest) := by
  rw [readValue?]
  rfl

theorem readsBack_object {members : List (Option String × Json)}
    (each : ∀ member ∈ members, ReadsBack member.2) : ReadsBack (.object members) := by
  intro fuel rest ends enough
  rw [render] at enough ⊢
  simp only [List.length_append, List.length_cons] at enough
  obtain ⟨left, rfl⟩ := Nat.exists_eq_add_one_of_ne_zero (show fuel ≠ 0 by omega)
  have regrouped : '\x7b' :: renderMembers members ++ ['\x7d'] ++ rest
      = '\x7b' :: (renderMembers members ++ '\x7d' :: rest) := by simp
  rw [regrouped]
  cases members with
  | nil =>
    rw [renderMembers, readValue?]
    rfl
  | cons first members =>
    have starts : ∃ text, renderMembers (first :: members) = '"' :: text := by
      cases members with
      | nil =>
        rw [renderMembers, renderText_eq]
        exact ⟨_, rfl⟩
      | cons second members =>
        rw [renderMembers_cons_cons, renderText_eq]
        exact ⟨_, rfl⟩
    have read := readMembers?_renderMembers each left rest (by omega)
    obtain ⟨text, opens⟩ := starts
    rw [opens] at read ⊢
    rw [List.cons_append] at read ⊢
    rw [readValue?_of_members, read]
    rfl

/-- **Every value is read back**, whatever stands behind it. -/
theorem WellSpelt.readsBack {value : Json} (spelt : WellSpelt value) : ReadsBack value := by
  induction spelt with
  | null =>
    intro fuel rest _ enough
    obtain ⟨left, rfl⟩ := WellSpelt.null.exists_fuel enough
    rw [render, readValue?]
    rfl
  | bool value =>
    intro fuel rest _ enough
    obtain ⟨left, rfl⟩ := (WellSpelt.bool value).exists_fuel enough
    cases value
    all_goals
      rw [render, readValue?]
      rfl
  | number is_number => exact readsBack_number is_number
  | string content =>
    intro fuel rest _ enough
    obtain ⟨left, rfl⟩ := (WellSpelt.string content).exists_fuel enough
    rw [render, renderText_eq, readValue?]
    show (readText? (literalBody content ++ rest)).map _ = _
    rw [readText?_literalBody]
    rfl
  | array spelt ih => exact readsBack_array spelt ih
  | object _ ih => exact readsBack_object ih

/-- **A written value is read back**, and nothing but the value is in the text. -/
theorem parse?_toText {value : Json} (spelt : WellSpelt value) :
    parse? value.toText = some value := by
  have ends : EndsNumber [] := by
    intro c mem
    cases mem
  have read := spelt.readsBack ((render value).length + 1) [] ends (by omega)
  rw [List.append_nil] at read
  unfold parse? toText
  rw [String.toList_ofList, read]
  rfl

end ComponentMarkup.Json
