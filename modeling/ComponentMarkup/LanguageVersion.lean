/-
  ComponentMarkup.LanguageVersion
  ────────────────────────────────
  **Versions of the template language.**

  A version is a major and a minor number, ordered by the major number first.  From
  `experimental` upwards a version is shown as `Experimental`; below, as its two numbers with a
  point between them.  `ofText` reads both spellings, and the name of the latest version.
-/
import ComponentMarkup.CompileError
import ComponentMarkup.Text.Blank
import ComponentMarkup.Text.Decimal

namespace ComponentMarkup

/-- A version of the template language. -/
structure LanguageVersion where
  major : UInt32
  minor : UInt32
deriving DecidableEq, Repr

namespace LanguageVersion

/-! ## §1. Order. -/

/-- Versions are compared by the major number, and by the minor number where that is equal. -/
instance : LE LanguageVersion :=
  ⟨fun v w => v.major < w.major ∨ v.major = w.major ∧ v.minor ≤ w.minor⟩

instance : LT LanguageVersion := ⟨fun v w => v ≤ w ∧ ¬ w ≤ v⟩

instance (v w : LanguageVersion) : Decidable (v ≤ w) :=
  inferInstanceAs (Decidable (v.major < w.major ∨ v.major = w.major ∧ v.minor ≤ w.minor))

instance (v w : LanguageVersion) : Decidable (v < w) :=
  inferInstanceAs (Decidable (v ≤ w ∧ ¬ w ≤ v))

instance : Min LanguageVersion := ⟨fun v w => if v ≤ w then v else w⟩

/-- The three-way comparison that agrees with the order. -/
instance : Ord LanguageVersion :=
  ⟨fun v w => if v = w then .eq else if v ≤ w then .lt else .gt⟩

/-! ## §2. Named versions. -/

/-- The version whose documents may be components. -/
def v3_0 : LanguageVersion := ⟨3, 0⟩

/-- The version that refined tag helpers. -/
def v2_1 : LanguageVersion := ⟨2, 1⟩

/-- The newest released version, which is used when none is chosen. -/
def latest : LanguageVersion := v3_0

/-- A tier above every released version, where capabilities are on ahead of their release. -/
def experimental : LanguageVersion := ⟨1337, 1337⟩

instance : Inhabited LanguageVersion := ⟨latest⟩

/-- Whether the version lies in the experimental tier. -/
def isExperimental (v : LanguageVersion) : Bool := decide (experimental ≤ v)

/-! ## §3. Text. -/

/-- The version as it is shown. -/
def display (v : LanguageVersion) : String :=
  if v.isExperimental then "Experimental"
  else String.ofList (Text.decimal v.major.toNat ++ '.' :: Text.decimal v.minor.toNat)

/-- One number of a version: digits, after at most one plus sign, with a value below `2 ^ 32`. -/
def readNumber? (text : List Char) : Option UInt32 :=
  let digits := match text with
    | '+' :: rest => rest
    | _ => text
  -- A sign alone leaves no digits and is no number.
  match Text.readDigits? digits with
  | some n => if n < UInt32.size then some (UInt32.ofNat n) else none
  | none => none

/-- Two numbers around the first point of a text. -/
def readNumbers? (text : List Char) : Option LanguageVersion :=
  match text.dropWhile (· ≠ '.') with
  | [] => none
  | _ :: minorText =>
    match readNumber? (text.takeWhile (· ≠ '.')), readNumber? minorText with
    | some major, some minor => some ⟨major, minor⟩
    | _, _ => none

/-- Whether the text is a word of lower-case ASCII letters, in any case. -/
def isWord (text : List Char) (word : String) : Bool := text.map Char.toLower == word.toList

/-- The version that a text without surrounding white space names. -/
def ofTrimmed? (text : List Char) : Option LanguageVersion :=
  if isWord text "latest" then some latest
  else if isWord text "experimental" then some experimental
  else readNumbers? text

/-- The version that a text names, white space around it aside. -/
def ofText (text : String) : Except CompileError LanguageVersion :=
  match ofTrimmed? (Text.trim text.toList) with
  | some v => .ok v
  | none => .error (.invalidLanguageVersion text)

end LanguageVersion

end ComponentMarkup
