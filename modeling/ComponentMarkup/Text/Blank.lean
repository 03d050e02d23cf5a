/-
  ComponentMarkup.Text.Blank
  ────────────────────────────────
  **White space.**

  `isBlank` is the Unicode property White_Space, which includes the no-break space.  `trim` and
  `trimStart` drop blank characters from the ends of a text, `isAbsentOrBlank` says that a name is
  missing, empty or made of blanks alone, and `nonBlank?` gives any other name.
-/
import ComponentMarkup.Text.CodeRanges

namespace ComponentMarkup.Text

/-- The characters with the Unicode property White_Space. -/
def blankRanges : CodeRanges :=
  [(0x0009, 0x000D), (0x0020, 0x0020), (0x0085, 0x0085), (0x00A0, 0x00A0), (0x1680, 0x1680),
   (0x2000, 0x200A), (0x2028, 0x2029), (0x202F, 0x202F), (0x205F, 0x205F), (0x3000, 0x3000)]

/-- Whether the character is white space. -/
def isBlank (c : Char) : Bool := blankRanges.has c

/-- The text without its leading white space. -/
def trimStart (text : List Char) : List Char := text.dropWhile isBlank

/-- The text without its trailing white space. -/
def trimEnd (text : List Char) : List Char := (text.reverse.dropWhile isBlank).reverse

/-- The text without the white space around it. -/
def trim (text : List Char) : List Char := trimEnd (trimStart text)

/-- Whether a name is missing or holds no character other than white space. -/
def isAbsentOrBlank : Option String → Bool
  | none => true
  | some name => name.toList.all isBlank

@[simp] theorem isAbsentOrBlank_none : isAbsentOrBlank none = true := rfl

@[simp] theorem isAbsentOrBlank_some (name : String) :
    isAbsentOrBlank (some name) = name.toList.all isBlank := rfl

/-- A name that is there and has a character other than white space. -/
def nonBlank? (name : Option String) : Option String :=
  name.filter fun text => !text.toList.all isBlank

end ComponentMarkup.Text
