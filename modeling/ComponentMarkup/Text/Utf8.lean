/-
  ComponentMarkup.Text.Utf8
  ────────────────────────────────
  **UTF-8 bytes and tests on them.**

  Attribute names are matched on their UTF-8 bytes: `sameIgnoringCase` compares two byte strings
  up to the case of ASCII letters, and `cut?` gives the first characters of a text by the number of
  their bytes.  Inside a character there is nothing to cut, so `startsIgnoringCase?` looks at the
  byte behind the cut first; a test that did not would have no value for some texts.
-/

namespace ComponentMarkup.Text

/-! ## §1. Bytes. -/

/-- The UTF-8 bytes of a text. -/
def utf8 (text : List Char) : List UInt8 := text.flatMap String.utf8EncodeChar

@[simp] theorem utf8_nil : utf8 [] = [] := rfl

@[simp] theorem utf8_cons (c : Char) (rest : List Char) :
    utf8 (c :: rest) = String.utf8EncodeChar c ++ utf8 rest := rfl

/-- Whether the byte continues a character that an earlier byte began. -/
def isContinuation (byte : UInt8) : Bool := byte &&& 0xC0 == 0x80

/-- Whether the position stands between two characters, or at an end of the text. -/
def isBoundary (bytes : List UInt8) (position : Nat) : Bool :=
  match bytes[position]? with
  | some byte => position == 0 || !isContinuation byte
  | none => position == bytes.length

/-- The first characters of a text, which together have the given number of bytes.  A cut inside a
character or past the end has no value. -/
def cut? : List Char → Nat → Option (List Char)
  | [], length => if length = 0 then some [] else none
  | c :: rest, length =>
    let size := (String.utf8EncodeChar c).length
    if length = 0 then some []
    else if size ≤ length then (cut? rest (length - size)).map (c :: ·)
    else none

/-! ## §2. Comparison up to the case of ASCII letters. -/

/-- The byte, with an ASCII capital letter turned into the small one. -/
def lowerByte (byte : UInt8) : UInt8 :=
  if 0x41 ≤ byte ∧ byte ≤ 0x5A then byte + 0x20 else byte

/-- Whether two byte strings agree up to the case of ASCII letters. -/
def sameIgnoringCase (x y : List UInt8) : Bool := x.map lowerByte == y.map lowerByte

/-- Whether the first bytes of a text are those of another, up to the case of ASCII letters.  The
text is cut only where its bytes say that a character ends; where they do not, it does not start
with the other one. -/
def startsIgnoringCase? (text start : List Char) : Option Bool :=
  let length := (utf8 start).length
  if isBoundary (utf8 text) length then
    (cut? text length).map fun front => sameIgnoringCase (utf8 front) (utf8 start)
  else some false

end ComponentMarkup.Text
