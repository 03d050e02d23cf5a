/-
  ComponentMarkup.Text.WordFinal
  ────────────────────────────────
  **Lower case of a whole text.**

  `lowerText` replaces every character by its lower case, with the one rule of Unicode that looks
  at the surroundings: a capital sigma that ends a word becomes a final sigma.  It ends a word
  when a cased letter stands before it and none after it, looking through case-ignorable
  characters on both sides.
-/
import ComponentMarkup.Text.CaseContext
import ComponentMarkup.Text.LowerCase

namespace ComponentMarkup.Text

/-- Whether the first character that is not looked through is a letter with case. -/
def meetsCased (text : List Char) : Bool :=
  match text.dropWhile isCaseIgnorable with
  | [] => false
  | c :: _ => isCased c

/-- Whether a capital sigma between these two texts ends its word; the text before it is given
in reverse. -/
def endsWord (beforeReversed after : List Char) : Bool :=
  meetsCased beforeReversed && !meetsCased after

/-- The text in lower case. -/
def lowerText (text : List Char) : List Char :=
  go [] text
where
  /-- Lower-cases the rest of a text, given what stands before it in reverse. -/
  go (beforeReversed : List Char) : List Char → List Char
    | [] => []
    | c :: rest =>
      let image :=
        if c = 'Σ' then [if endsWord beforeReversed rest then 'ς' else 'σ'] else lowerChar c
      image ++ go (c :: beforeReversed) rest

end ComponentMarkup.Text
