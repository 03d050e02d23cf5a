/-
  ComponentMarkup.AttributeName
  ────────────────────────────────
  **Which names an attribute may have.**

  White space and the characters that end or delimit an attribute in markup are illegal in its
  name; names that start with `data-`, in any case, belong to client script; and the names of
  directive attributes start with the marker `@`.
-/
import ComponentMarkup.Diagnostic.Problem
import ComponentMarkup.Text.Blank
import ComponentMarkup.Text.Utf8

namespace ComponentMarkup.AttributeName

/-- The illegal characters that are not white space. -/
def delimiters : List Char := ['@', '!', '<', '/', '?', '[', '>', ']', '=', '"', '\'', '*']

/-- Whether the character may not stand in an attribute name. -/
def isIllegal (c : Char) : Bool := Text.isBlank c || delimiters.contains c

/-- The illegal characters of a name, in order and with repetitions. -/
def illegalCharacters (name : String) : List Char := name.toList.filter isIllegal

/-- The test whether the name is reserved for client script, which cuts the name by bytes and would
have no value if the cut had none. -/
def isReserved? (name : String) : Option Bool :=
  if (Text.utf8 dataDash.toList).length ≤ (Text.utf8 name.toList).length then
    Text.startsIgnoringCase? name.toList dataDash.toList
  else some false

/-- Whether the name is reserved for client script. -/
def isReserved (name : String) : Bool := (isReserved? name).getD false

/-- The name behind the directive marker, if the name has one. -/
def stripMarker? (name : String) : Option String :=
  match name.toList with
  | '@' :: rest => some (String.ofList rest)
  | _ => none

/-- The name without its directive marker. -/
def bare (name : String) : String := (stripMarker? name).getD name

end ComponentMarkup.AttributeName
